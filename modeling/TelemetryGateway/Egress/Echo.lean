import TelemetryGateway.Egress.Effects
import TelemetryGateway.Egress.Framing

/-! # Round-trip probes

One probe is outstanding at a time. It is answered by a reply that carries its
nonce, written off when the next one is due, or forgotten with its connection. -/

namespace TelemetryGateway.Egress

/-! ## Steps that leave the probes alone -/

structure SameProbe (before after : Egress) : Prop where
  nonce : after.echoNonce = before.echoNonce
  sentNs : after.echoSentNs = before.echoSentNs
  outstanding : after.echoOutstanding = before.echoOutstanding
  replyBuf : after.replyBuf = before.replyBuf
  rtt : after.rtt = before.rtt
  sent : after.counters.echoesSent = before.counters.echoesSent
  returned : after.counters.echoesReturned = before.counters.echoesReturned
  lost : after.counters.echoesLost = before.counters.echoesLost

theorem SameProbe.refl (egress : Egress) : SameProbe egress egress :=
  ⟨rfl, rfl, rfl, rfl, rfl, rfl, rfl, rfl⟩

theorem sameProbe_noteGap (egress : Egress) (frames : List Frame) (now : UInt64) :
    SameProbe egress (egress.noteGap frames now) := by
  unfold noteGap
  split
  · split
    · exact ⟨rfl, rfl, rfl, rfl, rfl, rfl, rfl, rfl⟩
    · exact ⟨rfl, rfl, rfl, rfl, rfl, rfl, rfl, rfl⟩
  · exact .refl egress

/-- The bytes an event brings from the consumer. -/
def Event.received : Event → List UInt8
  | .recv bytes => bytes
  | _ => []

namespace State

inductive ProbeStep (state : State) : Event → State → Prop
  | keep (same : SameProbe state.egress after.egress)
      (past : after.history.past = state.history.past) (nothing : event.received = []) :
      ProbeStep state event after
  | recv (bytes : List UInt8) :
      ProbeStep state (.recv bytes) { state with egress := state.egress.receive bytes }
  | parse (now : UInt64) :
      ProbeStep state (.clock now) { state with
        phase := .pop
        egress := parseReplies now state.egress.replyBuf.length state.egress }
  | sendEcho (n : Nat) (now : UInt64) :
      ProbeStep state (.clock now) { state with
        phase := .encode n
        egress := state.egress.maybeSendEcho now }
  | drop (drops : state.Drops event) : ProbeStep state event state.dropAndContinue

theorem step_probe {state after : State} {event : Event}
    (stepped : state.step event = some after) : state.ProbeStep event after := by
  have same {next : State} {event : Event} (egress : SameProbe state.egress next.egress)
      (history : next.history.past = state.history.past) (nothing : event.received = []) :
      state.ProbeStep event next := .keep egress history nothing
  have still : SameProbe state.egress state.egress := .refl _
  cases step_cases stepped with
  | stop => exact same still rfl rfl
  | keepClient waiting client => exact same still rfl rfl
  | pollListen waiting client result =>
      rcases state.waitForClient_cases result with stays | leaves | accepts
      · rw [stays]
        exact same still rfl rfl
      · rw [leaves]
        exact same still rfl rfl
      · rw [accepts]
        exact same still rfl rfl
  | accept accepting fd =>
      cases fd with
      | none => exact same still rfl rfl
      | some fd => exact same ⟨rfl, rfl, rfl, rfl, rfl, rfl, rfl, rfl⟩ rfl rfl
  | testPending testing => exact same still rfl rfl
  | sent site flushing bytes taken =>
      unfold State.sent at taken
      dsimp only at taken
      split at taken <;> cases taken
      exact same ⟨rfl, rfl, rfl, rfl, rfl, rfl, rfl, rfl⟩ rfl rfl
  | wouldBlock site flushing blocked =>
      cases blocked
      exact same ⟨rfl, rfl, rfl, rfl, rfl, rfl, rfl, rfl⟩ rfl rfl
  | interrupted site flushing => exact same still rfl rfl
  | failed site flushing _ => exact .drop (.failed site flushing)
  | finishFlush site flushing done => exact same ⟨rfl, rfl, rfl, rfl, rfl, rfl, rfl, rfl⟩ rfl rfl
  | pollWritable site parked result =>
      rcases pollWritable_cases parked result with again | ⟨dropped, drops⟩
      · rw [again]
        exact same still rfl rfl
      · rw [dropped]
        exact .drop drops
  | afterFlush site flushed =>
      cases site with
      | head => exact same still rfl rfl
      | batch n => exact same ⟨rfl, rfl, rfl, rfl, rfl, rfl, rfl, rfl⟩ rfl rfl
  | peerGone testing => exact .drop (.gone testing)
  | peerThere testing => exact same still rfl rfl
  | recv receiving bytes _ _ => exact .recv bytes
  | recvEnd receiving => exact same still rfl rfl
  | parse parsing now => exact .parse now
  | pop popping frames size => exact same still rfl rfl
  | coalesce batch coalescing now => exact same still rfl rfl
  | linger batch deadline waited lingering now =>
      rcases state.linger_cases batch deadline waited now with leaves | goesOn
      · rw [leaves]
        exact same ⟨rfl, rfl, rfl, rfl, rfl, rfl, rfl, rfl⟩ rfl rfl
      · rw [goesOn]
        exact same still rfl rfl
  | popNothing batch deadline waited popping =>
      exact same ⟨rfl, rfl, rfl, rfl, rfl, rfl, rfl, rfl⟩ rfl rfl
  | popMore batch deadline waited popping frame rest _ => exact same still rfl rfl
  | testClosed testing answer => exact same still rfl rfl
  | noteGap batch noting now => exact same (sameProbe_noteGap ..) rfl rfl
  | sendEcho n probing now => exact .sendEcho n now
  | encode n encoding =>
      rw [state.encode_eq n]
      exact same ⟨rfl, rfl, rfl, rfl, rfl, rfl, rfl, rfl⟩ rfl rfl

end State

/-! ## What the replies do -/

/-- Somewhere in the bytes stands an echo record with that nonce. -/
def Answers (nonce : UInt64) (bytes : List UInt8) : Prop :=
  ∃ record frame, record <:+: bytes ∧ record.length = Wire.kRecordSize ∧
    Wire.decodeFrame record Frame.zero = (.kOk, frame) ∧ Wire.isEcho frame = true ∧
    Wire.echoNonce frame = nonce

theorem Answers.within {nonce : UInt64} {bytes more : List UInt8} (answers : Answers nonce bytes)
    (inside : bytes <:+: more) : Answers nonce more := by
  rcases answers with ⟨record, frame, found, rest⟩
  exact ⟨record, frame, found.trans inside, rest⟩

/-- Replies take no sample, or one, for the outstanding probe: then they held
its nonce, and no sample is taken for it again. -/
inductive Replied (bytes : List UInt8) (now : UInt64) (before after : Egress) : Prop
  | nothing (outstanding : after.echoOutstanding = before.echoOutstanding)
      (rtt : after.rtt = before.rtt)
      (returned : after.counters.echoesReturned = before.counters.echoesReturned)
  | sampled (outstanding : before.echoOutstanding = true)
      (settled : after.echoOutstanding = false)
      (rtt : after.rtt = before.rtt ++ [now.toInt64 - before.echoSentNs.toInt64])
      (returned : after.counters.echoesReturned = before.counters.echoesReturned + 1)
      (answers : Answers before.echoNonce bytes)

theorem Replied.trans {left right bytes : List UInt8} {now : UInt64} {before middle after : Egress}
    (first : Replied left now before middle) (second : Replied right now middle after)
    (nonce : middle.echoNonce = before.echoNonce) (sentNs : middle.echoSentNs = before.echoSentNs)
    (leftInside : left <:+: bytes) (rightInside : right <:+: bytes) :
    Replied bytes now before after := by
  cases first with
  | nothing outstanding rtt returned =>
      cases second with
      | nothing outstanding' rtt' returned' =>
          exact .nothing (outstanding'.trans outstanding) (rtt'.trans rtt)
            (returned'.trans returned)
      | sampled outstanding' settled rtt' returned' answers =>
          rw [nonce] at answers
          rw [rtt, sentNs] at rtt'
          rw [returned] at returned'
          exact .sampled (outstanding.symm.trans outstanding') settled rtt' returned'
            (answers.within rightInside)
  | sampled outstanding settled rtt returned answers =>
      cases second with
      | nothing outstanding' rtt' returned' =>
          exact .sampled outstanding (outstanding'.trans settled) (rtt'.trans rtt)
            (returned'.trans returned) (answers.within leftInside)
      | sampled outstanding' _ _ _ _ =>
          rw [settled] at outstanding'
          cases outstanding'

theorem replied_acceptReply (egress : Egress) {p : List UInt8} (now : UInt64)
    (size : p.length = Wire.kRecordSize) : Replied p now egress (egress.acceptReply p now) := by
  unfold acceptReply
  split
  · rename_i frame decoded
    split
    · exact .nothing rfl rfl rfl
    · rename_i matching
      simp only [not_or, Bool.not_eq_false, Decidable.not_not] at matching
      rcases matching with ⟨isEcho, outstanding, nonce⟩
      exact .sampled outstanding rfl rfl rfl
        ⟨p, frame, List.infix_refl p, size, decoded, isEcho, nonce⟩
  · exact .nothing rfl rfl rfl

theorem replied_acceptReplies (egress : Egress) (now : UInt64) (count : Nat) (p : List UInt8)
    (long : count * Wire.kRecordSize ≤ p.length) :
    Replied p now egress (egress.acceptReplies now count p) := by
  induction count generalizing egress p with
  | zero => exact .nothing rfl rfl rfl
  | succ count induction =>
      rw [Nat.succ_mul] at long
      have size : (p.take Wire.kRecordSize).length = Wire.kRecordSize := by
        rw [List.length_take]
        omega
      have first := replied_acceptReply egress now size
      have rest := induction (egress.acceptReply (p.take Wire.kRecordSize) now)
        (p.drop Wire.kRecordSize) (by rw [List.length_drop]; omega)
      have view := view_acceptReplies (fun egress => (egress.echoNonce, egress.echoSentNs))
        (fun _ _ _ => rfl) egress now 1 p
      simp only [Prod.mk.injEq] at view
      exact first.trans rest view.1 view.2 (List.take_prefix _ _).isInfix
        (List.drop_suffix _ _).isInfix

theorem replied_parseReplies (now : UInt64) (fuel : Nat) (egress : Egress) :
    Replied egress.replyBuf now egress (parseReplies now fuel egress) ∧
      (parseReplies now fuel egress).replyBuf <:+ egress.replyBuf := by
  induction fuel generalizing egress with
  | zero => exact ⟨.nothing rfl rfl rfl, List.suffix_refl _⟩
  | succ fuel induction =>
      unfold parseReplies
      split
      · exact ⟨.nothing rfl rfl rfl, List.suffix_refl _⟩
      · split
        · rename_i header decoded
          dsimp only
          split
          · exact ⟨.nothing rfl rfl rfl, List.suffix_refl _⟩
          · rename_i complete
            have payload := Wire.payloadLen_of_decoded decoded
            have long : header.count.toNat * Wire.kRecordSize ≤
                (egress.replyBuf.drop Wire.kHeaderSize).length := by
              rw [List.length_drop]
              omega
            have first := replied_acceptReplies egress now header.count.toNat _ long
            have view := view_acceptReplies (fun egress => (egress.echoNonce, egress.echoSentNs,
              egress.replyBuf)) (fun _ _ _ => rfl) egress now header.count.toNat
              (egress.replyBuf.drop Wire.kHeaderSize)
            simp only [Prod.mk.injEq] at view
            rcases view with ⟨nonce, sentNs, buffer⟩
            rcases induction { egress.acceptReplies now header.count.toNat
              (egress.replyBuf.drop Wire.kHeaderSize) with
              replyBuf := egress.replyBuf.drop
                (Wire.kHeaderSize + header.payloadLen.toNat) } with ⟨rest, shorter⟩
            rw [buffer]
            have dropped : egress.replyBuf.drop (Wire.kHeaderSize + header.payloadLen.toNat) <:+
                egress.replyBuf := List.drop_suffix _ _
            have consumed : Replied (egress.replyBuf.drop Wire.kHeaderSize) now egress
                { egress.acceptReplies now header.count.toNat
                    (egress.replyBuf.drop Wire.kHeaderSize) with
                  replyBuf := egress.replyBuf.drop
                    (Wire.kHeaderSize + header.payloadLen.toNat) } := by
              cases first with
              | nothing outstanding rtt returned => exact .nothing outstanding rtt returned
              | sampled outstanding settled rtt returned answers =>
                  exact .sampled outstanding settled rtt returned answers
            exact ⟨consumed.trans rest nonce sentNs (List.drop_suffix _ _).isInfix
              dropped.isInfix, shorter.trans dropped⟩
        · exact ⟨.nothing rfl rfl rfl, List.nil_suffix⟩

/-! ## The balance of the probes -/

namespace State

def dropsClient (state : State) (event : Event) : Bool :=
  match state.phase, event with
  | .send _, .send .failed => true
  | .pollWritable _, .poll .failed => true
  | .pollWritable _, .poll (.answered _) => state.stopping
  | .testGone, .peer gone => gone
  | _, _ => false

theorem Drops.dropsClient {state : State} {event : Event} (drops : state.Drops event) :
    state.dropsClient event = true := by
  cases drops with
  | failed site flushing => simp only [State.dropsClient, flushing]
  | pollFailed site parked => simp only [State.dropsClient, parked]
  | stopped site parked stopping ready => simp only [State.dropsClient, parked, stopping]
  | gone testing => simp only [State.dropsClient, testing]

/-- Every probe sent was answered, written off, or is the outstanding one. -/
def ProbesBalance (state : State) : Prop :=
  state.egress.counters.echoesSent = state.egress.counters.echoesReturned +
    state.egress.counters.echoesLost + if state.egress.echoOutstanding then 1 else 0

/-- No client is dropped with its probe outstanding. -/
def NoProbeForgotten (state : State) (event : Event) : Prop :=
  state.dropsClient event = true → state.egress.echoOutstanding = false

instance (state : State) (event : Event) : Decidable (state.NoProbeForgotten event) :=
  inferInstanceAs (Decidable (_ → _))

theorem ProbesBalance.parse {state : State} (balance : state.ProbesBalance) (now : UInt64) :
    ({ state with
      phase := .pop
      egress := parseReplies now state.egress.replyBuf.length state.egress } :
      State).ProbesBalance := by
  have view := view_parseReplies (fun egress => (egress.counters.echoesSent,
    egress.counters.echoesLost)) (fun _ _ _ => rfl) (fun _ _ => rfl) now
    state.egress.replyBuf.length state.egress
  simp only [Prod.mk.injEq] at view
  rcases view with ⟨sent, lost⟩
  unfold ProbesBalance at balance ⊢
  rw [sent, lost]
  cases (replied_parseReplies now state.egress.replyBuf.length state.egress).1 with
  | nothing outstanding rtt returned =>
      rw [outstanding, returned]
      exact balance
  | sampled outstanding settled rtt returned answers =>
      rw [outstanding] at balance
      rw [settled, returned, balance]
      simp only [if_true, Bool.false_eq_true, if_false]
      grind

theorem ProbesBalance.sendEcho {state : State} (balance : state.ProbesBalance) (n : Nat)
    (now : UInt64) : ({ state with
      phase := .encode n
      egress := state.egress.maybeSendEcho now } : State).ProbesBalance := by
  unfold maybeSendEcho
  split
  · exact balance
  · split
    · exact balance
    · unfold ProbesBalance at balance ⊢
      dsimp only
      rw [balance]
      split <;> simp only [if_true] <;> grind

theorem ProbesBalance.dropAndContinue {state : State} (balance : state.ProbesBalance)
    (settled : state.egress.echoOutstanding = false) :
    state.dropAndContinue.ProbesBalance := by
  unfold ProbesBalance at balance ⊢
  unfold State.dropAndContinue dropClient
  split
  · exact balance
  · rw [settled] at balance
    exact balance

theorem ProbesBalance.step {state after : State} (balance : state.ProbesBalance) {event : Event}
    (kept : state.NoProbeForgotten event) (stepped : state.step event = some after) :
    after.ProbesBalance := by
  cases step_probe stepped with
  | keep same past nothing =>
      unfold ProbesBalance
      rw [same.sent, same.returned, same.lost, same.outstanding]
      exact balance
  | recv bytes => exact balance
  | parse now => exact balance.parse now
  | sendEcho n now => exact balance.sendEcho n now
  | drop drops => exact balance.dropAndContinue (kept drops.dropsClient)

end State

theorem probes_balance_while_none_forgotten {tuning : Tuning} {state : State}
    (reached : (system tuning).ReachableUnder State.NoProbeForgotten state) :
    state.ProbesBalance := by
  refine reached.invariant State.ProbesBalance ?_ ?_
  · intro state initial
    rcases initial with ⟨listenFd, stopFd, egress, created, rfl⟩
    unfold create at created
    split at created <;> cases created
    rfl
  · intro state event after _ kept balance stepped
    exact balance.step kept stepped

/-- One batch with a probe behind it, flushed, and the thread is at `recv`. -/
def probeBatch : List Event :=
  [.proceed, .peer false, .recv [], .clock 0, .pop [Frame.zero], .clock 0, .clock 0, .clock 7,
    .proceed, .send (.sent 96), .proceed, .proceed, .proceed, .proceed]

def firstReply : List UInt8 :=
  Wire.messageBytes [Wire.makeEcho 1 7]

def answerThenLeave : List Event :=
  [.poll (.answered true), .accept (some 5)] ++ probeBatch ++
    [.peer false, .recv firstReply, .recv [], .clock 19, .pop [], .closed false, .proceed, .proceed,
      .peer true]

theorem probes_balance_answerThenLeave :
    ∃ state, (system { echoMs := 1 }).run (.initial { tuning := { echoMs := 1 } })
        answerThenLeave = some state ∧
      state.egress.counters.echoesSent = 1 ∧ state.egress.clientFd = none ∧
      state.ProbesBalance := by
  have final : ((system { echoMs := 1 }).runUnder State.NoProbeForgotten
      (.initial { tuning := { echoMs := 1 } }) answerThenLeave).map
      (fun state => (state.egress.counters.echoesSent, state.egress.clientFd)) =
      some (1, none) := by
    decide +kernel
  rcases Option.map_eq_some_iff.mp final with ⟨state, ran, facts⟩
  simp only [Prod.mk.injEq] at facts
  have reached : (system { echoMs := 1 }).ReachableUnder State.NoProbeForgotten state :=
    .runUnder (.start ⟨3, 4, _, rfl, rfl⟩) _ ran
  exact ⟨state, System.run_of_runUnder ran, facts.1, facts.2,
    probes_balance_while_none_forgotten reached⟩

def leaveBeforeAnswer : List Event :=
  [.poll (.answered true), .accept (some 5)] ++ probeBatch ++ [.peer true]

theorem probe_forgotten_with_client :
    ¬ ∀ state, (system { echoMs := 1 }).Reachable state → state.ProbesBalance := by
  intro holds
  have final : ((system { echoMs := 1 }).run (.initial { tuning := { echoMs := 1 } })
      leaveBeforeAnswer).map
      (fun state => (state.egress.counters.echoesSent, state.egress.counters.echoesReturned,
        state.egress.counters.echoesLost, state.egress.echoOutstanding)) =
      some (1, 0, 0, false) := by
    decide +kernel
  rcases Option.map_eq_some_iff.mp final with ⟨state, ran, facts⟩
  simp only [Prod.mk.injEq] at facts
  rcases facts with ⟨sent, returned, lost, settled⟩
  have balance := holds state (.execute (.start ⟨3, 4, _, rfl, rfl⟩) leaveBeforeAnswer ran)
  rw [State.ProbesBalance, sent, returned, lost, settled] at balance
  cases balance

end TelemetryGateway.Egress
