import TelemetryGateway.Egress.Run

/-! # Framing survives every write pattern

The unsent part of the buffer always completes what the current connection has
been given: the bytes a socket took followed by the rest of `pending_` are whole
messages. Every exit that gives up on a message also gives up the connection. -/

namespace TelemetryGateway.Egress

/-! ## Operations that leave the buffer alone -/

/-- What `flush_pending` and `drop_client` work on is unchanged. -/
structure SameBuffer (before after : Egress) : Prop where
  tuning : after.tuning = before.tuning
  clientFd : after.clientFd = before.clientFd
  pending : after.pending = before.pending
  pendingOffset : after.pendingOffset = before.pendingOffset
  bytesSent : after.counters.bytesSent = before.counters.bytesSent

theorem SameBuffer.refl (egress : Egress) : SameBuffer egress egress :=
  ⟨rfl, rfl, rfl, rfl, rfl⟩

theorem sameBuffer_maybeSendEcho (egress : Egress) (now : UInt64) :
    SameBuffer egress (egress.maybeSendEcho now) := by
  unfold maybeSendEcho
  split
  · exact .refl egress
  · split
    · exact .refl egress
    · exact ⟨rfl, rfl, rfl, rfl, rfl⟩

theorem sameBuffer_parseReplies (now : UInt64) (fuel : Nat) (egress : Egress) :
    SameBuffer egress (parseReplies now fuel egress) := by
  have same := view_parseReplies (fun egress => (egress.tuning, egress.clientFd, egress.pending,
    egress.pendingOffset, egress.counters.bytesSent)) (fun _ _ _ => rfl) (fun _ _ => rfl)
    now fuel egress
  simp only [Prod.mk.injEq] at same
  exact ⟨same.1, same.2.1, same.2.2.1, same.2.2.2.1, same.2.2.2.2⟩

theorem sameBuffer_noteGap (egress : Egress) (frames : List Frame) (now : UInt64) :
    SameBuffer egress (egress.noteGap frames now) := by
  unfold noteGap
  split
  · split
    · exact ⟨rfl, rfl, rfl, rfl, rfl⟩
    · exact ⟨rfl, rfl, rfl, rfl, rfl⟩
  · exact .refl egress

theorem length_outgoing_noteGap (egress : Egress) {frames : List Frame} (filled : frames ≠ [])
    (now : UInt64) : (egress.noteGap frames now).outgoing.length ≤ frames.length + 1 := by
  cases frames with
  | nil => exact absurd rfl filled
  | cons front rest =>
      rw [outgoing_noteGap, List.length_append, List.length_map, Nat.add_comm]
      apply Nat.add_le_add_left
      cases egress.gapBefore front with
      | none => exact Nat.zero_le 1
      | some range => exact Nat.le_refl 1

theorem length_outgoing_maybeSendEcho (egress : Egress) (now : UInt64) :
    (egress.maybeSendEcho now).outgoing.length ≤ egress.outgoing.length + 1 := by
  unfold maybeSendEcho
  split
  · exact Nat.le_succ _
  · split
    · exact Nat.le_succ _
    · rw [List.length_append]
      exact Nat.le_refl _

/-! ## The invariant -/

/-- Everything the connection was given to send, as bytes. -/
def Connection.stream (connection : Connection) : List UInt8 :=
  (connection.messages.map Wire.messageBytes).flatten

def History.totalWritten (history : History) : Nat :=
  (history.connections.map fun connection => connection.written.length).sum

namespace Phase

def flushing : Phase → Bool
  | .send _ => true
  | .pollWritable _ => true
  | _ => false

def detached : Phase → Bool
  | .waitForClient => true
  | .accept => true
  | .returned => true
  | _ => false

/-- The batch in hand is not empty and fits the buffer, and so do the records
going out. -/
def Fits (egress : Egress) : Phase → Prop
  | .coalesce batch => batch ≠ [] ∧ batch.length ≤ egress.tuning.maxFrames
  | .linger batch _ _ => batch ≠ [] ∧ batch.length ≤ egress.tuning.maxFrames
  | .popMore batch _ _ => batch ≠ [] ∧ batch.length ≤ egress.tuning.maxFrames
  | .noteGap batch => batch ≠ [] ∧ batch.length ≤ egress.tuning.maxFrames
  | .sendEcho _ => egress.outgoing.length ≤ egress.tuning.maxFrames + 1
  | .encode _ => egress.outgoing.length ≤ egress.tuning.maxFrames + 2
  | _ => True

end Phase

structure State.Framed (state : State) : Prop where
  limit : state.egress.tuning.maxFrames ≤ kMaxBatch
  client : state.phase.detached = false → state.egress.clientFd ≠ none
  quiet : state.phase.flushing = false →
    state.egress.pending = [] ∧ state.egress.pendingOffset = 0
  fresh : state.egress.clientFd = none → state.history.current = .opened
  inside : state.egress.pendingOffset ≤ state.egress.pending.length
  current : state.history.current.written ++
    state.egress.pending.drop state.egress.pendingOffset = state.history.current.stream
  past : ∀ connection ∈ state.history.past, connection.written <+: connection.stream
  sizes : ∀ connection ∈ state.history.connections, ∀ message ∈ connection.messages,
    message.length ≤ 65535
  counted : state.egress.counters.bytesSent = UInt64.ofNat state.history.totalWritten
  fits : state.phase.Fits state.egress

namespace State

theorem initial_framed {tuning : Tuning} {listenFd stopFd : Nat} {egress : Egress}
    (created : create tuning (.ok listenFd) (.ok stopFd) = .ok egress) :
    (State.initial egress).Framed := by
  unfold create at created
  split at created
  · cases created
  · rename_i admitted
    cases created
    refine ⟨?_, (fun impossible => nomatch impossible), fun _ => ⟨rfl, rfl⟩, fun _ => rfl,
      Nat.le_refl _, rfl, (fun _ member => nomatch member), ?_, rfl, trivial⟩
    · exact Nat.not_lt.mp fun tooLarge => admitted (Or.inr tooLarge)
    · intro connection member message found
      cases List.mem_singleton.mp member
      cases found

theorem Framed.keep {state after : State} (framed : state.Framed)
    (same : SameBuffer state.egress after.egress)
    (past : after.history.past = state.history.past)
    (current : after.history.current = state.history.current)
    (flushing : after.phase.flushing = state.phase.flushing)
    (client : after.phase.detached = false → state.egress.clientFd ≠ none)
    (fits : after.phase.Fits after.egress) : after.Framed := by
  have connections : after.history.connections = state.history.connections := by
    rw [History.connections, past, current]
    rfl
  constructor
  · rw [same.tuning]
    exact framed.limit
  · rw [same.clientFd]
    exact client
  · rw [flushing, same.pending, same.pendingOffset]
    exact framed.quiet
  · rw [same.clientFd, current]
    exact framed.fresh
  · rw [same.pending, same.pendingOffset]
    exact framed.inside
  · rw [same.pending, same.pendingOffset, current]
    exact framed.current
  · rw [past]
    exact framed.past
  · rw [connections]
    exact framed.sizes
  · rw [same.bytesSent, History.totalWritten, connections]
    exact framed.counted
  · exact fits

theorem totalWritten_drop (history : History) :
    ({ history with past := history.past ++ [history.current], current := .opened } :
      History).totalWritten = history.totalWritten := by
  simp [History.totalWritten, History.connections, Connection.opened]

theorem Framed.dropAndContinue {state : State} (framed : state.Framed)
    (client : state.egress.clientFd ≠ none) : state.dropAndContinue.Framed := by
  rcases Option.ne_none_iff_exists'.mp client with ⟨fd, connected⟩
  have dropped : state.egress.dropClient = { state.egress with
      clientFd := none
      pending := []
      pendingOffset := 0
      replyBuf := []
      echoOutstanding := false
      reconnected := true
      connected := false
      counters := { state.egress.counters with
        disconnects := state.egress.counters.disconnects + 1 } } := by
    rw [dropClient, connected]
  unfold State.dropAndContinue
  rw [dropped]
  refine ⟨framed.limit, (fun impossible => nomatch impossible), fun _ => ⟨rfl, rfl⟩,
    fun _ => rfl, Nat.le_refl _, rfl, ?_, ?_, ?_, trivial⟩
  · intro connection member
    rcases List.mem_append.mp member with old | last
    · exact framed.past connection old
    · rw [List.mem_singleton.mp last, ← framed.current]
      exact List.prefix_append _ _
  · intro connection member message found
    rcases List.mem_append.mp member with old | new
    · exact framed.sizes connection old message found
    · rw [List.mem_singleton.mp new] at found
      cases found
  · rw [totalWritten_drop]
    exact framed.counted

theorem Framed.acceptClient {state : State} (framed : state.Framed)
    (accepting : state.phase = .accept) (fd : Option Nat) : (state.acceptClient fd).Framed := by
  have quiet := framed.quiet (by rw [accepting]; rfl)
  cases fd with
  | none =>
      exact framed.keep (.refl _) rfl rfl (by rw [accepting]; rfl)
        (fun absent => nomatch absent) trivial
  | some fd =>
      exact ⟨framed.limit, (fun _ => Option.some_ne_none fd), (fun _ => quiet),
        (fun absent => nomatch absent), framed.inside, framed.current, framed.past, framed.sizes,
        framed.counted, trivial⟩

theorem Framed.batch_filled {state : State} (framed : state.Framed) {batch : List Frame}
    (noting : state.phase = .noteGap batch) : batch ≠ [] := by
  have fits := framed.fits
  rw [noting] at fits
  exact fits.1

theorem Framed.sent {state after : State} (framed : state.Framed) {site : FlushSite}
    {bytes : Nat} (sending : state.phase = .send site)
    (taken : state.sent site bytes = some after) : after.Framed := by
  unfold State.sent at taken
  dsimp only at taken
  split at taken
  · rename_i bounds
    cases taken
    have connected := framed.client (by rw [sending]; rfl)
    refine ⟨framed.limit, fun _ => connected, (fun impossible => nomatch impossible),
      fun absent => absurd absent connected, ?_, ?_, framed.past, ?_, ?_, trivial⟩
    · have inside := framed.inside
      change state.egress.pendingOffset + bytes ≤ state.egress.pending.length
      omega
    · change state.history.current.written ++
          (state.egress.pending.drop state.egress.pendingOffset).take bytes ++
          state.egress.pending.drop (state.egress.pendingOffset + bytes) = _
      rw [List.append_assoc, ← List.drop_drop, List.take_append_drop]
      exact framed.current
    · intro connection member message found
      rcases List.mem_append.mp member with old | new
      · exact framed.sizes connection (List.mem_append_left _ old) message found
      · rw [List.mem_singleton.mp new] at found
        exact framed.sizes state.history.current
          (List.mem_append_right _ (List.mem_singleton.mpr rfl)) message found
    · have more (written : List UInt8) (inside : written.length = bytes) :
          ({ state.history with current := { state.history.current with
            written := state.history.current.written ++ written } } : History).totalWritten =
            state.history.totalWritten + bytes := by
        simp only [History.totalWritten, History.connections, List.map_append, List.sum_append,
          List.map_cons, List.map_nil, List.sum_cons, List.sum_nil, List.length_append]
        omega
      dsimp only
      rw [more _ (by rw [List.length_take, List.length_drop]; omega), framed.counted,
        UInt64.ofNat_add]
  · cases taken

theorem Framed.noteGap {state : State} (framed : state.Framed) {batch : List Frame}
    (noting : state.phase = .noteGap batch) (now : UInt64) : (state.noteGap batch now).Framed := by
  have connected := framed.client (by rw [noting]; rfl)
  have fits := framed.fits
  rw [noting] at fits
  refine framed.keep (sameBuffer_noteGap _ batch now) rfl rfl (by rw [noting]; rfl)
    (fun _ => connected) ?_
  have grown := length_outgoing_noteGap state.egress fits.1 now
  have same := (sameBuffer_noteGap state.egress batch now).tuning
  change (state.egress.noteGap batch now).outgoing.length ≤
    (state.egress.noteGap batch now).tuning.maxFrames + 1
  rw [same]
  exact Nat.le_trans grown (Nat.succ_le_succ fits.2)

theorem Framed.sendEcho {state : State} (framed : state.Framed) {n : Nat}
    (probing : state.phase = .sendEcho n) (now : UInt64) :
    ({ state with
      phase := .encode n
      egress := state.egress.maybeSendEcho now } : State).Framed := by
  have connected := framed.client (by rw [probing]; rfl)
  have fits := framed.fits
  rw [probing] at fits
  refine framed.keep (sameBuffer_maybeSendEcho _ now) rfl rfl (by rw [probing]; rfl)
    (fun _ => connected) ?_
  have grown := length_outgoing_maybeSendEcho state.egress now
  have same := (sameBuffer_maybeSendEcho state.egress now).tuning
  change (state.egress.maybeSendEcho now).outgoing.length ≤
    (state.egress.maybeSendEcho now).tuning.maxFrames + 2
  rw [same]
  exact Nat.le_trans grown (Nat.succ_le_succ fits)

theorem Framed.encode {state : State} (framed : state.Framed) {n : Nat}
    (encoding : state.phase = .encode n) : (state.encode n).Framed := by
  have connected := framed.client (by rw [encoding]; rfl)
  have fits := framed.fits
  have limit := framed.limit
  rw [encoding] at fits
  have small : state.egress.outgoing.length ≤ 65535 := by
    simp only [Phase.Fits, kMaxBatch] at fits limit
    omega
  rw [state.encode_eq n]
  refine ⟨framed.limit, (fun _ => connected), (fun impossible => nomatch impossible),
    (fun absent => absurd absent connected), Nat.zero_le _, ?_, framed.past, ?_, ?_, trivial⟩
  · have quiet := framed.quiet (by rw [encoding]; rfl)
    have current := framed.current
    rw [quiet.1, List.drop_nil, List.append_nil] at current
    dsimp only
    rw [List.drop_zero, current]
    simp [Connection.stream]
  · intro connection member message found
    rcases List.mem_append.mp member with old | new
    · exact framed.sizes connection (List.mem_append_left _ old) message found
    · rw [List.mem_singleton.mp new] at found
      rcases List.mem_append.mp found with earlier | last
      · exact framed.sizes state.history.current
          (List.mem_append_right _ (List.mem_singleton.mpr rfl)) message earlier
      · rw [List.mem_singleton.mp last]
        exact small
  · have same : (state.encode n).history.totalWritten = state.history.totalWritten := by
      simp [State.encode, History.totalWritten, History.connections]
    rw [state.encode_eq n] at same
    rw [same]
    exact framed.counted

theorem Framed.finishFlush {state : State} (framed : state.Framed) {site : FlushSite}
    (sending : state.phase = .send site) (done : state.sending = false) :
    (state.finishFlush site).Framed := by
  have connected := framed.client (by rw [sending]; rfl)
  refine ⟨framed.limit, (fun _ => connected), (fun _ => ⟨rfl, rfl⟩),
    (fun absent => absurd absent connected), Nat.le_refl _, ?_, framed.past, framed.sizes,
    framed.counted, trivial⟩
  have current := framed.current
  have sent : state.egress.pending.length ≤ state.egress.pendingOffset := by
    simpa [State.sending] using done
  rw [List.drop_eq_nil_of_le sent] at current
  exact current

theorem Framed.step {state after : State} (framed : state.Framed) {event : Event}
    (stepped : state.step event = some after) : after.Framed := by
  have connected {phase : Phase} (there : state.phase = phase) (attached : phase.detached = false) :
      state.egress.clientFd ≠ none := framed.client (by rw [there]; exact attached)
  have fits := framed.fits
  cases step_cases stepped with
  | stop => exact framed.keep (.refl _) rfl rfl rfl framed.client framed.fits
  | keepClient waiting client =>
      exact framed.keep (.refl _) rfl rfl (by rw [waiting]; rfl) (fun _ => client) trivial
  | pollListen waiting client result =>
      rcases state.waitForClient_cases result with stays | leaves | accepts
      · rw [stays]
        exact framed
      · rw [leaves]
        exact framed.keep (.refl _) rfl rfl (by rw [waiting]; rfl) (fun absent => nomatch absent)
          trivial
      · rw [accepts]
        exact framed.keep (.refl _) rfl rfl (by rw [waiting]; rfl) (fun absent => nomatch absent)
          trivial
  | accept accepting fd => exact framed.acceptClient accepting fd
  | testPending testing =>
      -- nothing is ever pending here, so the flush at the head is never needed
      have quiet := framed.quiet (by rw [testing]; rfl)
      rw [if_pos quiet.1]
      exact framed.keep (.refl _) rfl rfl (by rw [testing]; rfl)
        (fun _ => connected testing rfl) trivial
  | sent site flushing bytes taken => exact framed.sent flushing taken
  | wouldBlock site flushing blocked =>
      cases blocked
      exact framed.keep ⟨rfl, rfl, rfl, rfl, rfl⟩ rfl rfl (by rw [flushing]; rfl)
        (fun _ => connected flushing rfl) trivial
  | interrupted site flushing => exact framed
  | failed site flushing _ => exact framed.dropAndContinue (connected flushing rfl)
  | finishFlush site flushing done => exact framed.finishFlush flushing done
  | pollWritable site parked result =>
      have retried : ({ state with phase := .send site } : State).Framed :=
        framed.keep (.refl _) rfl rfl (by rw [parked]; rfl) (fun _ => connected parked rfl) trivial
      unfold State.pollWritable
      split
      · exact retried
      · exact framed.dropAndContinue (connected parked rfl)
      · split
        · exact framed.dropAndContinue (connected parked rfl)
        · exact retried
  | afterFlush site flushed =>
      cases site with
      | head =>
          exact framed.keep (.refl _) rfl rfl (by rw [flushed]; rfl)
            (fun _ => connected flushed rfl) trivial
      | batch n =>
          exact framed.keep ⟨rfl, rfl, rfl, rfl, rfl⟩ rfl rfl (by rw [flushed]; rfl)
            (fun absent => nomatch absent) trivial
  | peerGone testing => exact framed.dropAndContinue (connected testing rfl)
  | peerThere testing =>
      exact framed.keep (.refl _) rfl rfl (by rw [testing]; rfl)
        (fun _ => connected testing rfl) trivial
  | recv receiving bytes _ _ =>
      exact framed.keep ⟨rfl, rfl, rfl, rfl, rfl⟩ rfl rfl rfl (fun _ => connected receiving rfl)
        (by rw [receiving]; trivial)
  | recvEnd receiving =>
      exact framed.keep (.refl _) rfl rfl (by rw [receiving]; rfl)
        (fun _ => connected receiving rfl) trivial
  | parse parsing now =>
      exact framed.keep (sameBuffer_parseReplies now _ _) rfl rfl (by rw [parsing]; rfl)
        (fun _ => connected parsing rfl) trivial
  | pop popping frames size =>
      refine framed.keep (.refl _) rfl rfl ?_ (fun _ => connected popping rfl) ?_
      · rw [popping]
        dsimp only
        split <;> rfl
      · dsimp only
        split
        · trivial
        · exact ⟨‹_›, size⟩
  | coalesce batch coalescing now =>
      rw [coalescing] at fits
      refine framed.keep (.refl _) rfl rfl ?_ (fun _ => connected coalescing rfl) ?_
      · rw [coalescing, State.coalesce]
        dsimp only
        split <;> rfl
      · simp only [State.coalesce]
        split <;> exact fits
  | linger batch deadline waited lingering now =>
      rw [lingering] at fits
      rcases state.linger_cases batch deadline waited now with leaves | goesOn
      · rw [leaves]
        exact framed.keep ⟨rfl, rfl, rfl, rfl, rfl⟩ rfl rfl (by rw [lingering]; rfl)
          (fun _ => connected lingering rfl) fits
      · rw [goesOn]
        exact framed.keep (.refl _) rfl rfl (by rw [lingering]; rfl)
          (fun _ => connected lingering rfl) fits
  | popNothing batch deadline waited popping =>
      rw [popping] at fits
      exact framed.keep ⟨rfl, rfl, rfl, rfl, rfl⟩ rfl rfl (by rw [popping]; rfl)
        (fun _ => connected popping rfl) fits
  | popMore batch deadline waited popping frame rest size =>
      rw [popping] at fits
      refine framed.keep (.refl _) rfl rfl (by rw [popping]; rfl)
        (fun _ => connected popping rfl) ⟨by simp, ?_⟩
      have within : batch.length ≤ state.egress.tuning.maxFrames := fits.2
      rw [List.length_append]
      change _ ≤ state.egress.tuning.maxFrames
      omega
  | testClosed testing answer =>
      refine framed.keep (.refl _) rfl rfl ?_ ?_ ?_
      · rw [testing]
        dsimp only
        split <;> rfl
      · dsimp only
        split <;> exact fun absent => nomatch absent
      · dsimp only
        split <;> trivial
  | noteGap batch noting now => exact framed.noteGap noting now
  | sendEcho n probing now => exact framed.sendEcho probing now
  | encode n encoding => exact framed.encode encoding

theorem framed_of_reachable {tuning : Tuning} {guard : State → Event → Prop} {state : State}
    (reached : (system tuning).ReachableUnder guard state) : state.Framed := by
  refine reached.invariant State.Framed ?_ ?_
  · intro state initial
    rcases initial with ⟨listenFd, stopFd, egress, created, rfl⟩
    exact initial_framed created
  · intro state event after _ _ framed stepped
    exact framed.step stepped

end State

/-! ## Framing -/

theorem framing_survives {tuning : Tuning} {state : State}
    (reached : (system tuning).Reachable state) :
    (∀ connection ∈ state.history.connections,
      connection.written <+: (connection.messages.map Wire.messageBytes).flatten ∧
        ∀ message ∈ connection.messages, message.length ≤ 65535) ∧
    (state.egress.clientFd = none →
      state.egress.pending = [] ∧ state.history.current = .opened) ∧
    state.egress.counters.bytesSent = UInt64.ofNat
      (state.history.connections.map fun connection => connection.written.length).sum := by
  have framed := State.framed_of_reachable reached
  refine ⟨?_, ?_, framed.counted⟩
  · intro connection member
    refine ⟨?_, framed.sizes connection member⟩
    rcases List.mem_append.mp member with old | last
    · exact framed.past connection old
    · rw [List.mem_singleton.mp last]
      change _ <+: state.history.current.stream
      rw [← framed.current]
      exact List.prefix_append _ _
  · intro absent
    have detached : state.phase.flushing = false := by
      cases phase : state.phase with
      | send site => exact absurd absent (framed.client (by rw [phase]; rfl))
      | pollWritable site => exact absurd absent (framed.client (by rw [phase]; rfl))
      | _ => rfl
    exact ⟨(framed.quiet detached).1, framed.fresh absent⟩

/-- The thread from the head of its loop, with a client, up to a batch that is
encoded and ready to be sent. -/
def fillBatch (frames : List Frame) : List Event :=
  [.proceed, .peer false, .recv [], .clock 0, .pop frames, .clock 0, .clock 0, .clock 0, .proceed]

def abandonMessage : List Event :=
  [.poll (.answered true), .accept (some 5)] ++ fillBatch [Frame.zero] ++
    [.send (.sent 20), .send .wouldBlock, .poll .interrupted, .send .failed]

theorem framing_survives_abandonMessage :
    ∃ state, (system {}).run (.initial { tuning := {} }) abandonMessage = some state ∧
      state.egress.counters.bytesSent = 20 ∧ state.egress.pending = [] ∧
      ∀ connection ∈ state.history.connections,
        connection.written <+: (connection.messages.map Wire.messageBytes).flatten := by
  have final : ((system {}).run (.initial { tuning := {} }) abandonMessage).map
      (fun state => (state.egress.counters.bytesSent, state.egress.clientFd)) =
      some (20, none) := by
    decide +kernel
  rcases Option.map_eq_some_iff.mp final with ⟨state, ran, facts⟩
  rcases Prod.mk.injEq .. ▸ facts with ⟨bytes, absent⟩
  have holds := framing_survives (.execute (.start ⟨3, 4, _, rfl, rfl⟩) abandonMessage ran)
  exact ⟨state, ran, bytes, (holds.2.1 absent).1,
    fun connection member => (holds.1 connection member).1⟩

end TelemetryGateway.Egress
