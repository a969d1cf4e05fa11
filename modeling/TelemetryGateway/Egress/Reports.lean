import TelemetryGateway.Egress.Continuity

/-! # What the thread counts as lost and as sent

`note_gap` is the only place that counts a loss, and it counts it as a fault
unless the client has just come back. On one connection the counters of the
thread and those of a consumer that got every record say the same. -/

namespace TelemetryGateway.Egress

/-! ## Counting -/

def FlushSite.count : FlushSite → Nat
  | .head => 0
  | .batch n => n

/-- Bus frames that `note_gap` has seen and `frames_sent_` does not count yet. -/
def Phase.inFlight : Phase → Nat
  | .sendEcho n => n
  | .encode n => n
  | .send site => site.count
  | .pollWritable site => site.count
  | .flushed site => site.count
  | _ => 0

namespace State

structure Unreported (state after : State) : Prop where
  tuning : after.egress.tuning = state.egress.tuning
  clientFd : after.egress.clientFd = none → state.egress.clientFd = none
  reconnected : after.egress.reconnected = state.egress.reconnected
  gapsSent : after.egress.counters.gapsSent = state.egress.counters.gapsSent
  framesLost : after.egress.counters.framesLost = state.egress.counters.framesLost
  sent : after.egress.counters.framesSent + UInt64.ofNat after.phase.inFlight =
    state.egress.counters.framesSent + UInt64.ofNat state.phase.inFlight

inductive Report (state : State) : Event → State → Prop
  | none (unreported : state.Unreported after) : Report state event after
  | drop (drops : state.Drops event) : Report state event state.dropAndContinue
  | noteGap (batch : List Frame) (noting : state.phase = .noteGap batch) (now : UInt64) :
      Report state (.clock now) (state.noteGap batch now)

theorem step_report {state after : State} {event : Event}
    (stepped : state.step event = some after) : state.Report event after := by
  have plain {phase : Phase} {next : State} (there : state.phase = phase)
      (idle : phase.inFlight = next.phase.inFlight) (same : next.egress = state.egress) :
      state.Report event next :=
    .none ⟨by rw [same], by rw [same]; exact id, by rw [same], by rw [same], by rw [same],
      by rw [same, there, idle]⟩
  cases step_cases stepped with
  | stop => exact .none ⟨rfl, id, rfl, rfl, rfl, rfl⟩
  | keepClient waiting client => exact plain waiting rfl rfl
  | pollListen waiting client result =>
      rcases state.waitForClient_cases result with stays | leaves | accepts
      · rw [stays]
        exact .none ⟨rfl, id, rfl, rfl, rfl, rfl⟩
      · rw [leaves]
        exact plain waiting rfl rfl
      · rw [accepts]
        exact plain waiting rfl rfl
  | accept accepting fd =>
      cases fd with
      | none => exact plain accepting rfl rfl
      | some fd =>
          exact .none ⟨rfl, (fun impossible => nomatch impossible), rfl, rfl, rfl,
            by rw [accepting]; rfl⟩
  | testPending testing =>
      by_cases empty : state.egress.pending = []
      · rw [if_pos empty]
        exact plain testing rfl rfl
      · rw [if_neg empty]
        exact plain testing rfl rfl
  | sent site flushing bytes taken =>
      unfold State.sent at taken
      dsimp only at taken
      split at taken <;> cases taken
      exact .none ⟨rfl, id, rfl, rfl, rfl, by rw [flushing]⟩
  | wouldBlock site flushing blocked =>
      cases blocked
      exact .none ⟨rfl, id, rfl, rfl, rfl, by rw [flushing]; rfl⟩
  | interrupted site flushing => exact .none ⟨rfl, id, rfl, rfl, rfl, rfl⟩
  | failed site flushing _ => exact .drop (.failed site flushing)
  | finishFlush site flushing done => exact .none ⟨rfl, id, rfl, rfl, rfl, by rw [flushing]; rfl⟩
  | pollWritable site parked result =>
      rcases pollWritable_cases parked result with again | ⟨dropped, drops⟩
      · rw [again]
        exact plain parked rfl rfl
      · rw [dropped]
        exact .drop drops
  | afterFlush site flushed =>
      cases site with
      | head => exact plain flushed rfl rfl
      | batch n =>
          exact .none ⟨rfl, id, rfl, rfl, rfl, by rw [flushed]; exact UInt64.add_zero _⟩
  | peerGone testing => exact .drop (.gone testing)
  | peerThere testing => exact plain testing rfl rfl
  | recv receiving bytes _ _ => exact .none ⟨rfl, id, rfl, rfl, rfl, rfl⟩
  | recvEnd receiving => exact plain receiving rfl rfl
  | parse parsing now =>
      have view := view_parseReplies (fun egress => (egress.tuning, egress.clientFd,
        egress.reconnected, egress.counters.gapsSent, egress.counters.framesLost,
        egress.counters.framesSent)) (fun _ _ _ => rfl) (fun _ _ => rfl) now
        state.egress.replyBuf.length state.egress
      simp only [Prod.mk.injEq] at view
      rcases view with ⟨tuning, clientFd, reconnected, gapsSent, framesLost, framesSent⟩
      exact .none ⟨tuning, by rw [clientFd]; exact id, reconnected, gapsSent, framesLost,
        by rw [parsing, framesSent]; rfl⟩
  | pop popping frames size =>
      refine .none ⟨rfl, id, rfl, rfl, rfl, ?_⟩
      rw [popping]
      dsimp only
      split <;> rfl
  | coalesce batch coalescing now =>
      refine .none ⟨rfl, id, rfl, rfl, rfl, ?_⟩
      rw [coalescing, State.coalesce]
      dsimp only
      split <;> rfl
  | linger batch deadline waited lingering now =>
      rcases state.linger_cases batch deadline waited now with leaves | goesOn
      · rw [leaves]
        exact .none ⟨rfl, id, rfl, rfl, rfl, by rw [lingering]; rfl⟩
      · rw [goesOn]
        exact plain lingering rfl rfl
  | popNothing batch deadline waited popping =>
      exact .none ⟨rfl, id, rfl, rfl, rfl, by rw [popping]; rfl⟩
  | popMore batch deadline waited popping frame rest _ =>
      exact .none ⟨rfl, id, rfl, rfl, rfl, by rw [popping]; rfl⟩
  | testClosed testing answer =>
      cases answer with
      | true => exact plain testing rfl rfl
      | false => exact plain testing rfl rfl
  | noteGap batch noting now => exact .noteGap batch noting now
  | sendEcho n probing now =>
      have same : state.Unreported { state with
          phase := .encode n
          egress := state.egress.maybeSendEcho now } := by
        unfold maybeSendEcho
        split
        · exact ⟨rfl, id, rfl, rfl, rfl, by rw [probing]; rfl⟩
        · split
          · exact ⟨rfl, id, rfl, rfl, rfl, by rw [probing]; rfl⟩
          · exact ⟨rfl, id, rfl, rfl, rfl, by rw [probing]; rfl⟩
      exact .none same
  | encode n encoding =>
      rw [state.encode_eq n]
      exact .none ⟨rfl, id, rfl, rfl, rfl, by rw [encoding]; rfl⟩

/-! ## One connection -/

/-- The records given to the current connection so far, with those of the
message being put together. -/
def records (state : State) : List Frame :=
  state.history.current.messages.flatten ++ state.phase.unsent state.egress

theorem records_quiet {state after : State} (quiet : state.Quiet after) :
    after.records = state.records := by
  rw [records, records, quiet.messages, quiet.unsent]

theorem records_pops {state after : State} {frames : List Frame} (pops : state.Pops frames after) :
    after.records = state.records := by
  rw [records, records, pops.before, pops.unsent, pops.history]
  rfl

theorem records_encode {state : State} {n : Nat} (encoding : state.phase = .encode n) :
    (state.encode n).records = state.records := by
  change (state.history.current.messages ++ [state.egress.outgoing]).flatten ++ [] = _
  rw [records, encoding, List.flatten_append, List.flatten_singleton, List.append_nil]
  rfl

theorem records_sendEcho {state : State} {n : Nat} (probing : state.phase = .sendEcho n)
    (now : UInt64) : ∃ probe : Option UInt64,
      ({ state with
        phase := .encode n
        egress := state.egress.maybeSendEcho now } : State).records =
        state.records ++ probe.toList.map fun nonce => Wire.makeEcho nonce now := by
  have before : state.records =
      state.history.current.messages.flatten ++ state.egress.outgoing := by
    rw [records, probing]
    rfl
  rw [before, records]
  dsimp only [Phase.unsent]
  unfold maybeSendEcho
  split
  · exact ⟨none, (List.append_nil _).symm⟩
  · split
    · exact ⟨none, (List.append_nil _).symm⟩
    · exact ⟨some (state.egress.echoNonce + 1), (List.append_assoc ..).symm⟩

def noted (state : State) : Nat :=
  state.history.popped.length - state.phase.batch.length

/-- The first client has not left: a tracker that got every record counts what
the thread counts, and frames and losses together reach up to `next_seq_`. The
last two fields are about numbers, so neither count has gone around. -/
structure Tallied (state : State) : Prop where
  reconnected : state.egress.reconnected = false
  totals : (({} : GapTracker).observeAll state.records).totals =
    { frames := UInt64.ofNat state.noted
      markers := state.egress.counters.gapsSent
      reportedLost := state.egress.counters.framesLost }
  counted : state.egress.counters.framesSent + UInt64.ofNat state.phase.inFlight =
    UInt64.ofNat state.noted
  inHand : state.phase.batch.length ≤ state.history.popped.length
  fewer : state.egress.counters.gapsSent ≤ state.egress.counters.framesLost
  unknown : state.egress.haveSeq = false →
    state.noted = 0 ∧ state.egress.counters.gapsSent = 0 ∧
      state.egress.counters.framesLost = 0
  known : state.egress.haveSeq = true → ∃ first, state.history.popped.head? = some first ∧
    state.egress.nextSeq.toNat =
      first.seq.toNat + state.noted + state.egress.counters.framesLost.toNat

theorem Tallied.keep {state after : State} (tallied : state.Tallied)
    (unreported : state.Unreported after)
    (totals : (({} : GapTracker).observeAll after.records).totals =
      (({} : GapTracker).observeAll state.records).totals)
    (popped : after.history.popped = state.history.popped)
    (batch : after.phase.batch = state.phase.batch)
    (haveSeq : after.egress.haveSeq = state.egress.haveSeq)
    (nextSeq : after.egress.nextSeq = state.egress.nextSeq) : after.Tallied := by
  have noted : after.noted = state.noted := by
    rw [State.noted, State.noted, popped, batch]
  constructor
  case reconnected => exact unreported.reconnected.trans tallied.reconnected
  case totals =>
    rw [totals, noted, unreported.gapsSent, unreported.framesLost]
    exact tallied.totals
  case counted =>
    rw [noted]
    exact unreported.sent.trans tallied.counted
  case inHand =>
    rw [popped, batch]
    exact tallied.inHand
  case fewer =>
    rw [unreported.gapsSent, unreported.framesLost]
    exact tallied.fewer
  case unknown =>
    rw [haveSeq, noted, unreported.gapsSent, unreported.framesLost]
    exact tallied.unknown
  case known =>
    rw [haveSeq, nextSeq, noted, unreported.framesLost, popped]
    exact tallied.known

theorem Tallied.recordPop {state after : State} (tallied : state.Tallied) {frames : List Frame}
    (unreported : state.Unreported after) (pops : state.Pops frames after) : after.Tallied := by
  have grown : after.history.popped = state.history.popped ++ frames := by
    rw [pops.history]
    rfl
  have noted : after.noted = state.noted := by
    rw [State.noted, State.noted, grown, pops.batch, List.length_append, List.length_append,
      Nat.add_sub_add_right]
  constructor
  case reconnected => exact unreported.reconnected.trans tallied.reconnected
  case totals =>
    rw [records_pops pops, noted, unreported.gapsSent, unreported.framesLost]
    exact tallied.totals
  case counted =>
    rw [noted]
    exact unreported.sent.trans tallied.counted
  case inHand =>
    rw [grown, pops.batch, List.length_append, List.length_append]
    exact Nat.add_le_add_right tallied.inHand _
  case fewer =>
    rw [unreported.gapsSent, unreported.framesLost]
    exact tallied.fewer
  case unknown =>
    rw [pops.haveSeq, noted, unreported.gapsSent, unreported.framesLost]
    exact tallied.unknown
  case known =>
    rw [pops.haveSeq, pops.nextSeq, noted, unreported.framesLost, grown]
    intro known
    rcases tallied.known known with ⟨first, isFirst, position⟩
    refine ⟨first, ?_, position⟩
    rw [List.head?_append, isFirst]
    rfl

theorem Tallied.encode {state : State} (tallied : state.Tallied) {n : Nat}
    (encoding : state.phase = .encode n) (unreported : state.Unreported (state.encode n)) :
    (state.encode n).Tallied := by
  refine tallied.keep unreported ?_ rfl (by rw [encoding]; rfl) ?_ ?_
  · rw [records_encode encoding]
  · rw [state.encode_eq n]
  · rw [state.encode_eq n]

theorem maybeSendEcho_numbers (egress : Egress) (now : UInt64) :
    (egress.maybeSendEcho now).haveSeq = egress.haveSeq ∧
      (egress.maybeSendEcho now).nextSeq = egress.nextSeq := by
  unfold maybeSendEcho
  split
  · exact ⟨rfl, rfl⟩
  · split <;> exact ⟨rfl, rfl⟩

theorem Tallied.sendEcho {state : State} (tallied : state.Tallied) {n : Nat} (now : UInt64)
    (probing : state.phase = .sendEcho n)
    (unreported : state.Unreported { state with
      phase := .encode n
      egress := state.egress.maybeSendEcho now }) :
    ({ state with
      phase := .encode n
      egress := state.egress.maybeSendEcho now } : State).Tallied := by
  refine tallied.keep unreported ?_ rfl (by rw [probing]; rfl) ?_ ?_
  · rcases records_sendEcho probing now with ⟨probe, records⟩
    rw [records, GapTracker.observeAll_append]
    cases probe with
    | none => rfl
    | some nonce => exact GapTracker.totals_observe_echo ..
  · exact (maybeSendEcho_numbers state.egress now).1
  · exact (maybeSendEcho_numbers state.egress now).2

/-! ## A batch is noted -/

theorem gapReason_first {egress : Egress} (first : egress.reconnected = false) :
    egress.gapReason = .kConsumerOverrun := by
  rw [gapReason, first]
  rfl

theorem noteGap_counters {egress : Egress} (first : egress.reconnected = false) (front : Frame)
    (rest : List Frame) (now : UInt64) :
    (egress.noteGap (front :: rest) now).counters = { egress.counters with
      gapsSent := egress.counters.gapsSent + UInt64.ofNat (egress.gapBefore front).toList.length
      framesLost := egress.counters.framesLost +
        UInt64.ofNat ((egress.gapBefore front).toList.map fun gap => gap.2.toNat).sum } := by
  have reason := gapReason_first first
  simp only [Egress.noteGap, List.head?_cons,
    List.getLast?_eq_some_getLast (List.cons_ne_nil front rest)]
  cases egress.gapBefore front with
  | none =>
      simp only [Option.toList_none, List.map_nil, List.length_nil, List.sum_nil,
        UInt64.reduceOfNat, UInt64.add_zero]
  | some gap =>
      dsimp only
      rw [reason, if_pos (show GapReason.isFault .kConsumerOverrun = true from rfl)]
      simp

theorem noteGap_reconnected (egress : Egress) (front : Frame) (rest : List Frame) (now : UInt64) :
    (egress.noteGap (front :: rest) now).reconnected = false := by
  simp only [Egress.noteGap, List.head?_cons,
    List.getLast?_eq_some_getLast (List.cons_ne_nil front rest)]
  split <;> rfl

theorem missing_before {egress : Egress} {front : Frame} (known : egress.haveSeq = true)
    (ahead : egress.nextSeq.toNat ≤ front.seq.toNat) :
    egress.nextSeq.toNat + ((egress.gapBefore front).toList.map fun gap => gap.2.toNat).sum =
      front.seq.toNat := by
  unfold gapBefore
  split
  · rename_i found
    have size := UInt64.toNat_sub_of_le _ _ (UInt64.le_of_lt found.2)
    simp only [Option.toList_some, List.map_cons, List.map_nil, List.sum_cons, List.sum_nil, size]
    omega
  · rename_i absent
    have notAhead : ¬ egress.nextSeq.toNat < front.seq.toNat := fun less =>
      absent ⟨known, UInt64.lt_iff_toNat_lt.mpr less⟩
    simp only [Option.toList_none, List.map_nil, List.sum_nil]
    omega

theorem markers_le_missing (egress : Egress) (front : Frame) :
    (egress.gapBefore front).toList.length ≤
      ((egress.gapBefore front).toList.map fun gap => gap.2.toNat).sum := by
  unfold gapBefore
  split
  · rename_i found
    have less : egress.nextSeq.toNat < front.seq.toNat := UInt64.lt_iff_toNat_lt.mp found.2
    have size := UInt64.toNat_sub_of_le _ _ (UInt64.le_of_lt found.2)
    simp only [Option.toList_some, List.map_cons, List.map_nil, List.sum_cons, List.sum_nil,
      List.length_cons, List.length_nil, size]
    omega
  · exact Nat.le_refl _

theorem gapBefore_unknown {egress : Egress} (unknown : egress.haveSeq = false) (front : Frame) :
    egress.gapBefore front = none := by
  rw [gapBefore, unknown, if_neg]
  exact fun found => nomatch found.1

theorem totals_outgoing {egress : Egress} (first : egress.reconnected = false) (front : Frame)
    {rest : List Frame} (bus : ∀ frame ∈ front :: rest, Wire.isControl frame = false) (now : UInt64)
    (tracker : GapTracker) :
    (tracker.observeAll (egress.noteGap (front :: rest) now).outgoing).totals =
      { frames := tracker.totals.frames + UInt64.ofNat (front :: rest).length
        markers := tracker.totals.markers + UInt64.ofNat (egress.gapBefore front).toList.length
        reportedLost := tracker.totals.reportedLost + UInt64.ofNat
          ((egress.gapBefore front).toList.map fun gap => gap.2.toNat).sum } := by
  rw [outgoing_noteGap, GapTracker.observeAll_append, GapTracker.totals_observeAll_bus _ bus,
    gapReason_first first]
  cases egress.gapBefore front with
  | none =>
      simp only [Option.toList_none, List.map_nil, List.length_nil, List.sum_nil,
        UInt64.reduceOfNat, UInt64.add_zero]
      rfl
  | some gap =>
      simp only [Option.toList_some, List.map_cons, List.map_nil, List.length_cons, List.length_nil,
        List.sum_cons, List.sum_nil, Nat.add_zero, UInt64.ofNat_toNat]
      rw [GapTracker.observeAll, List.foldl_cons, List.foldl_nil,
        GapTracker.totals_observe_overrun]
      rfl

theorem Tallied.front_reached {state : State} (tallied : state.Tallied)
    (numbered : state.Numbered) {front : Frame} {rest : List Frame}
    (inHand : state.phase.batch = front :: rest) :
    ∃ first, state.history.popped.head? = some first ∧
      front.seq.toNat = first.seq.toNat + state.noted + state.egress.counters.framesLost.toNat +
        ((state.egress.gapBefore front).toList.map fun gap => gap.2.toNat).sum := by
  cases known : state.egress.haveSeq with
  | true =>
      rcases tallied.known known with ⟨first, isFirst, position⟩
      have missing := missing_before known (numbered.front_ahead inHand known)
      exact ⟨first, isFirst, by omega⟩
  | false =>
      rcases tallied.unknown known with ⟨none, _, lost⟩
      rcases numbered.noted with ⟨noted, popped, _⟩
      have size : state.noted = noted.length := by
        rw [State.noted, popped, List.length_append, Nat.add_sub_cancel]
      rw [inHand] at popped
      have empty : noted = [] := List.eq_nil_of_length_eq_zero (size.symm.trans none)
      refine ⟨front, by rw [popped, empty]; rfl, ?_⟩
      rw [none, lost, gapBefore_unknown known]
      rfl

theorem noted_noteGap {state : State} {batch : List Frame} (noting : state.phase = .noteGap batch)
    (inHand : state.phase.batch.length ≤ state.history.popped.length) (now : UInt64) :
    (state.noteGap batch now).noted = state.noted + batch.length := by
  rw [noting] at inHand
  change state.history.popped.length - 0 = state.noted + batch.length
  rw [State.noted, noting]
  exact (Nat.sub_add_cancel inHand).symm

theorem records_noting {state : State} {batch : List Frame} (noting : state.phase = .noteGap batch) :
    state.records = state.history.current.messages.flatten := by
  rw [records, noting]
  exact List.append_nil _

theorem Tallied.noteGap {state : State} (tallied : state.Tallied) (continuing : state.Continuing)
    {batch : List Frame} (noting : state.phase = .noteGap batch) (filled : batch ≠ [])
    (now : UInt64) : (state.noteGap batch now).Tallied := by
  cases batch with
  | nil => exact absurd rfl filled
  | cons front rest =>
      have inHand : state.phase.batch = front :: rest := by rw [noting]; rfl
      have ordinary := continuing.numbered.ordinary
      have consecutive := continuing.numbered.consecutive
      rw [inHand] at ordinary consecutive
      have counters := noteGap_counters tallied.reconnected front rest now
      have after := noted_noteGap noting tallied.inHand now
      rcases tallied.front_reached continuing.numbered inHand with ⟨first, isFirst, position⟩
      -- everything counted so far lies in front of the batch, and so nothing goes around
      have bound : front.seq.toNat < 2 ^ 64 := front.seq.toNat_lt
      have width : UInt64.size = 2 ^ 64 := rfl
      have lost : (state.egress.noteGap (front :: rest) now).counters.framesLost.toNat =
          state.egress.counters.framesLost.toNat +
            ((state.egress.gapBefore front).toList.map fun gap => gap.2.toNat).sum := by
        rw [counters, UInt64.toNat_add, UInt64.toNat_ofNat_of_lt' (by omega)]
        exact Nat.mod_eq_of_lt (by omega)
      constructor
      case reconnected => exact noteGap_reconnected ..
      case totals =>
        have earlier := tallied.totals
        rw [records_noting noting] at earlier
        change (({} : GapTracker).observeAll (state.history.current.messages.flatten ++
          (state.egress.noteGap (front :: rest) now).outgoing)).totals =
          GapTracker.Totals.mk _
            (state.egress.noteGap (front :: rest) now).counters.gapsSent
            (state.egress.noteGap (front :: rest) now).counters.framesLost
        rw [GapTracker.observeAll_append,
          totals_outgoing tallied.reconnected front (fun frame member => (ordinary frame member).bus),
          earlier, counters, after]
        simp only [UInt64.ofNat_add]
      case counted =>
        have earlier := tallied.counted
        rw [noting] at earlier
        rw [after, UInt64.ofNat_add, ← earlier]
        change (state.egress.noteGap (front :: rest) now).counters.framesSent + _ = _
        rw [counters]
        exact congrArg (· + _) (UInt64.add_zero _).symm
      case inHand => exact Nat.zero_le _
      case fewer =>
        have fewer := UInt64.le_iff_toNat_le.mp tallied.fewer
        have markers := markers_le_missing state.egress front
        change (state.egress.noteGap (front :: rest) now).counters.gapsSent ≤
          (state.egress.noteGap (front :: rest) now).counters.framesLost
        rw [UInt64.le_iff_toNat_le, lost, counters, UInt64.toNat_add,
          UInt64.toNat_ofNat_of_lt' (by omega), Nat.mod_eq_of_lt (by omega)]
        exact Nat.add_le_add fewer markers
      case unknown =>
        intro unknown
        change (state.egress.noteGap (front :: rest) now).haveSeq = false at unknown
        rw [(noteGap_numbers state.egress front rest now).1] at unknown
        cases unknown
      case known =>
        intro _
        refine ⟨first, isFirst, ?_⟩
        change (state.egress.noteGap (front :: rest) now).nextSeq.toNat = first.seq.toNat + _ +
          (state.egress.noteGap (front :: rest) now).counters.framesLost.toNat
        rw [noteGap_nextSeq ordinary, consecutive.last_eq, lost, after, List.length_cons]
        omega

theorem past_dropAndContinue (state : State) : state.dropAndContinue.history.past ≠ [] :=
  List.append_ne_nil_of_right_ne_nil _ (List.cons_ne_nil _ _)

theorem Tallied.step {state after : State} (tallied : state.Tallied) (continuing : state.Continuing)
    (framed : state.Framed) {event : Event} (first : after.history.past = [])
    (stepped : state.step event = some after) : after.Tallied := by
  cases step_report stepped with
  | drop drops => exact absurd first state.past_dropAndContinue
  | noteGap batch noting now =>
      exact tallied.noteGap continuing noting (framed.batch_filled noting) now
  | none unreported =>
      cases step_effect stepped with
      | quiet quiet _ =>
          refine tallied.keep unreported ?_ quiet.popped quiet.batch quiet.haveSeq quiet.nextSeq
          rw [records_quiet quiet]
      | drop drops => exact absurd first state.past_dropAndContinue
      | pop frames pops => exact tallied.recordPop unreported pops
      | noteGap batch noting now =>
          exact tallied.noteGap continuing noting (framed.batch_filled noting) now
      | sendEcho n probing now => exact tallied.sendEcho now probing unreported
      | encode n encoding => exact tallied.encode encoding unreported

theorem past_step {state after : State} {event : Event} (stepped : state.step event = some after)
    (first : after.history.past = []) : state.history.past = [] := by
  cases step_effect stepped with
  | quiet quiet _ => exact quiet.past ▸ first
  | drop drops => exact absurd first state.past_dropAndContinue
  | pop frames pops =>
      rw [pops.history] at first
      exact first
  | noteGap batch noting now => exact first
  | sendEcho n probing now => exact first
  | encode n encoding => exact first

theorem tallied_of_reachable {tuning : Tuning} {state : State}
    (reached : (system tuning).ReachableUnder ContiguousFeed state) :
    state.history.past = [] → state.Tallied := by
  refine reached.invariant (fun state => state.history.past = [] → state.Tallied) ?_ ?_
  · intro state initial _
    rcases initial with ⟨listenFd, stopFd, egress, created, rfl⟩
    unfold create at created
    split at created <;> cases created
    exact ⟨rfl, rfl, rfl, Nat.le_refl _, UInt64.le_refl _, fun _ => ⟨rfl, rfl, rfl⟩,
      fun known => nomatch known⟩
  · intro state event after before _ tallied stepped first
    exact (tallied (past_step stepped first)).step (continuing_of_reachable before)
      (framed_of_reachable before) first stepped

/-! ## What the records are -/

def Carried (state : State) (record : Frame) : Prop :=
  record ∈ state.history.popped ∨
    (∃ first missing reason now, record = Wire.makeGap first missing reason now) ∨
    ∃ nonce now, record = Wire.makeEcho nonce now

structure Carrying (state : State) : Prop where
  records : ∀ record ∈ state.records, state.Carried record
  batch : ∀ frame ∈ state.phase.batch, frame ∈ state.history.popped

theorem Carried.more {state after : State} {record : Frame} (carried : state.Carried record)
    {frames : List Frame} (popped : after.history.popped = state.history.popped ++ frames) :
    after.Carried record := by
  rcases carried with old | made
  · refine Or.inl ?_
    rw [popped]
    exact List.mem_append_left _ old
  · exact Or.inr made

theorem Carrying.step {state after : State} (carrying : state.Carrying) (framed : state.Framed)
    {event : Event}
    (stepped : state.step event = some after) : after.Carrying := by
  have carried {record : Frame} (before : state.Carried record) : after.Carried record :=
    before.more (popped_step stepped)
  have popped := popped_step stepped
  cases step_effect stepped with
  | quiet quiet _ =>
      refine ⟨?_, ?_⟩
      · rw [records_quiet quiet]
        exact fun record member => carried (carrying.records record member)
      · rw [quiet.batch, quiet.popped]
        exact carrying.batch
  | drop drops => exact ⟨fun _ member => (nomatch member), fun _ member => nomatch member⟩
  | pop frames pops =>
      refine ⟨?_, ?_⟩
      · rw [records_pops pops]
        exact fun record member => carried (carrying.records record member)
      · rw [pops.batch, popped]
        intro frame member
        rcases List.mem_append.mp member with old | new
        · exact List.mem_append_left _ (carrying.batch frame old)
        · exact List.mem_append_right _ new
  | noteGap batch noting now =>
      refine ⟨?_, fun _ member => nomatch member⟩
      have inHand : state.phase.batch = batch := by rw [noting]; rfl
      intro record member
      rcases List.mem_append.mp member with old | new
      · exact carried (carrying.records record (List.mem_append_left _ old))
      · change record ∈ (state.egress.noteGap batch now).outgoing at new
        cases batch with
        | nil => exact absurd rfl (framed.batch_filled noting)
        | cons front rest =>
            rw [outgoing_noteGap] at new
            rcases List.mem_append.mp new with marker | frame
            · rcases List.mem_map.mp marker with ⟨gap, _, rfl⟩
              exact Or.inr (Or.inl ⟨_, _, _, _, rfl⟩)
            · exact Or.inl (carrying.batch record (inHand ▸ frame))
  | sendEcho n probing now =>
      refine ⟨?_, fun _ member => nomatch member⟩
      rcases records_sendEcho probing now with ⟨probe, records⟩
      rw [records]
      intro record member
      rcases List.mem_append.mp member with old | new
      · exact carried (carrying.records record old)
      · rcases List.mem_map.mp new with ⟨nonce, _, rfl⟩
        exact Or.inr (Or.inr ⟨nonce, now, rfl⟩)
  | encode n encoding =>
      refine ⟨?_, fun _ member => nomatch member⟩
      rw [records_encode encoding]
      exact fun record member => carried (carrying.records record member)

theorem carrying_of_reachable {tuning : Tuning} {guard : State → Event → Prop} {state : State}
    (reached : (system tuning).ReachableUnder guard state) : state.Carrying := by
  refine reached.invariant State.Carrying ?_ ?_
  · intro state initial
    rcases initial with ⟨listenFd, stopFd, egress, created, rfl⟩
    exact ⟨fun _ member => (nomatch member), fun _ member => nomatch member⟩
  · intro state event after before _ carrying stepped
    exact carrying.step (framed_of_reachable before) stepped

/-! ## Without lingering -/

theorem tuning_step {state after : State} {event : Event}
    (stepped : state.step event = some after) : after.egress.tuning = state.egress.tuning := by
  cases step_report stepped with
  | none unreported => exact unreported.tuning
  | drop drops =>
      change state.egress.dropClient.tuning = _
      unfold dropClient
      split <;> rfl
  | noteGap batch noting now => exact (sameBuffer_noteGap state.egress batch now).tuning

end State

def Phase.lingers : Phase → Bool
  | .linger _ _ _ => true
  | .popMore _ _ _ => true
  | _ => false

namespace State

theorem lingers_step {state after : State} {event : Event}
    (quick : state.egress.tuning.lingerUs = 0) (prompt : state.phase.lingers = false)
    (stepped : state.step event = some after) : after.phase.lingers = false := by
  cases step_cases stepped with
  | stop => exact prompt
  | keepClient waiting client => rfl
  | pollListen waiting client result =>
      rcases state.waitForClient_cases result with stays | leaves | accepts
      · rw [stays]
        exact prompt
      · rw [leaves]
        rfl
      · rw [accepts]
        rfl
  | accept accepting fd => cases fd <;> rfl
  | testPending testing =>
      dsimp only
      split <;> rfl
  | sent site flushing bytes taken =>
      unfold State.sent at taken
      dsimp only at taken
      split at taken <;> cases taken
      rfl
  | wouldBlock site flushing blocked =>
      cases blocked
      rfl
  | interrupted site flushing => exact prompt
  | failed site flushing _ => rfl
  | finishFlush site flushing done => rfl
  | pollWritable site parked result =>
      rcases pollWritable_cases parked result with again | ⟨dropped, _⟩
      · rw [again]
        rfl
      · rw [dropped]
        rfl
  | afterFlush site flushed => cases site <;> rfl
  | peerGone testing => rfl
  | peerThere testing => rfl
  | recv receiving bytes _ _ => exact prompt
  | recvEnd receiving => rfl
  | parse parsing now => rfl
  | pop popping frames size =>
      dsimp only
      split <;> rfl
  | coalesce batch coalescing now =>
      rw [State.coalesce]
      dsimp only
      rw [if_pos (Or.inl quick)]
      rfl
  | linger batch deadline waited lingering now =>
      rw [lingering] at prompt
      cases prompt
  | popNothing batch deadline waited popping => rfl
  | popMore batch deadline waited popping frame rest _ =>
      rw [popping] at prompt
      cases prompt
  | testClosed testing answer => cases answer <;> rfl
  | noteGap batch noting now => rfl
  | sendEcho n probing now => rfl
  | encode n encoding => rfl

theorem batch_of_requested {state : State} (prompt : state.phase.lingers = false) {size : Nat}
    (requested : state.requested = some size) : state.phase.batch = [] := by
  unfold State.requested at requested
  split at requested
  · rename_i popping
    rw [popping]
    rfl
  · rename_i popping
    rw [popping] at prompt
    cases prompt
  · cases requested

theorem prompt_of_reachable {tuning : Tuning} {guard : State → Event → Prop} {state : State}
    (quick : tuning.lingerUs = 0) (reached : (system tuning).ReachableUnder guard state) :
    state.egress.tuning = tuning ∧ state.phase.lingers = false := by
  refine reached.invariant
    (fun state => state.egress.tuning = tuning ∧ state.phase.lingers = false) ?_ ?_
  · intro state initial
    rcases initial with ⟨listenFd, stopFd, egress, created, rfl⟩
    unfold create at created
    split at created <;> cases created
    exact ⟨rfl, rfl⟩
  · intro state event after _ _ before stepped
    exact ⟨(tuning_step stepped).trans before.1,
      lingers_step (before.1 ▸ quick) before.2 stepped⟩

end State

end TelemetryGateway.Egress
