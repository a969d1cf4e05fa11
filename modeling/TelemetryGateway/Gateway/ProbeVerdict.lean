import Mathlib.Data.List.Infix
import TelemetryGateway.Consumer.Probe
import TelemetryGateway.Gateway.Decodable

/-! # The verdict of the probe

The probe fails when a stream is malformed or when frames are missing and nobody
has said so. Neither happens with a gateway that loses nothing inside a batch,
whatever it loses otherwise and however often the probe connects again. -/

namespace TelemetryGateway

namespace FrameStream

def Settled (results : List Result) : Prop :=
  ∀ result ∈ results.dropLast, result.final = false

theorem Settled.tail {result : Result} {rest : List Result} (settled : Settled (result :: rest)) :
    Settled rest := by
  intro other member
  cases rest with
  | nil => cases member
  | cons next rest => exact settled other (List.mem_cons_of_mem _ member)

theorem Settled.flatMap_observed {results : List Result} (settled : Settled results)
    (kept : Result → List T) (nothing : kept .timeout = []) :
    results.flatMap kept = (observed results).flatMap kept := by
  induction results with
  | nil => rfl
  | cons result rest induction =>
      have others := induction settled.tail
      have final (last : result.final = true) : rest = [] := by
        cases rest with
        | nil => rfl
        | cons next rest =>
            rw [settled result List.mem_cons_self] at last
            cases last
      cases result with
      | ok batch => exact congrArg (kept (.ok batch) ++ ·) others
      | timeout =>
          rw [List.flatMap_cons, nothing, List.nil_append]
          exact others
      | closed =>
          rw [final rfl]
          rfl
      | protocolError error =>
          rw [final rfl]
          rfl

end FrameStream

namespace Probe

/-! ## The probe stops at an error and at the end -/

structure Attentive (probe : Probe) (events : List Event) : Prop where
  settled : ∀ connection ∈ connections events, FrameStream.Settled connection.results
  unended : probe.stage = .reading → ∀ last, (connections events).getLast? = some last →
    ∀ result ∈ last.results, result.final = false

variable {config : Config} {probe : Probe} {events : List Event}

theorem Attentive.keep (attentive : Attentive probe events) {event : Event} {after : Probe}
    (same : connections (events ++ [event]) = connections events)
    (elsewhere : after.stage ≠ .reading) : Attentive after (events ++ [event]) := by
  refine ⟨?_, fun reading => absurd reading elsewhere⟩
  rw [same]
  exact attentive.settled

theorem Attentive.connect (attentive : Attentive probe events) (now : UInt64) :
    Attentive (probe.connect now) (events ++ [.connect now]) := by
  have one : connections (events ++ [.connect now]) = connections events ++ [{ since := now }] :=
    connections_concat ..
  constructor
  · rw [one]
    intro connection member
    rcases List.mem_append.mp member with old | new
    · exact attentive.settled connection old
    · rw [List.mem_singleton.mp new]
      exact fun _ impossible => nomatch impossible
  · rw [one, List.getLast?_concat]
    rintro _ last ⟨⟩ result member
    cases member

theorem round_stage {result : FrameStream.Result} {clocks : Clocks} {after : Probe}
    (turned : probe.round config result clocks = some after) (reading : after.stage = .reading) :
    result.final = false := by
  cases result with
  | closed =>
      cases turned
      cases reading
  | protocolError error =>
      cases turned
      cases reading
  | timeout => rfl
  | ok batch => rfl

theorem Attentive.round (attentive : Attentive probe events) (reading : probe.stage = .reading)
    {result : FrameStream.Result} {clocks : Clocks} {after : Probe}
    (turned : probe.round config result clocks = some after) :
    Attentive after (events ++ [.round result clocks]) := by
  have next := connections_concat events (.round result clocks)
  dsimp only at next
  cases found : (connections events).getLast? with
  | none =>
      rw [List.getLast?_eq_none_iff.mp found] at next
      constructor
      · rw [next]
        exact fun _ impossible => nomatch impossible
      · rw [next]
        rintro _ _ ⟨⟩
  | some last =>
      rcases List.getLast?_eq_some_iff.mp found with ⟨front, split⟩
      have open_ := attentive.unended reading last found
      rw [split, List.dropLast_concat, List.getLast?_concat] at next
      have more := last.results_add result clocks
      constructor
      · rw [next]
        intro connection member
        rcases List.mem_append.mp member with old | new
        · apply attentive.settled
          rw [split]
          exact List.mem_append_left _ old
        · rw [List.mem_singleton.mp new, FrameStream.Settled, more, List.dropLast_concat]
          exact open_
      · rw [next]
        rintro still _ same other member
        rw [Option.map_some, Option.toList_some, List.getLast?_concat] at same
        cases same
        rw [more] at member
        rcases List.mem_append.mp member with old | new
        · exact open_ other old
        · rw [List.mem_singleton.mp new]
          exact round_stage turned still

theorem Attentive.step (attentive : Attentive probe events) {event : Event} {after : Probe}
    (stepped : probe.step config event = some after) : Attentive after (events ++ [event]) := by
  have elsewhere : (if config.reconnect then Stage.away else Stage.ended) ≠ .reading := by
    cases config.reconnect <;> decide
  unfold Probe.step at stepped
  split at stepped
  · rename_i away
    cases stepped
    apply attentive.keep (connections_concat events .refuse)
    split
    · rw [away]
      decide
    · rintro ⟨⟩
  · cases stepped
    exact attentive.connect _
  · cases stepped
    exact attentive.keep (connections_concat events .stop) (by rintro ⟨⟩)
  · rename_i reading
    exact attentive.round reading stepped
  · cases stepped
    exact attentive.keep (connections_concat events .leave) elsewhere
  · cases stepped
    exact attentive.keep (connections_concat events .leave) elsewhere
  · cases stepped

theorem attentive_of_run {nextReport : UInt64}
    (ran : (system config nextReport).run (start nextReport) events = some probe) :
    Attentive probe events := by
  induction events using List.reverseRecOn generalizing probe with
  | nil =>
      exact ⟨(fun _ impossible => nomatch impossible), fun _ _ impossible => nomatch impossible⟩
  | append_singleton events event induction =>
      rw [System.run_append] at ran
      rcases Option.bind_eq_some_iff.mp ran with ⟨middle, before, last⟩
      rcases Option.bind_eq_some_iff.mp last with ⟨after, stepped, same⟩
      cases same
      exact (induction before).step stepped

/-! ## Announced gaps, one connection after the other -/

theorem silentJumps_trackerOf {connections : List Connection}
    (followed : ∀ connection ∈ connections,
      ∃ expect, Expect.anything.follow (connection.records.map Wire.item) = some expect) :
    (trackerOf connections).stats.silentJumps = 0 := by
  induction connections using List.reverseRecOn with
  | nil => rfl
  | append_singleton front last induction =>
      rcases followed last (List.mem_append_right _ List.mem_cons_self) with ⟨expect, follows⟩
      have fresh : (trackerOf front).reset.Awaits .anything := rfl
      rw [trackerOf_concat, (fresh.observeAll follows).2]
      exact induction fun connection member =>
        followed connection (List.mem_append_left _ member)

/-! ## A gateway and a probe -/

/-- Every connection of the probe reads, in any pieces, some of what the thread
has written to one of its connections. -/
def Reads (events : List Event) (history : Egress.History) : Prop :=
  ∀ connection ∈ connections events, ∃ given ∈ history.connections, ∃ input calls,
    input <+: given.written ∧ connection.results = FrameStream.connected.results input calls

def recordsIn : FrameStream.Result → List Frame
  | .ok batch => batch.filter fun frame => !Wire.isEcho frame
  | _ => []

theorem recordsIn_messages (messages : List (List Frame)) :
    (messages.map FrameStream.Result.ok ++ [FrameStream.Result.closed]).flatMap recordsIn =
      messages.flatten.filter fun frame => !Wire.isEcho frame := by
  induction messages with
  | nil => rfl
  | cons message rest induction =>
      rw [List.map_cons, List.cons_append, List.flatMap_cons, induction, List.flatten_cons,
        List.filter_append]
      rfl

theorem map_item_filter (records : List Frame) :
    (records.filter fun record => !Wire.isEcho record).map Wire.item =
      (records.map Wire.item).filter fun item => !item.isOther := by
  have same : (fun record => !Wire.isEcho record) =
      (fun item => !Item.isOther item) ∘ Wire.item := by
    funext record
    rw [Function.comp_apply, Wire.item]
    cases Wire.isEcho record with
    | true => rfl
    | false => cases Wire.isGap record <;> rfl
  rw [same, List.filter_map]

/-- Of a stream that is understood, a connection of the probe sees a part from the
beginning on, and no fault. -/
theorem connection_of_understood {state : Egress.State} (understood : state.Understood)
    {connection : Connection} (settled : FrameStream.Settled connection.results)
    {given : Egress.Connection} (member : given ∈ state.history.connections)
    {input : List UInt8} {calls : List (List FrameStream.ReadAnswer)}
    (cut : input <+: given.written)
    (read : connection.results = FrameStream.connected.results input calls) :
    (∃ messages, messages <+: given.messages ∧ connection.records <+:
      messages.flatten.filter fun frame => !Wire.isEcho frame) ∧
    ∀ result ∈ connection.results, isFault result = false := by
  have observed := (understood given member input cut calls).1
  rw [← read] at observed
  rcases observed with ⟨later, whole⟩
  constructor
  · refine ⟨given.messages.take (FrameStream.complete given.messages input.length),
      List.take_prefix _ _, ?_⟩
    have seen := settled.flatMap_observed recordsIn rfl
    rw [← recordsIn_messages, ← whole, List.flatMap_append, ← seen]
    exact List.prefix_append _ _
  · intro result inside
    by_contra fault
    rw [Bool.not_eq_false] at fault
    have faults : result ∈ connection.results.flatMap fun result =>
        if isFault result then [result] else [] :=
      List.mem_flatMap.mpr ⟨result, inside, by rw [if_pos fault]; exact List.mem_cons_self⟩
    rw [settled.flatMap_observed _ rfl] at faults
    rcases List.mem_flatMap.mp faults with ⟨same, seen, here⟩
    have among := List.mem_append_left later seen
    rw [whole] at among
    rcases List.mem_append.mp among with batch | last
    · rcases List.mem_map.mp batch with ⟨message, _, rfl⟩
      cases here
    · rw [List.mem_singleton.mp last] at here
      cases here

theorem exitCode_of_continuing {state : Egress.State} (understood : state.Understood)
    (continuing : state.Continuing) {nextReport : UInt64}
    (ran : (system config nextReport).run (start nextReport) events = some probe)
    (reads : Reads events state.history) :
    probe.exitCode = if probe.stage = .refused then 1 else 0 := by
  have running := running_of_run ran
  have attentive := attentive_of_run ran
  have noFault : probe.protocolErrs = 0 := by
    rw [running.protocolErrs, List.countP_eq_zero.mpr]
    · rfl
    · intro result member
      rcases List.mem_flatMap.mp member with ⟨connection, present, inside⟩
      rcases reads connection present with ⟨given, found, input, calls, cut, read⟩
      rw [(connection_of_understood understood (attentive.settled connection present) found cut
        read).2 result inside]
      exact Bool.false_ne_true
  have noJump : probe.gaps.stats.silentJumps = 0 := by
    rw [running.gaps]
    apply silentJumps_trackerOf
    intro connection present
    rcases reads connection present with ⟨given, found, input, calls, cut, read⟩
    rcases (connection_of_understood understood (attentive.settled connection present) found cut
      read).1 with ⟨messages, sent, ⟨later, split⟩⟩
    rcases continuing.follow found (List.IsPrefix.flatten sent) with ⟨expect, followed⟩
    rw [← Expect.follow_filter, ← map_item_filter, ← split, List.map_append] at followed
    rcases Expect.exists_follow_prefix followed with ⟨middle, seen, _⟩
    exact ⟨middle, seen⟩
  rw [exitCode, noFault, noJump]
  simp

end Probe

/-- A probe of the gateway returns success, unless it could not connect and was not
to try again. -/
def Probe.Trusts (state : Egress.State) : Prop :=
  ∀ (config : Probe.Config) (nextReport : UInt64) (events : List Probe.Event) (probe : Probe),
    (Probe.system config nextReport).run (Probe.start nextReport) events = some probe →
    Probe.Reads events state.history →
    probe.exitCode = if probe.stage = .refused then 1 else 0

/-- Loss in front of a batch, connections that break off and reads of any size are
no faults: as long as nothing is lost inside a batch, no probe returns failure. -/
theorem probe_trusts_gateway (tuning : Tuning) :
    (∀ (sinks : Nat) (sink : Fin sinks) (state : QueueTopology.State sinks),
      (QueueTopology.system sink tuning).ReachableUnder
        (fun state label => state.BatchesWhole sink label ∧ label.Decodable) state →
      Probe.Trusts state.egress) ∧
    (∀ (geometry : BroadcastRing.Geometry) (Producer ReaderId : Type) [DecidableEq Producer]
      [DecidableEq ReaderId] (me : ReaderId)
      (state : RingTopology.State geometry Producer ReaderId),
      (RingTopology.system geometry Producer me tuning).ReachableUnder
        (RingTopology.State.BatchesWhole me) state →
      (∀ entry ∈ state.ring.core.issued, Wire.Decodable entry.2) → Probe.Trusts state.egress) := by
  constructor
  · intro sinks sink state reached config nextReport events probe ran reads
    have popped := QueueTopology.State.popped_decodable (fun _ _ both => both.2) reached
    have feeding := QueueTopology.State.feeding_of_reachable
      (reached.weaken fun _ _ both => both.1)
    exact Probe.exitCode_of_continuing
      (Egress.State.understood (QueueTopology.State.reachable_egress reached) popped)
      (Egress.State.continuing_of_reachable feeding.reached) ran reads
  · intro geometry Producer ReaderId _ _ me state reached published config nextReport events
      probe ran reads
    have popped := RingTopology.State.popped_decodable published reached
    have feeding := RingTopology.State.feeding_of_reachable reached
    have supplied := RingTopology.State.supplied_of_reachable reached
    exact Probe.exitCode_of_continuing (Egress.State.understood supplied.reached popped)
      (Egress.State.continuing_of_reachable feeding.reached) ran reads

def twoMessages : List FrameStream.Result :=
  [.ok [GapTracker.frameAt 0],
    .ok [Wire.makeGap 1 1 .kConsumerOverrun 0, GapTracker.frameAt 2, GapTracker.frameAt 3],
    .closed]

def patientProbe : List Probe.Event :=
  let clocks : Probe.Clocks := { first := 20, now := 30, mono := 40 }
  [.refuse, .connect 10] ++ twoMessages.map (fun result => .round result clocks) ++ [.leave, .stop]

theorem patientProbe_runs : ∃ probe, (Probe.system { reconnect := true } 500).run
    (Probe.start 500) patientProbe = some probe :=
  ⟨_, rfl⟩

theorem reads_patientProbe {state : Egress.State}
    (results : FrameStream.connected.results state.history.current.written [[], [], []] =
      twoMessages) : Probe.Reads patientProbe state.history := by
  intro connection member
  rw [List.mem_singleton.mp member]
  exact ⟨state.history.current, List.mem_append_right _ List.mem_cons_self, _, [[], [], []],
    List.prefix_refl _, results.symm⟩

theorem probe_trusts_gateway_lossBetweenBatches :
    ∃ probe, (Probe.system { reconnect := true } 500).run (Probe.start 500) patientProbe =
        some probe ∧ probe.exitCode = (if probe.stage = .refused then 1 else 0) ∧
      (∃ state, (QueueTopology.system 0 {}).run (.initial (fun _ => 2) { tuning := {} })
        overflowBetweenBatches = some state ∧ Probe.Reads patientProbe state.egress.history ∧
        Probe.Trusts state.egress) ∧
      ∃ state, (RingTopology.system _ Unit () {}).run attached lapBetweenBatches = some state ∧
        Probe.Reads patientProbe state.egress.history ∧ Probe.Trusts state.egress := by
  have queue : ((QueueTopology.system 0 {}).runUnder
      (fun state label => state.BatchesWhole 0 label ∧ label.Decodable)
      (.initial (fun _ => 2) { tuning := {} }) overflowBetweenBatches).map
      (fun state => FrameStream.connected.results state.egress.history.current.written
        [[], [], []]) = some twoMessages := by
    decide +kernel
  have ring : ((RingTopology.system _ Unit () {}).runUnder
      (RingTopology.State.BatchesWhole ()) attached lapBetweenBatches).map
      (fun state => (FrameStream.connected.results state.egress.history.current.written
        [[], [], []], decide (∀ entry ∈ state.ring.core.issued, Wire.Decodable entry.2))) =
      some (twoMessages, true) := by
    decide +kernel
  rcases Option.map_eq_some_iff.mp queue with ⟨state, ran, results⟩
  rcases Option.map_eq_some_iff.mp ring with ⟨other, otherRan, facts⟩
  simp only [Prod.mk.injEq, decide_eq_true_eq] at facts
  have reads := reads_patientProbe results
  have otherReads := reads_patientProbe facts.1
  have trusted := (probe_trusts_gateway {}).1 1 0 state
    (.runUnder (.start ⟨_, 3, 4, _, rfl, rfl⟩) _ ran)
  have otherTrusted := (probe_trusts_gateway {}).2 _ Unit Unit () other
    (.runUnder (.start attached_initial) _ otherRan) facts.2
  rcases patientProbe_runs with ⟨probe, runs⟩
  exact ⟨probe, runs, trusted _ 500 patientProbe probe runs reads,
    ⟨state, System.run_of_runUnder ran, reads, trusted⟩,
    other, System.run_of_runUnder otherRan, otherReads, otherTrusted⟩

end TelemetryGateway
