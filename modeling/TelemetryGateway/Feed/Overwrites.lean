import TelemetryGateway.Feed.FanOut

/-! # What a sink overwrites

The frames a queue gives up and those it keeps carry successive sequences, also
around the end of the 64-bit counter. -/

namespace TelemetryGateway.FanOut

/-! ## Successive sequences -/

def sequences (first : UInt64) (count : Nat) : List UInt64 :=
  (List.range count).map fun k => first + UInt64.ofNat k

theorem sequences_add (first : UInt64) (left right : Nat) :
    sequences first (left + right) =
      sequences first left ++ sequences (first + UInt64.ofNat left) right := by
  unfold sequences
  rw [List.range_add, List.map_append, List.map_map]
  refine congrArg _ (List.map_congr_left ?_)
  intro k _
  rw [Function.comp_apply, UInt64.ofNat_add, UInt64.add_assoc]

@[simp] theorem length_sequences (first : UInt64) (count : Nat) :
    (sequences first count).length = count := by
  rw [sequences, List.length_map, List.length_range]

def SequencedFrom (first : UInt64) (frames : List Frame) : Prop :=
  frames.map Frame.seq = sequences first frames.length

theorem sequencedFrom_append {first : UInt64} {left right : List Frame} :
    SequencedFrom first (left ++ right) ↔
      SequencedFrom first left ∧ SequencedFrom (first + UInt64.ofNat left.length) right := by
  unfold SequencedFrom
  rw [List.map_append, List.length_append, sequences_add]
  constructor
  · intro same
    exact List.append_inj same (by rw [List.length_map, length_sequences])
  · rintro ⟨first, second⟩
    rw [first, second]

theorem SequencedFrom.front {first : UInt64} {front : Frame} {rest : List Frame}
    (sequenced : SequencedFrom first (front :: rest)) : front.seq = first := by
  rw [← List.singleton_append] at sequenced
  have only := (sequencedFrom_append.mp sequenced).1
  exact (List.cons.inj only).1.trans (UInt64.add_zero first)

theorem SequencedFrom.last {first : UInt64} {frames : List Frame}
    (sequenced : SequencedFrom first frames) {last : Frame}
    (isLast : frames.getLast? = some last) :
    last.seq + 1 = first + UInt64.ofNat frames.length := by
  rcases List.getLast?_eq_some_iff.mp isLast with ⟨earlier, rfl⟩
  rw [(sequencedFrom_append.mp sequenced).2.front, List.length_append, UInt64.ofNat_add,
    UInt64.add_assoc]
  rfl

theorem stamp_sequenced (base : UInt64) (batch : List BusFrame) :
    SequencedFrom base (stamp base batch) := by
  apply List.ext_getElem
  · rw [List.length_map, length_sequences]
  · intro k left right
    simp only [stamp, sequences, List.getElem_map, List.getElem_mapIdx, List.getElem_range]

theorem stamp_bus (base : UInt64) (batch : List BusFrame) :
    ∀ frame ∈ stamp base batch, Wire.isControl frame = false := by
  intro frame member
  rcases List.mem_iff_getElem.mp member with ⟨k, inside, rfl⟩
  rw [stamp, List.length_mapIdx] at inside
  simp only [stamp, List.getElem_mapIdx]
  exact batch[k].property

/-! ## One step, seen by one sink -/

def Phase.produced : Phase → List Frame
  | .poll => []
  | .push produced _ => produced

namespace State

def upcoming (state : State sinks) (sink : Fin sinks) : UInt64 :=
  match state.phase with
  | .poll => state.nextSeq
  | .push produced next =>
      if next ≤ sink.val then state.nextSeq - UInt64.ofNat produced.length else state.nextSeq

/-- The frames the queue of the sink gave up in a step. They are the oldest of
those it held and those it was given. -/
def overwritten (sink : Fin sinks) (before after : State sinks) : List Frame :=
  ((before.queues sink).contents ++ before.phase.produced).take
    ((after.queues sink).losses - (before.queues sink).losses)

inductive SinkStep (sink : Fin sinks) (state : State sinks) : Label sinks → State sinks → Prop
  | same (queue : after.queues sink = state.queues sink)
      (upcoming : after.upcoming sink = state.upcoming sink) : SinkStep sink state label after
  | close (queue : after.queues sink = (state.queues sink).close)
      (upcoming : after.upcoming sink = state.upcoming sink) : SinkStep sink state label after
  | push (produced : List Frame) (pushing : state.phase = .push produced sink.val)
      (queue : after.queues sink = ((state.queues sink).pushBatch produced).1)
      (upcoming : after.upcoming sink = state.nextSeq) : SinkStep sink state .push after

theorem push_sink {state : State sinks} {produced : List Frame} {next : Nat}
    (pushing : state.phase = .push produced next) (sink : Fin sinks) :
    SinkStep sink state .push (state.push produced next) := by
  unfold State.push
  split
  · rename_i inside
    by_cases own : sink = ⟨next, inside⟩
    · subst own
      refine .push produced pushing (Function.update_self ..) ?_
      exact if_neg (Nat.not_succ_le_self _)
    · have apart : sink.val ≠ next := fun same => own (Fin.ext same)
      refine .same (Function.update_of_ne own ..) ?_
      rw [upcoming, upcoming, pushing]
      change (if next + 1 ≤ sink.val then state.nextSeq - UInt64.ofNat produced.length
        else state.nextSeq) = if next ≤ sink.val then state.nextSeq - UInt64.ofNat produced.length
        else state.nextSeq
      split <;> split <;> first | rfl | omega
  · rename_i beyond
    have after : ¬ next ≤ sink.val := by
      have bound := sink.isLt
      omega
    refine .same rfl ?_
    rw [upcoming, upcoming, pushing]
    exact (if_neg after).symm

theorem step_sink {state after : State sinks} {sink : Fin sinks} {label : Label sinks}
    (others : label.pops sink = false) (stepped : state.step label = some after) :
    SinkStep sink state label after := by
  cases step_cases stepped with
  | drain batch polling =>
      refine .same rfl ?_
      rw [upcoming, upcoming, polling]
      change (if 0 ≤ sink.val then state.nextSeq + UInt64.ofNat batch.length -
        UInt64.ofNat (stamp state.nextSeq batch).length else _) = state.nextSeq
      rw [if_pos (Nat.zero_le _), stamp, List.length_mapIdx, UInt64.add_sub_cancel]
  | push produced next pushing => exact push_sink pushing sink
  | pop other size =>
      have apart : sink ≠ other := fun same => by simp [Label.pops, same] at others
      exact .same (Function.update_of_ne apart ..) rfl
  | close other =>
      by_cases own : sink = other
      · subst own
        exact .close (Function.update_self ..) rfl
      · exact .same (Function.update_of_ne own ..) rfl

/-! ## What the thread is about to push -/

def Stamped (state : State sinks) : Prop :=
  ∀ produced next, state.phase = .push produced next →
    SequencedFrom (state.nextSeq - UInt64.ofNat produced.length) produced ∧
      ∀ frame ∈ produced, Wire.isControl frame = false

theorem Stamped.step {state after : State sinks} (stamped : state.Stamped) {label : Label sinks}
    (stepped : state.step label = some after) : after.Stamped := by
  cases step_cases stepped with
  | drain batch polling =>
      intro produced next pushing
      cases pushing
      have size : (stamp state.nextSeq batch).length = batch.length := List.length_mapIdx
      change SequencedFrom (state.nextSeq + UInt64.ofNat batch.length - _) _ ∧ _
      rw [size, UInt64.add_sub_cancel]
      exact ⟨stamp_sequenced _ _, stamp_bus _ _⟩
  | push produced sink pushing =>
      unfold State.push
      split
      · intro others next same
        cases same
        exact stamped produced sink pushing
      · intro others next impossible
        cases impossible
  | pop other size => exact stamped
  | close other => exact stamped

/-! ## The line of one sink -/

/-- Some frames that left the queue and all it holds carry the sequences from
`first` on, up to the next one the sink is offered. -/
structure Lined (sink : Fin sinks) (first : UInt64) (left : List Frame) (state : State sinks) :
    Prop where
  sequenced : SequencedFrom first (left ++ (state.queues sink).contents)
  newest : (state.queues sink).closed = false →
    first + UInt64.ofNat (left ++ (state.queues sink).contents).length = state.upcoming sink
  bus : ∀ frame ∈ (state.queues sink).contents, Wire.isControl frame = false

theorem Lined.moved {sink : Fin sinks} {first : UInt64} {left moved : List Frame}
    {state after : State sinks} (lined : state.Lined sink first left)
    (line : moved ++ (after.queues sink).contents = (state.queues sink).contents)
    (closed : (after.queues sink).closed = false → (state.queues sink).closed = false)
    (upcoming : after.upcoming sink = state.upcoming sink) :
    after.Lined sink first (left ++ moved) := by
  refine ⟨?_, ?_, ?_⟩
  · rw [List.append_assoc, line]
    exact lined.sequenced
  · intro isOpen
    rw [List.append_assoc, line, upcoming]
    exact lined.newest (closed isOpen)
  · intro frame member
    exact lined.bus frame (line ▸ List.mem_append_right _ member)

theorem Lined.forget {sink : Fin sinks} {first : UInt64} {earlier left : List Frame}
    {state : State sinks} (lined : state.Lined sink first (earlier ++ left)) :
    state.Lined sink (first + UInt64.ofNat earlier.length) left := by
  have sequenced := lined.sequenced
  rw [List.append_assoc] at sequenced
  refine ⟨(sequencedFrom_append.mp sequenced).2, ?_, lined.bus⟩
  intro isOpen
  rw [← lined.newest isOpen, List.append_assoc, UInt64.add_assoc, ← UInt64.ofNat_add,
    ← List.length_append]

theorem Lined.push {sink : Fin sinks} {first : UInt64} {left produced : List Frame}
    {state after : State sinks} (lined : state.Lined sink first left) (stamped : state.Stamped)
    (pushing : state.phase = .push produced sink.val)
    (queue : after.queues sink = ((state.queues sink).pushBatch produced).1)
    (upcoming : after.upcoming sink = state.nextSeq) :
    after.Lined sink first (left ++ overwritten sink state after) ∧
      (after.queues sink).losses =
        (state.queues sink).losses + (overwritten sink state after).length := by
  have offered : state.upcoming sink = state.nextSeq - UInt64.ofNat produced.length := by
    rw [State.upcoming, pushing]
    exact if_pos (Nat.le_refl _)
  rcases stamped produced _ pushing with ⟨following, bus⟩
  unfold overwritten
  rw [pushing, queue]
  dsimp only [Phase.produced]
  cases isClosed : (state.queues sink).closed with
  | true =>
      rw [BoundedQueue.pushBatch_closed isClosed] at queue ⊢
      rw [Nat.sub_self, List.take_zero, List.append_nil]
      refine ⟨⟨by rw [queue]; exact lined.sequenced, ?_, by rw [queue]; exact lined.bus⟩, rfl⟩
      rw [queue, isClosed]
      exact fun isOpen => nomatch isOpen
  | false =>
      rcases BoundedQueue.pushBatch_splits isClosed produced with ⟨line, count⟩
      have newest := lined.newest isClosed
      rw [offered] at newest
      have joined : SequencedFrom first
          ((left ++ (state.queues sink).contents) ++ produced) := by
        refine sequencedFrom_append.mpr ⟨lined.sequenced, ?_⟩
        rw [newest]
        exact following
      refine ⟨⟨?_, ?_, ?_⟩, count⟩
      · rw [List.append_assoc, queue, line, ← List.append_assoc]
        exact joined
      · intro _
        have length : ((left ++ (state.queues sink).contents) ++ produced).length =
            (left ++ (state.queues sink).contents).length + produced.length := List.length_append
        rw [List.append_assoc, queue, line, upcoming, ← List.append_assoc, length,
          UInt64.ofNat_add, ← UInt64.add_assoc, newest, UInt64.sub_add_cancel]
      · intro frame member
        rw [queue] at member
        have offered : frame ∈ (state.queues sink).contents ++ produced := by
          rw [← line]
          exact List.mem_append_right _ member
        rcases List.mem_append.mp offered with old | new
        · exact lined.bus frame old
        · exact bus frame new

/-- Whatever the other threads do, what leaves the queue is what it counts as
dropped. -/
theorem Lined.step {sink : Fin sinks} {first : UInt64} {left : List Frame}
    {state after : State sinks} (lined : state.Lined sink first left) (stamped : state.Stamped)
    {label : Label sinks} (others : label.pops sink = false)
    (stepped : state.step label = some after) :
    after.Lined sink first (left ++ overwritten sink state after) ∧
      (after.queues sink).losses =
        (state.queues sink).losses + (overwritten sink state after).length := by
  cases step_sink others stepped with
  | same queue upcoming =>
      have none : overwritten sink state after = [] := by
        rw [overwritten, queue, Nat.sub_self, List.take_zero]
      rw [none, queue]
      refine ⟨lined.moved ?_ ?_ upcoming, rfl⟩
      · rw [queue]
        rfl
      · rw [queue]
        exact id
  | close queue upcoming =>
      have none : overwritten sink state after = [] := by
        rw [overwritten, queue]
        change List.take ((state.queues sink).losses - (state.queues sink).losses) _ = []
        rw [Nat.sub_self, List.take_zero]
      rw [none, queue]
      refine ⟨lined.moved ?_ ?_ upcoming, rfl⟩
      · rw [queue]
        rfl
      · rw [queue]
        exact fun isOpen => nomatch isOpen
  | push produced pushing queue upcoming => exact lined.push stamped pushing queue upcoming

theorem Lined.pop {sink : Fin sinks} {first : UInt64} {left : List Frame} {state : State sinks}
    (lined : state.Lined sink first left) (size : Nat) :
    (state.setQueue sink ((state.queues sink).popBatch size).1).Lined sink first
      (left ++ ((state.queues sink).popBatch size).2) := by
  rcases (state.queues sink).popBatch_spec size with ⟨taken, rest, _, closed⟩
  have queue : (state.setQueue sink ((state.queues sink).popBatch size).1).queues sink =
      ((state.queues sink).popBatch size).1 := Function.update_self ..
  refine lined.moved ?_ ?_ rfl
  · rw [queue, taken, rest, List.take_append_drop]
  · rw [queue, closed]
    exact id

theorem create_lined (capacity : Fin sinks → Nat) (sink : Fin sinks) :
    (State.create capacity).Lined sink 0 [] where
  sequenced := rfl
  newest := fun _ => rfl
  bus := fun _ member => nomatch member

end State

end TelemetryGateway.FanOut
