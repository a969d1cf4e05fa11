import Mathlib.Data.List.Chain
import TelemetryGateway.Feed.BoundedQueue
import TelemetryGateway.Wire.Message

/-! # Topology A: the fan-out thread and its sinks

One thread stamps the frames its sources drain with the global sequence and
copies them into every sink, one after the other. Which source is readable next
is for `poll` to say, so what is drained is part of the label. -/

namespace TelemetryGateway

abbrev FrameQueue := BoundedQueue Frame

/-- A frame as the sources produce it: the flags of a control record are never
set (`CanSource.drain_bus`, `SyntheticSource.drain_bus`). -/
abbrev BusFrame := { frame : Frame // Wire.isControl frame = false }

def blank : BusFrame := ⟨Frame.zero, rfl⟩

namespace FanOut

def kDrainBatch : Nat := 64

def stamp (base : UInt64) (batch : List BusFrame) : List Frame :=
  batch.mapIdx fun k frame => { frame.val with seq := base + UInt64.ofNat k }

inductive Phase
  /-- polling the sources -/
  | poll
  /-- about to push the batch to the sink of that index -/
  | push (produced : List Frame) (sink : Nat)

structure State (sinks : Nat) where
  nextSeq : UInt64
  phase : Phase
  queues : Fin sinks → FrameQueue

/-- The steps of the thread, and what the consumers do to their queues. -/
inductive Label (sinks : Nat)
  | drain (batch : List BusFrame)
  | push
  | pop (sink : Fin sinks) (size : Nat)
  | close (sink : Fin sinks)

namespace State

def create (capacity : Fin sinks → Nat) : State sinks where
  nextSeq := 0
  phase := .poll
  queues := fun sink => BoundedQueue.create (capacity sink)

def setQueue (state : State sinks) (sink : Fin sinks) (queue : FrameQueue) : State sinks :=
  { state with queues := Function.update state.queues sink queue }

def drain (state : State sinks) (batch : List BusFrame) : State sinks :=
  { state with
    nextSeq := state.nextSeq + UInt64.ofNat batch.length
    phase := .push (stamp state.nextSeq batch) 0 }

def push (state : State sinks) (produced : List Frame) (sink : Nat) : State sinks :=
  if next : sink < sinks then
    { state.setQueue ⟨sink, next⟩ ((state.queues ⟨sink, next⟩).pushBatch produced).1 with
      phase := .push produced (sink + 1) }
  else { state with phase := .poll }

def step (state : State sinks) : Label sinks → Option (State sinks)
  | .drain batch =>
      match state.phase with
      | .poll =>
          if 0 < batch.length ∧ batch.length ≤ kDrainBatch then some (state.drain batch) else none
      | _ => none
  | .push =>
      match state.phase with
      | .push produced sink => some (state.push produced sink)
      | _ => none
  | .pop sink size => some (state.setQueue sink ((state.queues sink).popBatch size).1)
  | .close sink => some (state.setQueue sink (state.queues sink).close)

inductive Step (state : State sinks) : Label sinks → State sinks → Prop
  | drain (batch : List BusFrame) (polling : state.phase = .poll) :
      Step state (.drain batch) (state.drain batch)
  | push (produced : List Frame) (next : Nat) (pushing : state.phase = .push produced next) :
      Step state .push (state.push produced next)
  | pop (sink : Fin sinks) (size : Nat) :
      Step state (.pop sink size) (state.setQueue sink ((state.queues sink).popBatch size).1)
  | close (sink : Fin sinks) :
      Step state (.close sink) (state.setQueue sink (state.queues sink).close)

theorem step_cases {state after : State sinks} {label : Label sinks}
    (stepped : state.step label = some after) : state.Step label after := by
  cases label with
  | drain batch =>
      simp only [State.step] at stepped
      split at stepped
      · split at stepped <;> cases stepped
        exact .drain batch ‹_›
      · cases stepped
  | push =>
      simp only [State.step] at stepped
      split at stepped <;> cases stepped
      exact .push _ _ ‹_›
  | pop sink size =>
      cases stepped
      exact .pop sink size
  | close sink =>
      cases stepped
      exact .close sink

end State

/-! ## Runs of consecutive sequences -/

/-- Ordinary frames with the sequences from `start` on, without a hole. -/
structure NumberedFrom (start : Nat) (frames : List Frame) : Prop where
  numbers : frames.map (fun frame => frame.seq.toNat) = List.range' start frames.length
  ordinary : ∀ frame ∈ frames, Wire.Ordinary frame

namespace NumberedFrom

theorem nil (start : Nat) : NumberedFrom start [] :=
  ⟨rfl, fun _ member => nomatch member⟩

theorem append {start : Nat} {left right : List Frame} (first : NumberedFrom start left)
    (second : NumberedFrom (start + left.length) right) : NumberedFrom start (left ++ right) := by
  constructor
  · rw [List.map_append, first.numbers, second.numbers, List.length_append, List.range'_append_1]
  · intro frame member
    rcases List.mem_append.mp member with old | new
    · exact first.ordinary frame old
    · exact second.ordinary frame new

theorem drop {start : Nat} {frames : List Frame} (numbered : NumberedFrom start frames)
    (k : Nat) : NumberedFrom (start + k) (frames.drop k) := by
  constructor
  · rw [List.map_drop, numbered.numbers, List.length_drop, List.drop_range', Nat.mul_one]
  · exact fun frame member => numbered.ordinary frame (List.mem_of_mem_drop member)

theorem take {start : Nat} {frames : List Frame} (numbered : NumberedFrom start frames)
    (k : Nat) : NumberedFrom start (frames.take k) := by
  constructor
  · rw [List.map_take, numbered.numbers, List.length_take]
    rcases Nat.le_total k frames.length with fewer | all
    · rw [Nat.min_eq_left fewer, List.take_range'_of_length_ge fewer]
    · rw [Nat.min_eq_right all, List.take_range'_of_length_le all]
  · exact fun frame member => numbered.ordinary frame (List.mem_of_mem_take member)

theorem start_le {start : Nat} {frames : List Frame} (numbered : NumberedFrom start frames)
    {frame : Frame} (member : frame ∈ frames) : start ≤ frame.seq.toNat := by
  have listed : frame.seq.toNat ∈ frames.map fun frame => frame.seq.toNat :=
    List.mem_map.mpr ⟨frame, member, rfl⟩
  rw [numbered.numbers] at listed
  exact (List.mem_range'_1.mp listed).1

theorem consecutive {start : Nat} {frames : List Frame} (numbered : NumberedFrom start frames) :
    Wire.Consecutive frames := by
  have chain := List.isChain_range' start frames.length 1
  rw [← numbered.numbers] at chain
  exact (List.isChain_map _).mp chain

theorem increasing {start : Nat} {frames : List Frame} (numbered : NumberedFrom start frames) :
    Wire.Increasing frames := by
  have ordered : (List.range' start frames.length).Pairwise (· < ·) := List.pairwise_lt_range'
  rw [← numbered.numbers] at ordered
  exact List.pairwise_map.mp ordered

theorem first {start : Nat} {frames : List Frame} (numbered : NumberedFrom start frames)
    {front : Frame} (isFront : frames.head? = some front) : front.seq.toNat = start := by
  rcases List.head?_eq_some_iff.mp isFront with ⟨rest, rfl⟩
  have numbers := numbered.numbers
  rw [List.map_cons, List.length_cons, List.range'_succ] at numbers
  exact (List.cons.inj numbers).1

theorem last {start : Nat} {frames : List Frame} (numbered : NumberedFrom start frames)
    {last : Frame} (isLast : frames.getLast? = some last) :
    last.seq.toNat + 1 = start + frames.length := by
  have final : (frames.map fun frame => frame.seq.toNat).getLast? = some last.seq.toNat := by
    rw [List.getLast?_map, isLast]
    rfl
  rw [numbered.numbers, List.getLast?_range'] at final
  split at final
  · cases final
  · have equal := Option.some.inj final
    omega

end NumberedFrom

theorem stamp_numbered {base : UInt64} {batch : List BusFrame}
    (room : base.toNat + batch.length < 2 ^ 64) : NumberedFrom base.toNat (stamp base batch) := by
  have number (k : Nat) (inside : k < batch.length) :
      (base + UInt64.ofNat k).toNat = base.toNat + k := by
    rw [UInt64.toNat_add, UInt64.toNat_ofNat']
    omega
  constructor
  · apply List.ext_getElem
    · simp [stamp]
    · intro k left right
      have inside : k < batch.length := by simpa [stamp] using left
      simp [stamp, number k inside]
  · intro frame member
    rcases List.mem_iff_getElem.mp member with ⟨k, inside, rfl⟩
    rw [stamp, List.length_mapIdx] at inside
    simp only [stamp, List.getElem_mapIdx]
    refine ⟨batch[k].property, ?_⟩
    change (base + UInt64.ofNat k).toNat + 1 < 2 ^ 64
    rw [number k inside]
    omega

theorem stamp_append (base : UInt64) (left right : List BusFrame) :
    stamp base (left ++ right) = stamp base left ++ stamp (base + UInt64.ofNat left.length) right := by
  rw [stamp, List.mapIdx_append]
  refine congrArg (stamp base left ++ ·) ?_
  refine congrArg (List.mapIdx · right) ?_
  funext k frame
  rw [UInt64.add_assoc, ← UInt64.ofNat_add, Nat.add_comm]

def Label.pops (sink : Fin sinks) : Label sinks → Bool
  | .pop other _ => other = sink
  | _ => false

namespace State

def offered (state : State sinks) (sink : Fin sinks) : Nat :=
  match state.phase with
  | .poll => state.nextSeq.toNat
  | .push produced next =>
      if next ≤ sink.val then state.nextSeq.toNat - produced.length else state.nextSeq.toNat

/-- The sink holds the sequences from `start` up to the newest it was offered;
a closed one is offered nothing more. -/
structure Holds (state : State sinks) (sink : Fin sinks) (start : Nat) : Prop where
  contents : NumberedFrom start (state.queues sink).contents
  newest : (state.queues sink).closed = false →
    start + (state.queues sink).count = state.offered sink
  produced : ∀ produced next, state.phase = .push produced next →
    produced.length ≤ state.nextSeq.toNat ∧
      NumberedFrom (state.nextSeq.toNat - produced.length) produced

theorem create_holds (capacity : Fin sinks → Nat) (sink : Fin sinks) :
    (State.create capacity).Holds sink 0 :=
  ⟨.nil 0, fun _ => rfl, fun _ _ impossible => nomatch impossible⟩

theorem Holds.drain {state : State sinks} {sink : Fin sinks} {start : Nat}
    (holds : state.Holds sink start) (polling : state.phase = .poll) {batch : List BusFrame}
    (room : state.nextSeq.toNat + batch.length < 2 ^ 64) :
    (state.drain batch).Holds sink start := by
  have moved : (state.drain batch).nextSeq.toNat = state.nextSeq.toNat + batch.length := by
    change (state.nextSeq + UInt64.ofNat batch.length).toNat = _
    rw [UInt64.toNat_add, UInt64.toNat_ofNat']
    omega
  have size : (stamp state.nextSeq batch).length = batch.length := List.length_mapIdx
  refine ⟨holds.contents, ?_, ?_⟩
  · intro isOpen
    have newest := holds.newest isOpen
    rw [offered, polling] at newest
    change start + (state.queues sink).count =
      if 0 ≤ sink.val then (state.drain batch).nextSeq.toNat - (stamp state.nextSeq batch).length
      else (state.drain batch).nextSeq.toNat
    rw [if_pos (Nat.zero_le _), moved, size, Nat.add_sub_cancel]
    exact newest
  · intro produced next pushing
    cases pushing
    rw [moved, size, Nat.add_sub_cancel]
    exact ⟨Nat.le_add_left _ _, stamp_numbered room⟩

theorem pushBatch_numbered {queue : FrameQueue} {start : Nat} {produced : List Frame}
    (contents : NumberedFrom start queue.contents)
    (joins : queue.closed = false → NumberedFrom (start + queue.count) produced) :
    ∃ lost, NumberedFrom (start + lost) (queue.pushBatch produced).1.contents ∧
      (queue.pushBatch produced).1.losses = queue.losses + lost ∧
      (queue.pushBatch produced).1.closed = queue.closed ∧
      (queue.closed = false → start + lost + (queue.pushBatch produced).1.count =
        start + queue.count + produced.length) := by
  cases isClosed : queue.closed with
  | true =>
      rw [BoundedQueue.pushBatch_closed isClosed]
      exact ⟨0, contents, rfl, isClosed, fun isOpen => nomatch isOpen⟩
  | false =>
      rcases BoundedQueue.pushBatch_open isClosed produced with ⟨pushed, dropped, closed⟩
      have joined := joins isClosed
      rw [← queue.length_contents] at joined
      have numbered := (contents.append joined).drop
        (queue.count + produced.length - queue.capacity)
      have count : (queue.pushBatch produced).1.count = queue.count + produced.length -
          (queue.count + produced.length - queue.capacity) := by
        rw [← BoundedQueue.length_contents, pushed, List.rtake, List.length_drop,
          List.length_append, BoundedQueue.length_contents]
      refine ⟨queue.count + produced.length - queue.capacity, ?_, dropped, closed, ?_⟩
      · rw [pushed, List.rtake, List.length_append, BoundedQueue.length_contents]
        exact numbered
      · intro _
        omega

theorem Holds.push {state : State sinks} {sink : Fin sinks} {start : Nat}
    (holds : state.Holds sink start) {produced : List Frame} {next : Nat}
    (pushing : state.phase = .push produced next) :
    ∃ lost, (state.push produced next).Holds sink (start + lost) ∧
      ((state.push produced next).queues sink).losses = (state.queues sink).losses + lost := by
  rcases holds.produced produced next pushing with ⟨size, numbered⟩
  have newest := holds.newest
  rw [offered, pushing] at newest
  dsimp only at newest
  unfold State.push
  split
  · rename_i inside
    have kept (others : List Frame) (following : Nat)
        (same : Phase.push produced (next + 1) = .push others following) :
        others.length ≤ state.nextSeq.toNat ∧
          NumberedFrom (state.nextSeq.toNat - others.length) others := by
      cases same
      exact ⟨size, numbered⟩
    by_cases own : sink = ⟨next, inside⟩
    · subst own
      rw [if_pos (Nat.le_refl _)] at newest
      have queue : (state.setQueue ⟨next, inside⟩
          ((state.queues ⟨next, inside⟩).pushBatch produced).1).queues ⟨next, inside⟩ =
          ((state.queues ⟨next, inside⟩).pushBatch produced).1 := Function.update_self ..
      rcases pushBatch_numbered holds.contents (fun isOpen => by rw [newest isOpen]; exact numbered)
        with ⟨lost, contents, dropped, closed, count⟩
      refine ⟨lost, ⟨by rw [queue]; exact contents, ?_, kept⟩, by rw [queue]; exact dropped⟩
      intro isOpen
      rw [queue, closed] at isOpen
      have reached := newest isOpen
      rw [queue, count isOpen, offered]
      dsimp only
      rw [if_neg (Nat.not_succ_le_self _)]
      change _ = state.nextSeq.toNat
      omega
    · have queue : (state.setQueue ⟨next, inside⟩
          ((state.queues ⟨next, inside⟩).pushBatch produced).1).queues sink =
          state.queues sink := Function.update_of_ne own ..
      have apart : sink.val ≠ next := fun same => own (Fin.ext same)
      refine ⟨0, ⟨by rw [queue]; exact holds.contents, ?_, kept⟩, by rw [queue]; rfl⟩
      intro isOpen
      rw [queue] at isOpen ⊢
      rw [Nat.add_zero, newest isOpen, offered]
      dsimp only
      change _ = if next + 1 ≤ sink.val then state.nextSeq.toNat - produced.length
        else state.nextSeq.toNat
      split <;> split <;> first | rfl | omega
  · rename_i beyond
    refine ⟨0, ⟨holds.contents, ?_, fun _ _ impossible => nomatch impossible⟩, rfl⟩
    intro isOpen
    have after : ¬ next ≤ sink.val := by
      have bound := sink.isLt
      omega
    rw [if_neg after] at newest
    exact newest isOpen

theorem Holds.other {state : State sinks} {sink other : Fin sinks} {start : Nat}
    (holds : state.Holds sink start) (apart : sink ≠ other) (queue : FrameQueue) :
    (state.setQueue other queue).Holds sink start := by
  have same : (state.setQueue other queue).queues sink = state.queues sink :=
    Function.update_of_ne apart ..
  exact ⟨by rw [same]; exact holds.contents, by rw [same]; exact holds.newest, holds.produced⟩

theorem Holds.close {state : State sinks} {sink : Fin sinks} {start : Nat}
    (holds : state.Holds sink start) :
    (state.setQueue sink (state.queues sink).close).Holds sink start := by
  have closed : (state.setQueue sink (state.queues sink).close).queues sink =
      (state.queues sink).close := Function.update_self ..
  refine ⟨by rw [closed]; exact holds.contents, ?_, holds.produced⟩
  rw [closed]
  exact fun isOpen => nomatch isOpen

/-- Whatever else happens, the window of a sink moves only by what its queue
counts as dropped. -/
theorem Holds.step {state after : State sinks} {sink : Fin sinks} {start : Nat}
    (holds : state.Holds sink start) {label : Label sinks} (others : label.pops sink = false)
    (room : ∀ batch, label = .drain batch → state.nextSeq.toNat + batch.length < 2 ^ 64)
    (stepped : state.step label = some after) :
    ∃ lost, after.Holds sink (start + lost) ∧
      (after.queues sink).losses = (state.queues sink).losses + lost := by
  cases step_cases stepped with
  | drain batch polling => exact ⟨0, holds.drain polling (room batch rfl), rfl⟩
  | push produced next pushing => exact holds.push pushing
  | pop other size =>
      have apart : sink ≠ other := fun same => by simp [Label.pops, same] at others
      exact ⟨0, holds.other apart _, congrArg _ (Function.update_of_ne apart ..)⟩
  | close other =>
      by_cases own : sink = other
      · subst own
        have closed : (state.setQueue sink (state.queues sink).close).queues sink =
            (state.queues sink).close := Function.update_self ..
        refine ⟨0, holds.close, ?_⟩
        rw [closed]
        rfl
      · exact ⟨0, holds.other own _, congrArg _ (Function.update_of_ne own ..)⟩

theorem Holds.pop {state : State sinks} {sink : Fin sinks} {start : Nat}
    (holds : state.Holds sink start) (size : Nat) :
    NumberedFrom start ((state.queues sink).popBatch size).2 ∧
      (state.setQueue sink ((state.queues sink).popBatch size).1).Holds sink
        (start + ((state.queues sink).popBatch size).2.length) := by
  rcases (state.queues sink).popBatch_spec size with ⟨taken, rest, _, closed⟩
  have popped : (state.setQueue sink ((state.queues sink).popBatch size).1).queues sink =
      ((state.queues sink).popBatch size).1 := Function.update_self ..
  have count : ((state.queues sink).popBatch size).1.count = (state.queues sink).count - size := by
    rw [← BoundedQueue.length_contents, rest, List.length_drop, BoundedQueue.length_contents]
  have length : ((state.queues sink).popBatch size).2.length =
      min size (state.queues sink).count := by
    rw [taken, List.length_take, BoundedQueue.length_contents]
  refine ⟨by rw [taken]; exact holds.contents.take size, ?_, ?_, holds.produced⟩
  · rw [popped, rest, length]
    rcases Nat.le_total size (state.queues sink).count with fewer | all
    · rw [Nat.min_eq_left fewer]
      exact holds.contents.drop size
    · rw [List.drop_eq_nil_of_le (by rw [BoundedQueue.length_contents]; exact all)]
      exact .nil _
  · intro isOpen
    rw [popped, closed] at isOpen
    have newest := holds.newest isOpen
    change _ = state.offered sink
    rw [popped, count, length]
    omega

end State

end FanOut

end TelemetryGateway
