import TelemetryGateway.Feed.FanOut
import TelemetryGateway.Foundation.Window

/-! # What a sink is offered and what it hands out

One ingest after the other, the queue of a sink is a window over everything the
fan-out thread has stamped. The thread may drain a batch in any pieces. -/

namespace TelemetryGateway

namespace FanOut

inductive Distributes : State sinks → State sinks → Prop
  | start : Distributes state state
  | next : state.step .push = some middle → Distributes middle after → Distributes state after

/-- The thread drains and distributes a batch, in as many pieces as it is
drained in. -/
inductive Ingests : State sinks → List BusFrame → State sinks → Prop
  | nothing : Ingests state [] state
  | next : state.step (.drain piece) = some drained → Distributes drained pushed →
      pushed.phase = .poll → Ingests pushed rest after → Ingests state (piece ++ rest) after

structure Rest (sink : Fin sinks) (capacity : Nat) (window : Window Frame) (state : State sinks) :
    Prop where
  polling : state.phase = .poll
  nextSeq : state.nextSeq = UInt64.ofNat window.log.length
  isOpen : (state.queues sink).closed = false
  size : (state.queues sink).capacity = capacity
  eager : window.Eager capacity (state.queues sink).contents (state.queues sink).losses
  popped : (state.queues sink).popped = UInt64.ofNat window.taken

theorem create_rest {capacity : Fin sinks → Nat} {sink : Fin sinks} (positive : capacity sink ≠ 0) :
    Rest sink (capacity sink) .opened (State.create capacity) where
  polling := rfl
  nextSeq := rfl
  isOpen := rfl
  size := if_neg positive
  eager := Window.opened_eager _
  popped := rfl

/-! ## Ingest -/

theorem Distributes.finish {state after : State sinks} (distributes : Distributes state after)
    (polling : after.phase = .poll) {produced : List Frame} {next : Nat}
    (pushing : state.phase = .push produced next) (sink : Fin sinks) :
    after.nextSeq = state.nextSeq ∧
      after.queues sink = if next ≤ sink.val then ((state.queues sink).pushBatch produced).1
        else state.queues sink := by
  induction distributes generalizing next with
  | start =>
      rw [polling] at pushing
      cases pushing
  | @next middle after state stepped rest induction =>
      simp only [State.step, pushing, Option.some.injEq] at stepped
      subst stepped
      unfold State.push at rest induction
      split at rest
      · rename_i inside
        simp only [dif_pos inside] at induction
        rcases induction polling rfl with ⟨number, queue⟩
        refine ⟨number, queue.trans ?_⟩
        by_cases own : sink = ⟨next, inside⟩
        · subst own
          rw [if_neg (Nat.not_succ_le_self _), if_pos (Nat.le_refl _)]
          exact Function.update_self ..
        · have apart : sink.val ≠ next := fun same => own (Fin.ext same)
          have same : (state.setQueue ⟨next, inside⟩
              ((state.queues ⟨next, inside⟩).pushBatch produced).1).queues sink =
              state.queues sink := Function.update_of_ne own ..
          change (if next + 1 ≤ sink.val then ((State.queues (state.setQueue _ _) sink).pushBatch
            produced).1 else State.queues (state.setQueue _ _) sink) = _
          rw [same]
          split <;> split <;> first | rfl | omega
      · rename_i beyond
        have after : ¬ next ≤ sink.val := by
          have bound := sink.isLt
          omega
        rw [if_neg after]
        cases rest with
        | start => exact ⟨rfl, rfl⟩
        | next stepped _ => cases stepped

theorem distributes_all {state : State sinks} {produced : List Frame} {next : Nat}
    (pushing : state.phase = .push produced next) :
    ∃ after, Distributes state after ∧ after.phase = .poll := by
  have stepped : state.step .push = some (state.push produced next) := by
    simp only [State.step, pushing]
  by_cases inside : next < sinks
  · have phase : (state.push produced next).phase = .push produced (next + 1) := by
      unfold State.push
      rw [dif_pos inside]
    rcases distributes_all phase with ⟨after, distributes, polling⟩
    exact ⟨after, .next stepped distributes, polling⟩
  · refine ⟨_, .next stepped .start, ?_⟩
    unfold State.push
    rw [dif_neg inside]
termination_by sinks - next

theorem Rest.piece {sink : Fin sinks} {capacity : Nat} {window : Window Frame}
    {state drained pushed : State sinks} (rest : Rest sink capacity window state)
    {piece : List BusFrame} (stepped : state.step (.drain piece) = some drained)
    (distributes : Distributes drained pushed) (polling : pushed.phase = .poll) :
    Rest sink capacity (window.push (stamp (UInt64.ofNat window.log.length) piece)) pushed := by
  simp only [State.step, rest.polling] at stepped
  split at stepped <;> cases stepped
  rcases distributes.finish polling rfl sink with ⟨number, queue⟩
  rw [if_pos (Nat.zero_le _)] at queue
  change pushed.queues sink = ((state.queues sink).pushBatch (stamp state.nextSeq piece)).1 at queue
  rw [rest.nextSeq] at queue
  have size : (stamp (UInt64.ofNat window.log.length) piece).length = piece.length :=
    List.length_mapIdx
  rcases BoundedQueue.pushBatch_open rest.isOpen (stamp (UInt64.ofNat window.log.length) piece)
    with ⟨contents, losses, isOpen⟩
  rcases BoundedQueue.pushBatch_counts rest.isOpen (stamp (UInt64.ofNat window.log.length) piece)
    with ⟨_, _, popped, same⟩
  constructor
  case polling => exact polling
  case nextSeq =>
    rw [number]
    change state.nextSeq + UInt64.ofNat piece.length = UInt64.ofNat (window.log ++ _).length
    rw [rest.nextSeq, List.length_append, size, UInt64.ofNat_add]
  case isOpen => rw [queue, isOpen]
  case size => rw [queue, same, rest.size]
  case eager =>
    rw [queue, contents, losses, rest.size, ← BoundedQueue.length_contents]
    exact rest.eager.push _
  case popped => rw [queue, popped, rest.popped, Window.push]

theorem push_stamp (window : Window Frame) (left right : List BusFrame) :
    (window.push (stamp (UInt64.ofNat window.log.length) left)).push
        (stamp (UInt64.ofNat (window.push (stamp (UInt64.ofNat window.log.length)
          left)).log.length) right) =
      window.push (stamp (UInt64.ofNat window.log.length) (left ++ right)) := by
  have size : (window.push (stamp (UInt64.ofNat window.log.length) left)).log.length =
      window.log.length + left.length := by
    change (window.log ++ stamp _ left).length = _
    rw [List.length_append, stamp, List.length_mapIdx]
  rw [size, stamp_append, ← UInt64.ofNat_add]
  unfold Window.push
  dsimp only
  rw [List.append_assoc]

theorem Rest.ingest {sink : Fin sinks} {capacity : Nat} {window : Window Frame}
    {state after : State sinks} (rest : Rest sink capacity window state) {batch : List BusFrame}
    (ingests : Ingests state batch after) :
    Rest sink capacity (window.push (stamp (UInt64.ofNat window.log.length) batch)) after := by
  induction ingests generalizing window with
  | nothing =>
      have same : window.push (stamp (UInt64.ofNat window.log.length) []) = window := by
        unfold Window.push stamp
        rw [List.mapIdx_nil, List.append_nil]
      rw [same]
      exact rest
  | next stepped distributes polling _ induction =>
      rw [← push_stamp]
      exact induction (rest.piece stepped distributes polling)

theorem ingests_all {state : State sinks} (polling : state.phase = .poll)
    (batch : List BusFrame) : ∃ after, Ingests state batch after := by
  induction batch generalizing state with
  | nil => exact ⟨state, .nothing⟩
  | cons frame batch induction =>
      have stepped : state.step (.drain [frame]) = some (state.drain [frame]) := by
        simp only [State.step, polling]
        exact if_pos ⟨Nat.zero_lt_one, (by decide : 1 ≤ kDrainBatch)⟩
      have pushing : (state.drain [frame]).phase = .push (stamp state.nextSeq [frame]) 0 := rfl
      rcases distributes_all pushing with ⟨pushed, distributes, again⟩
      rcases induction again with ⟨after, ingests⟩
      exact ⟨after, .next stepped distributes again ingests⟩

/-! ## Pop -/

theorem Rest.pop {sink : Fin sinks} {capacity : Nat} {window : Window Frame}
    {state : State sinks} (rest : Rest sink capacity window state) (size : Nat) :
    ((state.queues sink).popBatch size).2 = (window.pop capacity size).2 ∧
      Rest sink capacity (window.pop capacity size).1
        (state.setQueue sink ((state.queues sink).popBatch size).1) := by
  rcases (state.queues sink).popBatch_spec size with ⟨taken, left, losses, closed⟩
  rcases (state.queues sink).popBatch_counts size with ⟨popped, _, same⟩
  rcases rest.eager.pop size with ⟨out, eager⟩
  have queue : (state.setQueue sink ((state.queues sink).popBatch size).1).queues sink =
      ((state.queues sink).popBatch size).1 := Function.update_self ..
  refine ⟨taken.trans out, ?_⟩
  constructor
  case polling => exact rest.polling
  case nextSeq =>
    rw [Window.log_pop]
    exact rest.nextSeq
  case isOpen => rw [queue, closed, rest.isOpen]
  case size => rw [queue, same, rest.size]
  case eager =>
    rw [queue, left, losses]
    exact eager
  case popped =>
    rw [queue, popped, Window.taken_pop, UInt64.ofNat_add, ← rest.popped, ← out, List.length_take,
      BoundedQueue.length_contents]

end FanOut

end TelemetryGateway
