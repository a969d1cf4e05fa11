import Mathlib.Algebra.BigOperators.Group.Finset.Basic
import TelemetryGateway.Feed.QueueLinearizability

/-! # The counters among the threads

The counters are added to after the critical section, so they lag behind the
queue by what the threads still have to count, and by nothing else. -/

namespace TelemetryGateway.BoundedQueue

open DropOldest (Operation Reply)

namespace Stage

def pushedLater : Stage T → Nat
  | .pushLoop items _ _ => items.length
  | .pushCount number _ => number
  | _ => 0

def droppedLater (queue : BoundedQueue T) : Stage T → Nat
  | .pushLoop _ rest dropped => dropped + (queue.count + rest.length - queue.capacity)
  | .pushCount _ dropped => dropped
  | .dropCount dropped => dropped
  | _ => 0

def poppedLater : Stage T → Nat
  | .popLoop n _ => n
  | .popRelease out => out.length
  | .popCount out => out.length
  | _ => 0

theorem droppedLater_of_not_holds {stage : Stage T} (outside : stage.holds = false)
    (left right : BoundedQueue T) : stage.droppedLater left = stage.droppedLater right := by
  cases stage with
  | pushLoop items rest dropped => cases outside
  | _ => rfl

def InRange (queue : BoundedQueue T) : Stage T → Prop
  | .popLoop n out => out.length ≤ n ∧ n ≤ queue.count
  | _ => True

theorem InRange.of_not_holds {stage : Stage T} (outside : stage.holds = false)
    (queue : BoundedQueue T) : stage.InRange queue := by
  cases stage with
  | popLoop n out => cases outside
  | _ => trivial

end Stage

theorem sum_change [Fintype Thread] [DecidableEq Thread] (thread : Thread)
    (before after : Thread → Nat) (others : ∀ other, other ≠ thread → after other = before other) :
    (∑ other, after other) + before thread = (∑ other, before other) + after thread := by
  have same : ∑ other ∈ Finset.univ.erase thread, after other =
      ∑ other ∈ Finset.univ.erase thread, before other :=
    Finset.sum_congr rfl fun other member => others other (Finset.ne_of_mem_erase member)
  rw [← Finset.add_sum_erase Finset.univ after (Finset.mem_univ thread),
    ← Finset.add_sum_erase Finset.univ before (Finset.mem_univ thread), same]
  exact (Nat.add_comm ..).trans ((Nat.add_assoc ..).symm.trans (Nat.add_right_comm ..))

namespace Shared

section

variable {Thread : Type v} {T : Type u} [Fintype Thread]

/-- The ledger of the queue, with what the threads have still to enter. -/
structure Ledger (shared : Shared Thread T) : Prop where
  consistent : shared.Consistent
  inRange : ∀ thread, (shared.stage thread).InRange shared.queue
  balanced : shared.queue.pushed + UInt64.ofNat (∑ thread, (shared.stage thread).pushedLater) =
    shared.queue.popped + UInt64.ofNat (∑ thread, (shared.stage thread).poppedLater) +
      (shared.queue.dropped +
        UInt64.ofNat (∑ thread, (shared.stage thread).droppedLater shared.queue)) +
      UInt64.ofNat shared.settled.length

variable [DecidableEq Thread] {shared : Shared Thread T} {thread : Thread}

theorem Ledger.to (ledger : shared.Ledger) (after : Shared Thread T) (stage : Stage T)
    (consistent : after.Consistent)
    (stages : after.stage = Function.update shared.stage thread stage)
    (alone : (shared.stage thread).holds = true ∨
      after.queue.count = shared.queue.count ∧ after.queue.capacity = shared.queue.capacity)
    (inRange : stage.InRange after.queue)
    (entries : after.queue.pushed + UInt64.ofNat stage.pushedLater +
        (shared.queue.popped + UInt64.ofNat (shared.stage thread).poppedLater +
          (shared.queue.dropped + UInt64.ofNat ((shared.stage thread).droppedLater shared.queue)) +
          UInt64.ofNat shared.settled.length) =
      shared.queue.pushed + UInt64.ofNat (shared.stage thread).pushedLater +
        (after.queue.popped + UInt64.ofNat stage.poppedLater +
          (after.queue.dropped + UInt64.ofNat (stage.droppedLater after.queue)) +
          UInt64.ofNat after.settled.length)) : after.Ledger := by
  have others (other : Thread) (different : other ≠ thread) :
      after.stage other = shared.stage other := by
    rw [stages, Function.update_of_ne different]
  have own : after.stage thread = stage := by
    rw [stages, Function.update_self]
  refine ⟨consistent, ?_, ?_⟩
  · intro other
    rcases eq_or_ne other thread with rfl | different
    · rw [own]
      exact inRange
    · rw [others other different]
      rcases alone with holds | ⟨count, _⟩
      · exact .of_not_holds (ledger.consistent.alone holds different) _
      · have before := ledger.inRange other
        cases stands : shared.stage other with
        | popLoop n out =>
            rw [stands] at before
            exact ⟨before.1, count ▸ before.2⟩
        | _ => trivial
  · have pushed := congrArg UInt64.ofNat
      (sum_change thread (fun other => (shared.stage other).pushedLater)
        (fun other => (after.stage other).pushedLater)
        fun other different => congrArg Stage.pushedLater (others other different))
    have popped := congrArg UInt64.ofNat
      (sum_change thread (fun other => (shared.stage other).poppedLater)
        (fun other => (after.stage other).poppedLater)
        fun other different => congrArg Stage.poppedLater (others other different))
    have dropped := congrArg UInt64.ofNat (sum_change thread
      (fun other => (shared.stage other).droppedLater shared.queue)
      (fun other => (after.stage other).droppedLater after.queue) (by
        intro other different
        rw [others other different]
        rcases alone with holds | ⟨count, capacity⟩
        · exact Stage.droppedLater_of_not_holds (ledger.consistent.alone holds different) _ _
        · cases shared.stage other <;> simp only [Stage.droppedLater, count, capacity]))
    have balanced := ledger.balanced
    rw [own] at pushed popped dropped
    simp only [UInt64.ofNat_add] at pushed popped dropped
    grind

/-- A step that adds to no counter keeps the ledger when what is still to be
entered balances with what the queue will hold. -/
theorem Ledger.rearranges (ledger : shared.Ledger) (after : Shared Thread T) (stage : Stage T)
    (consistent : after.Consistent)
    (stages : after.stage = Function.update shared.stage thread stage)
    (alone : (shared.stage thread).holds = true ∨
      after.queue.count = shared.queue.count ∧ after.queue.capacity = shared.queue.capacity)
    (inRange : stage.InRange after.queue)
    (pushed : after.queue.pushed = shared.queue.pushed)
    (popped : after.queue.popped = shared.queue.popped)
    (dropped : after.queue.dropped = shared.queue.dropped)
    (entries : stage.pushedLater + ((shared.stage thread).poppedLater +
        (shared.stage thread).droppedLater shared.queue + shared.settled.length) =
      (shared.stage thread).pushedLater + (stage.poppedLater + stage.droppedLater after.queue +
        after.settled.length)) : after.Ledger := by
  apply ledger.to after stage consistent stages alone inRange
  have words := congrArg UInt64.ofNat entries
  simp only [UInt64.ofNat_add] at words
  rw [pushed, popped, dropped]
  grind

theorem Ledger.goes (ledger : shared.Ledger) (after : Shared Thread T) (stage : Stage T)
    (consistent : after.Consistent)
    (stages : after.stage = Function.update shared.stage thread stage)
    (queue : after.queue = shared.queue) (settled : after.settled = shared.settled)
    (inRange : stage.InRange shared.queue)
    (pushed : stage.pushedLater = (shared.stage thread).pushedLater)
    (popped : stage.poppedLater = (shared.stage thread).poppedLater)
    (dropped : stage.droppedLater shared.queue =
      (shared.stage thread).droppedLater shared.queue) : after.Ledger := by
  apply ledger.rearranges after stage consistent stages
  · rw [queue]
    exact .inr ⟨rfl, rfl⟩
  · rw [queue]
    exact inRange
  · rw [queue]
  · rw [queue]
  · rw [queue]
  · rw [queue, settled, pushed, popped, dropped]

theorem Ledger.wakes (ledger : shared.Ledger) (woken : Thread) : (shared.wake woken).Ledger :=
  ledger.goes _ (wakened (shared.stage woken)) (ledger.consistent.wake woken) rfl rfl
    (settled_wake shared woken)
    (by
      have inRange := ledger.inRange woken
      cases stage : shared.stage woken with
      | popLoop n out =>
          rw [stage] at inRange
          exact inRange
      | _ => trivial)
    (by cases shared.stage woken <;> rfl) (by cases shared.stage woken <;> rfl)
    (by cases shared.stage woken <;> rfl)

omit [DecidableEq Thread] in
theorem Ledger.wakesAll (ledger : shared.Ledger) : shared.wakeAll.Ledger := by
  have pushed (stage : Stage T) : (wakened stage).pushedLater = stage.pushedLater := by
    cases stage <;> rfl
  have popped (stage : Stage T) : (wakened stage).poppedLater = stage.poppedLater := by
    cases stage <;> rfl
  have dropped (stage : Stage T) :
      (wakened stage).droppedLater shared.queue = stage.droppedLater shared.queue := by
    cases stage <;> rfl
  refine ⟨ledger.consistent.wakeAll, ?_, ?_⟩
  · intro other
    have inRange := ledger.inRange other
    change (wakened (shared.stage other)).InRange shared.queue
    cases stage : shared.stage other with
    | popLoop n out =>
        rw [stage] at inRange
        exact inRange
    | _ => trivial
  · rw [settled_wakeAll]
    simp only [wakeAll, pushed, popped, dropped]
    exact ledger.balanced

structure SameLater (queue : BoundedQueue T) (before after : Stage T) : Prop where
  waits : after.waits = before.waits
  leaves : after.leaves queue = before.leaves queue
  inRange : before.InRange queue → after.InRange queue
  pushed : after.pushedLater = before.pushedLater
  popped : after.poppedLater = before.poppedLater
  dropped : after.droppedLater queue = before.droppedLater queue

theorem Ledger.silent (ledger : shared.Ledger) {before stage : Stage T}
    (stands : shared.stage thread = before) (holds : stage.holds = before.holds)
    (same : SameLater shared.queue before stage) : (shared.goto thread stage).Ledger := by
  subst stands
  exact ledger.goes _ stage (ledger.consistent.goto holds same.waits) rfl rfl
    (settled_goes ledger.consistent holds same.waits same.leaves)
    (same.inRange (ledger.inRange thread)) same.pushed same.popped same.dropped

theorem Ledger.locks (ledger : shared.Ledger) {before stage : Stage T} {after : Shared Thread T}
    (stands : shared.stage thread = before) (locked : shared.lock thread stage = some after)
    (holds : stage.holds = true) (contents : stage.leaves shared.queue = shared.queue.contents)
    (same : SameLater shared.queue before stage) : after.Ledger := by
  subst stands
  rcases ledger.consistent.lock holds same.waits locked with ⟨free, rfl, consistent⟩
  exact ledger.goes _ stage consistent rfl rfl (settled_lock free contents)
    (same.inRange (ledger.inRange thread)) same.pushed same.popped same.dropped

theorem Ledger.unlocks (ledger : shared.Ledger) {before stage : Stage T}
    (stands : shared.stage thread = before) (held : before.holds = true)
    (holds : stage.holds = false) (contents : before.leaves shared.queue = shared.queue.contents)
    (same : SameLater shared.queue before stage) : (shared.unlock thread stage).Ledger := by
  subst stands
  exact ledger.goes _ stage (ledger.consistent.unlock held holds same.waits) rfl rfl
    (settled_unlock ledger.consistent held stage contents)
    (same.inRange (ledger.inRange thread)) same.pushed same.popped same.dropped

omit [Fintype Thread] [DecidableEq Thread] in
theorem length_settled_of_holds (consistent : shared.Consistent)
    (holds : (shared.stage thread).holds = true)
    (leaves : (shared.stage thread).leaves shared.queue = shared.queue.contents) :
    shared.settled.length = shared.queue.count := by
  rw [settled_of_holds consistent holds, leaves, length_contents]

theorem Ledger.pushes (ledger : shared.Ledger) {items : List T}
    (stage : shared.stage thread = .pushTest items)
    (consistent : (shared.goto thread (.pushLoop items items 0)).Consistent) :
    (shared.goto thread (.pushLoop items items 0)).Ledger := by
  have held : (shared.stage thread).holds = true := by
    rw [stage]
    rfl
  have before := length_settled_of_holds ledger.consistent held (by rw [stage]; rfl)
  have after : (shared.goto thread (.pushLoop items items 0)).settled =
      (shared.queue.contents ++ items).rtake shared.queue.capacity :=
    settled_works ledger.consistent held shared.queue rfl (by rw [stage]; rfl)
  apply ledger.rearranges _ (.pushLoop items items 0) consistent rfl (.inl held) trivial rfl rfl rfl
  have fits := shared.queue.fits
  rw [before, after, length_rtake, List.length_append, length_contents, stage]
  simp only [goto, Stage.pushedLater, Stage.poppedLater, Stage.droppedLater]
  omega

theorem Ledger.pushesItem (ledger : shared.Ledger) {items rest : List T} {item : T}
    {dropped : Nat} (stage : shared.stage thread = .pushLoop items (item :: rest) dropped)
    (consistent : ({ shared with queue := shared.queue.pushItem item }.goto thread
      (.pushLoop items rest
        (dropped + if shared.queue.count = shared.queue.capacity then 1 else 0))).Consistent) :
    ({ shared with queue := shared.queue.pushItem item }.goto thread
      (.pushLoop items rest
        (dropped + if shared.queue.count = shared.queue.capacity then 1 else 0))).Ledger := by
  have held : (shared.stage thread).holds = true := by
    rw [stage]
    rfl
  have same := shared.queue.sameCounters_pushItem item
  apply ledger.rearranges _ _ consistent rfl (.inl held) trivial same.pushed same.popped same.dropped
  rw [settled_works ledger.consistent held _ rfl (by rw [stage]; rfl),
    settled_of_holds ledger.consistent held, stage, Stage.leaves, Stage.leaves, same.capacity,
    contents_pushItem, rtake_rtake_append, List.append_assoc, List.singleton_append]
  have fits := shared.queue.fits
  simp only [goto, Stage.pushedLater, Stage.poppedLater, Stage.droppedLater, count_pushItem,
    same.capacity, List.length_cons]
  split <;> omega

theorem Ledger.pops (ledger : shared.Ledger) {size : Nat}
    (held : (shared.stage thread).holds = true)
    (stage : shared.stage thread = .popTest size ∨ shared.stage thread = .popLast size)
    (consistent : (shared.goto thread (.popLoop (taken shared.queue size) [])).Consistent) :
    (shared.goto thread (.popLoop (taken shared.queue size) [])).Ledger := by
  have before : shared.settled.length = shared.queue.count := by
    apply length_settled_of_holds ledger.consistent held
    rcases stage with stage | stage <;> rw [stage] <;> rfl
  have after : (shared.goto thread (.popLoop (taken shared.queue size) [])).settled =
      shared.queue.contents.drop (taken shared.queue size) := by
    apply settled_works ledger.consistent held shared.queue rfl
    rcases stage with stage | stage <;> rw [stage] <;> rfl
  have within : taken shared.queue size ≤ shared.queue.count := by
    rw [taken]
    split <;> omega
  apply ledger.rearranges _ (.popLoop (taken shared.queue size) []) consistent rfl (.inl held)
    ⟨Nat.zero_le _, within⟩ rfl rfl rfl
  rw [before, after, List.length_drop, length_contents]
  rcases stage with stage | stage <;> rw [stage] <;>
    simp only [goto, Stage.pushedLater, Stage.poppedLater, Stage.droppedLater] <;> omega

theorem Ledger.skips (ledger : shared.Ledger) {n : Nat} {out : List T}
    (stage : shared.stage thread = .popLoop n out) (done : n ≤ out.length)
    (consistent : ({ shared with queue := shared.queue.skip n }.goto thread
      (.popRelease out)).Consistent) :
    ({ shared with queue := shared.queue.skip n }.goto thread (.popRelease out)).Ledger := by
  have held : (shared.stage thread).holds = true := by
    rw [stage]
    rfl
  have within := ledger.inRange thread
  rw [stage] at within
  have all : out.length = n := Nat.le_antisymm within.1 done
  have before : shared.settled = shared.queue.contents.drop n := by
    rw [settled_of_holds ledger.consistent held, stage]
    rfl
  have after : ({ shared with queue := shared.queue.skip n }.goto thread
      (.popRelease out)).settled = (shared.queue.skip n).contents :=
    settled_works ledger.consistent held (shared.queue.skip n) rfl (by rw [stage]; rfl)
  apply ledger.rearranges _ _ consistent rfl (.inl held) trivial rfl rfl rfl
  rw [before, after.trans (shared.queue.contents_skip n), stage]
  simp only [goto, Stage.pushedLater, Stage.poppedLater, Stage.droppedLater, all]

theorem Ledger.counts (ledger : shared.Ledger) {before stage : Stage T}
    {pushed popped dropped : UInt64} {losses : Nat} {counted : dropped = UInt64.ofNat losses}
    (stands : shared.stage thread = before)
    (holds : stage.holds = before.holds) (waits : stage.waits = before.waits)
    (leaves : stage.leaves shared.queue = before.leaves shared.queue)
    (inRange : stage.InRange shared.queue)
    (entered : pushed + UInt64.ofNat stage.pushedLater =
      shared.queue.pushed + UInt64.ofNat before.pushedLater)
    (taken : popped + UInt64.ofNat stage.poppedLater =
      shared.queue.popped + UInt64.ofNat before.poppedLater)
    (lost : dropped + UInt64.ofNat (stage.droppedLater shared.queue) =
      shared.queue.dropped + UInt64.ofNat (before.droppedLater shared.queue)) :
    ({ shared with queue := { shared.queue with
      pushed := pushed, popped := popped, dropped := dropped, losses := losses
      counted := counted } }.goto thread stage).Ledger := by
  subst stands
  have consistent : ({ shared with queue := { shared.queue with
      pushed := pushed, popped := popped, dropped := dropped, losses := losses
      counted := counted } } : Shared Thread T).Consistent :=
    ledger.consistent.setQueue _
  have same (stage : Stage T) : stage.leaves { shared.queue with
      pushed := pushed, popped := popped, dropped := dropped, losses := losses
      counted := counted } = stage.leaves shared.queue := by
    cases stage <;> rfl
  have settled : ({ shared with queue := { shared.queue with
      pushed := pushed, popped := popped, dropped := dropped, losses := losses
      counted := counted } }.goto thread stage).settled =
        shared.settled := by
    refine (settled_goes consistent holds waits ?_).trans (settled_counts shared ..)
    rw [same, leaves]
    exact (same _).symm
  have later : stage.droppedLater { shared.queue with
      pushed := pushed, popped := popped, dropped := dropped, losses := losses
      counted := counted } =
        stage.droppedLater shared.queue := by
    cases stage <;> rfl
  apply ledger.to _ stage (consistent.goto holds waits) rfl (.inr ⟨rfl, rfl⟩)
  · cases stage with
    | popLoop n out => exact inRange
    | _ => trivial
  · rw [settled]
    simp only [goto, later]
    grind

omit [DecidableEq Thread] in
theorem ledger_create [Inhabited T] (capacity : Nat) :
    (create capacity : Shared Thread T).Ledger := by
  refine ⟨consistent_create capacity, fun _ => trivial, ?_⟩
  simp only [create, Stage.pushedLater, Stage.poppedLater, Stage.droppedLater,
    Finset.sum_const_zero]
  rfl

omit [Fintype Thread] [DecidableEq Thread] in
theorem enter_later (queue : BoundedQueue T) (operation : Operation T) :
    SameLater queue .idle (enter operation) := by
  cases operation with
  | push items =>
      rw [enter]
      split <;> exact ⟨rfl, rfl, id, rfl, rfl, rfl⟩
  | pop size =>
      rw [enter]
      split <;> exact ⟨rfl, rfl, id, rfl, rfl, rfl⟩
  | close => exact ⟨rfl, rfl, id, rfl, rfl, rfl⟩

theorem Ledger.moves (ledger : shared.Ledger) {label : Label Thread T} {after : Shared Thread T}
    (moved : Moves shared label after) : after.Ledger := by
  have consistent := ledger.consistent.moves moved
  cases moved with
  | call stage => exact ledger.silent stage (holds_enter _) (enter_later _ _)
  | pushLock stage locked =>
      exact ledger.locks stage locked rfl rfl ⟨rfl, rfl, id, rfl, rfl, rfl⟩
  | pushClosed stage => exact ledger.silent stage rfl ⟨rfl, rfl, id, rfl, rfl, rfl⟩
  | pushOpen stage => exact ledger.pushes stage consistent
  | pushRefused stage => exact ledger.unlocks stage rfl rfl rfl ⟨rfl, rfl, id, rfl, rfl, rfl⟩
  | pushItem stage => exact ledger.pushesItem stage consistent
  | @pushUnlock thread items dropped stage =>
      have fits := shared.queue.fits
      have contents : (Stage.pushLoop items [] dropped).leaves shared.queue =
          shared.queue.contents := by
        rw [Stage.leaves, List.append_nil, List.rtake, length_contents,
          Nat.sub_eq_zero_of_le fits, List.drop_zero]
      refine ledger.unlocks stage rfl rfl contents
        ⟨rfl, contents.symm, fun _ => trivial, rfl, rfl, ?_⟩
      simp only [Stage.droppedLater, List.length_nil]
      omega
  | pushCount stage =>
      exact ledger.counts stage rfl rfl rfl trivial (UInt64.add_zero _) rfl rfl
  | dropCount stage =>
      exact ledger.counts stage rfl rfl rfl trivial rfl rfl (UInt64.add_zero _)
  | @notify thread waiter dropped stage member =>
      have kept := stage_wake_of_not_waits waiter ((congrArg Stage.waits stage).trans rfl)
      exact (ledger.wakes waiter).silent (kept.trans stage) rfl ⟨rfl, rfl, id, rfl, rfl, rfl⟩
  | notifyNobody stage => exact ledger.silent stage rfl ⟨rfl, rfl, id, rfl, rfl, rfl⟩
  | popLock stage locked =>
      exact ledger.locks stage locked rfl rfl ⟨rfl, rfl, id, rfl, rfl, rfl⟩
  | popReady stage =>
      refine ledger.pops ?_ stage consistent
      rcases stage with stage | stage <;> rw [stage] <;> rfl
  | popBlock stage =>
      exact ledger.goes _ _ consistent rfl rfl (settled_wait ledger.consistent stage) trivial
        (by rw [stage]; rfl) (by rw [stage]; rfl) (by rw [stage]; rfl)
  | popWake => exact ledger.wakes _
  | @popRelock thread size late after stage locked =>
      cases late with
      | false => exact ledger.locks stage locked rfl rfl ⟨rfl, rfl, id, rfl, rfl, rfl⟩
      | true => exact ledger.locks stage locked rfl rfl ⟨rfl, rfl, id, rfl, rfl, rfl⟩
  | popTimeout stage => exact ledger.silent stage rfl ⟨rfl, rfl, id, rfl, rfl, rfl⟩
  | popTimedOut stage => exact ledger.unlocks stage rfl rfl rfl ⟨rfl, rfl, id, rfl, rfl, rfl⟩
  | popItem stage more =>
      refine ledger.silent stage rfl ⟨rfl, rfl, fun inRange => ⟨?_, inRange.2⟩, rfl, rfl, rfl⟩
      rw [List.length_append, List.length_singleton]
      exact more
  | popSkip stage done => exact ledger.skips stage done consistent
  | popRelease stage => exact ledger.unlocks stage rfl rfl rfl ⟨rfl, rfl, id, rfl, rfl, rfl⟩
  | popCount stage =>
      exact ledger.counts stage rfl rfl rfl trivial rfl (UInt64.add_zero _) rfl
  | closeLock stage locked =>
      exact ledger.locks stage locked rfl rfl ⟨rfl, rfl, id, rfl, rfl, rfl⟩
  | @closeStore thread stage =>
      have held : (shared.stage thread).holds = true := by
        rw [stage]
        rfl
      apply ledger.rearranges _ .closeRelease consistent rfl (.inl held) trivial rfl rfl rfl
      rw [settled_works ledger.consistent held _ rfl (by rw [stage]; rfl),
        settled_of_holds ledger.consistent held, stage]
      rfl
  | closeRelease stage => exact ledger.unlocks stage rfl rfl rfl ⟨rfl, rfl, id, rfl, rfl, rfl⟩
  | closeNotify stage =>
      exact ledger.wakesAll.silent (congrArg wakened stage) rfl ⟨rfl, rfl, id, rfl, rfl, rfl⟩
  | reply stage => exact ledger.silent stage rfl ⟨rfl, rfl, id, rfl, rfl, rfl⟩

/-- `stats()` when no operation is in progress. However the operations before
interleaved, everything offered was handed out, dropped, or is still there; and
while some are in progress the counters lag by just what their threads have
still to enter. -/
theorem counters_account [DecidableEq T] [Inhabited T] {capacity : Nat}
    (reached : (system Thread T capacity).Reachable shared) :
    shared.queue.pushed + UInt64.ofNat (∑ other, (shared.stage other).pushedLater) =
        shared.queue.popped + UInt64.ofNat (∑ other, (shared.stage other).poppedLater) +
          (shared.queue.dropped +
            UInt64.ofNat (∑ other, (shared.stage other).droppedLater shared.queue)) +
          UInt64.ofNat shared.settled.length ∧
      ((∀ other, shared.stage other = .idle) → shared.queue.Balanced) := by
  have ledger : shared.Ledger := by
    apply reached.invariant
    · rintro state rfl
      exact ledger_create capacity
    · intro state label after _ _ ledger stepped
      exact ledger.moves (.ofStep stepped)
  refine ⟨ledger.balanced, ?_⟩
  intro quiet
  have balanced := ledger.balanced
  have free : shared.owner = none := by
    cases owned : shared.owner with
    | none => rfl
    | some owner =>
        have holds := (ledger.consistent.owner owner).mp owned
        rw [quiet owner] at holds
        cases holds
  simp only [quiet, Stage.pushedLater, Stage.poppedLater, Stage.droppedLater,
    Finset.sum_const_zero, settled_of_free free, length_contents] at balanced
  simp only [UInt64.reduceOfNat, UInt64.add_zero] at balanced
  exact balanced

theorem counters_account_waitAndTake :
    ∃ shared, (system Bool Nat 1).run (create 1) waitAndTake = some shared ∧
      shared.queue.Balanced ∧ shared.queue.pushed = 2 ∧ shared.queue.dropped = 1 := by
  have final : ∃ shared, (system Bool Nat 1).run (create 1) waitAndTake = some shared ∧
      shared.stage true = .idle ∧ shared.stage false = .idle ∧ shared.queue.pushed = 2 ∧
      shared.queue.dropped = 1 := ⟨_, rfl, rfl, rfl, rfl, rfl⟩
  rcases final with ⟨shared, ran, consumer, producer, pushed, dropped⟩
  refine ⟨shared, ran, ?_, pushed, dropped⟩
  apply (counters_account (.execute (.start rfl) waitAndTake ran)).2
  intro thread
  cases thread with
  | false => exact producer
  | true => exact consumer

end

end Shared

end TelemetryGateway.BoundedQueue
