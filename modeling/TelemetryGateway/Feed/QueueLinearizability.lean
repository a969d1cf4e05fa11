import TelemetryGateway.Feed.QueueThreads

/-! # The queue is linearizable

However the critical sections, waits and notifications of its threads
interleave, the queue answers as `DropOldest` does one operation at a time. A
push takes effect when it has found the queue open, a pop when its predicate
holds or its last look finds nothing, a close at its store. -/

namespace TelemetryGateway.BoundedQueue

open DropOldest (Operation Reply)

namespace Stage

def leaves (queue : BoundedQueue T) : Stage T → List T
  | .pushLoop _ rest _ => (queue.contents ++ rest).rtake queue.capacity
  | .popLoop n _ => queue.contents.drop n
  | _ => queue.contents

def turn (queue : BoundedQueue T) : Stage T → Turn (Operation T) (Reply T)
  | .idle => .resting
  | .pushLock items => .called (.push items)
  | .pushTest items => .called (.push items)
  | .pushRefused => .performed (.dropped 0)
  | .pushLoop _ rest dropped =>
      .performed (.dropped (dropped + (queue.count + rest.length - queue.capacity)))
  | .pushCount _ dropped => .performed (.dropped dropped)
  | .dropCount dropped => .performed (.dropped dropped)
  | .pushNotify dropped => .performed (.dropped dropped)
  | .popLock size => .called (.pop size)
  | .popTest size => .called (.pop size)
  | .popWait size => .called (.pop size)
  | .popRelock size => .called (.pop size)
  | .popLast size => .called (.pop size)
  | .popTimedOut => .performed (.popped [])
  | .popLoop n out =>
      .performed (.popped (out ++ (List.range' out.length (n - out.length)).map queue.item))
  | .popRelease out => .performed (.popped out)
  | .popCount out => .performed (.popped out)
  | .closeLock => .called .close
  | .closeStore => .called .close
  | .closeRelease => .performed .closed
  | .closeNotify => .performed .closed
  | .returning reply => .performed reply

theorem turn_of_not_holds {stage : Stage T} (outside : stage.holds = false)
    (left right : BoundedQueue T) : stage.turn left = stage.turn right := by
  cases stage <;> first | rfl | cases outside

theorem turn_wakened (queue : BoundedQueue T) (stage : Stage T) :
    (Shared.wakened stage).turn queue = stage.turn queue := by
  cases stage <;> rfl

theorem leaves_wakened (queue : BoundedQueue T) (stage : Stage T) :
    (Shared.wakened stage).leaves queue = stage.leaves queue := by
  cases stage <;> rfl

end Stage

namespace Shared

section

variable {Thread : Type v} {T : Type u} [DecidableEq Thread]

/-- What the queue holds once the mutex is free. -/
def settled (shared : Shared Thread T) : List T :=
  match shared.owner with
  | none => shared.queue.contents
  | some thread => (shared.stage thread).leaves shared.queue

/-- The list the threads see. -/
structure Shows (shared : Shared Thread T) (view : DropOldest T) : Prop where
  capacity : shared.queue.capacity = view.capacity
  items : shared.settled = view.items
  closed : shared.queue.closed = view.closed

abbrev Object (Thread : Type v) (T : Type u) : Type (max u v) :=
  AtomicObject Thread (DropOldest T) (Operation T) (Reply T)

structure Explained (shared : Shared Thread T) (object : Object Thread T) : Prop where
  consistent : shared.Consistent
  shows : shared.Shows object.value
  turn : ∀ thread, object.turn thread = (shared.stage thread).turn shared.queue

variable {shared : Shared Thread T} {thread : Thread} {object : Object Thread T}

omit [DecidableEq Thread] in
theorem settled_of_free (free : shared.owner = none) :
    shared.settled = shared.queue.contents := by
  rw [settled, free]

omit [DecidableEq Thread] in
theorem settled_of_holds (consistent : shared.Consistent)
    (holds : (shared.stage thread).holds = true) :
    shared.settled = (shared.stage thread).leaves shared.queue := by
  rw [settled, (consistent.owner thread).mpr holds]

theorem settled_goto (consistent : shared.Consistent)
    (outside : (shared.stage thread).holds = false) (stage : Stage T) :
    (shared.goto thread stage).settled = shared.settled := by
  unfold settled
  change (match shared.owner with
    | none => shared.queue.contents
    | some owner => ((shared.goto thread stage).stage owner).leaves shared.queue) = _
  cases owned : shared.owner with
  | none => rfl
  | some owner =>
      have different : owner ≠ thread := by
        rintro rfl
        rw [(consistent.owner owner).mp owned] at outside
        cases outside
      dsimp only
      rw [stage_goto_of_ne shared stage different]

theorem Explained.update (explained : shared.Explained object) (after : Shared Thread T)
    (stage : Stage T) (stages : after.stage = Function.update shared.stage thread stage)
    (others : ∀ other, other ≠ thread →
      (shared.stage other).turn after.queue = (shared.stage other).turn shared.queue)
    (consistent : after.Consistent) {value : DropOldest T} (shows : after.Shows value) :
    after.Explained ({ object with value := value }.setTurn thread (stage.turn after.queue)) := by
  refine ⟨consistent, shows, ?_⟩
  intro other
  rw [stages]
  change Function.update object.turn thread _ other = _
  rcases eq_or_ne other thread with rfl | different
  · rw [Function.update_self, Function.update_self]
  · rw [Function.update_of_ne different, Function.update_of_ne different, explained.turn other,
      others other different]

omit [DecidableEq Thread] in
theorem Explained.silent (explained : shared.Explained object) {after : Shared Thread T}
    (consistent : after.Consistent) (shows : after.Shows object.value)
    (turns : ∀ other, (after.stage other).turn after.queue =
      (shared.stage other).turn shared.queue) : after.Explained object :=
  ⟨consistent, shows, fun other => (explained.turn other).trans (turns other).symm⟩

omit [DecidableEq Thread] in
theorem Consistent.turn_others (consistent : shared.Consistent)
    (holds : (shared.stage thread).holds = true) (queue : BoundedQueue T) {other : Thread}
    (different : other ≠ thread) :
    (shared.stage other).turn queue = (shared.stage other).turn shared.queue :=
  Stage.turn_of_not_holds (consistent.alone holds different) _ _

theorem turn_goto {stage : Stage T} {queue : BoundedQueue T}
    (same : stage.turn queue = (shared.stage thread).turn shared.queue)
    (others : ∀ other, other ≠ thread →
      (shared.stage other).turn queue = (shared.stage other).turn shared.queue) (other : Thread) :
    ((shared.goto thread stage).stage other).turn queue =
      (shared.stage other).turn shared.queue := by
  rcases eq_or_ne other thread with rfl | different
  · rw [stage_goto, same]
  · rw [stage_goto_of_ne shared stage different]
    exact others other different

/-! ## What the queue will hold -/

theorem settled_goes (consistent : shared.Consistent) {stage : Stage T}
    (holds : stage.holds = (shared.stage thread).holds)
    (waits : stage.waits = (shared.stage thread).waits)
    (leaves : stage.leaves shared.queue = (shared.stage thread).leaves shared.queue) :
    (shared.goto thread stage).settled = shared.settled := by
  cases inside : (shared.stage thread).holds with
  | false => exact settled_goto consistent inside stage
  | true =>
      have still : ((shared.goto thread stage).stage thread).holds = true := by
        rw [stage_goto, holds, inside]
      rw [settled_of_holds (consistent.goto holds waits) still,
        settled_of_holds consistent inside, stage_goto]
      exact leaves

theorem settled_lock (free : shared.owner = none) {stage : Stage T}
    (leaves : stage.leaves shared.queue = shared.queue.contents) :
    ({ shared.goto thread stage with owner := some thread } : Shared Thread T).settled =
      shared.settled := by
  rw [settled_of_free free]
  change ((shared.goto thread stage).stage thread).leaves shared.queue = _
  rw [stage_goto, leaves]

theorem settled_unlock (consistent : shared.Consistent)
    (held : (shared.stage thread).holds = true) (stage : Stage T)
    (leaves : (shared.stage thread).leaves shared.queue = shared.queue.contents) :
    (shared.unlock thread stage).settled = shared.settled := by
  rw [settled_of_holds consistent held, leaves]
  rfl

theorem settled_wait (consistent : shared.Consistent) {size : Nat}
    (stage : shared.stage thread = .popTest size) :
    (shared.wait thread size).settled = shared.settled := by
  have held : (shared.stage thread).holds = true := by
    rw [stage]
    rfl
  rw [settled_of_holds consistent held, stage]
  rfl

theorem settled_wake (shared : Shared Thread T) (woken : Thread) :
    (shared.wake woken).settled = shared.settled := by
  unfold settled
  change (match shared.owner with
    | none => shared.queue.contents
    | some owner => ((shared.goto woken _).stage owner).leaves shared.queue) = _
  cases shared.owner with
  | none => rfl
  | some owner =>
      dsimp only
      rcases eq_or_ne owner woken with rfl | different
      · rw [stage_goto, Stage.leaves_wakened]
      · rw [stage_goto_of_ne shared _ different]

omit [DecidableEq Thread] in
theorem settled_wakeAll (shared : Shared Thread T) : shared.wakeAll.settled = shared.settled := by
  unfold settled
  change (match shared.owner with
    | none => shared.queue.contents
    | some owner => (wakened (shared.stage owner)).leaves shared.queue) = _
  cases shared.owner with
  | none => rfl
  | some owner => exact Stage.leaves_wakened _ _

omit [DecidableEq Thread] in
theorem settled_counts (shared : Shared Thread T) (pushed popped dropped : UInt64) (losses : Nat)
    (counted : dropped = UInt64.ofNat losses) :
    ({ shared with queue := { shared.queue with
      pushed := pushed, popped := popped, dropped := dropped, losses := losses
      counted := counted } } : Shared Thread T).settled = shared.settled := by
  unfold settled
  dsimp only
  cases shared.owner with
  | none => rfl
  | some owner => cases shared.stage owner <;> rfl

theorem settled_works (consistent : shared.Consistent)
    (held : (shared.stage thread).holds = true) (queue : BoundedQueue T) {stage : Stage T}
    (holds : stage.holds = true) (waits : stage.waits = (shared.stage thread).waits) :
    ({ shared with queue := queue }.goto thread stage).settled = stage.leaves queue := by
  have after : ({ shared with queue := queue }.goto thread stage).Consistent :=
    (consistent.setQueue queue).goto (holds.trans held.symm) waits
  have still : (({ shared with queue := queue }.goto thread stage).stage thread).holds = true := by
    rw [stage_goto, holds]
  rw [settled_of_holds after still, stage_goto]
  rfl

/-! ## Steps that leave the queue alone -/

/-- A step inside a critical section, or outside of all, that changes nothing
the threads see. -/
theorem Explained.goes (explained : shared.Explained object) {stage : Stage T}
    (holds : stage.holds = (shared.stage thread).holds)
    (waits : stage.waits = (shared.stage thread).waits)
    (turn : stage.turn shared.queue = (shared.stage thread).turn shared.queue)
    (leaves : stage.leaves shared.queue = (shared.stage thread).leaves shared.queue) :
    (shared.goto thread stage).Explained object :=
  explained.silent (explained.consistent.goto holds waits)
    ⟨explained.shows.capacity,
      (settled_goes explained.consistent holds waits leaves).trans explained.shows.items,
      explained.shows.closed⟩
    (turn_goto turn fun _ _ => rfl)

theorem Explained.locks (explained : shared.Explained object) {stage : Stage T}
    (holds : stage.holds = true) (waits : stage.waits = (shared.stage thread).waits)
    (turn : stage.turn shared.queue = (shared.stage thread).turn shared.queue)
    (leaves : stage.leaves shared.queue = shared.queue.contents) {after : Shared Thread T}
    (locked : shared.lock thread stage = some after) : after.Explained object := by
  rcases explained.consistent.lock holds waits locked with ⟨free, rfl, consistent⟩
  exact explained.silent consistent
    ⟨explained.shows.capacity, (settled_lock free leaves).trans explained.shows.items,
      explained.shows.closed⟩
    (turn_goto turn fun _ _ => rfl)

theorem Explained.unlocks (explained : shared.Explained object)
    (held : (shared.stage thread).holds = true) {stage : Stage T}
    (holds : stage.holds = false) (waits : stage.waits = (shared.stage thread).waits)
    (turn : stage.turn shared.queue = (shared.stage thread).turn shared.queue)
    (leaves : (shared.stage thread).leaves shared.queue = shared.queue.contents) :
    (shared.unlock thread stage).Explained object :=
  explained.silent (explained.consistent.unlock held holds waits)
    ⟨explained.shows.capacity,
      (settled_unlock explained.consistent held stage leaves).trans explained.shows.items,
      explained.shows.closed⟩
    (turn_goto turn fun _ _ => rfl)

theorem Explained.waits (explained : shared.Explained object) {size : Nat}
    (stage : shared.stage thread = .popTest size) :
    (shared.wait thread size).Explained object :=
  explained.silent (explained.consistent.wait (by rw [stage]; rfl) size)
    ⟨explained.shows.capacity,
      (settled_wait explained.consistent stage).trans explained.shows.items,
      explained.shows.closed⟩
    (turn_goto (by rw [stage]; rfl) fun _ _ => rfl)

theorem Explained.wakes (explained : shared.Explained object) (woken : Thread) :
    (shared.wake woken).Explained object :=
  explained.silent (explained.consistent.wake woken)
    ⟨explained.shows.capacity, (settled_wake shared woken).trans explained.shows.items,
      explained.shows.closed⟩
    (turn_goto (Stage.turn_wakened _ _) fun _ _ => rfl)

omit [DecidableEq Thread] in
theorem Explained.wakesAll (explained : shared.Explained object) :
    shared.wakeAll.Explained object :=
  explained.silent explained.consistent.wakeAll
    ⟨explained.shows.capacity, (settled_wakeAll shared).trans explained.shows.items,
      explained.shows.closed⟩
    fun _ => Stage.turn_wakened _ _

omit [DecidableEq Thread] in
theorem Explained.counts (explained : shared.Explained object) (pushed popped dropped : UInt64)
    (losses : Nat) (counted : dropped = UInt64.ofNat losses) :
    ({ shared with queue := { shared.queue with
      pushed := pushed, popped := popped, dropped := dropped, losses := losses
      counted := counted } } : Shared Thread T).Explained object := by
  refine explained.silent (explained.consistent.setQueue _)
    ⟨explained.shows.capacity,
      (settled_counts shared pushed popped dropped losses counted).trans explained.shows.items,
      explained.shows.closed⟩ ?_
  intro other
  dsimp only
  cases shared.stage other <;> rfl

/-! ## Steps of a critical section -/

theorem Explained.works (explained : shared.Explained object)
    (held : (shared.stage thread).holds = true) {queue : BoundedQueue T} {stage : Stage T}
    (holds : stage.holds = true) (waits : stage.waits = (shared.stage thread).waits)
    (capacity : queue.capacity = shared.queue.capacity)
    (closed : queue.closed = shared.queue.closed)
    (turn : stage.turn queue = (shared.stage thread).turn shared.queue)
    (leaves : stage.leaves queue = (shared.stage thread).leaves shared.queue) :
    ({ shared with queue := queue }.goto thread stage).Explained object := by
  refine explained.silent ((explained.consistent.setQueue queue).goto (holds.trans held.symm) waits)
    ⟨capacity.trans explained.shows.capacity, ?_, closed.trans explained.shows.closed⟩
    (turn_goto turn fun other different => explained.consistent.turn_others held queue different)
  rw [settled_works explained.consistent held queue holds waits, leaves,
    ← settled_of_holds explained.consistent held]
  exact explained.shows.items

theorem Explained.acts (explained : shared.Explained object)
    (held : (shared.stage thread).holds = true) {queue : BoundedQueue T} {stage : Stage T}
    (holds : stage.holds = true) (waits : stage.waits = (shared.stage thread).waits)
    {value : DropOldest T} {reply : Reply T} (turn : stage.turn queue = .performed reply)
    (capacity : queue.capacity = value.capacity) (closed : queue.closed = value.closed)
    (leaves : stage.leaves queue = value.items) :
    ({ shared with queue := queue }.goto thread stage).Explained
      ({ object with value := value }.setTurn thread (.performed reply)) := by
  rw [← turn]
  exact explained.update _ stage rfl
    (fun other different => explained.consistent.turn_others held queue different)
    ((explained.consistent.setQueue queue).goto (holds.trans held.symm) waits)
    ⟨capacity, (settled_works explained.consistent held queue holds waits).trans leaves, closed⟩

omit [DecidableEq Thread] in
theorem Explained.contents (explained : shared.Explained object)
    (held : (shared.stage thread).holds = true)
    (leaves : (shared.stage thread).leaves shared.queue = shared.queue.contents) :
    object.value.items = shared.queue.contents := by
  rw [← explained.shows.items, settled_of_holds explained.consistent held, leaves]

theorem count_pushItem (queue : BoundedQueue T) (item : T) :
    (queue.pushItem item).count = min (queue.count + 1) queue.capacity := by
  rw [← length_contents, contents_pushItem, length_rtake, List.length_append, length_contents,
    List.length_singleton]

theorem Explained.pushesItem (explained : shared.Explained object) {items rest : List T}
    {item : T} {dropped : Nat}
    (stage : shared.stage thread = .pushLoop items (item :: rest) dropped) :
    ({ shared with queue := shared.queue.pushItem item }.goto thread (.pushLoop items rest
      (dropped + if shared.queue.count = shared.queue.capacity then 1 else 0))).Explained
        object := by
  have same := shared.queue.sameCounters_pushItem item
  apply explained.works (by rw [stage]; rfl) rfl (by rw [stage]; rfl) same.capacity same.closed
  · have fits := shared.queue.fits
    rw [stage, Stage.turn, Stage.turn, count_pushItem, same.capacity, List.length_cons]
    congr 2
    split <;> omega
  · rw [stage, Stage.leaves, Stage.leaves, same.capacity, contents_pushItem,
      rtake_rtake_append, List.append_assoc, List.singleton_append]

theorem Explained.copiesItem (explained : shared.Explained object) {n : Nat} {out : List T}
    (stage : shared.stage thread = .popLoop n out) (more : out.length < n) :
    (shared.goto thread (.popLoop n (out ++ [shared.queue.item out.length]))).Explained
      object := by
  apply explained.goes (by rw [stage]; rfl) (by rw [stage]; rfl) _ (by rw [stage]; rfl)
  rw [stage, Stage.turn, Stage.turn, List.length_append, List.length_singleton,
    List.append_assoc, List.singleton_append, ← List.map_cons, ← List.range'_succ]
  congr 5
  omega

theorem Explained.skips (explained : shared.Explained object) {n : Nat} {out : List T}
    (stage : shared.stage thread = .popLoop n out) (done : n ≤ out.length) :
    ({ shared with queue := shared.queue.skip n }.goto thread (.popRelease out)).Explained
      object := by
  refine explained.works (by rw [stage]; rfl) rfl (by rw [stage]; rfl) ?_ ?_ ?_ ?_
  · rfl
  · rfl
  · rw [stage, Stage.turn, Stage.turn, Nat.sub_eq_zero_of_le done, List.range'_zero,
      List.map_nil, List.append_nil]
  · rw [stage]
    exact shared.queue.contents_skip n

def perform (object : Object Thread T) (thread : Thread) (operation : Operation T) :
    Object Thread T :=
  { object with value := (DropOldest.step object.value operation).1 }.setTurn thread
    (.performed (DropOldest.step object.value operation).2)

theorem Explained.pushes (explained : shared.Explained object) {items : List T}
    (stage : shared.stage thread = .pushTest items) (isOpen : shared.queue.closed = false) :
    (shared.goto thread (.pushLoop items items 0)).Explained
      (perform object thread (.push items)) := by
  have held : (shared.stage thread).holds = true := by
    rw [stage]
    rfl
  have contents := explained.contents held (by rw [stage]; rfl)
  rw [perform, DropOldest.step, ← explained.shows.closed, isOpen, if_neg Bool.false_ne_true]
  refine explained.acts held rfl (by rw [stage]; rfl) ?_ explained.shows.capacity isOpen ?_
  · rw [Stage.turn, Nat.zero_add, contents, length_contents, ← explained.shows.capacity]
  · rw [Stage.leaves, contents, ← explained.shows.capacity]

theorem Explained.refuses (explained : shared.Explained object) {items : List T}
    (stage : shared.stage thread = .pushTest items) (isClosed : shared.queue.closed = true) :
    (shared.goto thread .pushRefused).Explained (perform object thread (.push items)) := by
  have held : (shared.stage thread).holds = true := by
    rw [stage]
    rfl
  rw [perform, DropOldest.step, ← explained.shows.closed, isClosed, if_pos rfl]
  exact explained.acts held rfl (by rw [stage]; rfl) rfl explained.shows.capacity
    explained.shows.closed (explained.contents held (by rw [stage]; rfl)).symm

theorem map_item_range (queue : BoundedQueue T) (size : Nat) :
    (List.range' 0 (taken queue size)).map queue.item = queue.contents.take size := by
  rw [BoundedQueue.contents, ← List.map_take, List.take_range, ← List.range_eq_range', taken]
  congr 2
  split <;> omega

theorem drop_taken (queue : BoundedQueue T) (size : Nat) :
    queue.contents.drop (taken queue size) = queue.contents.drop size := by
  rw [taken]
  split
  · rename_i fewer
    rw [List.drop_eq_nil_of_le, List.drop_eq_nil_of_le]
    · rw [length_contents]
      exact Nat.le_of_lt fewer
    · exact Nat.le_of_eq queue.length_contents
  · rfl

theorem Explained.pops (explained : shared.Explained object) {size : Nat}
    (stage : shared.stage thread = .popTest size ∨ shared.stage thread = .popLast size) :
    (shared.goto thread (.popLoop (taken shared.queue size) [])).Explained
      (perform object thread (.pop size)) := by
  have held : (shared.stage thread).holds = true := by
    rcases stage with stage | stage <;> rw [stage] <;> rfl
  have contents : object.value.items = shared.queue.contents := by
    apply explained.contents held
    rcases stage with stage | stage <;> rw [stage] <;> rfl
  rw [perform, DropOldest.step, contents]
  refine explained.acts held rfl ?_ ?_ explained.shows.capacity explained.shows.closed ?_
  · rcases stage with stage | stage <;> rw [stage] <;> rfl
  · rw [Stage.turn, List.nil_append, List.length_nil, Nat.sub_zero, map_item_range]
  · rw [Stage.leaves, drop_taken]

theorem Explained.givesUp (explained : shared.Explained object) {size : Nat}
    (stage : shared.stage thread = .popLast size) (empty : shared.queue.count = 0) :
    (shared.goto thread .popTimedOut).Explained (perform object thread (.pop size)) := by
  have held : (shared.stage thread).holds = true := by
    rw [stage]
    rfl
  have nothing : shared.queue.contents = [] := by
    rw [← List.length_eq_zero_iff, length_contents, empty]
  have contents := explained.contents held (by rw [stage]; rfl)
  rw [nothing] at contents
  rw [perform, DropOldest.step, contents, List.take_nil, List.drop_nil]
  exact explained.acts held rfl (by rw [stage]; rfl) rfl explained.shows.capacity
    explained.shows.closed nothing

theorem Explained.closes (explained : shared.Explained object)
    (stage : shared.stage thread = .closeStore) :
    ({ shared with queue := shared.queue.close }.goto thread .closeRelease).Explained
      (perform object thread .close) := by
  have held : (shared.stage thread).holds = true := by
    rw [stage]
    rfl
  exact explained.acts held rfl (by rw [stage]; rfl) rfl explained.shows.capacity rfl
    (explained.contents held (by rw [stage]; rfl)).symm

/-! ## Every step has its moments -/

def begun : Operation T → Stage T
  | .push items => .pushLock items
  | .pop size => .popLock size
  | .close => .closeLock

theorem Explained.calls (explained : shared.Explained object) (stage : shared.stage thread = .idle)
    (operation : Operation T) :
    (shared.goto thread (begun operation)).Explained
      (object.setTurn thread (.called operation)) := by
  have outside : (shared.stage thread).holds = false := by
    rw [stage]
    rfl
  have turn : (begun operation).turn shared.queue = .called operation := by
    cases operation <;> rfl
  rw [← turn]
  refine explained.update (shared.goto thread (begun operation)) (begun operation) rfl
    (fun _ _ => rfl) ?_ ⟨explained.shows.capacity, ?_, explained.shows.closed⟩
  · apply explained.consistent.goto
    · rw [outside]
      cases operation <;> rfl
    · rw [stage]
      cases operation <;> rfl
  · rw [settled_goto explained.consistent outside]
    exact explained.shows.items

omit [DecidableEq Thread] in
theorem length_settled_le (shared : Shared Thread T) :
    shared.settled.length ≤ shared.queue.capacity := by
  have fits : shared.queue.contents.length ≤ shared.queue.capacity := by
    rw [length_contents]
    exact shared.queue.fits
  unfold settled
  cases shared.owner with
  | none => exact fits
  | some owner =>
      dsimp only
      cases shared.stage owner with
      | pushLoop items rest dropped =>
          rw [Stage.leaves, length_rtake]
          exact Nat.min_le_right _ _
      | popLoop n out =>
          rw [Stage.leaves, List.length_drop]
          exact Nat.le_trans (Nat.sub_le _ _) fits
      | _ => exact fits

theorem Explained.returns (explained : shared.Explained object) {operation : Operation T}
    {reply : Reply T} (stage : shared.stage thread = begun operation)
    (answers : DropOldest.step object.value operation = (object.value, reply)) :
    (shared.goto thread (.returning reply)).Explained (perform object thread operation) := by
  have outside : (shared.stage thread).holds = false := by
    rw [stage]
    cases operation <;> rfl
  rw [perform, answers]
  refine explained.update (shared.goto thread (.returning reply)) (.returning reply) rfl
    (fun _ _ => rfl) ?_ ⟨explained.shows.capacity, ?_, explained.shows.closed⟩
  · apply explained.consistent.goto
    · rw [outside]
      rfl
    · rw [stage]
      cases operation <;> rfl
  · rw [settled_goto explained.consistent outside]
    exact explained.shows.items

omit [DecidableEq Thread] in
theorem Explained.pushesNothing (explained : shared.Explained object) :
    DropOldest.step object.value (.push []) = (object.value, .dropped 0) := by
  have short : object.value.items.length ≤ object.value.capacity := by
    rw [← explained.shows.items, ← explained.shows.capacity]
    exact shared.length_settled_le
  rw [DropOldest.step, List.append_nil, List.length_nil, Nat.add_zero,
    Nat.sub_eq_zero_of_le short, List.rtake, Nat.sub_eq_zero_of_le short, List.drop_zero]
  exact ite_self _

theorem popsNothing (view : DropOldest T) :
    DropOldest.step view (.pop 0) = (view, .popped []) := by
  rw [DropOldest.step, List.take_zero, List.drop_zero]

section

variable [DecidableEq T]

def Matched (object : Object Thread T) (label : Label Thread T) (after : Shared Thread T) : Prop :=
  ∃ moments later, (∀ view, (AtomicObject.system DropOldest.step view).run object moments =
      some later) ∧
    moments.filterMap AtomicObject.Moment.event = label.event.toList ∧ after.Explained later

theorem Matched.silent {label : Label Thread T} {after : Shared Thread T}
    (quiet : label.event = none) (explained : after.Explained object) :
    Matched object label after :=
  ⟨[], object, fun _ => rfl, by rw [quiet]; rfl, explained⟩

theorem Matched.performs {label : Label Thread T} {after : Shared Thread T}
    {operation : Operation T} (quiet : label.event = none)
    (called : object.turn thread = .called operation)
    (explained : after.Explained (perform object thread operation)) :
    Matched object label after :=
  ⟨[.perform thread], perform object thread operation,
    fun _ => AtomicObject.run_perform called, by rw [quiet]; rfl, explained⟩

theorem Matched.calls (explained : shared.Explained object)
    (stage : shared.stage thread = .idle) (operation : Operation T) :
    Matched object (.call thread operation) (shared.goto thread (enter operation)) := by
  have resting : object.turn thread = .resting := by
    rw [explained.turn, stage]
    rfl
  have begins := explained.calls stage operation
  by_cases waits : enter operation = begun operation
  · rw [waits]
    exact ⟨[.seen (.call thread operation)], _,
      fun _ => AtomicObject.run_call operation resting, rfl, begins⟩
  · have called : (object.setTurn thread (.called operation)).turn thread = .called operation :=
      Function.update_self ..
    have twice (reply : Reply T) : ((shared.goto thread (begun operation)).goto thread
        (.returning reply)) = shared.goto thread (.returning reply) :=
      congrArg (fun stage => { shared with stage := stage }) (Function.update_idem ..)
    have answers : ∃ reply, enter operation = .returning reply ∧
        DropOldest.step object.value operation = (object.value, reply) := by
      cases operation with
      | push items =>
          cases items with
          | nil => exact ⟨_, rfl, explained.pushesNothing⟩
          | cons item rest => exact absurd rfl waits
      | pop size =>
          cases size with
          | zero => exact ⟨_, rfl, popsNothing _⟩
          | succ size => exact absurd rfl waits
      | close => exact absurd rfl waits
    rcases answers with ⟨reply, entered, answers⟩
    rw [entered, ← twice]
    refine ⟨[.seen (.call thread operation), .perform thread], _, ?_, rfl,
      begins.returns (stage_goto ..) answers⟩
    intro view
    rw [← List.singleton_append, System.run_append, AtomicObject.run_call operation resting]
    exact AtomicObject.run_perform called

theorem Explained.step (explained : shared.Explained object) {label : Label Thread T}
    {after : Shared Thread T} (moved : Moves shared label after) :
    Matched object label after := by
  cases moved with
  | call stage => exact .calls explained stage _
  | pushLock stage locked =>
      exact .silent rfl (explained.locks rfl (by rw [stage]; rfl) (by rw [stage]; rfl) rfl locked)
  | pushClosed stage closed =>
      exact .performs rfl (by rw [explained.turn, stage]; rfl) (explained.refuses stage closed)
  | pushOpen stage isOpen =>
      exact .performs rfl (by rw [explained.turn, stage]; rfl) (explained.pushes stage isOpen)
  | pushRefused stage =>
      exact .silent rfl (explained.unlocks (by rw [stage]; rfl) rfl (by rw [stage]; rfl)
        (by rw [stage]; rfl) (by rw [stage]; rfl))
  | pushItem stage => exact .silent rfl (explained.pushesItem stage)
  | pushUnlock stage =>
      refine .silent rfl (explained.unlocks (by rw [stage]; rfl) rfl (by rw [stage]; rfl) ?_ ?_)
      · rw [stage, Stage.turn, Stage.turn, List.length_nil, Nat.add_zero,
          Nat.sub_eq_zero_of_le shared.queue.fits, Nat.add_zero]
      · rw [stage, Stage.leaves, List.append_nil, List.rtake, length_contents,
          Nat.sub_eq_zero_of_le shared.queue.fits, List.drop_zero]
  | pushCount stage =>
      exact .silent rfl ((explained.counts _ _ _ _ _).goes (congrArg Stage.holds stage).symm
        (congrArg Stage.waits stage).symm (congrArg (Stage.turn _) stage).symm
        (congrArg (Stage.leaves _) stage).symm)
  | dropCount stage =>
      exact .silent rfl ((explained.counts _ _ _ _ _).goes (congrArg Stage.holds stage).symm
        (congrArg Stage.waits stage).symm (congrArg (Stage.turn _) stage).symm
        (congrArg (Stage.leaves _) stage).symm)
  | notify stage member =>
      have kept := fun woken =>
        stage_wake_of_not_waits woken ((congrArg Stage.waits stage).trans rfl)
      exact .silent rfl ((explained.wakes _).goes (by rw [kept, stage]; rfl)
        (by rw [kept, stage]; rfl) (by rw [kept, stage]; rfl) (by rw [kept, stage]; rfl))
  | notifyNobody stage =>
      exact .silent rfl (explained.goes (by rw [stage]; rfl) (by rw [stage]; rfl)
        (by rw [stage]; rfl) (by rw [stage]; rfl))
  | popLock stage locked =>
      exact .silent rfl (explained.locks rfl (by rw [stage]; rfl) (by rw [stage]; rfl) rfl locked)
  | popReady stage =>
      refine .performs rfl ?_ (explained.pops stage)
      rw [explained.turn]
      rcases stage with stage | stage <;> rw [stage] <;> rfl
  | popBlock stage => exact .silent rfl (explained.waits stage)
  | popWake => exact .silent rfl (explained.wakes _)
  | popRelock stage locked =>
      refine .silent rfl (explained.locks ?_ ?_ ?_ ?_ locked)
      · split <;> rfl
      · rw [stage]
        split <;> rfl
      · rw [stage]
        split <;> rfl
      · split <;> rfl
  | popTimeout stage empty =>
      exact .performs rfl (by rw [explained.turn, stage]; rfl) (explained.givesUp stage empty)
  | popTimedOut stage =>
      exact .silent rfl (explained.unlocks (by rw [stage]; rfl) rfl (by rw [stage]; rfl)
        (by rw [stage]; rfl) (by rw [stage]; rfl))
  | popItem stage more => exact .silent rfl (explained.copiesItem stage more)
  | popSkip stage done => exact .silent rfl (explained.skips stage done)
  | popRelease stage =>
      exact .silent rfl (explained.unlocks (by rw [stage]; rfl) rfl (by rw [stage]; rfl)
        (by rw [stage]; rfl) (by rw [stage]; rfl))
  | popCount stage =>
      exact .silent rfl ((explained.counts _ _ _ _ _).goes (congrArg Stage.holds stage).symm
        (congrArg Stage.waits stage).symm (congrArg (Stage.turn _) stage).symm
        (congrArg (Stage.leaves _) stage).symm)
  | closeLock stage locked =>
      exact .silent rfl (explained.locks rfl (by rw [stage]; rfl) (by rw [stage]; rfl) rfl locked)
  | closeStore stage =>
      exact .performs rfl (by rw [explained.turn, stage]; rfl) (explained.closes stage)
  | closeRelease stage =>
      exact .silent rfl (explained.unlocks (by rw [stage]; rfl) rfl (by rw [stage]; rfl)
        (by rw [stage]; rfl) (by rw [stage]; rfl))
  | closeNotify stage =>
      exact .silent rfl (explained.wakesAll.goes
        (congrArg (fun stage => (wakened stage).holds) stage).symm
        (congrArg (fun stage => (wakened stage).waits) stage).symm
        (congrArg (fun stage => (wakened stage).turn shared.queue) stage).symm
        (congrArg (fun stage => (wakened stage).leaves shared.queue) stage).symm)
  | @reply thread answer stage =>
      have performed : object.turn thread = .performed answer := by
        rw [explained.turn, stage]
        rfl
      refine ⟨[.seen (.reply thread answer)], _,
        fun _ => AtomicObject.run_reply performed, rfl, ?_⟩
      exact explained.update (shared.goto thread .idle) .idle rfl (fun _ _ => rfl)
        (explained.consistent.goto (by rw [stage]; rfl) (by rw [stage]; rfl))
        ⟨explained.shows.capacity,
          (settled_goto explained.consistent (by rw [stage]; rfl) _).trans explained.shows.items,
          explained.shows.closed⟩

omit [DecidableEq Thread] [DecidableEq T] in
theorem explained_create [Inhabited T] (capacity : Nat) :
    (create capacity : Shared Thread T).Explained
      (.resting (.empty (if capacity = 0 then 1 else capacity))) :=
  ⟨consistent_create capacity, ⟨rfl, rfl, rfl⟩, fun _ => rfl⟩

/-- Whatever any number of threads call, and however their steps, waits,
timeouts and notifications interleave, what they see is what the list that
gives up its oldest items answers to the same calls one after the other. -/
theorem queue_linearizable [Inhabited T] (capacity : Nat) (schedule : List (Label Thread T))
    (final : Shared Thread T)
    (ran : (system Thread T capacity).run (create capacity) schedule = some final) :
    Linearizable DropOldest.step (.empty (if capacity = 0 then 1 else capacity))
      (schedule.filterMap Label.event) := by
  refine linearizable_of_simulation Explained ?_ (explained_create capacity) ran
  intro shared object label after explained stepped
  rcases explained.step (.ofStep stepped) with ⟨moments, later, moved, events, explained⟩
  exact ⟨moments, later, moved _, events, explained⟩

end

/-- A consumer waits, a producer pushes two items into a queue of one and wakes
it, and the consumer is back first. -/
def waitAndTake : List (Label Bool Nat) :=
  [.call true (.pop 2), .advance true, .advance true, .call false (.push [1, 2])] ++
    List.replicate 7 (.advance false) ++ [.notify false (some true), .reacquire true false] ++
    List.replicate 5 (.advance true) ++ [.reply true (.popped [2]), .reply false (.dropped 1)]

theorem queue_linearizable_waitAndTake :
    ∃ final, (system Bool Nat 1).run (create 1) waitAndTake = some final ∧
      Linearizable DropOldest.step (.empty 1) (waitAndTake.filterMap Label.event) ∧
      waitAndTake.filterMap Label.event =
        [.call true (.pop 2), .call false (.push [1, 2]), .reply true (.popped [2]),
          .reply false (.dropped 1)] := by
  have final : ((system Bool Nat 1).run (create 1) waitAndTake).isSome = true := by
    decide +kernel
  rcases Option.isSome_iff_exists.mp final with ⟨final, ran⟩
  exact ⟨final, ran, queue_linearizable 1 waitAndTake final ran, rfl⟩

end

end Shared

end TelemetryGateway.BoundedQueue
