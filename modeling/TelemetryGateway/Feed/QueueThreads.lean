import TelemetryGateway.Feed.BoundedQueue
import TelemetryGateway.Foundation.Linearizability

/-! # The queue among its threads

`BoundedQueue` as threads execute it: the mutex is taken and given back, the
condition wait gives it up in between, the counters and the notification come
after the critical section. One turn of a loop under the mutex is one step. -/

namespace TelemetryGateway.BoundedQueue

open DropOldest (Operation Reply)

inductive Stage (T : Type u)
  | idle
  | pushLock (items : List T)
  | pushTest (items : List T)
  | pushRefused
  | pushLoop (items rest : List T) (dropped : Nat)
  | pushCount (number dropped : Nat)
  | dropCount (dropped : Nat)
  | pushNotify (dropped : Nat)
  | popLock (size : Nat)
  | popTest (size : Nat)
  | popWait (size : Nat)
  | popRelock (size : Nat)
  | popLast (size : Nat)
  | popTimedOut
  | popLoop (n : Nat) (out : List T)
  | popRelease (out : List T)
  | popCount (out : List T)
  | closeLock
  | closeStore
  | closeRelease
  | closeNotify
  | returning (reply : Reply T)

def Stage.holds : Stage T → Bool
  | .pushTest _ => true
  | .pushRefused => true
  | .pushLoop _ _ _ => true
  | .popTest _ => true
  | .popLast _ => true
  | .popTimedOut => true
  | .popLoop _ _ => true
  | .popRelease _ => true
  | .closeStore => true
  | .closeRelease => true
  | _ => false

def Stage.waits : Stage T → Bool
  | .popWait _ => true
  | _ => false

/-- The queue, its mutex, the threads blocked on `cv_` and where all stand. -/
structure Shared (Thread : Type v) (T : Type u) where
  queue : BoundedQueue T
  owner : Option Thread
  waiters : List Thread
  stage : Thread → Stage T

namespace Shared

/-- A thread makes its next step, with what the scheduler and the clock decide:
which waiter a notification wakes, and whether the deadline had passed when the
wait was over. A waiter may also wake by itself. -/
inductive Label (Thread : Type v) (T : Type u)
  | call (thread : Thread) (operation : Operation T)
  | advance (thread : Thread)
  | notify (thread : Thread) (woken : Option Thread)
  | reacquire (thread : Thread) (late : Bool)
  | reply (thread : Thread) (answer : Reply T)

def Label.event : Label Thread T → Option (Event Thread (Operation T) (Reply T))
  | .call thread operation => some (.call thread operation)
  | .reply thread answer => some (.reply thread answer)
  | _ => none

def Label.thread : Label Thread T → Thread
  | .call thread _ => thread
  | .advance thread => thread
  | .notify thread _ => thread
  | .reacquire thread _ => thread
  | .reply thread _ => thread

section

variable {Thread : Type v} {T : Type u} [DecidableEq Thread]

def create [Inhabited T] (capacity : Nat) : Shared Thread T where
  queue := .create capacity
  owner := none
  waiters := []
  stage := fun _ => .idle

/-! ## The code -/

def goto (shared : Shared Thread T) (thread : Thread) (stage : Stage T) : Shared Thread T :=
  { shared with stage := Function.update shared.stage thread stage }

def lock (shared : Shared Thread T) (thread : Thread) (stage : Stage T) :
    Option (Shared Thread T) :=
  if shared.owner = none then some { shared.goto thread stage with owner := some thread }
  else none

def unlock (shared : Shared Thread T) (thread : Thread) (stage : Stage T) : Shared Thread T :=
  { shared.goto thread stage with owner := none }

def wait (shared : Shared Thread T) (thread : Thread) (size : Nat) : Shared Thread T :=
  { shared.unlock thread (.popWait size) with waiters := thread :: shared.waiters }

def wakened : Stage T → Stage T
  | .popWait size => .popRelock size
  | other => other

def wake (shared : Shared Thread T) (woken : Thread) : Shared Thread T :=
  { shared.goto woken (wakened (shared.stage woken)) with
    waiters := shared.waiters.filter fun other => other ≠ woken }

def wakeAll (shared : Shared Thread T) : Shared Thread T :=
  { shared with
    stage := fun thread => wakened (shared.stage thread)
    waiters := [] }

def taken (queue : BoundedQueue T) (size : Nat) : Nat :=
  if queue.count < size then queue.count else size

def execute (shared : Shared Thread T) (thread : Thread) : Stage T → Option (Shared Thread T)
  -- push_batch
  | .pushLock items => shared.lock thread (.pushTest items)
  | .pushTest items =>
      some (shared.goto thread
        (if shared.queue.closed then .pushRefused else .pushLoop items items 0))
  | .pushRefused => some (shared.unlock thread (.returning (.dropped 0)))
  | .pushLoop items (item :: rest) dropped =>
      some ({ shared with queue := shared.queue.pushItem item }.goto thread
        (.pushLoop items rest
          (dropped + if shared.queue.count = shared.queue.capacity then 1 else 0)))
  | .pushLoop items [] dropped => some (shared.unlock thread (.pushCount items.length dropped))
  | .pushCount number dropped =>
      some ({ shared with
        queue := { shared.queue with
          pushed := shared.queue.pushed + UInt64.ofNat number } }.goto thread
            (.dropCount dropped))
  | .dropCount dropped =>
      some ({ shared with queue := shared.queue.countDropped dropped }.goto thread
        (.pushNotify dropped))
  -- pop_batch
  | .popLock size => shared.lock thread (.popTest size)
  | .popTest size =>
      if 0 < shared.queue.count ∨ shared.queue.closed then
        some (shared.goto thread (.popLoop (taken shared.queue size) []))
      else some (shared.wait thread size)
  | .popWait _ => some (shared.wake thread)
  | .popLast size =>
      some (shared.goto thread
        (if 0 < shared.queue.count ∨ shared.queue.closed then
          .popLoop (taken shared.queue size) []
        else .popTimedOut))
  | .popTimedOut => some (shared.unlock thread (.returning (.popped [])))
  | .popLoop n out =>
      if out.length < n then
        some (shared.goto thread (.popLoop n (out ++ [shared.queue.item out.length])))
      else
        some ({ shared with queue := shared.queue.skip n }.goto thread (.popRelease out))
  | .popRelease out => some (shared.unlock thread (.popCount out))
  | .popCount out =>
      some ({ shared with
        queue := { shared.queue with
          popped := shared.queue.popped + UInt64.ofNat out.length } }.goto thread
            (.returning (.popped out)))
  -- close
  | .closeLock => shared.lock thread .closeStore
  | .closeStore => some ({ shared with queue := shared.queue.close }.goto thread .closeRelease)
  | .closeRelease => some (shared.unlock thread .closeNotify)
  | .closeNotify => some (shared.wakeAll.goto thread (.returning .closed))
  | _ => none

def advance (shared : Shared Thread T) (thread : Thread) : Option (Shared Thread T) :=
  shared.execute thread (shared.stage thread)

def enter : Operation T → Stage T
  | .push items => if items.isEmpty then .returning (.dropped 0) else .pushLock items
  | .pop size => if size = 0 then .returning (.popped []) else .popLock size
  | .close => .closeLock

def step [DecidableEq T] (shared : Shared Thread T) :
    Label Thread T → Option (Shared Thread T)
  | .call thread operation =>
      match shared.stage thread with
      | .idle => some (shared.goto thread (enter operation))
      | _ => none
  | .advance thread => shared.advance thread
  | .notify thread woken =>
      match shared.stage thread with
      | .pushNotify dropped =>
          match woken with
          | some waiter =>
              if waiter ∈ shared.waiters then
                some ((shared.wake waiter).goto thread (.returning (.dropped dropped)))
              else none
          | none =>
              if shared.waiters = [] then
                some (shared.goto thread (.returning (.dropped dropped)))
              else none
      | _ => none
  | .reacquire thread late =>
      match shared.stage thread with
      | .popRelock size => shared.lock thread (if late then .popLast size else .popTest size)
      | _ => none
  | .reply thread answer =>
      match shared.stage thread with
      | .returning given => if given = answer then some (shared.goto thread .idle) else none
      | _ => none

def system (Thread : Type v) (T : Type u) [DecidableEq Thread] [DecidableEq T] [Inhabited T]
    (capacity : Nat) : System (Shared Thread T) (Label Thread T) where
  initial := fun shared => shared = create capacity
  step := step

/-! ## All that a step can do -/

inductive Moves (shared : Shared Thread T) : Label Thread T → Shared Thread T → Prop
  | call (stage : shared.stage thread = .idle) :
      Moves shared (.call thread operation) (shared.goto thread (enter operation))
  | pushLock (stage : shared.stage thread = .pushLock items)
      (locked : shared.lock thread (.pushTest items) = some after) :
      Moves shared (.advance thread) after
  | pushClosed (stage : shared.stage thread = .pushTest items)
      (closed : shared.queue.closed = true) :
      Moves shared (.advance thread) (shared.goto thread .pushRefused)
  | pushOpen (stage : shared.stage thread = .pushTest items)
      (isOpen : shared.queue.closed = false) :
      Moves shared (.advance thread) (shared.goto thread (.pushLoop items items 0))
  | pushRefused (stage : shared.stage thread = .pushRefused) :
      Moves shared (.advance thread) (shared.unlock thread (.returning (.dropped 0)))
  | pushItem {item : T} {dropped : Nat}
      (stage : shared.stage thread = .pushLoop items (item :: rest) dropped) :
      Moves shared (.advance thread)
        ({ shared with queue := shared.queue.pushItem item }.goto thread
          (.pushLoop items rest
            (dropped + if shared.queue.count = shared.queue.capacity then 1 else 0)))
  | pushUnlock {dropped : Nat} (stage : shared.stage thread = .pushLoop items [] dropped) :
      Moves shared (.advance thread) (shared.unlock thread (.pushCount items.length dropped))
  | pushCount {dropped : Nat} (stage : shared.stage thread = .pushCount number dropped) :
      Moves shared (.advance thread)
        ({ shared with
          queue := { shared.queue with
            pushed := shared.queue.pushed + UInt64.ofNat number } }.goto thread
              (.dropCount dropped))
  | dropCount {dropped : Nat} (stage : shared.stage thread = .dropCount dropped) :
      Moves shared (.advance thread)
        ({ shared with queue := shared.queue.countDropped dropped }.goto thread
          (.pushNotify dropped))
  | notify {dropped : Nat} (stage : shared.stage thread = .pushNotify dropped)
      (member : waiter ∈ shared.waiters) :
      Moves shared (.notify thread (some waiter))
        ((shared.wake waiter).goto thread (.returning (.dropped dropped)))
  | notifyNobody {dropped : Nat} (stage : shared.stage thread = .pushNotify dropped)
      (nobody : shared.waiters = []) :
      Moves shared (.notify thread none) (shared.goto thread (.returning (.dropped dropped)))
  | popLock (stage : shared.stage thread = .popLock size)
      (locked : shared.lock thread (.popTest size) = some after) :
      Moves shared (.advance thread) after
  | popReady (stage : shared.stage thread = .popTest size ∨ shared.stage thread = .popLast size)
      (ready : 0 < shared.queue.count ∨ shared.queue.closed = true) :
      Moves shared (.advance thread)
        (shared.goto thread (.popLoop (taken shared.queue size) []))
  | popBlock (stage : shared.stage thread = .popTest size) (empty : shared.queue.count = 0)
      (isOpen : shared.queue.closed = false) :
      Moves shared (.advance thread) (shared.wait thread size)
  | popWake (stage : shared.stage thread = .popWait size) :
      Moves shared (.advance thread) (shared.wake thread)
  | popRelock (stage : shared.stage thread = .popRelock size)
      (locked : shared.lock thread (if late then .popLast size else .popTest size) =
        some after) :
      Moves shared (.reacquire thread late) after
  | popTimeout (stage : shared.stage thread = .popLast size) (empty : shared.queue.count = 0)
      (isOpen : shared.queue.closed = false) :
      Moves shared (.advance thread) (shared.goto thread .popTimedOut)
  | popTimedOut (stage : shared.stage thread = .popTimedOut) :
      Moves shared (.advance thread) (shared.unlock thread (.returning (.popped [])))
  | popItem (stage : shared.stage thread = .popLoop n out) (more : out.length < n) :
      Moves shared (.advance thread)
        (shared.goto thread (.popLoop n (out ++ [shared.queue.item out.length])))
  | popSkip (stage : shared.stage thread = .popLoop n out) (done : n ≤ out.length) :
      Moves shared (.advance thread)
        ({ shared with queue := shared.queue.skip n }.goto thread (.popRelease out))
  | popRelease (stage : shared.stage thread = .popRelease out) :
      Moves shared (.advance thread) (shared.unlock thread (.popCount out))
  | popCount (stage : shared.stage thread = .popCount out) :
      Moves shared (.advance thread)
        ({ shared with
          queue := { shared.queue with
            popped := shared.queue.popped + UInt64.ofNat out.length } }.goto thread
              (.returning (.popped out)))
  | closeLock (stage : shared.stage thread = .closeLock)
      (locked : shared.lock thread .closeStore = some after) :
      Moves shared (.advance thread) after
  | closeStore (stage : shared.stage thread = .closeStore) :
      Moves shared (.advance thread)
        ({ shared with queue := shared.queue.close }.goto thread .closeRelease)
  | closeRelease (stage : shared.stage thread = .closeRelease) :
      Moves shared (.advance thread) (shared.unlock thread .closeNotify)
  | closeNotify (stage : shared.stage thread = .closeNotify) :
      Moves shared (.advance thread) (shared.wakeAll.goto thread (.returning .closed))
  | reply (stage : shared.stage thread = .returning answer) :
      Moves shared (.reply thread answer) (shared.goto thread .idle)

variable {shared : Shared Thread T} {thread : Thread}

theorem notReady {queue : BoundedQueue T} (notReady : ¬(0 < queue.count ∨ queue.closed = true)) :
    queue.count = 0 ∧ queue.closed = false := by
  rw [not_or, Bool.not_eq_true] at notReady
  exact ⟨Nat.eq_zero_of_not_pos notReady.1, notReady.2⟩

theorem Moves.ofAdvance {after : Shared Thread T} (advanced : shared.advance thread = some after) :
    Moves shared (.advance thread) after := by
  unfold advance execute at advanced
  split at advanced
  · exact .pushLock ‹_› advanced
  · cases advanced
    split
    · exact .pushClosed ‹_› ‹_›
    · exact .pushOpen ‹_› (Bool.not_eq_true _ ▸ ‹_›)
  · cases advanced
    exact .pushRefused ‹_›
  · cases advanced
    exact .pushItem ‹_›
  · cases advanced
    exact .pushUnlock ‹_›
  · cases advanced
    exact .pushCount ‹_›
  · cases advanced
    exact .dropCount ‹_›
  · exact .popLock ‹_› advanced
  · split at advanced
    · cases advanced
      exact .popReady (.inl ‹_›) ‹_›
    · rename_i false
      cases advanced
      exact .popBlock ‹_› (notReady false).1 (notReady false).2
  · cases advanced
    exact .popWake ‹_›
  · cases advanced
    split
    · exact .popReady (.inr ‹_›) ‹_›
    · rename_i false
      exact .popTimeout ‹_› (notReady false).1 (notReady false).2
  · cases advanced
    exact .popTimedOut ‹_›
  · split at advanced
    · cases advanced
      exact .popItem ‹_› ‹_›
    · cases advanced
      exact .popSkip ‹_› (Nat.le_of_not_lt ‹_›)
  · cases advanced
    exact .popRelease ‹_›
  · cases advanced
    exact .popCount ‹_›
  · exact .closeLock ‹_› advanced
  · cases advanced
    exact .closeStore ‹_›
  · cases advanced
    exact .closeRelease ‹_›
  · cases advanced
    exact .closeNotify ‹_›
  · cases advanced

theorem Moves.ofStep [DecidableEq T] {label : Label Thread T} {after : Shared Thread T}
    (stepped : shared.step label = some after) : Moves shared label after := by
  cases label with
  | call thread operation =>
      rw [step] at stepped
      split at stepped
      · cases stepped
        exact .call ‹_›
      · cases stepped
  | advance thread => exact .ofAdvance stepped
  | notify thread woken =>
      simp only [step] at stepped
      split at stepped
      · split at stepped
        · split at stepped
          · cases stepped
            exact .notify ‹_› ‹_›
          · cases stepped
        · split at stepped
          · cases stepped
            exact .notifyNobody ‹_› ‹_›
          · cases stepped
      · cases stepped
  | reacquire thread late =>
      rw [step] at stepped
      split at stepped
      · exact .popRelock ‹_› stepped
      · cases stepped
  | reply thread answer =>
      rw [step] at stepped
      split at stepped
      · split at stepped
        · rename_i same
          cases stepped
          cases same
          exact .reply ‹_›
        · cases stepped
      · cases stepped

/-! ## Mutual exclusion -/

/-- The mutex belongs to whoever is inside a critical section, and `cv_` knows
who waits. -/
structure Consistent (shared : Shared Thread T) : Prop where
  owner : ∀ thread, shared.owner = some thread ↔ (shared.stage thread).holds = true
  waiters : ∀ thread, thread ∈ shared.waiters ↔ (shared.stage thread).waits = true

@[simp] theorem stage_goto (shared : Shared Thread T) (thread : Thread) (stage : Stage T) :
    (shared.goto thread stage).stage thread = stage :=
  Function.update_self ..

theorem stage_goto_of_ne (shared : Shared Thread T) {thread other : Thread} (stage : Stage T)
    (different : other ≠ thread) : (shared.goto thread stage).stage other = shared.stage other :=
  Function.update_of_ne different ..

omit [DecidableEq Thread] in
theorem Consistent.free (consistent : shared.Consistent) (free : shared.owner = none)
    (other : Thread) : (shared.stage other).holds = false := by
  cases holds : (shared.stage other).holds with
  | false => rfl
  | true =>
      rw [(consistent.owner other).mpr holds] at free
      cases free

omit [DecidableEq Thread] in
theorem Consistent.alone (consistent : shared.Consistent)
    (holds : (shared.stage thread).holds = true) {other : Thread} (different : other ≠ thread) :
    (shared.stage other).holds = false := by
  cases others : (shared.stage other).holds with
  | false => rfl
  | true =>
      have mine := (consistent.owner thread).mpr holds
      rw [(consistent.owner other).mpr others] at mine
      exact absurd (Option.some.inj mine) different

omit [DecidableEq Thread] in
theorem Consistent.setQueue (consistent : shared.Consistent) (queue : BoundedQueue T) :
    ({ shared with queue := queue } : Shared Thread T).Consistent :=
  ⟨consistent.owner, consistent.waiters⟩

theorem Consistent.goto (consistent : shared.Consistent) {stage : Stage T}
    (holds : stage.holds = (shared.stage thread).holds)
    (waits : stage.waits = (shared.stage thread).waits) :
    (shared.goto thread stage).Consistent := by
  constructor
  · intro other
    rcases eq_or_ne other thread with rfl | different
    · rw [stage_goto, holds]
      exact consistent.owner other
    · rw [stage_goto_of_ne shared stage different]
      exact consistent.owner other
  · intro other
    rcases eq_or_ne other thread with rfl | different
    · rw [stage_goto, waits]
      exact consistent.waiters other
    · rw [stage_goto_of_ne shared stage different]
      exact consistent.waiters other

theorem Consistent.lock (consistent : shared.Consistent) {stage : Stage T}
    (holds : stage.holds = true) (waits : stage.waits = (shared.stage thread).waits)
    {after : Shared Thread T} (locked : shared.lock thread stage = some after) :
    shared.owner = none ∧ after = { shared.goto thread stage with owner := some thread } ∧
      after.Consistent := by
  rw [Shared.lock] at locked
  split at locked
  · rename_i free
    cases locked
    refine ⟨free, rfl, ?_, ?_⟩
    · intro other
      rcases eq_or_ne other thread with rfl | different
      · exact iff_of_true rfl ((congrArg Stage.holds (stage_goto ..)).trans holds)
      · change some thread = some other ↔ ((shared.goto thread stage).stage other).holds = true
        rw [stage_goto_of_ne shared stage different, consistent.free free other]
        exact iff_of_false (fun same => different (Option.some.inj same).symm)
          Bool.false_ne_true
    · intro other
      change other ∈ shared.waiters ↔ ((shared.goto thread stage).stage other).waits = true
      rcases eq_or_ne other thread with rfl | different
      · rw [stage_goto, waits]
        exact consistent.waiters other
      · rw [stage_goto_of_ne shared stage different]
        exact consistent.waiters other
  · cases locked

theorem Consistent.unlock (consistent : shared.Consistent)
    (held : (shared.stage thread).holds = true) {stage : Stage T}
    (holds : stage.holds = false) (waits : stage.waits = (shared.stage thread).waits) :
    (shared.unlock thread stage).Consistent := by
  constructor
  · intro other
    change none = some other ↔ ((shared.goto thread stage).stage other).holds = true
    rcases eq_or_ne other thread with rfl | different
    · rw [stage_goto, holds]
      exact iff_of_false (fun same => by cases same) Bool.false_ne_true
    · rw [stage_goto_of_ne shared stage different, consistent.alone held different]
      exact iff_of_false (fun same => by cases same) Bool.false_ne_true
  · intro other
    change other ∈ shared.waiters ↔ ((shared.goto thread stage).stage other).waits = true
    rcases eq_or_ne other thread with rfl | different
    · rw [stage_goto, waits]
      exact consistent.waiters other
    · rw [stage_goto_of_ne shared stage different]
      exact consistent.waiters other

theorem Consistent.wait (consistent : shared.Consistent)
    (held : (shared.stage thread).holds = true) (size : Nat) :
    (shared.wait thread size).Consistent := by
  constructor
  · intro other
    change none = some other ↔ ((shared.goto thread (.popWait size)).stage other).holds = true
    rcases eq_or_ne other thread with rfl | different
    · rw [stage_goto]
      exact iff_of_false (fun same => by cases same) Bool.false_ne_true
    · rw [stage_goto_of_ne shared _ different, consistent.alone held different]
      exact iff_of_false (fun same => by cases same) Bool.false_ne_true
  · intro other
    change other ∈ thread :: shared.waiters ↔
      ((shared.goto thread (.popWait size)).stage other).waits = true
    rcases eq_or_ne other thread with rfl | different
    · rw [stage_goto]
      exact iff_of_true List.mem_cons_self rfl
    · rw [stage_goto_of_ne shared _ different, List.mem_cons, or_iff_right different]
      exact consistent.waiters other

@[simp] theorem holds_wakened (stage : Stage T) : (wakened stage).holds = stage.holds := by
  cases stage <;> rfl

@[simp] theorem waits_wakened (stage : Stage T) : (wakened stage).waits = false := by
  cases stage <;> rfl

theorem Consistent.wake (consistent : shared.Consistent) (woken : Thread) :
    (shared.wake woken).Consistent := by
  constructor
  · intro other
    change shared.owner = some other ↔ ((shared.goto woken _).stage other).holds = true
    rcases eq_or_ne other woken with rfl | different
    · rw [stage_goto, holds_wakened]
      exact consistent.owner other
    · rw [stage_goto_of_ne shared _ different]
      exact consistent.owner other
  · intro other
    change other ∈ shared.waiters.filter _ ↔ ((shared.goto woken _).stage other).waits = true
    rw [List.mem_filter, decide_eq_true_eq, consistent.waiters]
    rcases eq_or_ne other woken with rfl | different
    · rw [stage_goto, waits_wakened]
      exact iff_of_false (fun both => both.2 rfl) Bool.false_ne_true
    · rw [stage_goto_of_ne shared _ different]
      exact and_iff_left different

theorem stage_wake_of_not_waits (woken : Thread)
    (notWaits : (shared.stage thread).waits = false) :
    (shared.wake woken).stage thread = shared.stage thread := by
  change (shared.goto woken _).stage thread = _
  rcases eq_or_ne thread woken with rfl | different
  · rw [stage_goto]
    cases stage : shared.stage thread with
    | popWait size =>
        rw [stage] at notWaits
        cases notWaits
    | _ => rfl
  · exact stage_goto_of_ne shared _ different

omit [DecidableEq Thread] in
theorem Consistent.wakeAll (consistent : shared.Consistent) : shared.wakeAll.Consistent := by
  constructor
  · intro other
    change shared.owner = some other ↔ (wakened (shared.stage other)).holds = true
    rw [holds_wakened]
    exact consistent.owner other
  · intro other
    change other ∈ [] ↔ (wakened (shared.stage other)).waits = true
    rw [waits_wakened]
    exact iff_of_false List.not_mem_nil Bool.false_ne_true

@[simp] theorem holds_enter (operation : Operation T) : (enter operation).holds = false := by
  cases operation with
  | push items =>
      rw [enter]
      split <;> rfl
  | pop size =>
      rw [enter]
      split <;> rfl
  | close => rfl

@[simp] theorem waits_enter (operation : Operation T) : (enter operation).waits = false := by
  cases operation with
  | push items =>
      rw [enter]
      split <;> rfl
  | pop size =>
      rw [enter]
      split <;> rfl
  | close => rfl

theorem Consistent.moves (consistent : shared.Consistent) {label : Label Thread T}
    {after : Shared Thread T} (moved : Moves shared label after) : after.Consistent := by
  cases moved with
  | call stage =>
      apply consistent.goto
      · rw [stage, holds_enter]
        rfl
      · rw [stage, waits_enter]
        rfl
  | pushLock stage locked => exact (consistent.lock rfl (by rw [stage]; rfl) locked).2.2
  | pushClosed stage => exact consistent.goto (by rw [stage]; rfl) (by rw [stage]; rfl)
  | pushOpen stage => exact consistent.goto (by rw [stage]; rfl) (by rw [stage]; rfl)
  | pushRefused stage => exact consistent.unlock (by rw [stage]; rfl) rfl (by rw [stage]; rfl)
  | pushItem stage =>
      exact (consistent.setQueue _).goto (congrArg Stage.holds stage).symm
        (congrArg Stage.waits stage).symm
  | pushUnlock stage => exact consistent.unlock (by rw [stage]; rfl) rfl (by rw [stage]; rfl)
  | pushCount stage =>
      exact (consistent.setQueue _).goto (congrArg Stage.holds stage).symm
        (congrArg Stage.waits stage).symm
  | dropCount stage =>
      exact (consistent.setQueue _).goto (congrArg Stage.holds stage).symm
        (congrArg Stage.waits stage).symm
  | notify stage member =>
      have notWaits := (congrArg Stage.waits stage).trans rfl
      apply (consistent.wake _).goto
      · rw [stage_wake_of_not_waits _ notWaits, stage]
        rfl
      · rw [stage_wake_of_not_waits _ notWaits, stage]
        rfl
  | notifyNobody stage => exact consistent.goto (by rw [stage]; rfl) (by rw [stage]; rfl)
  | popLock stage locked => exact (consistent.lock rfl (by rw [stage]; rfl) locked).2.2
  | popReady stage =>
      rcases stage with stage | stage <;>
        exact consistent.goto (by rw [stage]; rfl) (by rw [stage]; rfl)
  | popBlock stage => exact consistent.wait (by rw [stage]; rfl) _
  | popWake => exact consistent.wake _
  | popRelock stage locked =>
      refine (consistent.lock ?_ ?_ locked).2.2
      · split <;> rfl
      · rw [stage]
        split <;> rfl
  | popTimeout stage => exact consistent.goto (by rw [stage]; rfl) (by rw [stage]; rfl)
  | popTimedOut stage => exact consistent.unlock (by rw [stage]; rfl) rfl (by rw [stage]; rfl)
  | popItem stage => exact consistent.goto (by rw [stage]; rfl) (by rw [stage]; rfl)
  | popSkip stage =>
      exact (consistent.setQueue _).goto (congrArg Stage.holds stage).symm
        (congrArg Stage.waits stage).symm
  | popRelease stage => exact consistent.unlock (by rw [stage]; rfl) rfl (by rw [stage]; rfl)
  | popCount stage =>
      exact (consistent.setQueue _).goto (congrArg Stage.holds stage).symm
        (congrArg Stage.waits stage).symm
  | closeLock stage locked => exact (consistent.lock rfl (by rw [stage]; rfl) locked).2.2
  | closeStore stage =>
      exact (consistent.setQueue _).goto (congrArg Stage.holds stage).symm
        (congrArg Stage.waits stage).symm
  | closeRelease stage => exact consistent.unlock (by rw [stage]; rfl) rfl (by rw [stage]; rfl)
  | closeNotify stage =>
      refine consistent.wakeAll.goto ?_ ?_
      · exact (congrArg (fun stage => (wakened stage).holds) stage).symm
      · exact (congrArg (fun stage => (wakened stage).waits) stage).symm
  | reply stage => exact consistent.goto (by rw [stage]; rfl) (by rw [stage]; rfl)

omit [DecidableEq Thread] in
theorem consistent_create [Inhabited T] (capacity : Nat) :
    (create capacity : Shared Thread T).Consistent :=
  ⟨fun _ => iff_of_false (fun same => by cases same) Bool.false_ne_true,
    fun _ => iff_of_false List.not_mem_nil Bool.false_ne_true⟩

theorem consistent_of_reachable [DecidableEq T] [Inhabited T] {capacity : Nat}
    {guard : Shared Thread T → Label Thread T → Prop}
    (reached : (system Thread T capacity).ReachableUnder guard shared) : shared.Consistent := by
  apply reached.invariant
  · rintro state rfl
    exact consistent_create capacity
  · intro state label after _ _ consistent stepped
    exact consistent.moves (.ofStep stepped)

end

end Shared

end TelemetryGateway.BoundedQueue
