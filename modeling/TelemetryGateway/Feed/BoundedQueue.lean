import Mathlib.Data.Nat.ModEq
import TelemetryGateway.Foundation.DropOldest

/-! # The bounded queue

A circular buffer behind a mutex. A push never waits: when the buffer is full
it overwrites the oldest item and counts it. A critical section is one step
here, together with the relaxed counters that follow it and that nothing but
`stats` reads.

`losses` is history, and no member of the class: the items ever overwritten, as a
number that does not go around. -/

namespace TelemetryGateway

structure BoundedQueue (T : Type u) where
  capacity : Nat
  buf : Vector T capacity
  head : Nat
  count : Nat
  closed : Bool
  pushed : UInt64
  popped : UInt64
  dropped : UInt64
  losses : Nat
  inside : head < capacity
  fits : count ≤ capacity
  counted : dropped = UInt64.ofNat losses

namespace BoundedQueue

def create [Inhabited T] (capacity : Nat) : BoundedQueue T where
  capacity := if capacity = 0 then 1 else capacity
  buf := Vector.replicate _ default
  head := 0
  count := 0
  closed := false
  pushed := 0
  popped := 0
  dropped := 0
  losses := 0
  inside := by
    split
    · exact Nat.one_pos
    · exact Nat.pos_of_ne_zero ‹_›
  fits := Nat.zero_le _
  counted := rfl

section

variable {T : Type u}

theorem positive (queue : BoundedQueue T) : 0 < queue.capacity :=
  Nat.lt_of_le_of_lt (Nat.zero_le _) queue.inside

def item (queue : BoundedQueue T) (offset : Nat) : T :=
  queue.buf.get ⟨(queue.head + offset) % queue.capacity, Nat.mod_lt _ queue.positive⟩

def skip (queue : BoundedQueue T) (n : Nat) : BoundedQueue T :=
  { queue with
    head := (queue.head + n) % queue.capacity
    count := queue.count - n
    inside := Nat.mod_lt _ queue.positive
    fits := Nat.le_trans (Nat.sub_le _ _) queue.fits }

/-! ## Pushing -/

def store (queue : BoundedQueue T) (item : T) (room : queue.count < queue.capacity) :
    BoundedQueue T :=
  { queue with
    buf := queue.buf.set ((queue.head + queue.count) % queue.capacity) item
      (Nat.mod_lt _ queue.positive)
    count := queue.count + 1
    fits := room }

theorem room_skip {queue : BoundedQueue T} (full : queue.count = queue.capacity) :
    (queue.skip 1).count < (queue.skip 1).capacity := by
  change queue.count - 1 < queue.capacity
  have positive := queue.positive
  omega

def pushItem (queue : BoundedQueue T) (item : T) : BoundedQueue T :=
  if full : queue.count = queue.capacity then
    (queue.skip 1).store item (room_skip full)
  else
    queue.store item (Nat.lt_of_le_of_ne queue.fits full)

def pushItems (queue : BoundedQueue T) (dropped : Nat) : List T → BoundedQueue T × Nat
  | [] => (queue, dropped)
  | item :: rest =>
      (queue.pushItem item).pushItems
        (dropped + if queue.count = queue.capacity then 1 else 0) rest

def countDropped (queue : BoundedQueue T) (dropped : Nat) : BoundedQueue T :=
  { queue with
    dropped := queue.dropped + UInt64.ofNat dropped
    losses := queue.losses + dropped
    counted := by rw [UInt64.ofNat_add, ← queue.counted] }

def pushBatch (queue : BoundedQueue T) (items : List T) : BoundedQueue T × Nat :=
  if items.isEmpty then (queue, 0)
  else if queue.closed then (queue, 0)
  else
    let (filled, dropped) := queue.pushItems 0 items
    ({ filled with pushed := filled.pushed + UInt64.ofNat items.length }.countDropped dropped,
      dropped)

/-! ## Popping -/

/-- `pop_batch` into a buffer of `size` items. A wait that times out finds the
queue empty and open, and then nothing is taken either. -/
def popBatch (queue : BoundedQueue T) (size : Nat) : BoundedQueue T × List T :=
  if size = 0 then (queue, [])
  else
    let n := if queue.count < size then queue.count else size
    ({ queue.skip n with popped := queue.popped + UInt64.ofNat n }, (List.range n).map queue.item)

def close (queue : BoundedQueue T) : BoundedQueue T :=
  { queue with closed := true }

/-! ## The list it stands for -/

/-- The items of the queue, the oldest first. -/
def contents (queue : BoundedQueue T) : List T :=
  (List.range queue.count).map queue.item

@[simp] theorem length_contents (queue : BoundedQueue T) :
    queue.contents.length = queue.count := by
  rw [contents, List.length_map, List.length_range]

theorem item_skip (queue : BoundedQueue T) (n offset : Nat) :
    (queue.skip n).item offset = queue.item (n + offset) := by
  unfold item skip
  congr 2
  rw [Nat.mod_add_mod, Nat.add_assoc]

theorem contents_skip (queue : BoundedQueue T) (n : Nat) :
    (queue.skip n).contents = queue.contents.drop n := by
  apply List.ext_getElem
  · rw [length_contents, List.length_drop, length_contents]
    rfl
  · intro offset left right
    simp only [contents, List.getElem_map, List.getElem_drop, List.getElem_range]
    exact queue.item_skip n offset

theorem offset_apart {capacity head left right : Nat} (ordered : left < right)
    (small : right < capacity) : (head + left) % capacity ≠ (head + right) % capacity := by
  intro same
  have equal : left % capacity = right % capacity := Nat.ModEq.add_left_cancel' head same
  rw [Nat.mod_eq_of_lt (Nat.lt_trans ordered small), Nat.mod_eq_of_lt small] at equal
  exact absurd equal (Nat.ne_of_lt ordered)

theorem contents_store (queue : BoundedQueue T) (item : T)
    (room : queue.count < queue.capacity) :
    (queue.store item room).contents = queue.contents ++ [item] := by
  unfold contents
  change (List.range (queue.count + 1)).map _ = _
  rw [List.range_succ, List.map_append, List.map_singleton]
  congr 1
  · refine List.map_congr_left ?_
    intro offset member
    exact Vector.getElem_set_ne (Nat.mod_lt _ queue.positive) _
      (offset_apart (List.mem_range.mp member) room).symm
  · exact congrArg (fun item => [item]) (Vector.getElem_set_self _)

theorem contents_pushItem (queue : BoundedQueue T) (item : T) :
    (queue.pushItem item).contents = (queue.contents ++ [item]).rtake queue.capacity := by
  unfold pushItem List.rtake
  rw [List.length_append, List.length_singleton, length_contents]
  split
  · rename_i full
    rw [contents_store, contents_skip, full, Nat.add_sub_cancel_left,
      List.drop_append_of_le_length]
    rw [length_contents, full]
    exact queue.positive
  · rename_i room
    have small : queue.count < queue.capacity := Nat.lt_of_le_of_ne queue.fits room
    rw [contents_store, Nat.sub_eq_zero_of_le small, List.drop_zero]

structure SameCounters (before after : BoundedQueue T) : Prop where
  capacity : after.capacity = before.capacity
  closed : after.closed = before.closed
  pushed : after.pushed = before.pushed
  popped : after.popped = before.popped
  dropped : after.dropped = before.dropped
  losses : after.losses = before.losses

theorem sameCounters_pushItem (queue : BoundedQueue T) (item : T) :
    SameCounters queue (queue.pushItem item) := by
  unfold pushItem
  split <;> exact ⟨rfl, rfl, rfl, rfl, rfl, rfl⟩

theorem sameCounters_pushItems (queue : BoundedQueue T) (dropped : Nat) (items : List T) :
    SameCounters queue (queue.pushItems dropped items).1 := by
  induction items generalizing queue dropped with
  | nil => exact ⟨rfl, rfl, rfl, rfl, rfl, rfl⟩
  | cons item rest induction =>
      have first := queue.sameCounters_pushItem item
      have others := induction (queue.pushItem item)
        (dropped + if queue.count = queue.capacity then 1 else 0)
      exact ⟨others.capacity.trans first.capacity, others.closed.trans first.closed,
        others.pushed.trans first.pushed, others.popped.trans first.popped,
        others.dropped.trans first.dropped, others.losses.trans first.losses⟩

theorem contents_pushItems (queue : BoundedQueue T) (dropped : Nat) (items : List T) :
    (queue.pushItems dropped items).1.contents = (queue.contents ++ items).rtake queue.capacity ∧
      (queue.pushItems dropped items).2 =
        dropped + (queue.count + items.length - queue.capacity) := by
  induction items generalizing queue dropped with
  | nil =>
      rw [List.append_nil, List.length_nil, Nat.add_zero, Nat.sub_eq_zero_of_le queue.fits,
        List.rtake, length_contents, Nat.sub_eq_zero_of_le queue.fits]
      exact ⟨rfl, rfl⟩
  | cons item rest induction =>
      have capacity := (queue.sameCounters_pushItem item).capacity
      have pushed := queue.contents_pushItem item
      have count : (queue.pushItem item).count =
          queue.count + 1 - (queue.count + 1 - queue.capacity) := by
        rw [← length_contents, pushed, List.rtake, List.length_drop, List.length_append,
          length_contents, List.length_singleton]
      rcases induction (queue.pushItem item)
        (dropped + if queue.count = queue.capacity then 1 else 0) with ⟨contents, number⟩
      rw [pushItems]
      constructor
      · rw [contents, capacity, pushed, rtake_rtake_append, List.append_assoc]
        rfl
      · have fits := queue.fits
        rw [number, capacity, count, List.length_cons]
        split <;> omega

/-! ## One spec for each operation -/

theorem pushBatch_open {queue : BoundedQueue T} (isOpen : queue.closed = false)
    (items : List T) :
    (queue.pushBatch items).1.contents = (queue.contents ++ items).rtake queue.capacity ∧
      (queue.pushBatch items).1.losses =
        queue.losses + (queue.count + items.length - queue.capacity) ∧
      (queue.pushBatch items).1.closed = false := by
  cases items with
  | nil =>
      rcases queue.contents_pushItems 0 [] with ⟨contents, number⟩
      rw [Nat.zero_add] at number
      rw [← contents, ← number]
      exact ⟨rfl, rfl, isOpen⟩
  | cons item rest =>
      rcases queue.contents_pushItems 0 (item :: rest) with ⟨contents, number⟩
      have same := queue.sameCounters_pushItems 0 (item :: rest)
      rw [Nat.zero_add] at number
      simp only [pushBatch, List.isEmpty_cons, isOpen, Bool.false_eq_true, if_false]
      refine ⟨contents, ?_, same.closed.trans isOpen⟩
      change (queue.pushItems 0 (item :: rest)).1.losses + _ = _
      rw [same.losses, number]

theorem pushBatch_closed {queue : BoundedQueue T} (isClosed : queue.closed = true)
    (items : List T) : queue.pushBatch items = (queue, 0) := by
  unfold pushBatch
  rw [if_pos isClosed, ite_self]

theorem popBatch_spec (queue : BoundedQueue T) (size : Nat) :
    (queue.popBatch size).2 = queue.contents.take size ∧
      (queue.popBatch size).1.contents = queue.contents.drop size ∧
      (queue.popBatch size).1.losses = queue.losses ∧
      (queue.popBatch size).1.closed = queue.closed := by
  unfold popBatch
  split
  · rename_i none
    rw [none]
    exact ⟨rfl, rfl, rfl, rfl⟩
  · have number : (if queue.count < size then queue.count else size) = min size queue.count := by
      split <;> omega
    dsimp only
    rw [number]
    refine ⟨?_, ?_, rfl, rfl⟩
    · unfold contents
      rw [← List.map_take, List.take_range]
    · have rest : (queue.skip (min size queue.count)).contents = queue.contents.drop size := by
        rw [contents_skip]
        rcases Nat.le_total size queue.count with fewer | all
        · rw [Nat.min_eq_left fewer]
        · rw [Nat.min_eq_right all, List.drop_eq_nil_of_le, List.drop_eq_nil_of_le]
          · rw [length_contents]
            exact all
          · exact Nat.le_of_eq queue.length_contents
      exact rest

theorem closed_pushBatch (queue : BoundedQueue T) (items : List T) :
    (queue.pushBatch items).1.closed = queue.closed := by
  cases isClosed : queue.closed with
  | true => rw [pushBatch_closed isClosed, isClosed]
  | false => exact (pushBatch_open isClosed items).2.2

theorem pushBatch_splits {queue : BoundedQueue T} (isOpen : queue.closed = false)
    (items : List T) :
    (queue.contents ++ items).take ((queue.pushBatch items).1.losses - queue.losses) ++
        (queue.pushBatch items).1.contents = queue.contents ++ items ∧
      (queue.pushBatch items).1.losses = queue.losses + ((queue.contents ++ items).take
        ((queue.pushBatch items).1.losses - queue.losses)).length := by
  rcases pushBatch_open isOpen items with ⟨kept, losses, _⟩
  have excess : (queue.pushBatch items).1.losses - queue.losses =
      (queue.contents ++ items).length - queue.capacity := by
    rw [losses, Nat.add_sub_cancel_left, List.length_append, length_contents]
  rw [excess]
  constructor
  · rw [kept, List.rtake, List.take_append_drop]
  · rw [List.length_take_of_le (Nat.sub_le _ _), losses, List.length_append, length_contents]

/-! ## Against all that was offered -/

/-- A queue holds a run of the items it was offered, the newest of them while
it is open, and gave out only earlier ones, in order. -/
structure Serves (queue : BoundedQueue T) (offered delivered : List T) : Prop where
  held : queue.contents <:+: offered
  newest : queue.closed = false → queue.contents <:+ offered
  delivered : (delivered ++ queue.contents).Sublist offered

theorem Serves.push {queue : BoundedQueue T} {offered delivered : List T}
    (serves : queue.Serves offered delivered) (items : List T) :
    (queue.pushBatch items).1.Serves (offered ++ items) delivered := by
  cases isClosed : queue.closed with
  | true =>
      rw [pushBatch_closed isClosed]
      refine ⟨serves.held.trans (List.prefix_append _ _).isInfix, ?_, ?_⟩
      · rw [isClosed]
        exact fun isOpen => nomatch isOpen
      · exact serves.delivered.trans (List.sublist_append_left _ _)
  | false =>
      have kept : (queue.pushBatch items).1.contents <:+ queue.contents ++ items := by
        rw [(pushBatch_open isClosed items).1]
        exact List.drop_suffix ..
      have grown : queue.contents ++ items <:+ offered ++ items :=
        List.suffix_append_self_iff.mpr (serves.newest isClosed)
      refine ⟨(kept.trans grown).isInfix, fun _ => kept.trans grown, ?_⟩
      have all : (delivered ++ (queue.contents ++ items)).Sublist (offered ++ items) := by
        rw [← List.append_assoc]
        exact serves.delivered.append (List.Sublist.refl _)
      exact (kept.sublist.append_left delivered).trans all

theorem Serves.pop {queue : BoundedQueue T} {offered delivered : List T}
    (serves : queue.Serves offered delivered) (size : Nat) :
    (queue.popBatch size).1.Serves offered (delivered ++ (queue.popBatch size).2) := by
  rcases queue.popBatch_spec size with ⟨taken, rest, _, closed⟩
  have behind : queue.contents.drop size <:+ queue.contents := List.drop_suffix ..
  refine ⟨?_, ?_, ?_⟩
  · rw [rest]
    exact behind.isInfix.trans serves.held
  · intro isOpen
    rw [closed] at isOpen
    rw [rest]
    exact behind.trans (serves.newest isOpen)
  · rw [taken, rest, List.append_assoc, List.take_append_drop]
    exact serves.delivered

theorem Serves.close {queue : BoundedQueue T} {offered delivered : List T}
    (serves : queue.Serves offered delivered) : queue.close.Serves offered delivered :=
  ⟨serves.held, fun isOpen => (nomatch isOpen), serves.delivered⟩

/-! ## The ledger -/

theorem pushBatch_counts {queue : BoundedQueue T} (isOpen : queue.closed = false)
    (items : List T) :
    (queue.pushBatch items).2 = queue.count + items.length - queue.capacity ∧
      (queue.pushBatch items).1.pushed = queue.pushed + UInt64.ofNat items.length ∧
      (queue.pushBatch items).1.popped = queue.popped ∧
      (queue.pushBatch items).1.capacity = queue.capacity := by
  cases items with
  | nil =>
      refine ⟨?_, (UInt64.add_zero _).symm, rfl, rfl⟩
      rw [List.length_nil, Nat.add_zero, Nat.sub_eq_zero_of_le queue.fits]
      rfl
  | cons item rest =>
      have number := (queue.contents_pushItems 0 (item :: rest)).2
      have same := queue.sameCounters_pushItems 0 (item :: rest)
      rw [Nat.zero_add] at number
      simp only [pushBatch, List.isEmpty_cons, isOpen, Bool.false_eq_true, if_false]
      exact ⟨number, congrArg (· + _) same.pushed, same.popped, same.capacity⟩

theorem popBatch_counts (queue : BoundedQueue T) (size : Nat) :
    (queue.popBatch size).1.popped = queue.popped + UInt64.ofNat (min size queue.count) ∧
      (queue.popBatch size).1.pushed = queue.pushed ∧
      (queue.popBatch size).1.capacity = queue.capacity := by
  unfold popBatch
  split
  · rename_i none
    rw [none, Nat.zero_min]
    exact ⟨(UInt64.add_zero _).symm, rfl, rfl⟩
  · refine ⟨?_, rfl, rfl⟩
    have number : (if queue.count < size then queue.count else size) = min size queue.count := by
      split <;> omega
    rw [number]

/-- Everything offered was handed out, dropped, or is still there, in the
arithmetic of the counters. -/
def Balanced (queue : BoundedQueue T) : Prop :=
  queue.pushed = queue.popped + queue.dropped + UInt64.ofNat queue.count

theorem Balanced.pushBatch {queue : BoundedQueue T} (balanced : queue.Balanced)
    (items : List T) : (queue.pushBatch items).1.Balanced := by
  cases isClosed : queue.closed with
  | true =>
      rw [pushBatch_closed isClosed]
      exact balanced
  | false =>
      rcases pushBatch_open isClosed items with ⟨contents, losses, _⟩
      rcases pushBatch_counts isClosed items with ⟨_, pushed, popped, _⟩
      have count : (queue.pushBatch items).1.losses + (queue.pushBatch items).1.count =
          queue.losses + (queue.count + items.length) := by
        have kept := congrArg List.length contents
        rw [length_contents, length_rtake, List.length_append, length_contents] at kept
        omega
      have counters := congrArg UInt64.ofNat count
      simp only [UInt64.ofNat_add, ← counted] at counters
      unfold Balanced at balanced ⊢
      rw [pushed, popped, balanced]
      grind

theorem Balanced.popBatch {queue : BoundedQueue T} (balanced : queue.Balanced) (size : Nat) :
    (queue.popBatch size).1.Balanced := by
  rcases queue.popBatch_spec size with ⟨_, rest, losses, _⟩
  rcases queue.popBatch_counts size with ⟨popped, pushed, _⟩
  have count : min size queue.count + (queue.popBatch size).1.count = queue.count := by
    rw [← length_contents (queue.popBatch size).1, rest, List.length_drop, length_contents]
    omega
  have counters := congrArg UInt64.ofNat count
  rw [UInt64.ofNat_add] at counters
  unfold Balanced at balanced ⊢
  rw [pushed, popped, counted, losses, ← counted, balanced, ← counters]
  grind

/-! ## The queue and its list -/

def apply (queue : BoundedQueue T) :
    DropOldest.Operation T → BoundedQueue T × DropOldest.Reply T
  | .push items =>
      let (after, dropped) := queue.pushBatch items
      (after, .dropped dropped)
  | .pop size =>
      let (after, items) := queue.popBatch size
      (after, .popped items)
  | .close => (queue.close, .closed)

structure Refines (queue : BoundedQueue T) (view : DropOldest T) : Prop where
  capacity : queue.capacity = view.capacity
  contents : queue.contents = view.items
  closed : queue.closed = view.closed
  balanced : queue.Balanced

theorem Refines.push {queue : BoundedQueue T} {view : DropOldest T}
    (refines : queue.Refines view) (items : List T) :
    (queue.apply (.push items)).1.Refines (view.step (.push items)).1 ∧
      (queue.apply (.push items)).2 = (view.step (.push items)).2 := by
  have balanced := refines.balanced.pushBatch items
  simp only [apply, DropOldest.step, ← refines.closed]
  cases isClosed : queue.closed with
  | true =>
      rw [pushBatch_closed isClosed]
      exact ⟨refines, rfl⟩
  | false =>
      rcases pushBatch_open isClosed items with ⟨contents, _, closed⟩
      rcases pushBatch_counts isClosed items with ⟨dropped, _, _, capacity⟩
      refine ⟨⟨capacity.trans refines.capacity, ?_, closed, balanced⟩, ?_⟩
      · rw [contents, refines.contents, refines.capacity]
        rfl
      · rw [dropped, ← length_contents, refines.contents, refines.capacity]
        rfl

theorem Refines.pop {queue : BoundedQueue T} {view : DropOldest T}
    (refines : queue.Refines view) (size : Nat) :
    (queue.apply (.pop size)).1.Refines (view.step (.pop size)).1 ∧
      (queue.apply (.pop size)).2 = (view.step (.pop size)).2 := by
  rcases queue.popBatch_spec size with ⟨taken, rest, _, closed⟩
  rcases queue.popBatch_counts size with ⟨_, _, capacity⟩
  simp only [apply, DropOldest.step]
  refine ⟨⟨capacity.trans refines.capacity, ?_, closed.trans refines.closed,
    refines.balanced.popBatch size⟩, ?_⟩
  · rw [rest, refines.contents]
  · rw [taken, refines.contents]

theorem Refines.step {queue : BoundedQueue T} {view : DropOldest T}
    (refines : queue.Refines view) (operation : DropOldest.Operation T) :
    (queue.apply operation).1.Refines (view.step operation).1 ∧
      (queue.apply operation).2 = (view.step operation).2 := by
  cases operation with
  | push items => exact refines.push items
  | pop size => exact refines.pop size
  | close =>
      exact ⟨⟨refines.capacity, refines.contents, rfl, refines.balanced⟩, rfl⟩

/-- Whatever is pushed, popped and closed in whatever order, the queue answers
as the list does, its indices stay inside the buffer and its counters balance. -/
theorem refines_drop_oldest [Inhabited T] (capacity : Nat)
    (operations : List (DropOldest.Operation T)) :
    let list := respond DropOldest.step
      (DropOldest.empty (if capacity = 0 then 1 else capacity)) operations
    let queue := respond apply (BoundedQueue.create capacity) operations
    queue.2 = list.2 ∧ queue.1.contents = list.1.items ∧ queue.1.closed = list.1.closed ∧
      queue.1.head < queue.1.capacity ∧ queue.1.count ≤ queue.1.capacity ∧
      queue.1.pushed = queue.1.popped + queue.1.dropped + UInt64.ofNat queue.1.count ∧
      (queue.1.closed = true → ∀ items, queue.1.pushBatch items = (queue.1, 0)) := by
  have start : (BoundedQueue.create capacity : BoundedQueue T).Refines
      (.empty (if capacity = 0 then 1 else capacity)) := ⟨rfl, rfl, rfl, rfl⟩
  rcases respond_alike Refines (fun _ _ operation refines => refines.step operation) start
    operations with ⟨refines, replies⟩
  exact ⟨replies, refines.contents, refines.closed, BoundedQueue.inside _, BoundedQueue.fits _,
    refines.balanced, pushBatch_closed⟩

end

end BoundedQueue

end TelemetryGateway
