import TelemetryGateway.Foundation.DropOldest

/-! # A window over a growing log

A reader with a position of its own in a log, of which only the newest entries
can still be read, finds out what it lost when it next reads. A queue that
drops its oldest entries knows at once. Both hand out the same entries. -/

namespace TelemetryGateway

structure Window (T : Type u) where
  log : List T
  next : Nat
  missed : Nat
  taken : Nat

namespace Window

variable {T : Type u}

def opened : Window T where
  log := []
  next := 0
  missed := 0
  taken := 0

def front (capacity : Nat) (window : Window T) : Nat :=
  max window.next (window.log.length - capacity)

def readable (capacity : Nat) (window : Window T) : List T :=
  window.log.drop (window.front capacity)

def push (window : Window T) (items : List T) : Window T :=
  { window with log := window.log ++ items }

/-- The reader after it has taken `count` entries from the front. -/
def take (capacity count : Nat) (window : Window T) : Window T :=
  { window with
    next := window.front capacity + count
    missed := window.missed + (window.front capacity - window.next)
    taken := window.taken + count }

/-- A read that finds nothing notices nothing. -/
def pop (capacity size : Nat) (window : Window T) : Window T × List T :=
  let out := (window.readable capacity).take size
  (if out = [] then window else window.take capacity out.length, out)

theorem front_take {capacity count : Nat} (window : Window T) :
    (window.take capacity count).front capacity = (window.take capacity count).next := by
  have ahead : window.log.length - capacity ≤ window.front capacity := Nat.le_max_right ..
  refine Nat.max_eq_left ?_
  change window.log.length - capacity ≤ window.front capacity + count
  omega

theorem pop_found {capacity size : Nat} {window : Window T}
    (found : (window.pop capacity size).2 ≠ []) :
    (window.pop capacity size).1 = window.take capacity (window.pop capacity size).2.length :=
  if_neg found

theorem pop_nothing {capacity size : Nat} {window : Window T}
    (nothing : (window.pop capacity size).2 = []) : (window.pop capacity size).1 = window :=
  if_pos nothing

@[simp] theorem log_pop (capacity size : Nat) (window : Window T) :
    (window.pop capacity size).1.log = window.log := by
  unfold pop
  dsimp only
  split <;> rfl

theorem taken_pop (capacity size : Nat) (window : Window T) :
    (window.pop capacity size).1.taken = window.taken + (window.pop capacity size).2.length := by
  by_cases nothing : (window.pop capacity size).2 = []
  · rw [pop_nothing nothing, nothing]
    rfl
  · rw [pop_found nothing]
    rfl

theorem next_pop_le {capacity size : Nat} {window : Window T}
    (inside : window.next ≤ window.log.length) :
    (window.pop capacity size).1.next ≤ window.log.length := by
  by_cases nothing : (window.pop capacity size).2 = []
  · rw [pop_nothing nothing]
    exact inside
  · rw [pop_found nothing]
    change window.front capacity + ((window.log.drop (window.front capacity)).take size).length ≤ _
    rw [List.length_take, List.length_drop]
    have within : window.front capacity ≤ window.log.length := by
      unfold front
      omega
    omega

/-! ## The queue -/

structure Eager (capacity : Nat) (window : Window T) (items : List T) (dropped : Nat) : Prop where
  inside : window.next ≤ window.log.length
  items : items = window.readable capacity
  dropped : dropped = window.missed + (window.front capacity - window.next)

theorem opened_eager (capacity : Nat) : (opened : Window T).Eager capacity [] 0 where
  inside := Nat.le_refl 0
  items := List.drop_nil.symm
  dropped := by simp [opened, front]

theorem Eager.push {capacity : Nat} {window : Window T} {items : List T} {dropped : Nat}
    (eager : window.Eager capacity items dropped) (more : List T) :
    (window.push more).Eager capacity ((items ++ more).rtake capacity)
      (dropped + (items.length + more.length - capacity)) := by
  have inside := eager.inside
  have within : window.front capacity ≤ window.log.length := by
    unfold front
    omega
  have size : items.length = window.log.length - window.front capacity := by
    rw [eager.items, readable, List.length_drop]
  have moved : (window.push more).front capacity =
      window.front capacity + (items.length + more.length - capacity) := by
    rw [size]
    change max window.next ((window.log ++ more).length - capacity) = _
    unfold front
    rw [List.length_append]
    omega
  constructor
  case inside =>
    change window.next ≤ (window.log ++ more).length
    rw [List.length_append]
    omega
  case items =>
    have joined : items ++ more = (window.log ++ more).drop (window.front capacity) := by
      rw [eager.items, readable, List.drop_append_of_le_length within]
    rw [readable, moved, ← List.drop_drop, List.rtake, List.length_append, joined]
    rfl
  case dropped =>
    have ahead : window.next ≤ window.front capacity := Nat.le_max_left ..
    rw [moved, eager.dropped]
    change _ = window.missed + (_ - window.next)
    omega

theorem Eager.pop {capacity : Nat} {window : Window T} {items : List T} {dropped : Nat}
    (eager : window.Eager capacity items dropped) (size : Nat) :
    items.take size = (window.pop capacity size).2 ∧
      (window.pop capacity size).1.Eager capacity (items.drop size) dropped := by
  rcases eager with ⟨inside, rfl, dropped⟩
  have out : (window.readable capacity).take size = (window.pop capacity size).2 := rfl
  have within : (window.pop capacity size).1.next ≤ window.log.length := next_pop_le inside
  refine ⟨rfl, ?_⟩
  by_cases empty : (window.pop capacity size).2 = []
  · have same : (window.readable capacity).drop size = window.readable capacity := by
      have all := List.take_append_drop size (window.readable capacity)
      rw [out, empty, List.nil_append] at all
      exact all
    rw [same, pop_nothing empty]
    exact ⟨inside, rfl, dropped⟩
  · rw [pop_found empty] at within ⊢
    have settled : (window.take capacity (window.pop capacity size).2.length).front capacity =
        window.front capacity + (window.pop capacity size).2.length := window.front_take
    constructor
    case inside => exact within
    case items =>
      change (window.log.drop _).drop size = window.log.drop _
      rw [settled, ← out, List.length_take, readable, List.length_drop, List.drop_drop]
      rcases Nat.le_total size (window.log.length - window.front capacity) with fewer | all
      · rw [Nat.min_eq_left fewer]
      · rw [Nat.min_eq_right all, List.drop_eq_nil_of_le (by omega),
          List.drop_eq_nil_of_le (by omega)]
    case dropped =>
      rw [settled, dropped]
      change _ = window.missed + (window.front capacity - window.next) + (_ - (_ + _))
      rw [Nat.sub_self, Nat.add_zero]

end Window

end TelemetryGateway
