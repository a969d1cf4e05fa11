import Mathlib.Data.List.DropRight

/-! # Queues that give up their oldest items

The list view of a queue that never makes a producer wait: a push keeps the
newest items it has room for. Operations are answered one after the other. -/

namespace TelemetryGateway

/-- What a component answers to a sequence of operations, and the state it is
left in. -/
def respond (step : State → Operation → State × Reply) (state : State) :
    List Operation → State × List Reply
  | [] => (state, [])
  | operation :: rest =>
      let (next, reply) := step state operation
      let (final, replies) := respond step next rest
      (final, reply :: replies)

/-- Two components that answer alike from related states, and stay related, give
the same answers to every sequence of operations. -/
theorem respond_alike {left : Left → Operation → Left × Reply}
    {right : Right → Operation → Right × Reply} (related : Left → Right → Prop)
    (keeps : ∀ first second operation, related first second →
      related (left first operation).1 (right second operation).1 ∧
        (left first operation).2 = (right second operation).2)
    {first : Left} {second : Right} (start : related first second)
    (operations : List Operation) :
    related (respond left first operations).1 (respond right second operations).1 ∧
      (respond left first operations).2 = (respond right second operations).2 := by
  induction operations generalizing first second with
  | nil => exact ⟨start, rfl⟩
  | cons operation rest induction =>
      rcases keeps first second operation start with ⟨next, same⟩
      rcases induction next with ⟨final, others⟩
      exact ⟨final, congrArg₂ List.cons same others⟩

theorem respond_at (step : State → Operation → State × Reply) (state : State)
    (before : List Operation) (operation : Operation) (after : List Operation) :
    (respond step state (before ++ operation :: after)).2[before.length]? =
      some (step (respond step state before).1 operation).2 := by
  induction before generalizing state with
  | nil => rfl
  | cons first rest induction => exact induction (step state first).1

theorem respond_concat (step : State → Operation → State × Reply) (state : State)
    (operations : List Operation) (operation : Operation) :
    (respond step state (operations ++ [operation])).1 =
      (step (respond step state operations).1 operation).1 := by
  induction operations generalizing state with
  | nil => rfl
  | cons first rest induction => exact induction (step state first).1

structure DropOldest (T : Type u) where
  capacity : Nat
  items : List T
  closed : Bool

namespace DropOldest

inductive Operation (T : Type u)
  | push (items : List T)
  | pop (size : Nat)
  | close

inductive Reply (T : Type u)
  | dropped (count : Nat)
  | popped (items : List T)
  | closed
  deriving DecidableEq

def empty (capacity : Nat) : DropOldest T where
  capacity := capacity
  items := []
  closed := false

/-- An open queue keeps the newest items; a closed one takes nothing and still
hands out what it holds. -/
def step (queue : DropOldest T) : Operation T → DropOldest T × Reply T
  | .push items =>
      if queue.closed then (queue, .dropped 0)
      else ({ queue with items := (queue.items ++ items).rtake queue.capacity },
        .dropped (queue.items.length + items.length - queue.capacity))
  | .pop size =>
      ({ queue with items := queue.items.drop size }, .popped (queue.items.take size))
  | .close => ({ queue with closed := true }, .closed)

end DropOldest

/-! ## Trimming -/

section

variable {T : Type u}

theorem rtake_rtake_append (left right : List T) (size : Nat) :
    (left.rtake size ++ right).rtake size = (left ++ right).rtake size := by
  have early : left.rtake size ++ right = (left ++ right).drop (left.length - size) :=
    (List.drop_append_of_le_length (Nat.sub_le _ _)).symm
  unfold List.rtake at early ⊢
  rw [early, List.drop_drop, List.length_drop, List.length_append]
  congr 1
  omega

theorem length_rtake (items : List T) (size : Nat) :
    (items.rtake size).length = min items.length size := by
  rw [List.rtake, List.length_drop]
  omega

end

end TelemetryGateway
