import Mathlib.Logic.Function.Basic
import TelemetryGateway.Foundation.Execution

/-! # Linearizable histories

Threads call operations of one object and get replies; the history of a run is
what they see of it. A history is linearizable when every operation can be
given one instant between its call and its reply, such that the operations,
performed one after the other at those instants, give the replies. -/

namespace TelemetryGateway

universe u v w z

/-- What the threads see of an object. -/
inductive Event (Thread : Type u) (Operation : Type v) (Reply : Type w)
  | call (thread : Thread) (operation : Operation)
  | reply (thread : Thread) (reply : Reply)
  deriving DecidableEq

inductive Turn (Operation : Type v) (Reply : Type w)
  | resting
  | called (operation : Operation)
  | performed (reply : Reply)

structure AtomicObject (Thread : Type u) (Value : Type z) (Operation : Type v)
    (Reply : Type w) where
  value : Value
  turn : Thread → Turn Operation Reply

namespace AtomicObject

/-- The history, with the instants at which the operations are performed. -/
inductive Moment (Thread : Type u) (Operation : Type v) (Reply : Type w)
  | seen (event : Event Thread Operation Reply)
  | perform (thread : Thread)

def Moment.event : Moment Thread Operation Reply → Option (Event Thread Operation Reply)
  | .seen event => some event
  | .perform _ => none

section

variable {Thread : Type u} {Value : Type z} {Operation : Type v} {Reply : Type w}
  [DecidableEq Thread] [DecidableEq Reply]

def resting (value : Value) : AtomicObject Thread Value Operation Reply where
  value := value
  turn := fun _ => .resting

def setTurn (object : AtomicObject Thread Value Operation Reply) (thread : Thread)
    (turn : Turn Operation Reply) : AtomicObject Thread Value Operation Reply :=
  { object with turn := Function.update object.turn thread turn }

/-- A thread calls, the object answers at some later instant, and the thread
gets that answer. -/
def step (respond : Value → Operation → Value × Reply)
    (object : AtomicObject Thread Value Operation Reply) :
    Moment Thread Operation Reply → Option (AtomicObject Thread Value Operation Reply)
  | .seen (.call thread operation) =>
      match object.turn thread with
      | .resting => some (object.setTurn thread (.called operation))
      | _ => none
  | .perform thread =>
      match object.turn thread with
      | .called operation =>
          some ({ object with value := (respond object.value operation).1 }.setTurn thread
            (.performed (respond object.value operation).2))
      | _ => none
  | .seen (.reply thread reply) =>
      match object.turn thread with
      | .performed answer =>
          if answer = reply then some (object.setTurn thread .resting) else none
      | _ => none

def system (respond : Value → Operation → Value × Reply) (value : Value) :
    System (AtomicObject Thread Value Operation Reply) (Moment Thread Operation Reply) where
  initial := fun object => object = resting value
  step := step respond

end

end AtomicObject

section

variable {Thread : Type u} {Value : Type z} {Operation : Type v} {Reply : Type w}
  [DecidableEq Thread] [DecidableEq Reply]

/-- Instants can be put into the history that explain its replies. -/
def Linearizable (respond : Value → Operation → Value × Reply) (value : Value)
    (history : List (Event Thread Operation Reply)) : Prop :=
  ∃ moments after, (AtomicObject.system respond value).run (.resting value) moments = some after ∧
    moments.filterMap AtomicObject.Moment.event = history

/-- An object that performs its operations step by step is linearizable when
each of its steps is explained by moments of the atomic object that the threads
see in the same way. -/
theorem linearizable_of_simulation {State : Type*} {Label : Type*}
    {concrete : System State Label} {event : Label → Option (Event Thread Operation Reply)}
    {respond : Value → Operation → Value × Reply} {value : Value}
    (related : State → AtomicObject Thread Value Operation Reply → Prop)
    (explains : ∀ state object label after, related state object →
      concrete.step state label = some after →
      ∃ moments later, (AtomicObject.system respond value).run object moments = some later ∧
        moments.filterMap AtomicObject.Moment.event = (event label).toList ∧
        related after later)
    {state : State} (start : related state (.resting value)) {schedule : List Label}
    {final : State} (ran : concrete.run state schedule = some final) :
    Linearizable respond value (schedule.filterMap event) := by
  suffices explained : ∀ object, related state object →
      ∃ moments later, (AtomicObject.system respond value).run object moments = some later ∧
        moments.filterMap AtomicObject.Moment.event = schedule.filterMap event from
    explained _ start
  clear start
  induction schedule generalizing state with
  | nil => exact fun object _ => ⟨[], object, rfl, rfl⟩
  | cons label rest induction =>
      intro object holds
      rcases Option.bind_eq_some_iff.mp ran with ⟨middle, stepped, remaining⟩
      rcases explains _ _ _ _ holds stepped with ⟨first, between, moved, same, related⟩
      rcases induction remaining between related with ⟨second, later, others, sameRest⟩
      refine ⟨first ++ second, later, ?_, ?_⟩
      · rw [System.run_append, moved]
        exact others
      · rw [List.filterMap_append, same, sameRest, List.filterMap_cons]
        cases event label with
        | none => rfl
        | some event => rfl

/-! ## Moments -/

namespace AtomicObject

variable {respond : Value → Operation → Value × Reply} {value : Value}
  {object : AtomicObject Thread Value Operation Reply} {thread : Thread}

theorem run_call (operation : Operation) (resting : object.turn thread = .resting) :
    (system respond value).run object [.seen (.call thread operation)] =
      some (object.setTurn thread (.called operation)) := by
  simp only [System.run, system, step, resting, Option.bind_some]

theorem run_perform {operation : Operation} (called : object.turn thread = .called operation) :
    (system respond value).run object [.perform thread] =
      some ({ object with value := (respond object.value operation).1 }.setTurn thread
        (.performed (respond object.value operation).2)) := by
  simp only [System.run, system, step, called, Option.bind_some]

theorem run_reply {reply : Reply} (performed : object.turn thread = .performed reply) :
    (system respond value).run object [.seen (.reply thread reply)] =
      some (object.setTurn thread .resting) := by
  simp only [System.run, system, step, performed, Option.bind_some, if_true]

end AtomicObject

end

end TelemetryGateway
