/-! # Executions of labelled systems

A system is given by its initial states and an executable step function: a
label names which thread moves and what its environment answers, and the step
is undefined when that label cannot happen. Every safety result of the
development is an invariant of such a system, proved from one step. -/

namespace TelemetryGateway

/-- A loop that may have no result keeps what each of its turns keeps of the items
done and the state. -/
theorem foldlM_keeps {turn : State → Item → Option State} {items : List Item}
    (property : List Item → State → Prop)
    (keeps : ∀ done state item after, property done state → turn state item = some after →
      property (done ++ [item]) after)
    (holds : property [] state) (folded : items.foldlM turn state = some after) :
    property items after := by
  have general (rest done : List Item) (state : State) (holds : property done state)
      (folded : rest.foldlM turn state = some after) : property (done ++ rest) after := by
    induction rest generalizing done state with
    | nil =>
        cases folded
        rw [List.append_nil]
        exact holds
    | cons item rest induction =>
        rw [List.foldlM_cons] at folded
        rcases Option.bind_eq_some_iff.mp folded with ⟨middle, turned, remaining⟩
        rw [List.append_cons]
        exact induction _ _ (keeps _ _ _ _ holds turned) remaining
  exact general items [] state holds folded

structure System (State : Type u) (Label : Type v) where
  initial : State → Prop
  step : State → Label → Option State

namespace System

/-- States reached from an initial one by steps that all meet `guard`, a
condition on the label and on the state before the step. -/
inductive ReachableUnder (system : System State Label)
    (guard : State → Label → Prop) : State → Prop
  | start : system.initial state → ReachableUnder system guard state
  | next : ReachableUnder system guard state → guard state label →
      system.step state label = some after →
      ReachableUnder system guard after

abbrev Reachable (system : System State Label) : State → Prop :=
  system.ReachableUnder fun _ _ => True

/-- Execute a schedule; `none` when one of its labels cannot happen. -/
def run (system : System State Label) (state : State) : List Label → Option State
  | [] => some state
  | label :: rest => (system.step state label).bind fun after => system.run after rest

theorem run_append (system : System State Label) (state : State) (first second : List Label) :
    system.run state (first ++ second) =
      (system.run state first).bind fun middle => system.run middle second := by
  induction first generalizing state with
  | nil => rfl
  | cons label rest induction =>
      rw [List.cons_append, run, run, Option.bind_assoc]
      exact congrArg _ (funext induction)

theorem run_keeps {system : System State Label} (property : State → Prop) {schedule : List Label}
    (keeps : ∀ state label after, label ∈ schedule → property state →
      system.step state label = some after → property after)
    (holds : property state) (final : system.run state schedule = some after) :
    property after := by
  induction schedule generalizing state with
  | nil =>
      cases final
      exact holds
  | cons label rest induction =>
      rcases Option.bind_eq_some_iff.mp final with ⟨middle, stepped, remaining⟩
      refine induction ?_ (keeps _ _ _ List.mem_cons_self holds stepped) remaining
      intro before other next member
      exact keeps before other next (List.mem_cons_of_mem _ member)

/-- Whether a schedule executes with `guard` holding before each step. -/
def Guarded (system : System State Label) (guard : State → Label → Prop)
    (state : State) : List Label → Prop
  | [] => True
  | label :: rest => guard state label ∧
      ∀ after, system.step state label = some after → system.Guarded guard after rest

/-- A property of the initial states that every step keeps holds of every
reachable state. The step may use that the state before it was reached. -/
theorem ReachableUnder.invariant {system : System State Label}
    {guard : State → Label → Prop} (property : State → Prop)
    (start : ∀ state, system.initial state → property state)
    (keeps : ∀ state label after, system.ReachableUnder guard state →
      guard state label → property state →
      system.step state label = some after → property after)
    (reached : system.ReachableUnder guard state) : property state := by
  induction reached with
  | start initial => exact start _ initial
  | next before holds stepped induction =>
      exact keeps _ _ _ before holds induction stepped

theorem ReachableUnder.weaken {system : System State Label}
    {guard weaker : State → Label → Prop}
    (implies : ∀ state label, guard state label → weaker state label)
    (reached : system.ReachableUnder guard state) : system.ReachableUnder weaker state := by
  induction reached with
  | start initial => exact .start initial
  | next before holds stepped induction =>
      exact .next induction (implies _ _ holds) stepped

theorem ReachableUnder.run {system : System State Label}
    {guard : State → Label → Prop} (reached : system.ReachableUnder guard state)
    (schedule : List Label) (guarded : system.Guarded guard state schedule)
    (final : system.run state schedule = some after) :
    system.ReachableUnder guard after := by
  induction schedule generalizing state with
  | nil =>
      cases final
      exact reached
  | cons label rest induction =>
      rcases Option.bind_eq_some_iff.mp final with ⟨middle, stepped, remaining⟩
      exact induction (.next reached guarded.1 stepped)
        (guarded.2 middle stepped) remaining

/-- Execute a schedule as long as `guard` holds before each step. -/
def runUnder (system : System State Label) (guard : State → Label → Prop)
    [∀ state label, Decidable (guard state label)] (state : State) : List Label → Option State
  | [] => some state
  | label :: rest =>
      if guard state label then
        (system.step state label).bind fun after => system.runUnder guard after rest
      else none

theorem ReachableUnder.runUnder {system : System State Label} {guard : State → Label → Prop}
    [∀ state label, Decidable (guard state label)] (reached : system.ReachableUnder guard state)
    (schedule : List Label) (final : system.runUnder guard state schedule = some after) :
    system.ReachableUnder guard after := by
  induction schedule generalizing state with
  | nil =>
      cases final
      exact reached
  | cons label rest induction =>
      simp only [System.runUnder] at final
      split at final
      · rename_i holds
        rcases Option.bind_eq_some_iff.mp final with ⟨middle, stepped, remaining⟩
        exact induction (.next reached holds stepped) remaining
      · cases final

theorem run_of_runUnder {system : System State Label} {guard : State → Label → Prop}
    [∀ state label, Decidable (guard state label)] {schedule : List Label}
    (final : system.runUnder guard state schedule = some after) :
    system.run state schedule = some after := by
  induction schedule generalizing state with
  | nil => exact final
  | cons label rest induction =>
      simp only [System.runUnder] at final
      split at final
      · rcases Option.bind_eq_some_iff.mp final with ⟨middle, stepped, remaining⟩
        exact Option.bind_eq_some_iff.mpr ⟨middle, stepped, induction remaining⟩
      · cases final

theorem guarded_of_labels (system : System State Label) {guard : State → Label → Prop}
    (schedule : List Label) (meets : ∀ label ∈ schedule, ∀ state, guard state label)
    (state : State) : system.Guarded guard state schedule := by
  induction schedule generalizing state with
  | nil => trivial
  | cons label rest induction =>
      refine ⟨meets label List.mem_cons_self state, fun after _ => induction ?_ after⟩
      intro other member
      exact meets other (List.mem_cons_of_mem _ member)

theorem ReachableUnder.execute {system : System State Label}
    (reached : system.Reachable state) (schedule : List Label)
    (final : system.run state schedule = some after) :
    system.Reachable after :=
  reached.run schedule (system.guarded_of_labels schedule (fun _ _ _ => trivial) state) final

/-! ## Observers -/

def observed (system : System State Label) (fresh : Record)
    (note : Record → State → Label → State → Record) : System (State × Record) Label where
  initial := fun state => system.initial state.1 ∧ state.2 = fresh
  step := fun state label => (system.step state.1 label).map fun after =>
    (after, note state.2 state.1 label after)

theorem ReachableUnder.unobserved {system : System State Label} {guard : State → Label → Prop}
    {fresh : Record} {note : Record → State → Label → State → Record}
    (reached : (system.observed fresh note).ReachableUnder
      (fun state label => guard state.1 label) state) : system.ReachableUnder guard state.1 := by
  induction reached with
  | start initial => exact .start initial.1
  | next before holds stepped induction =>
      rcases Option.map_eq_some_iff.mp stepped with ⟨after, moved, rfl⟩
      exact .next induction holds moved

end System

end TelemetryGateway
