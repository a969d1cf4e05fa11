import Mathlib.Logic.Function.Basic
import TelemetryGateway.Foundation.Execution

/-! # Two runs compared

What a party is shown of a run is some of its labels; the steps of another
party, and those that only serve to wait, are hidden from it. Two runs that show
the same labels leave it with the same answers when a hidden step changes
nothing it can tell, and a shown one does the same to states it cannot tell
apart. -/

namespace TelemetryGateway.System

def trace (system : System State Label) (note : State → Label → List Note) (state : State) :
    List Label → List Note
  | [] => []
  | label :: rest =>
      note state label ++
        match system.step state label with
        | some after => system.trace note after rest
        | none => []

theorem trace_cons (system : System State Label) (note : State → Label → List Note)
    {state after : State} {label : Label} (stepped : system.step state label = some after)
    (rest : List Label) :
    system.trace note state (label :: rest) =
      note state label ++ system.trace note after rest := by
  simp only [trace, stepped]

def noteShown (shown : State → Label → Bool) (state : State) (label : Label) : List Label :=
  if shown state label then [label] else []

structure Unwinds (system : System State Label) (guard : State → Label → Prop)
    (shown : State → Label → Bool) (output : State → Label → List Output)
    (alike : State → State → Prop) : Prop where
  symm : ∀ {left right}, alike left right → alike right left
  hidden : ∀ {left right label after}, guard left label → shown left label = false →
    system.step left label = some after → alike left right →
    alike after right ∧ output left label = []
  shown : ∀ {left right label leftAfter rightAfter}, guard left label → guard right label →
    shown left label = true → shown right label = true →
    system.step left label = some leftAfter → system.step right label = some rightAfter →
    alike left right → alike leftAfter rightAfter ∧ output left label = output right label

section

variable {State : Type u} {Label : Type v} {Output : Type w} {system : System State Label}
  {guard : State → Label → Prop} {shown : State → Label → Bool}
  {output : State → Label → List Output} {alike : State → State → Prop}

theorem Unwinds.skip (unwinds : system.Unwinds guard shown output alike) {left right after : State}
    {label : Label} {rest : List Label} (guarded : system.Guarded guard left (label :: rest))
    (hidden : shown left label = false) (stepped : system.step left label = some after)
    (same : alike left right) :
    alike after right ∧ system.Guarded guard after rest ∧
      system.trace (noteShown shown) left (label :: rest) =
        system.trace (noteShown shown) after rest ∧
      system.trace output left (label :: rest) = system.trace output after rest := by
  rcases unwinds.hidden guarded.1 hidden stepped same with ⟨still, silent⟩
  refine ⟨still, guarded.2 after stepped, ?_, ?_⟩
  · rw [trace_cons _ _ stepped, noteShown, hidden]
    rfl
  · rw [trace_cons _ _ stepped, silent]
    rfl

theorem trace_shown_cons {state after : State} {label : Label} (isShown : shown state label = true)
    (stepped : system.step state label = some after) (rest : List Label) :
    system.trace (noteShown shown) state (label :: rest) =
      label :: system.trace (noteShown shown) after rest := by
  rw [trace_cons _ _ stepped, noteShown, isShown]
  rfl

theorem Unwinds.runs (unwinds : system.Unwinds guard shown output alike) {left right : State}
    {first second : List Label} (leftGuarded : system.Guarded guard left first)
    (rightGuarded : system.Guarded guard right second) {leftAfter rightAfter : State}
    (leftRun : system.run left first = some leftAfter)
    (rightRun : system.run right second = some rightAfter)
    (labels : system.trace (noteShown shown) left first =
      system.trace (noteShown shown) right second)
    (same : alike left right) :
    alike leftAfter rightAfter ∧
      system.trace output left first = system.trace output right second := by
  -- hidden steps are taken one at a time, a shown one on both sides at once
  induction first generalizing left right second with
  | nil =>
      cases leftRun
      induction second generalizing right with
      | nil =>
          cases rightRun
          exact ⟨same, rfl⟩
      | cons label rest induction =>
          rcases Option.bind_eq_some_iff.mp rightRun with ⟨middle, stepped, remaining⟩
          cases isShown : shown right label with
          | true =>
              rw [trace_shown_cons isShown stepped] at labels
              cases labels
          | false =>
              rcases unwinds.skip rightGuarded isShown stepped (unwinds.symm same) with
                ⟨still, guarded, tail, outputs⟩
              rw [outputs]
              exact induction guarded remaining (labels.trans tail) (unwinds.symm still)
  | cons label rest outer =>
      rcases Option.bind_eq_some_iff.mp leftRun with ⟨middle, stepped, remaining⟩
      cases isShown : shown left label with
      | false =>
          rcases unwinds.skip leftGuarded isShown stepped same with ⟨still, guarded, tail, outputs⟩
          rw [outputs]
          exact outer guarded rightGuarded remaining rightRun (tail.symm.trans labels) still
      | true =>
          rw [trace_shown_cons isShown stepped] at labels
          induction second generalizing right with
          | nil => cases labels
          | cons other others inner =>
              rcases Option.bind_eq_some_iff.mp rightRun with ⟨next, moved, following⟩
              cases alsoShown : shown right other with
              | false =>
                  rcases unwinds.skip rightGuarded alsoShown moved (unwinds.symm same) with
                    ⟨still, guarded, tail, outputs⟩
                  rw [outputs]
                  exact inner guarded following (unwinds.symm still) (labels.trans tail)
              | true =>
                  rw [trace_shown_cons alsoShown moved] at labels
                  rcases List.cons.inj labels with ⟨rfl, tails⟩
                  rcases unwinds.shown leftGuarded.1 rightGuarded.1 isShown alsoShown stepped moved
                    same with ⟨still, answer⟩
                  rw [trace_cons _ _ stepped, trace_cons _ _ moved, answer]
                  rcases outer (leftGuarded.2 middle stepped) (rightGuarded.2 next moved) remaining
                    following tails still with ⟨final, outputs⟩
                  exact ⟨final, congrArg _ outputs⟩

end

/-- Functions that agree everywhere but in one place still do once both are
updated, with the same value unless it is in that place. -/
theorem update_agree {Key : Type} [DecidableEq Key] {T : Type} {first second : Key → T} {key : Key}
    (agree : ∀ other, other ≠ key → first other = second other) {here : Key} {left right : T}
    (same : here ≠ key → left = right) (other : Key) (apart : other ≠ key) :
    Function.update first here left other = Function.update second here right other := by
  by_cases updated : other = here
  · subst updated
    rw [Function.update_self, Function.update_self, same apart]
  · rw [Function.update_of_ne updated, Function.update_of_ne updated]
    exact agree other apart

/-- However the hidden steps of two runs differ, the runs give the same answers
and end the same for those who are shown the rest. -/
def Isolates (system : System State Label) (guard : State → Label → Prop)
    (shown : State → Label → Bool) (output : State → Label → List Output)
    (same : State → State → Prop) : Prop :=
  ∀ start first second left right, system.initial start →
    system.Guarded guard start first → system.Guarded guard start second →
    system.run start first = some left → system.run start second = some right →
    system.trace (noteShown shown) start first = system.trace (noteShown shown) start second →
    system.trace output start first = system.trace output start second ∧ same left right

theorem Unwinds.isolates {system : System State Label} {guard : State → Label → Prop}
    {shown : State → Label → Bool} {output : State → Label → List Output}
    {alike same : State → State → Prop} (unwinds : system.Unwinds guard shown output alike)
    (refl : ∀ state, alike state state) (tells : ∀ {left right}, alike left right → same left right) :
    system.Isolates guard shown output same := by
  intro start first second left right _ leftGuarded rightGuarded leftRun rightRun labels
  rcases unwinds.runs leftGuarded rightGuarded leftRun rightRun labels (refl start) with
    ⟨alike, outputs⟩
  exact ⟨outputs, tells alike⟩

end TelemetryGateway.System
