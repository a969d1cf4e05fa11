import Mathlib.Data.List.Chain

/-! # Ranges in ascending order

Labelled ranges of numbers, each beginning where the one before it ended or
later. What they cover and the holes between them add up to what they span. -/

namespace TelemetryGateway

structure LabelledRange (Label : Type) where
  label : Label
  start : Nat
  stop : Nat
  deriving DecidableEq, Repr

namespace LabelledRange

def length (range : LabelledRange Label) : Nat :=
  range.stop - range.start

/-- The ranges begin at `position` or later and do not overlap. -/
def Ascending : Nat → List (LabelledRange Label) → Prop
  | _, [] => True
  | position, range :: rest =>
      position ≤ range.start ∧ range.start ≤ range.stop ∧ Ascending range.stop rest

instance decidableAscending : ∀ (position : Nat) (ranges : List (LabelledRange Label)),
    Decidable (Ascending position ranges)
  | _, [] => .isTrue trivial
  | _, range :: rest =>
      have := decidableAscending range.stop rest
      inferInstanceAs (Decidable (_ ∧ _ ∧ _))

def reach : Nat → List (LabelledRange Label) → Nat
  | position, [] => position
  | _, range :: rest => reach range.stop rest

def span : List (LabelledRange Label) → Nat
  | [] => 0
  | first :: rest => reach first.stop rest - first.start

def covered (chosen : Label → Bool) : List (LabelledRange Label) → Nat
  | [] => 0
  | range :: rest => (if chosen range.label then range.length else 0) + covered chosen rest

def holes (chosen : Label → Bool) : Nat → List (LabelledRange Label) → Nat
  | _, [] => 0
  | position, range :: rest =>
      (if chosen range.label then range.start - position else 0) + holes chosen range.stop rest

theorem reach_lt {bound position : Nat} {ranges : List (LabelledRange Label)}
    (some : ranges ≠ []) (ascending : Ascending position ranges)
    (below : ∀ range ∈ ranges, range.start < bound) :
    reach position ranges < bound + covered (fun _ => true) ranges := by
  induction ranges generalizing position with
  | nil => exact absurd rfl some
  | cons range rest induction =>
      rcases ascending with ⟨_, forward, others⟩
      have first := below range List.mem_cons_self
      simp only [reach, covered, length, if_true]
      by_cases last : rest = []
      · subst last
        simp only [reach, covered]
        omega
      · have behind := induction last others fun other member =>
          below other (List.mem_cons_of_mem _ member)
        omega

/-- What is covered, with the holes in front of chosen ranges and those in front
of the others, is everything up to the end. -/
theorem Ascending.covered_add_holes (chosen : Label → Bool) {position : Nat}
    {ranges : List (LabelledRange Label)} (ascending : Ascending position ranges) :
    position + covered (fun _ => true) ranges + holes chosen position ranges +
      holes (fun label => !chosen label) position ranges = reach position ranges := by
  induction ranges generalizing position with
  | nil => rfl
  | cons range rest induction =>
      rcases ascending with ⟨later, forward, others⟩
      have behind := induction others
      by_cases isChosen : chosen range.label = true
      · simp only [covered, holes, reach, length, isChosen, Bool.not_true, Bool.false_eq_true,
          if_true, if_false]
        omega
      · simp only [covered, holes, reach, length, isChosen, Bool.not_false, Bool.false_eq_true,
          if_true, if_false]
        omega

/-- No hole in front of a chosen range means that each of them begins where the
range before it ended. -/
theorem Ascending.holes_eq_zero_iff (chosen : Label → Bool) {first : LabelledRange Label}
    {rest : List (LabelledRange Label)} (ascending : Ascending first.stop rest) :
    holes chosen first.stop rest = 0 ↔ (first :: rest).IsChain fun left right =>
      chosen right.label = true → right.start = left.stop := by
  induction rest generalizing first with
  | nil => simp [holes]
  | cons second rest induction =>
      rcases ascending with ⟨later, forward, others⟩
      rw [List.isChain_cons_cons, ← induction others, holes]
      cases chosen second.label with
      | false => simp
      | true =>
          simp only [if_true, forall_true_left, Nat.add_eq_zero_iff]
          exact and_congr_left fun _ => by omega

theorem covered_or (left right : Label → Bool) (ranges : List (LabelledRange Label))
    (apart : ∀ label, left label = true → right label = false) :
    covered (fun label => left label || right label) ranges =
      covered left ranges + covered right ranges := by
  induction ranges with
  | nil => rfl
  | cons range rest induction =>
      by_cases isLeft : left range.label = true
      · simp only [covered, induction, isLeft, apart range.label isLeft, Bool.true_or,
          Bool.false_eq_true, if_true, if_false]
        omega
      · simp only [covered, induction, isLeft, Bool.false_or, Bool.false_eq_true, if_false]
        omega

end LabelledRange

end TelemetryGateway
