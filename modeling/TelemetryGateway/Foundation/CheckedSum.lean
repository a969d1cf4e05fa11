import Mathlib.Algebra.Order.BigOperators.Group.List
import Mathlib.Algebra.Order.Group.Defs
import Mathlib.Algebra.Order.Monoid.Unbundled.Pow

/-! # Sums between two bounds

A running total that may not leave a range. In ascending order it goes down
first and up afterwards, so two of its values decide. -/

namespace TelemetryGateway

variable {A : Type*} [AddCommGroup A] [LinearOrder A]

def checkedSum (lo hi : A) : A → List A → Option A
  | total, [] => some total
  | total, value :: rest =>
      if lo ≤ total + value ∧ total + value ≤ hi then checkedSum lo hi (total + value) rest
      else none

def negativeSum (values : List A) : A := (values.filter (· < 0)).sum

/-- The range the sum of the values in ascending order has to stay in. -/
def SumFits (lo hi : A) (values : List A) : Prop :=
  lo ≤ negativeSum values ∧ values.sum ≤ hi

instance (lo hi : A) (values : List A) : Decidable (SumFits lo hi values) :=
  inferInstanceAs (Decidable (_ ∧ _))

section

variable {lo hi total value result : A} {values rest : List A}

@[simp] theorem negativeSum_nil : negativeSum ([] : List A) = 0 := by simp [negativeSum]

theorem negativeSum_cons_of_neg (negative : value < 0) :
    negativeSum (value :: rest) = value + negativeSum rest := by
  simp [negativeSum, negative]

theorem negativeSum_of_nonneg (nonneg : ∀ value ∈ values, 0 ≤ value) :
    negativeSum values = 0 := by
  have none : values.filter (· < 0) = [] := by
    apply List.filter_eq_nil_iff.mpr
    intro value member
    simpa using nonneg value member
  simp [negativeSum, none]

theorem sumFits_perm {other : List A} (same : values.Perm other) :
    SumFits lo hi values ↔ SumFits lo hi other := by
  have negative : negativeSum values = negativeSum other := (same.filter _).sum_eq
  simp [SumFits, negative, same.sum_eq]

theorem checkedSum_eq (checked : checkedSum lo hi total values = some result) :
    result = total + values.sum := by
  induction values generalizing total with
  | nil =>
      simp only [checkedSum, Option.some.injEq] at checked
      simp [checked]
  | cons value rest induction =>
      rw [checkedSum] at checked
      split at checked
      · simp [induction checked, add_assoc]
      · cases checked

variable [IsOrderedAddMonoid A]

theorem negativeSum_nonpos (values : List A) : negativeSum values ≤ 0 := by
  have bounded : ∀ value ∈ values.filter (· < 0), value ≤ 0 := by
    intro value member
    have negative := (List.mem_filter.mp member).2
    exact le_of_lt (by simpa using negative)
  simpa [negativeSum] using List.sum_le_card_nsmul _ _ bounded

theorem checkedSum_sorted (sorted : values.Pairwise (· ≤ ·)) (above : lo ≤ total)
    (below : total ≤ hi) :
    (∃ result, checkedSum lo hi total values = some result) ↔
      lo ≤ total + negativeSum values ∧ total + values.sum ≤ hi := by
  induction values generalizing total with
  | nil => simp [checkedSum, above, below]
  | cons value rest induction =>
      rcases List.pairwise_cons.mp sorted with ⟨least, sortedRest⟩
      rw [checkedSum, List.sum_cons, ← add_assoc]
      rcases lt_or_ge value 0 with negative | nonneg
      · have lower : total + value ≤ hi :=
          le_trans (add_le_of_nonpos_right (le_of_lt negative)) below
        rw [negativeSum_cons_of_neg negative, ← add_assoc]
        by_cases fits : lo ≤ total + value
        · rw [if_pos ⟨fits, lower⟩]
          exact induction sortedRest fits lower
        · have lowest : total + value + negativeSum rest ≤ total + value :=
            add_le_of_nonpos_right (negativeSum_nonpos rest)
          rw [if_neg (fun both => fits both.1)]
          constructor
          · rintro ⟨_, impossible⟩
            cases impossible
          · rintro ⟨enough, _⟩
            exact absurd (le_trans enough lowest) fits
      -- from here on the total only goes up
      · have nonnegRest : ∀ other ∈ rest, 0 ≤ other := fun other member =>
          le_trans nonneg (least other member)
        have nonnegAll : ∀ other ∈ value :: rest, 0 ≤ other :=
          List.forall_mem_cons.mpr ⟨nonneg, nonnegRest⟩
        have higher : lo ≤ total + value := le_trans above (le_add_of_nonneg_right nonneg)
        have highest : total + value ≤ total + value + rest.sum :=
          le_add_of_nonneg_right (List.sum_nonneg nonnegRest)
        rw [negativeSum_of_nonneg nonnegAll, add_zero]
        by_cases fits : total + value ≤ hi
        · rw [if_pos ⟨higher, fits⟩, induction sortedRest higher fits,
            negativeSum_of_nonneg nonnegRest, add_zero]
          simp [higher, above]
        · rw [if_neg (fun both => fits both.2)]
          constructor
          · rintro ⟨_, impossible⟩
            cases impossible
          · rintro ⟨_, enough⟩
            exact absurd (le_trans highest enough) fits

theorem checkedSum_sorted_iff (sorted : values.Pairwise (· ≤ ·)) (above : lo ≤ 0)
    (below : 0 ≤ hi) :
    checkedSum lo hi 0 values = some values.sum ↔ SumFits lo hi values := by
  have decided := checkedSum_sorted sorted above below
  simp only [zero_add] at decided
  rw [SumFits, ← decided]
  constructor
  · intro checked
    exact ⟨_, checked⟩
  · rintro ⟨result, checked⟩
    rw [checked, checkedSum_eq checked, zero_add]

theorem sumFits_of_bounded {bound : A} (positive : 0 ≤ bound)
    (bounded : ∀ value ∈ values, -bound ≤ value ∧ value ≤ bound)
    (lowest : lo ≤ -(values.length • bound)) (highest : values.length • bound ≤ hi) :
    SumFits lo hi values := by
  constructor
  · have down : (values.filter (· < 0)).length • -bound ≤ negativeSum values :=
      List.card_nsmul_le_sum _ _ fun value member => (bounded value (List.mem_of_mem_filter member)).1
    have fewer : (values.filter (· < 0)).length • bound ≤ values.length • bound :=
      nsmul_le_nsmul_left positive (List.length_filter_le ..)
    rw [neg_nsmul] at down
    exact le_trans (le_trans lowest (neg_le_neg fewer)) down
  · have up : values.sum ≤ values.length • bound :=
      List.sum_le_card_nsmul _ _ fun value member => (bounded value member).2
    exact le_trans up highest

end

end TelemetryGateway
