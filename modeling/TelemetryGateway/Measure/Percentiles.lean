import Mathlib.Algebra.Order.Ring.Int
import Mathlib.Data.List.GetD
import Mathlib.Data.List.Pairwise
import Mathlib.Data.List.Sort
import TelemetryGateway.Foundation.CheckedSum
import TelemetryGateway.Measure.Samples

/-! # The report of a sample buffer

The mean is the quotient of a sum in signed 64 bits, which is undefined when it
overflows. -/

namespace TelemetryGateway

namespace Samples

structure Mean where
  sum : Int64
  size : Nat
  deriving DecidableEq, Repr

inductive Quantile
  | p50
  | p90
  | p99
  | p999

structure Percentiles where
  count : UInt64 := 0
  min : Int64 := 0
  max : Int64 := 0
  mean : Mean := { sum := 0, size := 1 }
  p50 : Int64 := 0
  p90 : Int64 := 0
  p99 : Int64 := 0
  p999 : Int64 := 0
  deriving DecidableEq, Repr

def minInt64 : Int := -2 ^ 63

def maxInt64 : Int := 2 ^ 63 - 1

/-- `std::accumulate`; without a result where the addition overflows. -/
def accumulate : Int64 → List Int64 → Option Int64
  | total, [] => some total
  | total, value :: rest =>
      if minInt64 ≤ total.toInt + value.toInt ∧ total.toInt + value.toInt ≤ maxInt64 then
        accumulate (total + value) rest
      else none

def nearestRank (sorted : List Int64) (rank : Nat) : Int64 :=
  if sorted.isEmpty then 0
  else
    let idx := if rank = 0 then 1 else rank
    let idx := if sorted.length < idx then sorted.length else idx
    sorted.getD (idx - 1) 0

def report (rank : Quantile → Nat → Nat) (sorted : List Int64) (sum : Int64) : Percentiles where
  count := UInt64.ofNat sorted.length
  min := sorted.headD 0
  max := sorted.getLastD 0
  mean := { sum := sum, size := sorted.length }
  p50 := nearestRank sorted (rank .p50 sorted.length)
  p90 := nearestRank sorted (rank .p90 sorted.length)
  p99 := nearestRank sorted (rank .p99 sorted.length)
  p999 := nearestRank sorted (rank .p999 sorted.length)

def percentilesOf (rank : Quantile → Nat → Nat) (values : List Int64) : Option Percentiles :=
  if values.isEmpty then some {}
  else
    let sorted := values.insertionSort (· ≤ ·)
    (accumulate 0 sorted).map (report rank sorted)

def compute (rank : Quantile → Nat → Nat) (samples : Samples Int64) : Option Percentiles :=
  (percentilesOf rank samples.values).map fun p => { p with count := samples.total }

def defaultCapacity : Nat := 1 <<< 20

def exactRank (quantile : Quantile) (size : Nat) : Nat :=
  match quantile with
  | .p50 => (500 * size + 999) / 1000
  | .p90 => (900 * size + 999) / 1000
  | .p99 => (990 * size + 999) / 1000
  | .p999 => (999 * size + 999) / 1000

/-! ## The sum -/

theorem accumulate_eq (total : Int64) (values : List Int64) :
    (accumulate total values).map Int64.toInt =
      checkedSum minInt64 maxInt64 total.toInt (values.map Int64.toInt) := by
  induction values generalizing total with
  | nil => rfl
  | cons value rest induction =>
      rw [accumulate, List.map_cons, checkedSum]
      by_cases inside : minInt64 ≤ total.toInt + value.toInt ∧
          total.toInt + value.toInt ≤ maxInt64
      · have exact : (total + value).toInt = total.toInt + value.toInt := by
          rw [Int64.toInt_add]
          apply Int.bmod_eq_of_le
          · exact inside.1
          · exact Int.lt_of_le_sub_one inside.2
        rw [if_pos inside, if_pos inside, induction, exact]
      · rw [if_neg inside, if_neg inside]
        rfl

section

variable {values sorted : List Int64} {rank : Quantile → Nat → Nat}

theorem sorted_pairwise (values : List Int64) :
    (values.insertionSort (· ≤ ·)).Pairwise (· ≤ ·) := by
  have total : Std.Total fun first second : Int64 => first ≤ second := ⟨Int64.le_total⟩
  have trans : IsTrans Int64 (· ≤ ·) := ⟨fun _ _ _ => Int64.le_trans⟩
  exact List.pairwise_insertionSort _ values

theorem accumulate_sorted_iff (values : List Int64) :
    (∃ sum, accumulate 0 (values.insertionSort (· ≤ ·)) = some sum ∧
      sum.toInt = (values.map Int64.toInt).sum) ↔
    SumFits minInt64 maxInt64 (values.map Int64.toInt) := by
  have same := (List.perm_insertionSort (fun first second : Int64 => first ≤ second) values).map
    Int64.toInt
  have ascending : ((values.insertionSort (· ≤ ·)).map Int64.toInt).Pairwise (· ≤ ·) :=
    List.pairwise_map.mpr ((sorted_pairwise values).imp Int64.le_iff_toInt_le.mp)
  have decided := checkedSum_sorted_iff ascending
    (show minInt64 ≤ 0 by decide) (show 0 ≤ maxInt64 by decide)
  rw [sumFits_perm same, same.sum_eq] at decided
  rw [← decided, ← show (0 : Int64).toInt = 0 by rfl, ← accumulate_eq, Option.map_eq_some_iff]

/-! ## What is reported -/

theorem nearestRank_mem (found : sorted ≠ []) (rank : Nat) : nearestRank sorted rank ∈ sorted := by
  have inside : 0 < sorted.length := List.length_pos_iff.mpr found
  simp only [nearestRank, List.isEmpty_iff, found]
  rw [if_neg not_false, List.getD_eq_getElem]
  · exact List.getElem_mem _
  · split <;> split <;> omega

theorem headD_eq (found : sorted ≠ []) : sorted.headD 0 = sorted.head found := by
  cases sorted with
  | nil => cases found rfl
  | cons first rest => rfl

theorem getLastD_eq (found : sorted ≠ []) : sorted.getLastD 0 = sorted.getLast found := by
  rw [List.getLastD_eq_getLast?, List.getLast?_eq_some_getLast found]
  rfl

theorem report_sampled (found : sorted ≠ []) (sum : Int64) :
    let p := report rank sorted sum
    ∀ value ∈ [p.min, p.p50, p.p90, p.p99, p.p999, p.max], value ∈ sorted := by
  simp only [report, headD_eq found, getLastD_eq found]
  simp [nearestRank_mem found]

theorem report_bounds (found : sorted ≠ []) (ascending : sorted.Pairwise (· ≤ ·)) (sum : Int64) :
    ∀ value ∈ sorted, (report rank sorted sum).min.toInt ≤ value.toInt ∧
      value.toInt ≤ (report rank sorted sum).max.toInt := by
  have reflexive : Std.Refl fun first second : Int64 => first ≤ second := ⟨Int64.le_refl⟩
  intro value member
  constructor
  · rw [report, headD_eq found, ← Int64.le_iff_toInt_le]
    exact ascending.rel_head member
  · rw [report, getLastD_eq found, ← Int64.le_iff_toInt_le]
    exact ascending.rel_getLast member

/-- The report of a buffer whose values were summed up without an overflow. -/
structure Summed (rank : Quantile → Nat → Nat) (samples : Samples Int64) (p : Percentiles) :
    Prop where
  computed : samples.compute rank = some p
  size : p.mean.size = max 1 samples.retained
  exact : p.mean.sum.toInt = (samples.values.map Int64.toInt).sum
  least : p.min.toInt * p.mean.size ≤ p.mean.sum.toInt
  greatest : p.mean.sum.toInt ≤ p.max.toInt * p.mean.size

theorem report_mean (found : values ≠ []) {sum : Int64}
    (exact : sum.toInt = (values.map Int64.toInt).sum) :
    let p := report rank (values.insertionSort (· ≤ ·)) sum
    p.min.toInt * p.mean.size ≤ p.mean.sum.toInt ∧ p.mean.sum.toInt ≤ p.max.toInt * p.mean.size := by
  have same := List.perm_insertionSort (fun first second : Int64 => first ≤ second) values
  have foundSorted : values.insertionSort (· ≤ ·) ≠ [] := by
    intro nothing
    rw [nothing] at same
    exact found (List.nil_perm.mp same)
  have bounds := @report_bounds _ rank foundSorted (sorted_pairwise values) sum
  have size : ((values.insertionSort (· ≤ ·)).map Int64.toInt).length =
      (report rank (values.insertionSort (· ≤ ·)) sum).mean.size := List.length_map _
  have least := List.card_nsmul_le_sum ((values.insertionSort (· ≤ ·)).map Int64.toInt) _
    (List.forall_mem_map.mpr fun value member => (bounds value member).1)
  have greatest := List.sum_le_card_nsmul ((values.insertionSort (· ≤ ·)).map Int64.toInt) _
    (List.forall_mem_map.mpr fun value member => (bounds value member).2)
  rw [(same.map _).sum_eq, ← exact, size, nsmul_eq_mul, mul_comm] at least greatest
  exact ⟨least, greatest⟩

theorem compute_eq_some_iff {samples : Samples Int64} {p : Percentiles}
    (found : samples.values ≠ []) :
    samples.compute rank = some p ↔
      ∃ sum, accumulate 0 (samples.values.insertionSort (· ≤ ·)) = some sum ∧
        { report rank (samples.values.insertionSort (· ≤ ·)) sum with
          count := samples.total } = p := by
  simp [compute, percentilesOf, found]

theorem summed_iff (rank : Quantile → Nat → Nat) (samples : Samples Int64) :
    (∃ p, Summed rank samples p) ↔
      SumFits minInt64 maxInt64 (samples.values.map Int64.toInt) := by
  rw [← accumulate_sorted_iff]
  by_cases found : samples.values = []
  · constructor
    · intro _
      rw [found]
      exact ⟨0, rfl, rfl⟩
    · intro _
      refine ⟨{ count := samples.total }, ?_, ?_, ?_, ?_, ?_⟩
      · simp [compute, percentilesOf, found]
      · simp [retained, found]
      · simp [found]
      · simp
      · simp
  · constructor
    · rintro ⟨p, summed⟩
      rcases (compute_eq_some_iff found).mp summed.computed with ⟨sum, accumulated, rfl⟩
      exact ⟨sum, accumulated, summed.exact⟩
    · rintro ⟨sum, accumulated, exact⟩
      have positive : 0 < samples.values.length := List.length_pos_iff.mpr found
      rcases @report_mean _ rank found _ exact with ⟨least, greatest⟩
      refine ⟨_, (compute_eq_some_iff found).mpr ⟨sum, accumulated, rfl⟩, ?_, exact, least,
        greatest⟩
      simp only [report, List.length_insertionSort, retained]
      omega

/-- The mean of a run is exact if and only if neither the negative samples nor
all of them together leave the 64 bits of the sum. -/
theorem mean_exact_iff (rank : Quantile → Nat → Nat) (capacity : Nat) (offered : List Int64) :
    (∃ p, Summed rank ((create capacity).addAll offered) p) ↔
      SumFits minInt64 maxInt64 (((create capacity).addAll offered).values.map Int64.toInt) :=
  summed_iff rank _

/-- At the default capacity differences of up to two hours and twenty-six
minutes can be summed up. -/
theorem sumFits_of_short {offered : List Int64}
    (short : ∀ value ∈ offered, -(2 ^ 43 - 1) ≤ value.toInt ∧ value.toInt ≤ 2 ^ 43 - 1) :
    SumFits minInt64 maxInt64
      (((create defaultCapacity).addAll offered).values.map Int64.toInt) := by
  have few : ((create defaultCapacity).addAll offered).values.length ≤ 2 ^ 20 :=
    retained_le defaultCapacity offered
  apply sumFits_of_bounded (show (0 : Int) ≤ 2 ^ 43 - 1 by decide)
  · intro value member
    rcases List.mem_map.mp member with ⟨sample, kept, rfl⟩
    exact short sample (addAll_subset kept)
  · rw [List.length_map, nsmul_eq_mul, minInt64]
    omega
  · rw [List.length_map, nsmul_eq_mul, maxInt64]
    omega

end

def yearNs : Int := 31536000 * 10 ^ 9

/-- Against a machine that has been up for a year longer, 293 samples are too
many. -/
theorem sum_overflows_after_year :
    (∀ value ∈ List.replicate 293 (31536000000000000 : Int64),
      -yearNs ≤ value.toInt ∧ value.toInt ≤ yearNs) ∧
    ¬ ∃ p, Summed exactRank
      ((create defaultCapacity).addAll (List.replicate 293 31536000000000000)) p := by
  constructor
  · intro value member
    rw [List.eq_of_mem_replicate member]
    decide
  · have filling : (List.replicate 293 (31536000000000000 : Int64)).length < defaultCapacity := by
      rw [List.length_replicate]
      decide
    rw [summed_iff, addAll_filling filling, List.map_replicate]
    rintro ⟨_, fits⟩
    rw [List.sum_replicate] at fits
    exact absurd fits (by decide)

end Samples

end TelemetryGateway
