import Mathlib.Algebra.GroupWithZero.Nat
import Mathlib.Data.List.Chain

/-! # Successive values of a list

Each value is paired with the one behind it. A counter of which only samples
modulo some number are seen is put together again from such pairs. -/

namespace TelemetryGateway

theorem length_zipWith_tail (pair : α → α → β) (values : List α) :
    (values.zipWith pair values.tail).length = values.length - 1 := by
  rw [List.length_zipWith, List.length_tail]
  exact Nat.min_eq_right (Nat.sub_le _ _)

theorem zipWith_tail_concat (pair : α → α → β) {values : List α} {last : α}
    (isLast : values.getLast? = some last) (value : α) :
    (values ++ [value]).zipWith pair (values ++ [value]).tail =
      values.zipWith pair values.tail ++ [pair last value] := by
  induction values with
  | nil => cases isLast
  | cons first rest induction =>
      cases rest with
      | nil =>
          cases isLast
          rfl
      | cons second rest =>
          rw [List.getLast?_cons_cons] at isLast
          have behind := induction isLast
          simp only [List.cons_append, List.tail_cons, List.zipWith_cons_cons] at behind ⊢
          rw [behind]

/-! ## A counter seen modulo a number -/

namespace SampledCounter

def gained (modulus : Nat) (samples : List Nat) : Nat :=
  (samples.zipWith (fun earlier later => (later - earlier) % modulus) samples.tail).sum

theorem gained_concat (modulus : Nat) {samples : List Nat} {last : Nat}
    (isLast : samples.getLast? = some last) (next : Nat) :
    gained modulus (samples ++ [next]) = gained modulus samples + (next - last) % modulus := by
  rw [gained, zipWith_tail_concat _ isLast, List.sum_append, List.sum_singleton]
  rfl

theorem gained_cons_cons (modulus first second : Nat) (rest : List Nat) :
    gained modulus (first :: second :: rest) =
      (second - first) % modulus + gained modulus (second :: rest) := by
  rw [gained, List.tail_cons, List.zipWith_cons_cons, List.sum_cons]
  rfl

theorem gained_le {modulus first : Nat} {rest : List Nat}
    (cumulative : (first :: rest).IsChain fun earlier later => earlier ≤ later) :
    first + gained modulus (first :: rest) ≤ (first :: rest).getLast (List.cons_ne_nil _ _) := by
  induction rest generalizing first with
  | nil => exact Nat.le_refl _
  | cons second rest induction =>
      rcases List.isChain_cons_cons.mp cumulative with ⟨ascending, others⟩
      have behind := induction others
      have part := Nat.mod_le (second - first) modulus
      rw [gained_cons_cons, List.getLast_cons (List.cons_ne_nil _ _)]
      omega

theorem gained_eq_iff {modulus : Nat} (positive : 0 < modulus) {first : Nat} {rest : List Nat}
    (cumulative : (first :: rest).IsChain fun earlier later => earlier ≤ later) :
    first + gained modulus (first :: rest) = (first :: rest).getLast (List.cons_ne_nil _ _) ↔
      (first :: rest).IsChain fun earlier later => later < earlier + modulus := by
  induction rest generalizing first with
  | nil => exact ⟨fun _ => List.isChain_singleton _, fun _ => rfl⟩
  | cons second rest induction =>
      rcases List.isChain_cons_cons.mp cumulative with ⟨ascending, others⟩
      have behind := @gained_le modulus _ _ others
      have part := Nat.mod_le (second - first) modulus
      have whole : (second - first) % modulus = second - first ↔ second < first + modulus := by
        constructor
        · intro same
          have below := Nat.mod_lt (second - first) positive
          omega
        · intro close
          exact Nat.mod_eq_of_lt (by omega)
      rw [List.isChain_cons_cons, ← induction others, ← whole, gained_cons_cons,
        List.getLast_cons (List.cons_ne_nil _ _)]
      omega

end SampledCounter

end TelemetryGateway
