import Mathlib.Data.Nat.Log
import Mathlib.Order.Bounds.Basic
import TelemetryGateway.Ring.Cells

/-! # The capacity of a ring

The constructor doubles a machine word until it reaches what was asked for, and
takes the mask from the result. -/

namespace TelemetryGateway.BroadcastRing

/-- The loop of `round_up_pow2`, for so many turns at most. The shift drops the
highest bit of the word. -/
def roundUpFrom (v : UInt64) : Nat → UInt64 → Option UInt64
  | 0, _ => none
  | turns + 1, p => if p < v then roundUpFrom v turns (p <<< 1) else some p

def roundUpPow2 (turns : Nat) (v : UInt64) : Option UInt64 :=
  roundUpFrom v turns 1

structure Shape where
  capacity : UInt64
  mask : UInt64
  deriving DecidableEq, Repr

def construct (turns : Nat) (capacity : UInt64) : Option Shape :=
  (roundUpPow2 turns (if capacity < 2 then 2 else capacity)).map fun capacity =>
    { capacity := capacity, mask := capacity - 1 }

/-- The constructor comes to its end. -/
def Constructs (capacity : UInt64) (shape : Shape) : Prop :=
  ∃ turns, construct turns capacity = some shape

example : construct 4 5 = some { capacity := 8, mask := 7 } := by decide

/-! ## The loop -/

theorem toNat_doubled (p : UInt64) : (p <<< 1).toNat = 2 * p.toNat % 2 ^ 64 := by
  simp [UInt64.toNat_shiftLeft, Nat.shiftLeft_eq, Nat.mul_comm]

theorem toNat_doubled_pow {p : UInt64} {exponent : Nat} (power : p.toNat = 2 ^ exponent)
    (fits : exponent < 63) : (p <<< 1).toNat = 2 ^ (exponent + 1) := by
  have below : 2 ^ (exponent + 1) < 2 ^ 64 := Nat.pow_lt_pow_right (by decide) (by omega)
  rw [toNat_doubled, power, ← Nat.pow_succ', Nat.mod_eq_of_lt below]

theorem roundUpFrom_reaches {v p : UInt64} {exponent : Nat} (power : p.toNat = 2 ^ exponent)
    (before : exponent ≤ Nat.clog 2 v.toNat) (representable : v.toNat ≤ 2 ^ 63) :
    ∃ turns c, roundUpFrom v turns p = some c ∧ c.toNat = 2 ^ Nat.clog 2 v.toNat := by
  have last : Nat.clog 2 v.toNat ≤ 63 := Nat.clog_le_of_le_pow representable
  induction left : Nat.clog 2 v.toNat - exponent generalizing p exponent with
  | zero =>
      have arrived : exponent = Nat.clog 2 v.toNat := by omega
      have reached : ¬ p < v := by
        rw [UInt64.lt_iff_toNat_lt, power, arrived, Nat.not_lt]
        exact Nat.le_pow_clog (by decide) _
      refine ⟨1, p, ?_, by rw [power, arrived]⟩
      simp [roundUpFrom, reached]
  | succ left induction =>
      have ahead : exponent < Nat.clog 2 v.toNat := by omega
      have short : p < v := by
        rw [UInt64.lt_iff_toNat_lt, power]
        exact Nat.pow_lt_of_lt_clog ahead
      have doubled := toNat_doubled_pow power (by omega)
      rcases induction doubled ahead (by omega) with ⟨turns, c, ends, result⟩
      refine ⟨turns + 1, c, ?_, result⟩
      simp [roundUpFrom, short, ends]

/-- What the word can be at the head of the loop: past the highest power of two
it is zero. -/
def Doubling (p : UInt64) : Prop :=
  p = 0 ∨ ∃ exponent, exponent ≤ 63 ∧ p.toNat = 2 ^ exponent

theorem doubling_one : Doubling 1 := Or.inr ⟨0, Nat.zero_le _, rfl⟩

theorem Doubling.le {p : UInt64} (doubling : Doubling p) : p.toNat ≤ 2 ^ 63 := by
  rcases doubling with rfl | ⟨exponent, fits, power⟩
  · exact Nat.zero_le _
  · rw [power]
    exact Nat.pow_le_pow_right (by decide) fits

theorem Doubling.next {p : UInt64} (doubling : Doubling p) : Doubling (p <<< 1) := by
  rcases doubling with rfl | ⟨exponent, fits, power⟩
  · exact Or.inl rfl
  · rcases Nat.lt_or_eq_of_le fits with inside | rfl
    · exact Or.inr ⟨exponent + 1, inside, toNat_doubled_pow power inside⟩
    · left
      apply UInt64.toNat_inj.mp
      rw [toNat_doubled, power]
      rfl

theorem roundUpFrom_diverges {v p : UInt64} (beyond : 2 ^ 63 < v.toNat)
    (doubling : Doubling p) (turns : Nat) : roundUpFrom v turns p = none := by
  induction turns generalizing p with
  | zero => rfl
  | succ turns induction =>
      have short : p < v := by
        rw [UInt64.lt_iff_toNat_lt]
        exact Nat.lt_of_le_of_lt doubling.le beyond
      rw [roundUpFrom, if_pos short]
      exact induction doubling.next

theorem roundUpFrom_ends {v p c : UInt64} {turns : Nat} (doubling : Doubling p)
    (ends : roundUpFrom v turns p = some c) : Doubling c ∧ v.toNat ≤ c.toNat := by
  induction turns generalizing p with
  | zero => cases ends
  | succ turns induction =>
      rw [roundUpFrom] at ends
      split at ends
      · exact induction doubling.next ends
      · rename_i reached
        cases ends
        rw [UInt64.lt_iff_toNat_lt, Nat.not_lt] at reached
        exact ⟨doubling, reached⟩

/-! ## The constructor -/

theorem toNat_atLeastTwo (capacity : UInt64) :
    (if capacity < 2 then 2 else capacity : UInt64).toNat = max 2 capacity.toNat := by
  have two : (2 : UInt64).toNat = 2 := rfl
  by_cases small : capacity < 2
  · rw [if_pos small, two]
    rw [UInt64.lt_iff_toNat_lt, two] at small
    omega
  · rw [if_neg small]
    rw [UInt64.lt_iff_toNat_lt, two] at small
    omega

theorem construct_diverges {capacity : UInt64} (beyond : 2 ^ 63 < capacity.toNat) (turns : Nat) :
    construct turns capacity = none := by
  rw [construct, roundUpPow2, roundUpFrom_diverges _ doubling_one, Option.map_none]
  rw [toNat_atLeastTwo]
  omega

theorem construct_rounds {capacity : UInt64} (representable : capacity.toNat ≤ 2 ^ 63) :
    ∃ shape, Constructs capacity shape ∧ shape.mask = shape.capacity - 1 ∧
      shape.capacity.toNat = 2 ^ Nat.clog 2 (max 2 capacity.toNat) := by
  have request := toNat_atLeastTwo capacity
  have start : (1 : UInt64).toNat = 2 ^ 0 := rfl
  rcases roundUpFrom_reaches start (Nat.zero_le _) (by rw [request]; omega) with
    ⟨turns, c, ends, result⟩
  refine ⟨{ capacity := c, mask := c - 1 }, ⟨turns, ?_⟩, rfl, ?_⟩
  · rw [construct, roundUpPow2, ends, Option.map_some]
  · rw [result, request]

theorem toNat_and_mask {size : UInt64} {exponent : Nat} (power : size.toNat = 2 ^ exponent)
    (pos : UInt64) : (pos &&& (size - 1)).toNat = pos.toNat % size.toNat := by
  have positive : 0 < size.toNat := by
    rw [power]
    exact Nat.two_pow_pos exponent
  have mask : (size - 1).toNat = 2 ^ exponent - 1 := by
    rw [UInt64.toNat_sub_of_le, power]
    · rfl
    · rw [UInt64.le_iff_toNat_le]
      exact positive
  rw [UInt64.toNat_and, mask, power, Nat.and_two_pow_sub_one_eq_mod]

/-- A ring that has been constructed has the geometry its positions are mapped
by. -/
theorem geometry_of_constructs {capacity : UInt64} {shape : Shape}
    (constructs : Constructs capacity shape) :
    ∃ geometry : Geometry, geometry.capacity = shape.capacity.toNat ∧
      ∀ pos : UInt64, (geometry.slot pos.toNat).val = (pos &&& shape.mask).toNat := by
  rcases constructs with ⟨turns, constructed⟩
  rcases Option.map_eq_some_iff.mp constructed with ⟨size, ends, rfl⟩
  rcases roundUpFrom_ends doubling_one ends with ⟨doubling, enough⟩
  rw [toNat_atLeastTwo] at enough
  rcases doubling with rfl | ⟨exponent, _, power⟩
  · change max 2 capacity.toNat ≤ 0 at enough
    omega
  · refine ⟨⟨size.toNat, ⟨exponent, power⟩, by omega⟩, rfl, ?_⟩
    intro pos
    rw [toNat_and_mask power]
    exact Geometry.and_mask _ _

/-- The capacities that come out as the smallest power of two there is for them
are those up to the highest power of two of a machine word. -/
theorem capacity_rounded_iff (capacity : UInt64) :
    (∃ shape, Constructs capacity shape ∧
      IsLeast { size | (∃ exponent, size = 2 ^ exponent) ∧ max 2 capacity.toNat ≤ size }
        shape.capacity.toNat ∧
      ∀ pos : UInt64, (pos &&& shape.mask).toNat = pos.toNat % shape.capacity.toNat) ↔
    capacity.toNat ≤ 2 ^ 63 := by
  constructor
  · rintro ⟨shape, ⟨turns, constructed⟩, _, _⟩
    by_contra beyond
    rw [construct_diverges (Nat.not_le.mp beyond)] at constructed
    cases constructed
  · intro representable
    rcases construct_rounds representable with ⟨shape, constructs, mask, power⟩
    refine ⟨shape, constructs, ⟨⟨⟨_, power⟩, ?_⟩, ?_⟩, ?_⟩
    · rw [power]
      exact Nat.le_pow_clog (by decide) _
    · rintro size ⟨⟨exponent, rfl⟩, enough⟩
      rw [power]
      exact Nat.pow_le_pow_right (by decide) (Nat.clog_le_of_le_pow enough)
    · intro pos
      rw [mask]
      exact toNat_and_mask power pos

/-- `--capacity 9223372036854775809`: the loop has no end. -/
theorem capacity_past_highest_power :
    ¬ ∃ shape, Constructs 9223372036854775809 shape := by
  rintro ⟨shape, turns, constructed⟩
  rw [construct_diverges (by decide)] at constructed
  cases constructed

end TelemetryGateway.BroadcastRing
