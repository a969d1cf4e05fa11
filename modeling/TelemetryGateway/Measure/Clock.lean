import Mathlib.Algebra.Order.Ring.Nat
import Mathlib.Tactic.Ring
import TelemetryGateway.Measure.Samples

/-! # The course of a run of samples

How far the skip counter, the stride and the buffer have got, as a function of
the number of offers and of decimations. -/

namespace TelemetryGateway

namespace Samples

def pace (capacity : Nat) : Nat := max 1 (capacity / 2)

def lifetime (capacity : Nat) : Nat := capacity + (2 ^ 64 - 2) * pace capacity

structure Clock (offers decimations : Nat) (samples : Samples T) : Prop where
  positive : 0 < samples.capacity
  stride : samples.stride.toNat = 2 ^ decimations
  skipping : samples.seen.toNat < 2 ^ decimations
  place :
    (decimations = 0 ∧ samples.values.length = offers ∧ offers < samples.capacity) ∨
    (0 < decimations ∧ ∃ fresh, fresh < pace samples.capacity ∧
      samples.values.length = (samples.capacity + 1) / 2 + fresh ∧
      offers + 2 * pace samples.capacity =
        samples.capacity + (pace samples.capacity + fresh) * 2 ^ decimations +
          samples.seen.toNat)

section

variable {T : Type*} {samples : Samples T} {offers decimations : Nat}

theorem Clock.next_seen (clock : Clock offers decimations samples) (fits : decimations ≤ 63) :
    (samples.seen + 1).toNat = samples.seen.toNat + 1 := by
  have below : 2 ^ decimations ≤ 2 ^ 63 := Nat.pow_le_pow_right (by decide) fits
  have skipping := clock.skipping
  rw [UInt64.toNat_add]
  exact Nat.mod_eq_of_lt (by change _ + 1 < _; omega)

theorem Clock.doubled (clock : Clock offers decimations samples) :
    (samples.stride * 2).toNat = 2 ^ (decimations + 1) % 2 ^ 64 := by
  rw [UInt64.toNat_mul, clock.stride, Nat.pow_succ]
  rfl

theorem Clock.before_end (clock : Clock offers decimations samples) (fits : decimations ≤ 63) :
    offers < lifetime samples.capacity := by
  have below : 2 ^ decimations ≤ 2 ^ 63 := Nat.pow_le_pow_right (by decide) fits
  rcases clock.place with ⟨_, _, inside⟩ | ⟨_, fresh, behind, _, place⟩
  · rw [lifetime]
    omega
  · have skipping := clock.skipping
    have filled : (pace samples.capacity + fresh + 1) * 2 ^ decimations ≤
        (2 * pace samples.capacity) * 2 ^ 63 := Nat.mul_le_mul (by omega) below
    rw [Nat.succ_mul] at filled
    rw [lifetime]
    omega

theorem Clock.skip (clock : Clock offers decimations samples) (fits : decimations ≤ 63)
    (skipped : samples.seen + 1 < samples.stride) :
    Clock (offers + 1) decimations
      { samples with total := samples.total + 1, seen := samples.seen + 1 } := by
  have next := clock.next_seen fits
  rw [UInt64.lt_iff_toNat_lt, next, clock.stride] at skipped
  constructor
  case positive => exact clock.positive
  case stride => exact clock.stride
  case skipping => rw [next]; exact skipped
  case place =>
    rcases clock.place with ⟨rfl, _⟩ | ⟨later, fresh, behind, size, place⟩
    · omega
    · refine Or.inr ⟨later, fresh, behind, size, ?_⟩
      dsimp only
      rw [next]
      omega

theorem Clock.stride_seen (clock : Clock offers decimations samples) (fits : decimations ≤ 63)
    (kept : ¬ samples.seen + 1 < samples.stride) :
    samples.seen.toNat + 1 = 2 ^ decimations := by
  have skipping := clock.skipping
  rw [UInt64.lt_iff_toNat_lt, clock.next_seen fits, clock.stride] at kept
  omega

theorem Clock.keep (clock : Clock offers decimations samples) (fits : decimations ≤ 63)
    (kept : ¬ samples.seen + 1 < samples.stride)
    (room : samples.values.length + 1 < samples.capacity) (value : T) :
    Clock (offers + 1) decimations
      { samples with
        total := samples.total + 1
        seen := 0
        values := samples.values ++ [value] } := by
  have gone := clock.stride_seen fits kept
  constructor
  case positive => exact clock.positive
  case stride => exact clock.stride
  case skipping => exact Nat.two_pow_pos decimations
  case place =>
    rcases clock.place with ⟨rfl, size, inside⟩ | ⟨later, fresh, behind, size, place⟩
    · refine Or.inl ⟨rfl, ?_, ?_⟩
      · simp [size]
      · rw [← size]
        exact room
    · have grown : (pace samples.capacity + (fresh + 1)) * 2 ^ decimations =
          (pace samples.capacity + fresh) * 2 ^ decimations + 2 ^ decimations := by ring
      refine Or.inr ⟨later, fresh + 1, ?_, ?_, ?_⟩
      · unfold pace
        dsimp only
        omega
      · simp only [List.length_append, List.length_singleton]
        omega
      · dsimp only
        rw [grown]
        change _ = _ + 0
        omega

theorem Clock.thin (clock : Clock offers decimations samples) (fits : decimations ≤ 63)
    (kept : ¬ samples.seen + 1 < samples.stride)
    (full : samples.capacity ≤ samples.values.length + 1) :
    offers + 1 + 2 * pace samples.capacity =
        samples.capacity + pace samples.capacity * 2 ^ (decimations + 1) ∧
      (samples.values.length + 1 + 1) / 2 = (samples.capacity + 1) / 2 := by
  have gone := clock.stride_seen fits kept
  rw [Nat.pow_succ]
  rcases clock.place with ⟨rfl, size, inside⟩ | ⟨later, fresh, behind, size, place⟩
  · omega
  · have turn : fresh + 1 = pace samples.capacity := by
      unfold pace at behind ⊢
      omega
    have whole : (pace samples.capacity + fresh) * 2 ^ decimations + 2 ^ decimations =
        pace samples.capacity * (2 ^ decimations * 2) := by
      rw [← turn]
      ring
    constructor
    · omega
    · have positive := clock.positive
      unfold pace at turn
      omega

theorem Clock.toNat_doubled (clock : Clock offers decimations samples) (fits : decimations ≤ 63)
    (kept : ¬ samples.seen + 1 < samples.stride)
    (full : samples.capacity ≤ samples.values.length + 1)
    (running : offers + 1 < lifetime samples.capacity) :
    (samples.stride * 2).toNat = 2 * samples.stride.toNat := by
  have place := (clock.thin fits kept full).1
  rcases Nat.lt_or_eq_of_le fits with inside | rfl
  · have below : 2 ^ (decimations + 1) < 2 ^ 64 := Nat.pow_lt_pow_right (by decide) (by omega)
    rw [clock.doubled, clock.stride, Nat.mod_eq_of_lt below, Nat.pow_succ']
  · rw [lifetime] at running
    omega

theorem Clock.add (clock : Clock offers decimations samples) (fits : decimations ≤ 63)
    (value : T) :
    (∃ next, next ≤ 63 ∧ Clock (offers + 1) next (samples.add value)) ∨
    ((samples.add value).stride = 0 ∧ lifetime samples.capacity ≤ offers + 1) := by
  rcases add_cases samples value with ⟨skipped, added⟩ | ⟨kept, room, added⟩ | ⟨kept, full, added⟩
  · left
    rw [added]
    exact ⟨decimations, fits, clock.skip fits skipped⟩
  · left
    rw [added]
    exact ⟨decimations, fits, clock.keep fits kept room value⟩
  · rcases clock.thin fits kept full with ⟨place, size⟩
    rw [added]
    rcases Nat.lt_or_eq_of_le fits with inside | rfl
    · left
      refine ⟨decimations + 1, inside, ?_⟩
      have below : 2 ^ (decimations + 1) < 2 ^ 64 := Nat.pow_lt_pow_right (by decide) (by omega)
      constructor
      case positive => exact clock.positive
      case stride => exact clock.doubled.trans (Nat.mod_eq_of_lt below)
      case skipping => exact Nat.two_pow_pos _
      case place =>
        right
        refine ⟨Nat.succ_pos _, 0, Nat.lt_of_lt_of_le Nat.zero_lt_one (Nat.le_max_left ..), ?_, ?_⟩
        · simpa using size
        · simpa using place
    · right
      constructor
      · apply UInt64.toNat_inj.mp
        exact clock.doubled
      · rw [lifetime]
        omega

/-- Once the capacity allows two values the buffer has room between two
calls. -/
theorem Clock.room (clock : Clock offers decimations samples) (several : 1 < samples.capacity) :
    samples.values.length < samples.capacity := by
  rcases clock.place with ⟨_, size, inside⟩ | ⟨_, fresh, behind, size, _⟩
  · omega
  · unfold pace at behind
    omega

theorem clock_addAll (capacity : Nat) (offered : List T) :
    (∃ decimations, decimations ≤ 63 ∧
      Clock offered.length decimations ((create capacity).addAll offered)) ∨
    (((create capacity).addAll offered).stride = 0 ∧
      lifetime (max 1 capacity) ≤ offered.length) := by
  induction offered using List.reverseRecOn with
  | nil =>
      left
      refine ⟨0, Nat.zero_le _, ?_, rfl, Nat.zero_lt_one, Or.inl ⟨rfl, rfl, ?_⟩⟩
      · simp
      · simp
  | append_singleton offered value induction =>
      rw [addAll_concat, List.length_append, List.length_singleton]
      rcases induction with ⟨decimations, fits, clock⟩ | ⟨overflowed, overrun⟩
      · have result := clock.add fits value
        rw [capacity_addAll, capacity_create] at result
        exact result
      · right
        refine ⟨?_, Nat.le_succ_of_le overrun⟩
        rcases add_cases ((create capacity).addAll offered) value with
          ⟨_, added⟩ | ⟨_, _, added⟩ | ⟨_, _, added⟩
        · rw [added]
          exact overflowed
        · rw [added]
          exact overflowed
        · rw [added, overflowed]
          rfl

theorem exists_clock {capacity : Nat} {offered : List T}
    (running : offered.length < lifetime (max 1 capacity)) :
    ∃ decimations, decimations ≤ 63 ∧
      Clock offered.length decimations ((create capacity).addAll offered) := by
  rcases clock_addAll capacity offered with clock | ⟨_, overrun⟩
  · exact clock
  · omega

theorem stride_overflowed {capacity : Nat} {offered : List T}
    (overrun : lifetime (max 1 capacity) ≤ offered.length) :
    ((create capacity).addAll offered).stride = 0 := by
  rcases clock_addAll capacity offered with ⟨decimations, fits, clock⟩ | ⟨overflowed, _⟩
  · have running := clock.before_end fits
    rw [capacity_addAll, capacity_create] at running
    omega
  · exact overflowed

end

end Samples

end TelemetryGateway
