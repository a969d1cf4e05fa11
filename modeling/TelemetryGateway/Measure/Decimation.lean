import TelemetryGateway.Measure.Clock

/-! # Which samples are kept

The stride doubles with every decimation. Whether the values that are kept
after it stay in step with those kept before depends on the capacity. -/

namespace TelemetryGateway

namespace Samples

section

variable {S T : Type*}

/-! ## Positions

The buffer does not look at the values, so a value can carry the position at
which it was offered. -/

def map (transform : S → T) (samples : Samples S) : Samples T where
  values := samples.values.map transform
  capacity := samples.capacity
  total := samples.total
  stride := samples.stride
  seen := samples.seen

theorem add_map (transform : S → T) (samples : Samples S) (value : S) :
    (samples.map transform).add (transform value) = (samples.add value).map transform := by
  have size : (samples.map transform).values.length = samples.values.length := by simp [map]
  by_cases skipped : samples.seen + 1 < samples.stride
  · rw [add_of_skipped skipped, @add_of_skipped T (samples.map transform) skipped]
    rfl
  · rcases Nat.lt_or_ge (samples.values.length + 1) samples.capacity with room | full
    · rw [← size] at room
      rw [@add_of_room T (samples.map transform) skipped room]
      rw [size] at room
      simp [add_of_room skipped room, map]
    · rw [← size] at full
      rw [@add_of_full T (samples.map transform) skipped full]
      rw [size] at full
      simp [add_of_full skipped full, map, ← map_everyOther]

theorem addAll_map (transform : S → T) (samples : Samples S) (offered : List S) :
    (samples.map transform).addAll (offered.map transform) =
      (samples.addAll offered).map transform := by
  induction offered using List.reverseRecOn with
  | nil => rfl
  | append_singleton offered value induction =>
      rw [List.map_append, List.map_singleton, addAll_concat, addAll_concat, induction, add_map]

def kept (capacity : Nat) (offered : List T) : List (T × Nat) :=
  ((create capacity).addAll offered.zipIdx).values

theorem addAll_zipIdx (capacity : Nat) (offered : List T) :
    (create capacity).addAll offered =
      ((create capacity).addAll offered.zipIdx).map Prod.fst := by
  rw [← addAll_map, List.zipIdx_map_fst]
  rfl

end

/-! ## In step

Here the samples are the positions of the offers. -/

section

variable {samples : Samples Nat} {offers decimations : Nat}

/-- The positions are equally spaced, and the next one to be kept follows in
the same step. -/
structure Aligned (offers : Nat) (samples : Samples Nat) : Prop where
  spaced : samples.values = progression samples.stride.toNat samples.values.length
  next : offers + samples.stride.toNat =
    samples.values.length * samples.stride.toNat + 1 + samples.seen.toNat

theorem Aligned.skip (aligned : Aligned offers samples) (clock : Clock offers decimations samples)
    (fits : decimations ≤ 63) :
    Aligned (offers + 1)
      { samples with total := samples.total + 1, seen := samples.seen + 1 } := by
  have next := aligned.next
  constructor
  case spaced => exact aligned.spaced
  case next =>
    dsimp only
    rw [clock.next_seen fits]
    omega

theorem Aligned.position (aligned : Aligned offers samples)
    (clock : Clock offers decimations samples) (fits : decimations ≤ 63)
    (kept : ¬ samples.seen + 1 < samples.stride) :
    samples.values ++ [offers] =
      progression samples.stride.toNat (samples.values.length + 1) := by
  have gone := clock.stride_seen fits kept
  have next := aligned.next
  rw [← clock.stride] at gone
  have position : offers = samples.values.length * samples.stride.toNat := by omega
  rw [progression_succ, ← aligned.spaced, ← position]

theorem Aligned.keep (aligned : Aligned offers samples) (clock : Clock offers decimations samples)
    (fits : decimations ≤ 63) (kept : ¬ samples.seen + 1 < samples.stride) :
    Aligned (offers + 1)
      { samples with
        total := samples.total + 1
        seen := 0
        values := samples.values ++ [offers] } := by
  have gone := clock.stride_seen fits kept
  have next := aligned.next
  rw [← clock.stride] at gone
  constructor
  case spaced =>
    dsimp only
    rw [List.length_append, List.length_singleton]
    exact aligned.position clock fits kept
  case next =>
    dsimp only
    rw [List.length_append, List.length_singleton, Nat.succ_mul]
    change _ = _ + 0
    omega

theorem Aligned.thinned (aligned : Aligned offers samples)
    (clock : Clock offers decimations samples) (fits : decimations ≤ 63)
    (kept : ¬ samples.seen + 1 < samples.stride) :
    everyOther (samples.values ++ [offers]) =
      progression (2 * samples.stride.toNat) ((samples.values.length + 1 + 1) / 2) := by
  rw [aligned.position clock fits kept, everyOther_progression]

theorem Aligned.thin (aligned : Aligned offers samples) (clock : Clock offers decimations samples)
    (fits : decimations ≤ 63) (kept : ¬ samples.seen + 1 < samples.stride)
    (odd : (samples.values.length + 1) % 2 = 1)
    (doubled : (samples.stride * 2).toNat = 2 * samples.stride.toNat) :
    Aligned (offers + 1)
      { samples with
        total := samples.total + 1
        seen := 0
        values := everyOther (samples.values ++ [offers])
        stride := samples.stride * 2 } := by
  have gone := clock.stride_seen fits kept
  have next := aligned.next
  rw [← clock.stride] at gone
  have size : (everyOther (samples.values ++ [offers])).length =
      (samples.values.length + 1 + 1) / 2 := by simp
  constructor
  case spaced =>
    dsimp only
    rw [size, doubled]
    exact aligned.thinned clock fits kept
  case next =>
    have half : (samples.values.length + 1 + 1) / 2 * (2 * samples.stride.toNat) =
        (samples.values.length + 2) * samples.stride.toNat := by
      rw [← Nat.mul_assoc]
      congr 1
      omega
    dsimp only
    rw [size, doubled, half, Nat.add_mul]
    change _ = _ + 0
    omega

end

/-! ## Positions of a run -/

def positions (capacity count : Nat) : Samples Nat :=
  (create capacity).addAll (List.range count)

theorem positions_succ (capacity count : Nat) :
    positions capacity (count + 1) = (positions capacity count).add count := by
  rw [positions, List.range_succ, addAll_concat]
  rfl

@[simp] theorem capacity_positions (capacity count : Nat) :
    (positions capacity count).capacity = max 1 capacity := by
  simp [positions]

theorem positions_eq_kept {T : Type*} (capacity : Nat) (offered : List T) :
    positions capacity offered.length =
      ((create capacity).addAll offered.zipIdx).map Prod.snd := by
  rw [← addAll_map, List.zipIdx_map_snd, ← List.range_eq_range']
  rfl

theorem positions_clock {capacity count : Nat} (running : count < lifetime (max 1 capacity)) :
    ∃ decimations, decimations ≤ 63 ∧ Clock count decimations (positions capacity count) := by
  have clock := @exists_clock Nat capacity (List.range count)
    (by rw [List.length_range]; exact running)
  rw [List.length_range] at clock
  exact clock

theorem positions_tiny {capacity : Nat} (tiny : max 1 capacity ≤ 2) (count : Nat) :
    (positions capacity (count + 1)).values = [0] := by
  induction count with
  | zero =>
      rw [positions_succ]
      rcases add_cases (positions capacity 0) 0 with
        ⟨skipped, _⟩ | ⟨_, _, added⟩ | ⟨_, _, added⟩
      · cases (show ¬ (0 + 1 : UInt64) < 1 by decide) skipped
      · rw [added]
        rfl
      · rw [added]
        rfl
  | succ count induction =>
      rw [positions_succ]
      rcases add_cases (positions capacity (count + 1)) (count + 1) with
        ⟨_, added⟩ | ⟨_, room, _⟩ | ⟨_, _, added⟩
      · rw [added]
        exact induction
      · rw [induction, capacity_positions, List.length_singleton] at room
        omega
      · rw [added, induction]
        rfl

theorem aligned_start (capacity : Nat) : Aligned 0 (positions capacity 0) where
  spaced := rfl
  next := rfl

theorem positions_odd {capacity : Nat} (odd : max 1 capacity % 2 = 1) (several : 2 < capacity)
    {count : Nat} (running : count < lifetime (max 1 capacity)) :
    Aligned count (positions capacity count) := by
  induction count with
  | zero => exact aligned_start capacity
  | succ count induction =>
      have aligned := induction (Nat.lt_of_succ_lt running)
      rcases positions_clock (Nat.lt_of_succ_lt running) with ⟨decimations, fits, clock⟩
      rw [positions_succ]
      rcases add_cases (positions capacity count) count with
        ⟨_, added⟩ | ⟨kept, _, added⟩ | ⟨kept, full, added⟩
      · rw [added]
        exact aligned.skip clock fits
      · rw [added]
        exact aligned.keep clock fits kept
      · have doubled := clock.toNat_doubled fits kept full (by rw [capacity_positions]; exact running)
        have room := clock.room (by rw [capacity_positions]; omega)
        rw [capacity_positions] at full room
        rw [added]
        exact aligned.thin clock fits kept (by omega) doubled

theorem positions_filling {capacity count : Nat} (filling : count < capacity) :
    positions capacity count =
      { values := progression 1 count, capacity := capacity, total := UInt64.ofNat count } := by
  have early : (List.range count).length < capacity := by simpa using filling
  rw [positions, addAll_filling early]
  simp [progression]

theorem positions_filled {capacity : Nat} (positive : 0 < capacity) :
    (positions capacity capacity).values = progression 2 ((capacity + 1) / 2) ∧
      (positions capacity capacity).stride = 2 ∧ (positions capacity capacity).seen = 0 := by
  obtain ⟨count, rfl⟩ : ∃ count, capacity = count + 1 := ⟨capacity - 1, by omega⟩
  have before := positions_filling (Nat.lt_succ_self count)
  have all : progression 1 count ++ [count] = progression 1 (count + 1) := by
    simp [progression_succ]
  rw [positions_succ, before, add_of_full]
  · simp [all, everyOther_progression]
  · dsimp only
    decide
  · simp

theorem positions_after_filled {capacity : Nat} (positive : 0 < capacity) :
    (positions capacity (capacity + 1)).values = (positions capacity capacity).values ∧
      (positions capacity (capacity + 1)).stride = 2 ∧
      (positions capacity (capacity + 1)).seen = 1 := by
  rcases positions_filled positive with ⟨_, stride, seen⟩
  have skipped : (positions capacity capacity).seen + 1 < (positions capacity capacity).stride := by
    rw [stride, seen]
    decide
  rw [positions_succ, add_of_skipped skipped]
  exact ⟨rfl, stride, by rw [seen]; rfl⟩

theorem positions_early {capacity count : Nat} (positive : 0 < capacity)
    (early : count ≤ capacity + 1) :
    (positions capacity count).values = progression (positions capacity count).stride.toNat
      (positions capacity count).values.length := by
  rcases Nat.lt_trichotomy count capacity with filling | rfl | past
  · simp [positions_filling filling]
  · rcases positions_filled positive with ⟨values, stride, _⟩
    rw [values, stride, length_progression]
    rfl
  · have next : count = capacity + 1 := by omega
    subst next
    rcases positions_filled positive with ⟨values, _, _⟩
    rcases positions_after_filled positive with ⟨same, stride, _⟩
    rw [same, values, stride, length_progression]
    rfl

/-! ## Out of step

With an even capacity the positions kept after the first decimation are odd,
the ones from before it even. -/

structure Slipped (offers : Nat) (samples : Samples Nat) : Prop where
  even : samples.stride.toNat % 2 = 0
  turn : (offers + samples.seen.toNat) % 2 = 0
  parts : ∃ old fresh, samples.values = old ++ fresh ∧ old.length = samples.capacity / 2 ∧
    (∀ position ∈ fresh, position % 2 = 1) ∧
    ((∃ position ∈ old, position % 2 = 1) ∨ fresh ≠ [] ∨ offers < samples.capacity + 2)

theorem slipped_start {capacity : Nat} (even : capacity % 2 = 0) (positive : 0 < capacity) :
    Slipped capacity (positions capacity capacity) := by
  have effective : max 1 capacity = capacity := by omega
  rcases positions_filled positive with ⟨values, stride, seen⟩
  constructor
  case even => rw [stride]; rfl
  case turn => rw [seen]; exact even
  case parts =>
    refine ⟨_, [], (List.append_nil _).symm, ?_, List.forall_mem_nil _, Or.inr (Or.inr ?_)⟩
    · rw [values, length_progression, capacity_positions, effective]
      omega
    · rw [capacity_positions, effective]
      omega

section

variable {samples : Samples Nat} {offers decimations : Nat}

theorem Clock.skip_early (clock : Clock offers decimations samples) (fits : decimations ≤ 63)
    (started : samples.capacity ≤ offers) (skipped : samples.seen + 1 < samples.stride)
    (early : offers < samples.capacity + 2) : offers + 1 < samples.capacity + 2 := by
  rw [UInt64.lt_iff_toNat_lt, clock.next_seen fits, clock.stride] at skipped
  rcases clock.place with ⟨_, _, filling⟩ | ⟨later, fresh, behind, _, place⟩
  · omega
  · rcases Nat.lt_or_eq_of_le later with several | first
    · have doubled : 2 ^ 2 ≤ 2 ^ decimations := Nat.pow_le_pow_right Nat.zero_lt_two several
      have filled := Nat.mul_le_mul (Nat.le_add_right (pace samples.capacity) fresh) doubled
      omega
    · rw [← first] at place skipped
      omega

theorem Slipped.skip (slipped : Slipped offers samples) (clock : Clock offers decimations samples)
    (fits : decimations ≤ 63) (started : samples.capacity ≤ offers)
    (skipped : samples.seen + 1 < samples.stride) :
    Slipped (offers + 1)
      { samples with total := samples.total + 1, seen := samples.seen + 1 } := by
  have turn := slipped.turn
  have next := clock.next_seen fits
  rcases slipped.parts with ⟨old, fresh, values, size, odd, mixed⟩
  constructor
  case even => exact slipped.even
  case turn =>
    dsimp only
    rw [next]
    omega
  case parts =>
    refine ⟨old, fresh, values, size, odd, ?_⟩
    rcases mixed with inOld | inFresh | early
    · exact Or.inl inOld
    · exact Or.inr (Or.inl inFresh)
    · exact Or.inr (Or.inr (clock.skip_early fits started skipped early))

theorem Slipped.position (slipped : Slipped offers samples)
    (clock : Clock offers decimations samples) (fits : decimations ≤ 63)
    (kept : ¬ samples.seen + 1 < samples.stride) : offers % 2 = 1 := by
  have gone := clock.stride_seen fits kept
  have even := slipped.even
  have turn := slipped.turn
  rw [clock.stride] at even
  omega

theorem Slipped.keep (slipped : Slipped offers samples) (clock : Clock offers decimations samples)
    (fits : decimations ≤ 63) (kept : ¬ samples.seen + 1 < samples.stride) :
    Slipped (offers + 1)
      { samples with
        total := samples.total + 1
        seen := 0
        values := samples.values ++ [offers] } := by
  have position := slipped.position clock fits kept
  rcases slipped.parts with ⟨old, fresh, values, size, odd, _⟩
  constructor
  case even => exact slipped.even
  case turn =>
    change (offers + 1 + 0) % 2 = 0
    omega
  case parts =>
    refine ⟨old, fresh ++ [offers], ?_, size, ?_, Or.inr (Or.inl (by simp))⟩
    · dsimp only
      rw [values, List.append_assoc]
    · intro other member
      rcases List.mem_append.mp member with before | same
      · exact odd other before
      · rw [List.mem_singleton.mp same]
        exact position

theorem Slipped.thin (slipped : Slipped offers samples) (clock : Clock offers decimations samples)
    (fits : decimations ≤ 63) (several : 4 ≤ samples.capacity) (even : samples.capacity % 2 = 0)
    (kept : ¬ samples.seen + 1 < samples.stride)
    (full : samples.capacity = samples.values.length + 1) :
    Slipped (offers + 1)
      { samples with
        total := samples.total + 1
        seen := 0
        values := everyOther (samples.values ++ [offers])
        stride := samples.stride * 2 } := by
  have position := slipped.position clock fits kept
  rcases slipped.parts with ⟨old, fresh, values, size, odd, _⟩
  -- a place with an even index in the second half of the buffer
  obtain ⟨index, later, inside⟩ : ∃ index, samples.capacity / 2 ≤ 2 * index ∧
      2 * index < samples.capacity := ⟨(samples.capacity / 2 + 1) / 2, by omega, by omega⟩
  have whole : (samples.values ++ [offers]).length = samples.capacity := by simp [full]
  obtain ⟨other, found⟩ : ∃ other, (samples.values ++ [offers])[2 * index]? = some other :=
    ⟨_, List.getElem?_eq_getElem (by rw [whole]; exact inside)⟩
  have oddAgain : other % 2 = 1 := by
    rw [values, List.append_assoc, List.getElem?_append_right (by omega)] at found
    rcases List.mem_append.mp (List.mem_of_getElem? found) with before | same
    · exact odd other before
    · rw [List.mem_singleton.mp same]
      exact position
  constructor
  case even =>
    dsimp only
    rw [UInt64.toNat_mul]
    change samples.stride.toNat * 2 % 2 ^ 64 % 2 = 0
    omega
  case turn =>
    change (offers + 1 + 0) % 2 = 0
    omega
  case parts =>
    refine ⟨_, [], (List.append_nil _).symm, ?_, List.forall_mem_nil _, Or.inl ?_⟩
    · dsimp only
      rw [length_everyOther, whole]
      omega
    · have stays : (everyOther (samples.values ++ [offers]))[index]? = some other := by
        rw [getElem?_everyOther, found]
      exact ⟨other, List.mem_of_getElem? stays, oddAgain⟩

end

theorem positions_slipped {capacity count : Nat} (even : capacity % 2 = 0) (several : 4 ≤ capacity)
    (started : capacity ≤ count) (running : count < lifetime capacity) :
    Slipped count (positions capacity count) := by
  have effective : max 1 capacity = capacity := by omega
  induction count, started using Nat.le_induction with
  | base => exact slipped_start even (by omega)
  | succ count started induction =>
      have slipped := induction (Nat.lt_of_succ_lt running)
      have before : count < lifetime (max 1 capacity) := by
        rw [effective]
        exact Nat.lt_of_succ_lt running
      rcases positions_clock before with ⟨decimations, fits, clock⟩
      have capacitySame : (positions capacity count).capacity = capacity := by
        rw [capacity_positions, effective]
      rw [positions_succ]
      rcases add_cases (positions capacity count) count with
        ⟨skipped, added⟩ | ⟨kept, _, added⟩ | ⟨kept, full, added⟩
      · rw [added]
        exact slipped.skip clock fits (by rw [capacitySame]; exact started) skipped
      · rw [added]
        exact slipped.keep clock fits kept
      · have room := clock.room (by rw [capacitySame]; omega)
        rw [added]
        apply slipped.thin clock fits _ _ kept
        · omega
        · rw [capacitySame]
          exact several
        · rw [capacitySame]
          exact even

/-- An odd position stays in the buffer from the second kept value after the
first decimation on. -/
theorem Slipped.exists_odd {samples : Samples Nat} {offers : Nat}
    (slipped : Slipped offers samples) (late : samples.capacity + 2 ≤ offers) :
    ∃ position ∈ samples.values, position % 2 = 1 := by
  rcases slipped.parts with ⟨old, fresh, values, _, odd, mixed⟩
  rw [values]
  rcases mixed with ⟨position, member, isOdd⟩ | found | early
  · exact ⟨position, List.mem_append_left _ member, isOdd⟩
  · rcases List.exists_mem_of_ne_nil fresh found with ⟨position, member⟩
    exact ⟨position, List.mem_append_right _ member, odd position member⟩
  · omega

/-! ## Systematic decimation -/

/-- The offers that are kept are the first, the one a stride after it, and so
on; positions count from zero. -/
structure Systematic {T : Type*} (capacity : Nat) (offered : List T) : Prop where
  positions : (kept capacity offered).map Prod.snd =
    progression ((create capacity).addAll offered).stride.toNat
      ((create capacity).addAll offered).retained
  values : ((create capacity).addAll offered).values.map some =
    (progression ((create capacity).addAll offered).stride.toNat
      ((create capacity).addAll offered).retained).map fun position => offered[position]?
  bounded : ((create capacity).addAll offered).retained ≤ max 1 capacity
  doubling : ∃ exponent, ((create capacity).addAll offered).stride.toNat = 2 ^ exponent

/-- The capacity is odd or two, or the values kept after the first decimation
are still to come; and the stride fits its word. -/
def KeepsStep (capacity count : Nat) : Prop :=
  (capacity % 2 = 1 ∨ capacity = 2 ∨ count ≤ capacity + 1) ∧ count < lifetime capacity

instance (capacity count : Nat) : Decidable (KeepsStep capacity count) :=
  inferInstanceAs (Decidable (_ ∧ _))

section

variable {T : Type*}

theorem stride_addAll (capacity : Nat) (offered : List T) :
    ((create capacity).addAll offered).stride = (positions capacity offered.length).stride := by
  rw [positions_eq_kept, addAll_zipIdx]
  rfl

theorem retained_addAll (capacity : Nat) (offered : List T) :
    ((create capacity).addAll offered).retained =
      (positions capacity offered.length).values.length := by
  rw [positions_eq_kept, addAll_zipIdx]
  simp [retained, map]

theorem positions_kept (capacity : Nat) (offered : List T) :
    (kept capacity offered).map Prod.snd = (positions capacity offered.length).values := by
  rw [positions_eq_kept]
  rfl

theorem offered_of_kept {capacity : Nat} {offered : List T} {value : T} {position : Nat}
    (member : (value, position) ∈ kept capacity offered) : offered[position]? = some value :=
  List.mem_zipIdx_iff_getElem?.mp (addAll_subset member)

theorem values_kept (capacity : Nat) (offered : List T) :
    ((create capacity).addAll offered).values.map some =
      ((kept capacity offered).map Prod.snd).map fun position => offered[position]? := by
  rw [addAll_zipIdx, map, List.map_map, List.map_map]
  apply List.map_congr_left
  rintro ⟨value, position⟩ member
  exact (offered_of_kept member).symm

theorem positions_spaced {capacity count : Nat} (inStep : KeepsStep (max 1 capacity) count) :
    (positions capacity count).values = progression (positions capacity count).stride.toNat
      (positions capacity count).values.length := by
  rcases inStep with ⟨step, running⟩
  rcases Nat.eq_zero_or_eq_succ_pred count with rfl | next
  · exact (aligned_start capacity).spaced
  · rcases Nat.lt_or_ge 2 (max 1 capacity) with several | tiny
    · rcases step with odd | two | early
      · exact (positions_odd odd (by omega) running).spaced
      · omega
      · exact positions_early (by omega) (by omega)
    · rw [next, Nat.succ_eq_add_one, positions_tiny tiny]
      simp [progression]

/-- Exactly when decimation is systematic. -/
theorem systematic_iff (capacity : Nat) (offered : List T) :
    Systematic capacity offered ↔ KeepsStep (max 1 capacity) offered.length := by
  have stride := stride_addAll capacity offered
  have size := retained_addAll capacity offered
  have places := positions_kept capacity offered
  constructor
  · intro systematic
    have running : offered.length < lifetime (max 1 capacity) := by
      by_contra overrun
      rcases systematic.doubling with ⟨exponent, power⟩
      have positive := Nat.two_pow_pos exponent
      rw [stride_overflowed (Nat.not_lt.mp overrun)] at power
      change 0 = _ at power
      omega
    refine ⟨?_, running⟩
    by_contra outOfStep
    have effective : max 1 capacity = capacity := by omega
    rw [effective] at running outOfStep
    have slipped := positions_slipped (by omega) (by omega) (by omega) running
    rcases slipped.exists_odd (by rw [capacity_positions]; omega) with ⟨position, member, odd⟩
    rw [← places, systematic.positions, stride] at member
    have even := even_of_mem_progression slipped.even member
    omega
  · intro inStep
    have spaced := positions_spaced inStep
    rcases positions_clock inStep.2 with ⟨decimations, _, clock⟩
    constructor
    case positions => rw [places, stride, size, ← spaced]
    case values => rw [values_kept, places, stride, size, ← spaced]
    case bounded => exact retained_le capacity offered
    case doubling => exact ⟨decimations, by rw [stride]; exact clock.stride⟩

end

/-- Capacity 4, the offers 1 to 6: kept are 1, 3 and 6. -/
theorem phase_slips_after_first_decimation :
    ((create 4).addAll [1, 2, 3, 4, 5, 6]).values = [1, 3, 6] ∧
      ((create 4).addAll [1, 2, 3, 4, 5, 6]).stride = 2 ∧
      ¬ Systematic 4 [1, 2, 3, 4, 5, 6] := by
  refine ⟨by decide, by decide, ?_⟩
  intro systematic
  exact absurd systematic.positions (by decide)

end Samples

end TelemetryGateway
