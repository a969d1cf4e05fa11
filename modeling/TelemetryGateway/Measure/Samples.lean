import Mathlib.Data.List.Induction
import TelemetryGateway.Foundation.EveryOther

/-! # A bounded sample buffer

When the buffer is full every second sample is dropped, and of the values
offered from then on half as many are kept. -/

namespace TelemetryGateway

/-- What is sampled is left open: `add` does not look at it. -/
structure Samples (T : Type u) where
  values : List T := []
  capacity : Nat
  total : UInt64 := 0
  stride : UInt64 := 1
  seen : UInt64 := 0
  deriving DecidableEq, Repr

namespace Samples

variable {S T : Type*}

def create (capacity : Nat) : Samples T where
  capacity := if capacity = 0 then 1 else capacity

/-- The loop of `decimate`, in place: the value at `i` goes to `out`. -/
def compact : Nat → Nat → Nat → List T → List T × Nat
  | 0, _, out, values => (values, out)
  | turns + 1, i, out, values =>
      match values[i]? with
      | some value => compact turns (i + 2) (out + 1) (values.set out value)
      | none => (values, out)

def decimate (samples : Samples T) : Samples T :=
  let (values, out) := compact samples.values.length 0 0 samples.values
  { samples with
    values := values.take out
    stride := samples.stride * 2 }

def add (samples : Samples T) (value : T) : Samples T :=
  let samples := { samples with total := samples.total + 1, seen := samples.seen + 1 }
  if samples.seen < samples.stride then samples
  else
    let samples := { samples with seen := 0, values := samples.values ++ [value] }
    if samples.capacity ≤ samples.values.length then samples.decimate else samples

def addAll (samples : Samples T) (offered : List T) : Samples T :=
  offered.foldl add samples

def retained (samples : Samples T) : Nat := samples.values.length

@[simp] theorem addAll_nil (samples : Samples T) : samples.addAll [] = samples := rfl

theorem addAll_concat (samples : Samples T) (offered : List T) (value : T) :
    samples.addAll (offered ++ [value]) = (samples.addAll offered).add value := by
  simp [addAll]

example : ((create 3).addAll [10, 11, 12, 13, 14]).values = [10, 14] := by decide

/-! ## One call of `decimate` -/

/-- Up to `i` every other value has been moved, behind `out` nothing has been
touched. -/
theorem compact_everyOther {original : List T} :
    ∀ {turns out : Nat} {values : List T}, original.length ≤ 2 * (out + turns) →
      (∀ index, index < out → values[index]? = original[2 * index]?) →
      (∀ index, out ≤ index → values[index]? = original[index]?) →
      (compact turns (2 * out) out values).1.take (compact turns (2 * out) out values).2 =
        everyOther original := by
  intro turns
  induction turns with
  | zero =>
      intro out values enough moved _
      apply List.ext_getElem?
      intro index
      rw [getElem?_everyOther, compact, List.getElem?_take]
      split
      · rename_i before
        exact moved index before
      · exact (List.getElem?_eq_none (by omega)).symm
  | succ turns induction =>
      intro out values enough moved untouched
      have same := untouched (2 * out) (by omega)
      rw [compact]
      cases found : original[2 * out]? with
      | none =>
          rw [found] at same
          simp only [same]
          apply List.ext_getElem?
          intro index
          rw [getElem?_everyOther, List.getElem?_take]
          split
          · rename_i before
            exact moved index before
          · have beyond := List.getElem?_eq_none_iff.mp found
            exact (List.getElem?_eq_none (by omega)).symm
      | some value =>
          rw [found] at same
          simp only [same]
          have inside : out < values.length := by
            have bound := (List.getElem?_eq_some_iff.mp same).1
            omega
          rw [show 2 * out + 2 = 2 * (out + 1) by omega]
          apply induction (by omega)
          · intro index before
            rw [List.getElem?_set]
            by_cases here : out = index
            · subst here
              simp [inside, found]
            · rw [if_neg here]
              exact moved index (by omega)
          · intro index behind
            rw [List.getElem?_set_ne (by omega)]
            exact untouched index (by omega)

theorem decimate_eq (samples : Samples T) :
    samples.decimate =
      { samples with values := everyOther samples.values, stride := samples.stride * 2 } := by
  have moved := @compact_everyOther T samples.values samples.values.length 0 samples.values
    (by omega) (fun index before => by omega) (fun index _ => rfl)
  rw [decimate, ← moved]

/-! ## One call of `add` -/

section

variable {samples : Samples T}

theorem add_of_skipped (skipped : samples.seen + 1 < samples.stride) (value : T) :
    samples.add value =
      { samples with total := samples.total + 1, seen := samples.seen + 1 } := by
  simp [add, skipped]

theorem add_of_room (kept : ¬ samples.seen + 1 < samples.stride)
    (room : samples.values.length + 1 < samples.capacity) (value : T) :
    samples.add value =
      { samples with
        total := samples.total + 1
        seen := 0
        values := samples.values ++ [value] } := by
  simp [add, kept, Nat.not_le.mpr room]

theorem add_of_full (kept : ¬ samples.seen + 1 < samples.stride)
    (full : samples.capacity ≤ samples.values.length + 1) (value : T) :
    samples.add value =
      { samples with
        total := samples.total + 1
        seen := 0
        values := everyOther (samples.values ++ [value])
        stride := samples.stride * 2 } := by
  simp [add, kept, full, decimate_eq]

/-- A call passes the value over, keeps it, or keeps it and thins the buffer
out. -/
theorem add_cases (samples : Samples T) (value : T) :
    (samples.seen + 1 < samples.stride ∧
      samples.add value =
        { samples with total := samples.total + 1, seen := samples.seen + 1 }) ∨
    (¬ samples.seen + 1 < samples.stride ∧ samples.values.length + 1 < samples.capacity ∧
      samples.add value =
        { samples with
          total := samples.total + 1
          seen := 0
          values := samples.values ++ [value] }) ∨
    (¬ samples.seen + 1 < samples.stride ∧ samples.capacity ≤ samples.values.length + 1 ∧
      samples.add value =
        { samples with
          total := samples.total + 1
          seen := 0
          values := everyOther (samples.values ++ [value])
          stride := samples.stride * 2 }) := by
  by_cases skipped : samples.seen + 1 < samples.stride
  · exact Or.inl ⟨skipped, add_of_skipped skipped value⟩
  · rcases Nat.lt_or_ge (samples.values.length + 1) samples.capacity with room | full
    · exact Or.inr (Or.inl ⟨skipped, room, add_of_room skipped room value⟩)
    · exact Or.inr (Or.inr ⟨skipped, full, add_of_full skipped full value⟩)

@[simp] theorem capacity_add (samples : Samples T) (value : T) :
    (samples.add value).capacity = samples.capacity := by
  rcases add_cases samples value with ⟨_, added⟩ | ⟨_, _, added⟩ | ⟨_, _, added⟩ <;> rw [added]

@[simp] theorem capacity_addAll (offered : List T) :
    (samples.addAll offered).capacity = samples.capacity := by
  induction offered using List.reverseRecOn with
  | nil => rfl
  | append_singleton offered value induction => rw [addAll_concat, capacity_add, induction]

theorem length_add_lt (value : T) (inside : samples.values.length < max 2 samples.capacity) :
    (samples.add value).values.length < max 2 samples.capacity := by
  rcases add_cases samples value with ⟨_, added⟩ | ⟨_, room, added⟩ | ⟨_, _, added⟩
  · rw [added]
    exact inside
  · rw [added]
    simp only [List.length_append, List.length_singleton]
    omega
  · rw [added]
    simp only [length_everyOther, List.length_append, List.length_singleton]
    omega

end

@[simp] theorem capacity_create (capacity : Nat) :
    (create capacity : Samples T).capacity = max 1 capacity := by
  simp only [create]
  split <;> omega

theorem addAll_subset {capacity : Nat} {offered : List T} {value : T}
    (member : value ∈ ((create capacity).addAll offered).values) : value ∈ offered := by
  induction offered using List.reverseRecOn with
  | nil => exact member
  | append_singleton offered last induction =>
      rw [addAll_concat] at member
      rw [List.mem_append]
      rcases add_cases ((create capacity).addAll offered) last with
        ⟨_, added⟩ | ⟨_, _, added⟩ | ⟨_, _, added⟩
      · rw [added] at member
        exact Or.inl (induction member)
      · rw [added] at member
        exact (List.mem_append.mp member).imp_left induction
      · rw [added] at member
        exact (List.mem_append.mp (mem_of_mem_everyOther member)).imp_left induction

theorem addAll_filling {capacity : Nat} {offered : List T} (filling : offered.length < capacity) :
    (create capacity).addAll offered =
      { values := offered, capacity := capacity, total := UInt64.ofNat offered.length } := by
  induction offered using List.reverseRecOn with
  | nil =>
      have positive : capacity ≠ 0 := Nat.ne_of_gt filling
      simp [create, positive]
  | append_singleton offered value induction =>
      rw [List.length_append, List.length_singleton] at filling
      rw [addAll_concat, induction (Nat.lt_of_succ_lt filling), add_of_room]
      · simp
      · dsimp only
        decide
      · exact filling

theorem retained_le (capacity : Nat) (offered : List T) :
    ((create capacity).addAll offered).retained ≤ max 1 capacity := by
  have inside : ((create capacity).addAll offered).values.length <
      max 2 ((create capacity).addAll offered).capacity := by
    induction offered using List.reverseRecOn with
    | nil => exact Nat.lt_of_lt_of_le Nat.zero_lt_two (Nat.le_max_left ..)
    | append_singleton offered value induction =>
        rw [addAll_concat, capacity_add]
        exact length_add_lt value induction
  rw [capacity_addAll, capacity_create] at inside
  rw [retained]
  omega

end Samples

end TelemetryGateway
