import Mathlib.Data.List.Basic

/-! # Every other element of a list

Thinning a list out keeps its elements at the even positions. Positions that
were equally spaced from the first one on stay so. -/

namespace TelemetryGateway

variable {S T : Type*}

def everyOther : List T → List T
  | [] => []
  | [value] => [value]
  | value :: _ :: rest => value :: everyOther rest

@[simp] theorem getElem?_everyOther (values : List T) (index : Nat) :
    (everyOther values)[index]? = values[2 * index]? := by
  induction values using everyOther.induct generalizing index with
  | case1 => simp [everyOther]
  | case2 value =>
      cases index with
      | zero => rfl
      | succ index => simp [everyOther, Nat.mul_succ]
  | case3 value skipped rest induction =>
      cases index with
      | zero => rfl
      | succ index => simp [everyOther, Nat.mul_succ, induction]

@[simp] theorem length_everyOther (values : List T) :
    (everyOther values).length = (values.length + 1) / 2 := by
  induction values using everyOther.induct with
  | case1 => simp [everyOther]
  | case2 value => simp [everyOther]
  | case3 value skipped rest induction =>
      simp only [everyOther, List.length_cons, induction]
      omega

theorem map_everyOther (transform : S → T) (values : List S) :
    everyOther (values.map transform) = (everyOther values).map transform := by
  apply List.ext_getElem?
  simp

theorem mem_of_mem_everyOther {values : List T} {value : T} (member : value ∈ everyOther values) :
    value ∈ values := by
  rcases List.getElem?_of_mem member with ⟨index, found⟩
  rw [getElem?_everyOther] at found
  exact List.mem_of_getElem? found

/-! ## Equally spaced positions -/

def progression (stride count : Nat) : List Nat :=
  (List.range count).map fun index => index * stride

@[simp] theorem length_progression (stride count : Nat) :
    (progression stride count).length = count := by
  simp [progression]

theorem progression_succ (stride count : Nat) :
    progression stride (count + 1) = progression stride count ++ [count * stride] := by
  simp [progression, List.range_succ]

theorem getElem?_progression (stride count index : Nat) :
    (progression stride count)[index]? = if index < count then some (index * stride) else none := by
  by_cases inside : index < count
  · simp [progression, inside]
  · simp [progression, inside]

theorem everyOther_progression (stride count : Nat) :
    everyOther (progression stride count) = progression (2 * stride) ((count + 1) / 2) := by
  apply List.ext_getElem?
  intro index
  have within : 2 * index < count ↔ index < (count + 1) / 2 := by omega
  have apart : 2 * index * stride = index * (2 * stride) := by
    rw [Nat.mul_comm 2 index, Nat.mul_assoc]
  simp only [getElem?_everyOther, getElem?_progression, within, apart]

theorem even_of_mem_progression {stride count position : Nat} (even : stride % 2 = 0)
    (member : position ∈ progression stride count) : position % 2 = 0 := by
  rcases List.mem_map.mp member with ⟨index, _, rfl⟩
  simp [Nat.mul_mod, even]

end TelemetryGateway
