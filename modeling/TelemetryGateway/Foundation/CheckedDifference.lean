/-! # Signed differences

A subtraction of signed integers that overflows has no result. One that does not
gives the difference of the numbers. -/

namespace TelemetryGateway

def IsInt64 (number : Int) : Prop :=
  Int64.minValue.toInt ≤ number ∧ number ≤ Int64.maxValue.toInt

instance (number : Int) : Decidable (IsInt64 number) :=
  inferInstanceAs (Decidable (_ ∧ _))

theorem IsInt64.toInt_ofInt {number : Int} (fits : IsInt64 number) :
    (Int64.ofInt number).toInt = number := by
  rcases fits with ⟨above, below⟩
  rw [Int64.toInt_minValue] at above
  rw [Int64.toInt_maxValue] at below
  exact Int64.toInt_ofInt_of_le above (Int.lt_of_le_sub_one below)

def checkedSub (left right : Int64) : Option Int64 :=
  if IsInt64 (left.toInt - right.toInt) then some (left - right) else none

theorem checkedSub_eq_some {left right difference : Int64} :
    checkedSub left right = some difference ↔
      IsInt64 (left.toInt - right.toInt) ∧
        Int64.ofInt (left.toInt - right.toInt) = difference := by
  rw [Int64.ofInt_sub, Int64.ofInt_toInt, Int64.ofInt_toInt, checkedSub,
    Option.ite_none_right_eq_some, Option.some.injEq]

example : checkedSub 7 9 = some (-2) ∧ checkedSub Int64.minValue 1 = none := by decide

end TelemetryGateway
