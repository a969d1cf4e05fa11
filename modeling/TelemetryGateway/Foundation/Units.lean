import Mathlib.Data.List.Basic

/-! # Streams of units

A stream is its units one after the other, each encoded by itself. Of what has
come of the stream the complete units can be told from the beginning of the next
one. -/

namespace TelemetryGateway

variable {U T : Type*} (encode : U → List T)

/-- The units that lie within the first `size` items of the stream. -/
def complete : List U → Nat → List U
  | [], _ => []
  | unit :: units, size =>
      if (encode unit).length ≤ size then
        unit :: complete units (size - (encode unit).length)
      else []

theorem complete_prefix (units : List U) (size : Nat) : complete encode units size <+: units := by
  induction units generalizing size with
  | nil => exact List.prefix_rfl
  | cons unit units induction =>
      rw [complete]
      split
      · exact List.cons_prefix_cons.mpr ⟨rfl, induction _⟩
      · exact List.nil_prefix

theorem length_complete_le (units : List U) (size : Nat) :
    ((complete encode units size).flatMap encode).length ≤ size := by
  induction units generalizing size with
  | nil => exact Nat.zero_le size
  | cons unit units induction =>
      rw [complete]
      split
      · have rest := induction (size - (encode unit).length)
        rw [List.flatMap_cons, List.length_append]
        omega
      · exact Nat.zero_le size

/-- When more has come the complete units are those from before and the ones
that what was left over is now enough for. -/
theorem complete_add (units : List U) (size more : Nat) :
    complete encode units (size + more) = complete encode units size ++
      complete encode (units.drop (complete encode units size).length)
        (size - ((complete encode units size).flatMap encode).length + more) := by
  induction units generalizing size with
  | nil => rfl
  | cons unit units induction =>
      by_cases fits : (encode unit).length ≤ size
      · have later : (encode unit).length ≤ size + more := by omega
        have rest : size + more - (encode unit).length = size - (encode unit).length + more := by
          omega
        have left : size - (encode unit ++
              (complete encode units (size - (encode unit).length)).flatMap encode).length =
            size - (encode unit).length -
              ((complete encode units (size - (encode unit).length)).flatMap encode).length := by
          rw [List.length_append, Nat.sub_add_eq]
        rw [complete, if_pos later, complete, if_pos fits, rest, induction]
        simp only [List.length_cons, List.drop_succ_cons, List.cons_append, List.flatMap_cons, left]
      · have none : complete encode (unit :: units) size = [] := by rw [complete, if_neg fits]
        simp [none]

theorem drop_complete (units : List U) (size : Nat) :
    (units.flatMap encode).drop ((complete encode units size).flatMap encode).length =
      (units.drop (complete encode units size).length).flatMap encode := by
  rcases complete_prefix encode units size with ⟨rest, split⟩
  generalize complete encode units size = front at split ⊢
  subst split
  rw [List.flatMap_append, List.drop_left, List.drop_left]

theorem drop_complete_prefix {units : List U} {received : List T} {size : Nat}
    (begins : received <+: units.flatMap encode) (seen : size ≤ received.length) :
    received.drop ((complete encode units size).flatMap encode).length <+:
      (units.drop (complete encode units size).length).flatMap encode := by
  have inside := Nat.le_trans (length_complete_le encode units size) seen
  rcases begins with ⟨rest, split⟩
  exact ⟨rest, by rw [← drop_complete, ← split, List.drop_append_of_le_length inside]⟩

end TelemetryGateway
