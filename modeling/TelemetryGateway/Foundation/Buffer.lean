/-! # In-place writes into a fixed buffer

A C span is written field by field at fixed offsets. `poke` is one such write;
a run of adjacent writes that covers the buffer leaves nothing of what it held
before. -/

namespace TelemetryGateway.Buffer

/-- Overwrite the elements from `offset` on with `values`. -/
def poke (buffer : List α) (offset : Nat) (values : List α) : List α :=
  buffer.take offset ++ values ++ buffer.drop (offset + values.length)

@[simp] theorem length_poke (buffer : List α) (offset : Nat) (values : List α)
    (fits : offset + values.length ≤ buffer.length) :
    (poke buffer offset values).length = buffer.length := by
  simp [poke]
  omega

/-- After a write the buffer starts with what stood before it and the values
written. -/
theorem take_poke (buffer : List α) (offset : Nat) (values : List α)
    (fits : offset ≤ buffer.length) :
    (poke buffer offset values).take (offset + values.length) =
      buffer.take offset ++ values := by
  have written : (buffer.take offset ++ values).length = offset + values.length := by
    simp [fits]
  rw [poke, ← written]
  exact List.take_left

/-- Write several values one after the other from `offset` on. -/
def pokeAll (buffer : List α) (offset : Nat) : List (List α) → List α
  | [] => buffer
  | values :: rest => pokeAll (poke buffer offset values) (offset + values.length) rest

theorem take_pokeAll (buffer : List α) (offset : Nat) (fields : List (List α))
    (fits : offset + fields.flatten.length ≤ buffer.length) :
    (pokeAll buffer offset fields).take (offset + fields.flatten.length) =
      buffer.take offset ++ fields.flatten := by
  induction fields generalizing buffer offset with
  | nil => simp [pokeAll]
  | cons values rest induction =>
      simp only [List.flatten_cons, List.length_append] at fits ⊢
      have room : offset + values.length ≤ buffer.length := by omega
      have rest := induction (poke buffer offset values) (offset + values.length)
        (by rw [length_poke _ _ _ room]; omega)
      rw [pokeAll, ← Nat.add_assoc, rest, take_poke _ _ _ (by omega), List.append_assoc]

theorem length_pokeAll (buffer : List α) (offset : Nat) (fields : List (List α))
    (fits : offset + fields.flatten.length ≤ buffer.length) :
    (pokeAll buffer offset fields).length = buffer.length := by
  induction fields generalizing buffer offset with
  | nil => rfl
  | cons values rest induction =>
      simp only [List.flatten_cons, List.length_append] at fits
      have room : offset + values.length ≤ buffer.length := by omega
      rw [pokeAll, induction _ _ (by rw [length_poke _ _ _ room]; omega),
        length_poke _ _ _ room]

theorem pokeAll_eq_flatten (buffer : List α) (fields : List (List α))
    (covers : fields.flatten.length = buffer.length) :
    pokeAll buffer 0 fields = fields.flatten := by
  have written := take_pokeAll buffer 0 fields (by omega)
  have size := length_pokeAll buffer 0 fields (by omega)
  rw [List.take_of_length_le (by omega)] at written
  simpa using written

end TelemetryGateway.Buffer
