import Mathlib.Tactic.Ring
import Mathlib.Data.Nat.Bitwise

/-! # Little-endian bytes

The shift loops that pack a natural number into bytes and unpack it again, and
the base-256 reading of a byte list that both are proved against. -/

namespace TelemetryGateway.LittleEndian

/-- Byte `index` of `value`, as a shift and a mask extract it. -/
def byteAt (value index : Nat) : UInt8 :=
  UInt8.ofNat ((value >>> (8 * index)) &&& 0xFF)

/-- The `width` low bytes of `value`, least significant first. -/
def store (width value : Nat) : List UInt8 :=
  (List.range width).map (byteAt value)

/-- The accumulation loop of a decoder: byte `index` is shifted into place and
combined with the bytes before it. -/
def load (width : Nat) (source : Nat → UInt8) : Nat :=
  (List.range width).foldl
    (fun value index => value ||| ((source index).toNat <<< (8 * index))) 0

def value : List UInt8 → Nat
  | [] => 0
  | byte :: rest => byte.toNat + 256 * value rest

@[simp] theorem length_store (width value : Nat) : (store width value).length = width := by
  simp [store]

theorem toList_ofFn_byteAt (width value : Nat) :
    (Vector.ofFn fun index : Fin width => byteAt value index.val).toList =
      store width value := by
  apply List.ext_getElem
  · simp
  · intro index left right
    simp [store]

theorem byteAt_eq (value index : Nat) :
    byteAt value index = UInt8.ofNat (value / 256 ^ index % 256) := by
  have mask : (value >>> (8 * index)) &&& 0xFF = value >>> (8 * index) % 256 :=
    Nat.and_two_pow_sub_one_eq_mod _ 8
  rw [byteAt, mask, Nat.shiftRight_eq_div_pow, Nat.pow_mul]

theorem store_succ (width value : Nat) :
    store (width + 1) value = UInt8.ofNat (value % 256) :: store width (value / 256) := by
  simp only [store, List.range_succ_eq_map, List.map_cons, List.map_map]
  congr 1
  · simp [byteAt_eq]
  · apply List.map_congr_left
    intro index _
    simp [byteAt_eq, Nat.pow_succ', Nat.div_div_eq_div_mul]

theorem toNat_ofNat_mod (number : Nat) : (UInt8.ofNat (number % 256)).toNat = number % 256 := by
  rw [UInt8.toNat_ofNat_of_lt']
  exact Nat.mod_lt _ (by decide)

theorem value_store (width number : Nat) : value (store width number) = number % 256 ^ width := by
  induction width generalizing number with
  | zero => simp [store, value, Nat.mod_one]
  | succ width induction =>
      rw [store_succ, value, induction, toNat_ofNat_mod, Nat.pow_succ', Nat.mod_mul]

theorem value_lt (bytes : List UInt8) : value bytes < 256 ^ bytes.length := by
  induction bytes with
  | nil => simp [value]
  | cons byte rest induction =>
      have small : byte.toNat < 256 := byte.toNat_lt
      rw [value, List.length_cons, Nat.pow_succ']
      omega

theorem store_value (bytes : List UInt8) : store bytes.length (value bytes) = bytes := by
  induction bytes with
  | nil => rfl
  | cons byte rest induction =>
      have small : byte.toNat < 256 := byte.toNat_lt
      rw [List.length_cons, store_succ, value, Nat.add_mul_mod_self_left,
        Nat.mod_eq_of_lt small, UInt8.ofNat_toNat,
        Nat.add_mul_div_left _ _ (by decide), Nat.div_eq_of_lt small, Nat.zero_add, induction]

theorem value_append (front back : List UInt8) :
    value (front ++ back) = value front + 256 ^ front.length * value back := by
  induction front with
  | nil => simp [value]
  | cons byte rest induction =>
      rw [List.cons_append, value, value, induction, List.length_cons, Nat.pow_succ']
      ring

/-- The accumulation loop computes the base-256 value of the bytes it visits:
each new byte lands above every bit accumulated so far, so `or` is addition. -/
theorem load_eq_value (width : Nat) (source : Nat → UInt8) :
    load width source = value ((List.range width).map source) := by
  induction width with
  | zero => rfl
  | succ width induction =>
      have bound := value_lt ((List.range width).map source)
      have shift : (256 : Nat) ^ width = 2 ^ (8 * width) := by
        rw [Nat.pow_mul]
      simp only [List.length_map, List.length_range, shift] at bound
      rw [load, List.range_succ, List.foldl_append, List.map_append, value_append]
      simp only [List.foldl_cons, List.foldl_nil, List.map_cons, List.map_nil,
        List.length_map, List.length_range, value, Nat.mul_zero, Nat.add_zero]
      rw [load] at induction
      rw [induction, Nat.or_comm, ← Nat.shiftLeft_add_eq_or_of_lt bound,
        Nat.shiftLeft_eq, shift]
      ring

theorem load_getD (width : Nat) (bytes : List UInt8) (long : width ≤ bytes.length) :
    load width (fun index => bytes.getD index 0) = value (bytes.take width) := by
  rw [load_eq_value]
  congr 1
  apply List.ext_getElem
  · simp [long]
  · intro index left right
    have inside : index < bytes.length := by
      simp only [List.length_map, List.length_range] at left
      omega
    simp [inside]

end TelemetryGateway.LittleEndian
