import TelemetryGateway.Wire.RoundTrip

/-! # The documented language and what the decoders accept

`docs/wire-format.md` describes a header and a record by the integers in their
fields. The two predicates below say it that way, over integers and without
the decoders' own loops; the theorem compares them with the decoders. -/

namespace TelemetryGateway.Wire

/-- The little-endian integer in the `size` bytes at `offset`. -/
def field (bytes : List UInt8) (offset size : Nat) : Nat :=
  LittleEndian.value ((bytes.drop offset).take size)

/-- The BatchHeader table: `payload_len` is the product of integers. -/
def HeaderDocumented (bytes : List UInt8) : Prop :=
  bytes.take 4 = [0x45, 0x54, 0x47, 0x31] ∧ field bytes 4 1 = 3 ∧ field bytes 5 1 = 16 ∧
    field bytes 6 2 = 40 ∧ field bytes 8 4 ≤ 65535 ∧
    field bytes 12 4 = 40 * field bytes 8 4

/-- The FrameRecord and flags tables: flag bits 5 to 7 and the byte at offset
31 are reserved and must be zero, and `len` is at most eight. -/
def RecordDocumented (bytes : List UInt8) : Prop :=
  field bytes 30 1 &&& 0xE0 = 0 ∧ field bytes 29 1 ≤ 8 ∧ field bytes 31 1 = 0

instance (bytes : List UInt8) : Decidable (HeaderDocumented bytes) :=
  inferInstanceAs (Decidable (_ ∧ _))

instance (bytes : List UInt8) : Decidable (RecordDocumented bytes) :=
  inferInstanceAs (Decidable (_ ∧ _))

theorem loadLe_eq_field (bytes : List UInt8) (offset size : Nat)
    (inside : offset + size ≤ bytes.length) :
    loadLe size (bytes.drop offset) = field bytes offset size :=
  loadLe_eq_value size _ (by simp only [List.length_drop]; omega)

theorem toNat_and_mask_eq_zero (flags : UInt8) :
    flags &&& FrameFlags.kReservedMask = 0 ↔ flags.toNat &&& 0xE0 = 0 := by
  rw [← UInt8.toNat_inj, UInt8.toNat_and]
  rfl

theorem parsedFrame_fields (bytes : FrameBytes) :
    (parsedFrame bytes.val).flags.toNat = field bytes.val 30 1 ∧
      (parsedFrame bytes.val).len.toNat = field bytes.val 29 1 := by
  have size := bytes.property
  have flags := loadLe_eq_field bytes.val 30 1 (by rw [size]; decide)
  have len := loadLe_eq_field bytes.val 29 1 (by rw [size]; decide)
  have flagsSmall := loadLe_lt 1 (bytes.val.drop 30)
  have lenSmall := loadLe_lt 1 (bytes.val.drop 29)
  simp only [parsedFrame, UInt8.toNat_ofNat']
  omega

theorem decodeFrame_accepts_iff (bytes : FrameBytes) (out : Frame) :
    (decodeFrame bytes.val out).1 = .kOk ↔
      field bytes.val 30 1 &&& 0xE0 = 0 ∧ field bytes.val 29 1 ≤ 8 := by
  rcases parsedFrame_fields bytes with ⟨flags, len⟩
  have flagsTest := toNat_and_mask_eq_zero (parsedFrame bytes.val).flags
  rw [flags] at flagsTest
  rcases decodeFrame_cases bytes.val out with ⟨reserved, result⟩ | ⟨allowed, long, result⟩ |
      ⟨allowed, short, result⟩
  · rw [result, ← flagsTest]
    simp [reserved]
  · rw [len, kMaxPayload] at long
    simp [result, Nat.not_le.mpr long]
  · rw [len, kMaxPayload] at short
    rw [result, ← flagsTest]
    simp [allowed, short]

theorem decodeFrame_refusal_keeps_output (bytes : List UInt8) (out : Frame)
    (refused : (decodeFrame bytes out).1 ≠ .kOk) : (decodeFrame bytes out).2 = out := by
  rcases decodeFrame_cases bytes out with ⟨_, result⟩ | ⟨_, _, result⟩ | ⟨_, _, result⟩
  · rw [result]
  · rw [result]
  · rw [result] at refused
    exact absurd rfl refused

theorem decodeHeader_refusal_keeps_output (bytes : List UInt8) (out : BatchHeader)
    (refused : (decodeHeader bytes out).1 ≠ .kOk) : (decodeHeader bytes out).2 = out := by
  by_cases tests : HeaderTestsPass bytes
  · rw [decodeHeader_accepts bytes out tests] at refused
    exact absurd rfl refused
  · exact (decodeHeader_refuses bytes out tests).2

/-- The count bound is tested before the product, so the 32-bit product that
`decodeHeader` compares with never wraps. -/
theorem headerTestsPass_iff (bytes : HeaderBytes) :
    HeaderTestsPass bytes.val ↔ HeaderDocumented bytes.val := by
  have size := bytes.property
  have version := loadLe_eq_field bytes.val 4 1 (by rw [size]; decide)
  have headerLen := loadLe_eq_field bytes.val 5 1 (by rw [size]; decide)
  have recordLen := loadLe_eq_field bytes.val 6 2 (by rw [size]; decide)
  have count := loadLe_eq_field bytes.val 8 4 (by rw [size]; decide)
  have payload := loadLe_eq_field bytes.val 12 4 (by rw [size])
  have versionSmall := loadLe_lt 1 (bytes.val.drop 4)
  have headerSmall := loadLe_lt 1 (bytes.val.drop 5)
  have recordSmall := loadLe_lt 2 (bytes.val.drop 6)
  have countSmall := loadLe_lt 4 (bytes.val.drop 8)
  have payloadSmall := loadLe_lt 4 (bytes.val.drop 12)
  simp only [HeaderTestsPass, HeaderDocumented, parsedHeader, ← UInt8.toNat_inj,
    ← UInt32.toNat_inj, UInt32.le_iff_toNat_le, UInt8.toNat_ofNat', UInt16.toNat_ofNat',
    UInt32.toNat_mul, UInt32.toNat_ofNat', show kVersion.toNat = 3 from rfl,
    show kMaxCount.toNat = 65535 from rfl, kHeaderSize, kRecordSize]
  apply and_congr Iff.rfl
  omega

/-- The header decoder accepts exactly the documented headers and both
decoders leave their output alone when they refuse. The record decoder agrees
with the document on a record exactly when the reserved byte is zero or the
record is refused anyway. -/
theorem decoders_match_document_iff (header : HeaderBytes) (record : FrameBytes)
    (headerOut : BatchHeader) (frameOut : Frame) :
    ((decodeHeader header.val headerOut).1 = .kOk ↔ HeaderDocumented header.val) ∧
    (((decodeFrame record.val frameOut).1 = .kOk ↔ RecordDocumented record.val) ↔
      (field record.val 31 1 = 0 ∨ field record.val 30 1 &&& 0xE0 ≠ 0 ∨
        8 < field record.val 29 1)) ∧
    ((decodeHeader header.val headerOut).1 ≠ .kOk →
      (decodeHeader header.val headerOut).2 = headerOut) ∧
    ((decodeFrame record.val frameOut).1 ≠ .kOk →
      (decodeFrame record.val frameOut).2 = frameOut) := by
  refine ⟨?_, ?_, decodeHeader_refusal_keeps_output header.val headerOut,
    decodeFrame_refusal_keeps_output record.val frameOut⟩
  · rw [← headerTestsPass_iff]
    constructor
    · intro accepted
      exact ((decodeHeader_ok_iff _ _ _).mp (Prod.ext accepted rfl)).1
    · intro tests
      rw [decodeHeader_accepts _ _ tests]
  · rw [decodeFrame_accepts_iff, RecordDocumented]
    by_cases flags : field record.val 30 1 &&& 0xE0 = 0 <;>
      by_cases reserved : field record.val 31 1 = 0 <;>
      simp [flags, reserved]

def reservedByteRecord : FrameBytes :=
  ⟨List.replicate 31 0 ++ [1] ++ List.replicate 8 0, rfl⟩

theorem reserved_byte_accepted :
    ¬((decodeFrame reservedByteRecord.val Frame.zero).1 = .kOk ↔
      RecordDocumented reservedByteRecord.val) := by
  decide

end TelemetryGateway.Wire
