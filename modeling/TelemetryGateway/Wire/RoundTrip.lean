import TelemetryGateway.Wire.Codec

/-! # What is decoded is what was encoded, and conversely -/

namespace TelemetryGateway.Wire

/-! ## One field -/

theorem loadLe_lt (width : Nat) (p : List UInt8) : loadLe width p < 256 ^ width := by
  have bound := LittleEndian.value_lt
    ((List.range width).map fun index => p.getD index 0)
  rw [loadLe, LittleEndian.load_eq_value]
  simpa using bound

theorem loadLe_eq_value (width : Nat) (p : List UInt8) (long : width ≤ p.length) :
    loadLe width p = LittleEndian.value (p.take width) :=
  LittleEndian.load_getD width p long

theorem loadLe_storeLe (width value : Nat) (rest : List UInt8)
    (small : value < 256 ^ width) :
    loadLe width (storeLe width value ++ rest) = value := by
  have long : width ≤ (storeLe width value ++ rest).length := by simp [storeLe]
  have stored : (storeLe width value ++ rest).take width = storeLe width value :=
    List.take_left' (by simp [storeLe])
  rw [loadLe_eq_value width _ long, stored, storeLe, LittleEndian.value_store,
    Nat.mod_eq_of_lt small]

theorem storeLe_loadLe (width : Nat) (p : List UInt8) (long : width ≤ p.length) :
    storeLe width (loadLe width p) = p.take width := by
  have stored := LittleEndian.store_value (p.take width)
  rw [List.length_take_of_le long] at stored
  rw [loadLe_eq_value width p long, storeLe, stored]

theorem drop_flatten (fields : List (List α)) (index : Nat) :
    fields.flatten.drop (fields.take index).flatten.length = (fields.drop index).flatten := by
  have split : fields.flatten = (fields.take index).flatten ++ (fields.drop index).flatten := by
    rw [← List.flatten_append, List.take_append_drop]
  rw [split]
  exact List.drop_left

/-- A decoder that reads `width` bytes where an encoder put a field of that
width reads the field. -/
theorem loadLe_flatten (fields : List (List UInt8)) (index offset width value : Nat)
    (rest : List UInt8) (small : value < 256 ^ width)
    (starts : (fields.take index).flatten.length = offset)
    (holds : (fields.drop index).flatten = storeLe width value ++ rest) :
    loadLe width (fields.flatten.drop offset) = value := by
  rw [← starts, drop_flatten, holds, loadLe_storeLe width value rest small]

theorem take_append_drop_add (bytes : List α) (offset width : Nat) :
    (bytes.drop offset).take width ++ bytes.drop (offset + width) = bytes.drop offset := by
  rw [← List.drop_drop]
  exact List.take_append_drop width (bytes.drop offset)

/-! ## Records -/

def recordFields (frame : Frame) : List (List UInt8) :=
  [storeLe 8 frame.seq.toNat, storeLe 8 frame.tKernelNs.toNat,
    storeLe 8 frame.tIngestNs.toNat, storeLe 4 frame.canId.toNat,
    storeLe 1 frame.srcId.toNat, storeLe 1 frame.len.toNat,
    storeLe 1 frame.flags.toNat, storeLe 1 frame.reserved.toNat, frame.data.toList]

def recordBytes (frame : Frame) : List UInt8 :=
  (recordFields frame).flatten

@[simp] theorem length_recordBytes (frame : Frame) :
    (recordBytes frame).length = kRecordSize := by
  simp [recordBytes, recordFields, storeLe]

theorem encodeFrame_eq (frame : Frame) (out : FrameBytes) :
    encodeFrame frame out.val = recordBytes frame := by
  have writes : encodeFrame frame out.val = Buffer.pokeAll out.val 0 (recordFields frame) := by
    simp [encodeFrame, recordFields, Buffer.pokeAll, storeLe]
  rw [writes]
  apply Buffer.pokeAll_eq_flatten
  rw [out.property]
  exact length_recordBytes frame

theorem getD_recordBytes_data (frame : Frame) (index : Fin 8) :
    (recordBytes frame).getD (32 + index.val) 0 = frame.data[index.val] := by
  have starts : ((recordFields frame).take 8).flatten.length = 32 := by
    simp [recordFields, storeLe]
  have dropped : (recordBytes frame).drop 32 = frame.data.toList := by
    rw [recordBytes, ← starts, drop_flatten]
    simp [recordFields]
  have at32 : (recordBytes frame)[32 + index.val]? = frame.data.toList[index.val]? := by
    rw [← dropped, List.getElem?_drop]
  rw [List.getD_eq_getElem?_getD, at32]
  simp

theorem decodeFrame_recordBytes (frame initial : Frame)
    (flagsAllowed : frame.flags &&& FrameFlags.kReservedMask = 0)
    (lenAllowed : frame.len.toNat ≤ kMaxPayload) :
    decodeFrame (recordBytes frame) initial = (.kOk, frame) := by
  have field := loadLe_flatten (recordFields frame)
  have seq := field 0 0 8 frame.seq.toNat _ frame.seq.toNat_lt (by simp)
    (by simp [recordFields]; rfl)
  have tKernelNs := field 1 8 8 frame.tKernelNs.toNat _ frame.tKernelNs.toNat_lt
    (by simp [recordFields, storeLe]) (by simp [recordFields]; rfl)
  have tIngestNs := field 2 16 8 frame.tIngestNs.toNat _ frame.tIngestNs.toNat_lt
    (by simp [recordFields, storeLe]) (by simp [recordFields]; rfl)
  have canId := field 3 24 4 frame.canId.toNat _ frame.canId.toNat_lt
    (by simp [recordFields, storeLe]) (by simp [recordFields]; rfl)
  have srcId := field 4 28 1 frame.srcId.toNat _ frame.srcId.toNat_lt
    (by simp [recordFields, storeLe]) (by simp [recordFields]; rfl)
  have len := field 5 29 1 frame.len.toNat _ frame.len.toNat_lt
    (by simp [recordFields, storeLe]) (by simp [recordFields]; rfl)
  have flags := field 6 30 1 frame.flags.toNat _ frame.flags.toNat_lt
    (by simp [recordFields, storeLe]) (by simp [recordFields]; rfl)
  have reserved := field 7 31 1 frame.reserved.toNat _ frame.reserved.toNat_lt
    (by simp [recordFields, storeLe]) (by simp [recordFields]; rfl)
  have data : (Vector.ofFn fun index : Fin 8 =>
      (recordBytes frame).getD (32 + index.val) 0) = frame.data := by
    apply Vector.ext
    intro index bound
    rw [Vector.getElem_ofFn]
    exact getD_recordBytes_data frame ⟨index, bound⟩
  rw [← recordBytes] at seq tKernelNs tIngestNs canId srcId len flags reserved
  simp only [decodeFrame, seq, tKernelNs, tIngestNs, canId, srcId, len, flags, reserved, data,
    UInt8.ofNat_toNat, UInt32.ofNat_toNat, UInt64.ofNat_toNat, flagsAllowed,
    ne_eq, not_true_eq_false, if_false, if_neg (Nat.not_lt.mpr lenAllowed)]

def parsedFrame (p : List UInt8) : Frame where
  seq := UInt64.ofNat (loadLe 8 (p.drop 0))
  tKernelNs := UInt64.ofNat (loadLe 8 (p.drop 8))
  tIngestNs := UInt64.ofNat (loadLe 8 (p.drop 16))
  canId := UInt32.ofNat (loadLe 4 (p.drop 24))
  srcId := UInt8.ofNat (loadLe 1 (p.drop 28))
  len := UInt8.ofNat (loadLe 1 (p.drop 29))
  flags := UInt8.ofNat (loadLe 1 (p.drop 30))
  reserved := UInt8.ofNat (loadLe 1 (p.drop 31))
  data := Vector.ofFn fun index => p.getD (32 + index.val) 0

/-- Everything `decodeFrame` can answer: two refusals that leave the output as
it was, and the parsed record. -/
theorem decodeFrame_cases (p : List UInt8) (out : Frame) :
    ((parsedFrame p).flags &&& FrameFlags.kReservedMask ≠ 0 ∧
        decodeFrame p out = (.kReservedFlagSet, out)) ∨
      ((parsedFrame p).flags &&& FrameFlags.kReservedMask = 0 ∧
        kMaxPayload < (parsedFrame p).len.toNat ∧
        decodeFrame p out = (.kLengthOutOfRange, out)) ∨
      ((parsedFrame p).flags &&& FrameFlags.kReservedMask = 0 ∧
        (parsedFrame p).len.toNat ≤ kMaxPayload ∧
        decodeFrame p out = (.kOk, parsedFrame p)) := by
  by_cases flagsAllowed : (parsedFrame p).flags &&& FrameFlags.kReservedMask = 0
  · have flagsTest : UInt8.ofNat (loadLe 1 (p.drop 30)) &&& FrameFlags.kReservedMask = 0 :=
      flagsAllowed
    by_cases tooLong : kMaxPayload < (parsedFrame p).len.toNat
    · refine Or.inr (Or.inl ⟨flagsAllowed, tooLong, ?_⟩)
      have lenTest : kMaxPayload < (UInt8.ofNat (loadLe 1 (p.drop 29))).toNat := tooLong
      simp only [decodeFrame, flagsTest, ne_eq, not_true_eq_false, if_false, if_pos lenTest]
    · refine Or.inr (Or.inr ⟨flagsAllowed, Nat.not_lt.mp tooLong, ?_⟩)
      have lenTest : ¬kMaxPayload < (UInt8.ofNat (loadLe 1 (p.drop 29))).toNat := tooLong
      simp only [decodeFrame, flagsTest, ne_eq, not_true_eq_false, if_false,
        if_neg lenTest, parsedFrame]
  · refine Or.inl ⟨flagsAllowed, ?_⟩
    have flagsTest : ¬UInt8.ofNat (loadLe 1 (p.drop 30)) &&& FrameFlags.kReservedMask = 0 :=
      flagsAllowed
    simp [decodeFrame, flagsTest]

/-- The fields of a parsed record are the slices of the bytes they were read
from. -/
theorem recordBytes_parsedFrame (bytes : FrameBytes) :
    recordBytes (parsedFrame bytes.val) = bytes.val := by
  have size := bytes.property
  have slice (width offset : Nat) (inside : offset + width ≤ kRecordSize) :
      storeLe width (loadLe width (bytes.val.drop offset)) =
        (bytes.val.drop offset).take width :=
    storeLe_loadLe width _ (by simp only [List.length_drop]; omega)
  have data : (Vector.ofFn fun index : Fin 8 => bytes.val.getD (32 + index.val) 0).toList =
      bytes.val.drop 32 := by
    apply List.ext_getElem
    · simp [size, kRecordSize]
    · intro index left right
      have inside : 32 + index < bytes.val.length := by
        simp only [List.length_drop] at right
        omega
      simp [inside]
  have small8 (p : List UInt8) : loadLe 8 p < UInt64.size := loadLe_lt 8 p
  have small4 (p : List UInt8) : loadLe 4 p < UInt32.size := loadLe_lt 4 p
  have small1 (p : List UInt8) : loadLe 1 p < UInt8.size := loadLe_lt 1 p
  simp only [recordBytes, recordFields, parsedFrame, data, List.flatten_cons, List.flatten_nil,
    List.append_nil, UInt64.toNat_ofNat_of_lt' (small8 _), UInt32.toNat_ofNat_of_lt' (small4 _),
    UInt8.toNat_ofNat_of_lt' (small1 _), slice 8 0 (by decide), slice 8 8 (by decide),
    slice 8 16 (by decide), slice 4 24 (by decide), slice 1 28 (by decide),
    slice 1 29 (by decide), slice 1 30 (by decide), slice 1 31 (by decide)]
  rw [take_append_drop_add bytes.val 31 1, take_append_drop_add bytes.val 30 1,
    take_append_drop_add bytes.val 29 1, take_append_drop_add bytes.val 28 1,
    take_append_drop_add bytes.val 24 4, take_append_drop_add bytes.val 16 8,
    take_append_drop_add bytes.val 8 8, take_append_drop_add bytes.val 0 8, List.drop_zero]

/-! ## Headers -/

def headerFields (count : UInt32) : List (List UInt8) :=
  [kMagic, storeLe 1 kVersion.toNat, storeLe 1 kHeaderSize, storeLe 2 kRecordSize,
    storeLe 4 count.toNat, storeLe 4 (count * UInt32.ofNat kRecordSize).toNat]

/-- The 16 bytes of the header of a batch of `count` records. -/
def headerBytes (count : UInt32) : List UInt8 :=
  (headerFields count).flatten

@[simp] theorem length_headerBytes (count : UInt32) :
    (headerBytes count).length = kHeaderSize := by
  simp [headerBytes, headerFields, storeLe, kMagic]

theorem encodeHeader_eq (count : UInt32) (out : HeaderBytes) :
    encodeHeader count out.val = headerBytes count := by
  have writes : encodeHeader count out.val =
      Buffer.pokeAll out.val 0 (headerFields count) := by
    simp [encodeHeader, headerFields, Buffer.pokeAll, storeLe, kMagic]
  rw [writes]
  apply Buffer.pokeAll_eq_flatten
  rw [out.property]
  exact length_headerBytes count

def parsedHeader (p : List UInt8) : BatchHeader where
  count := UInt32.ofNat (loadLe 4 (p.drop 8))
  payloadLen := UInt32.ofNat (loadLe 4 (p.drop 12))
  recordLen := UInt16.ofNat (loadLe 2 (p.drop 6))
  version := UInt8.ofNat (loadLe 1 (p.drop 4))
  headerLen := UInt8.ofNat (loadLe 1 (p.drop 5))

def HeaderTestsPass (p : List UInt8) : Prop :=
  p.take kMagic.length = kMagic ∧
    (parsedHeader p).version = kVersion ∧
    (parsedHeader p).headerLen.toNat = kHeaderSize ∧
    (parsedHeader p).recordLen.toNat = kRecordSize ∧
    (parsedHeader p).count ≤ kMaxCount ∧
    (parsedHeader p).payloadLen = (parsedHeader p).count * UInt32.ofNat kRecordSize

theorem decodeHeader_accepts (p : List UInt8) (out : BatchHeader)
    (tests : HeaderTestsPass p) : decodeHeader p out = (.kOk, parsedHeader p) := by
  rcases tests with ⟨magic, version, headerLen, recordLen, count, payload⟩
  simp only [parsedHeader] at version headerLen recordLen count payload
  have countTest : ¬kMaxCount < UInt32.ofNat (loadLe 4 (p.drop 8)) := UInt32.not_lt.mpr count
  simp [decodeHeader, magic, version, headerLen, recordLen, countTest, payload, parsedHeader]

theorem decodeHeader_refuses (p : List UInt8) (out : BatchHeader)
    (tests : ¬HeaderTestsPass p) :
    (decodeHeader p out).1 ≠ .kOk ∧ (decodeHeader p out).2 = out := by
  unfold decodeHeader
  by_cases magic : p.take kMagic.length = kMagic
  · by_cases version : UInt8.ofNat (loadLe 1 (p.drop 4)) = kVersion
    · by_cases headerLen : (UInt8.ofNat (loadLe 1 (p.drop 5))).toNat = kHeaderSize
      · by_cases recordLen : (UInt16.ofNat (loadLe 2 (p.drop 6))).toNat = kRecordSize
        · by_cases count : kMaxCount < UInt32.ofNat (loadLe 4 (p.drop 8))
          · simp only [magic, version, headerLen, recordLen, count, ne_eq, not_true_eq_false,
              not_false_eq_true, if_true, if_false, reduceCtorEq, and_self]
          · by_cases payload : UInt32.ofNat (loadLe 4 (p.drop 12)) =
                UInt32.ofNat (loadLe 4 (p.drop 8)) * UInt32.ofNat kRecordSize
            · exact absurd ⟨magic, version, headerLen, recordLen,
                UInt32.not_lt.mp count, payload⟩ tests
            · simp only [magic, version, headerLen, recordLen, count, payload, ne_eq,
                not_true_eq_false, not_false_eq_true, if_true, if_false, reduceCtorEq, and_self]
        · simp only [magic, version, headerLen, recordLen, ne_eq, not_true_eq_false,
            not_false_eq_true, if_true, if_false, reduceCtorEq, and_self]
      · simp only [magic, version, headerLen, ne_eq, not_true_eq_false, not_false_eq_true,
          if_true, if_false, reduceCtorEq, and_self]
    · simp only [magic, version, ne_eq, not_true_eq_false, not_false_eq_true,
        if_true, if_false, reduceCtorEq, and_self]
  · simp only [magic, ne_eq, not_false_eq_true, if_true, reduceCtorEq, and_self]

theorem decodeHeader_ok_iff (p : List UInt8) (out header : BatchHeader) :
    decodeHeader p out = (.kOk, header) ↔ HeaderTestsPass p ∧ header = parsedHeader p := by
  constructor
  · intro accepted
    by_cases tests : HeaderTestsPass p
    · rw [decodeHeader_accepts p out tests] at accepted
      exact ⟨tests, (congrArg Prod.snd accepted).symm⟩
    · exact absurd (congrArg Prod.fst accepted) (decodeHeader_refuses p out tests).1
  · intro accepted
    rcases accepted with ⟨tests, rfl⟩
    exact decodeHeader_accepts p out tests

/-- An accepted header announces as many bytes as its records take: the 32-bit
product does not wrap. -/
theorem payloadLen_of_decoded {p : List UInt8} {out header : BatchHeader}
    (decoded : decodeHeader p out = (.kOk, header)) :
    header.payloadLen.toNat = header.count.toNat * kRecordSize := by
  rcases (decodeHeader_ok_iff _ _ _).mp decoded with ⟨⟨_, _, _, _, count, payload⟩, equal⟩
  rw [← equal] at count payload
  have small : header.count.toNat ≤ 65535 := UInt32.le_iff_toNat_le.mp count
  rw [payload, UInt32.toNat_mul]
  exact Nat.mod_eq_of_lt (by simp [kRecordSize]; omega)

/-- Reading back a header gives its count and the 32-bit product written beside
it. -/
theorem parsedHeader_headerBytes (count : UInt32) :
    parsedHeader (headerBytes count) =
      { count := count
        payloadLen := count * UInt32.ofNat kRecordSize
        recordLen := UInt16.ofNat kRecordSize
        version := kVersion
        headerLen := UInt8.ofNat kHeaderSize } := by
  have field := loadLe_flatten (headerFields count)
  have version := field 1 4 1 kVersion.toNat _ (by decide)
    (by simp [headerFields, kMagic]) (by simp [headerFields]; rfl)
  have headerLen := field 2 5 1 kHeaderSize _ (by decide)
    (by simp [headerFields, kMagic, storeLe]) (by simp [headerFields]; rfl)
  have recordLen := field 3 6 2 kRecordSize _ (by decide)
    (by simp [headerFields, kMagic, storeLe]) (by simp [headerFields]; rfl)
  have countField := field 4 8 4 count.toNat _ count.toNat_lt
    (by simp [headerFields, kMagic, storeLe]) (by simp [headerFields]; rfl)
  have payload := field 5 12 4 (count * UInt32.ofNat kRecordSize).toNat []
    (count * UInt32.ofNat kRecordSize).toNat_lt
    (by simp [headerFields, kMagic, storeLe]) (by simp [headerFields])
  rw [← headerBytes] at version headerLen recordLen countField payload
  simp only [parsedHeader, version, headerLen, recordLen, countField, payload,
    UInt32.ofNat_toNat, UInt8.ofNat_toNat]

theorem headerTestsPass_headerBytes (count : UInt32) (allowed : count ≤ kMaxCount) :
    HeaderTestsPass (headerBytes count) := by
  refine ⟨?_, ?_⟩
  · simp [headerBytes, headerFields]
  · rw [parsedHeader_headerBytes]
    exact ⟨rfl, rfl, rfl, allowed, rfl⟩

theorem headerBytes_parsedHeader (bytes : List UInt8) (size : bytes.length = kHeaderSize)
    (tests : HeaderTestsPass bytes) :
    headerBytes (parsedHeader bytes).count = bytes := by
  rcases tests with ⟨magic, version, headerLen, recordLen, _, payload⟩
  have slice (width offset : Nat) (inside : offset + width ≤ kHeaderSize) :
      storeLe width (loadLe width (bytes.drop offset)) = (bytes.drop offset).take width :=
    storeLe_loadLe width _ (by simp only [List.length_drop]; omega)
  have small4 (p : List UInt8) : loadLe 4 p < UInt32.size := loadLe_lt 4 p
  have small2 (p : List UInt8) : loadLe 2 p < UInt16.size := loadLe_lt 2 p
  have small1 (p : List UInt8) : loadLe 1 p < UInt8.size := loadLe_lt 1 p
  have versionField : kVersion.toNat = loadLe 1 (bytes.drop 4) := by
    rw [← version, parsedHeader, UInt8.toNat_ofNat_of_lt' (small1 _)]
  have headerField : kHeaderSize = loadLe 1 (bytes.drop 5) := by
    rw [← headerLen, parsedHeader, UInt8.toNat_ofNat_of_lt' (small1 _)]
  have recordField : kRecordSize = loadLe 2 (bytes.drop 6) := by
    rw [← recordLen, parsedHeader, UInt16.toNat_ofNat_of_lt' (small2 _)]
  have last : (bytes.drop 12).take 4 = bytes.drop 12 := by
    apply List.take_of_length_le
    simp [size, kHeaderSize]
  rw [headerBytes, headerFields, ← payload, versionField, headerField, recordField]
  simp only [parsedHeader, List.flatten_cons, List.flatten_nil, List.append_nil,
    UInt32.toNat_ofNat_of_lt' (small4 _), slice 1 4 (by decide), slice 1 5 (by decide),
    slice 2 6 (by decide), slice 4 8 (by decide), slice 4 12 (by decide), last]
  rw [take_append_drop_add bytes 8 4, take_append_drop_add bytes 6 2,
    take_append_drop_add bytes 5 1, take_append_drop_add bytes 4 1]
  exact (congrArg (· ++ bytes.drop 4) magic.symm).trans (List.take_append_drop 4 bytes)

/-! ## Markers -/

theorem gapCount_makeGap (firstMissing count : UInt64) (reason : GapReason)
    (tIngestNs : UInt64) : gapCount (makeGap firstMissing count reason tIngestNs) = count := by
  have counted := LittleEndian.load_getD 8
    (makeGap firstMissing count reason tIngestNs).data.toList (by simp)
  rw [gapCount, counted, makeGap, LittleEndian.toList_ofFn_byteAt,
    List.take_of_length_le (by simp), LittleEndian.value_store,
    Nat.mod_eq_of_lt (show count.toNat < 256 ^ 8 from count.toNat_lt), UInt64.ofNat_toNat]

@[simp] theorem isGap_makeGap (firstMissing count : UInt64) (reason : GapReason)
    (tIngestNs : UInt64) : isGap (makeGap firstMissing count reason tIngestNs) = true := by
  change (FrameFlags.kGap &&& FrameFlags.kGap != 0) = true
  decide

@[simp] theorem isEcho_makeGap (firstMissing count : UInt64) (reason : GapReason)
    (tIngestNs : UInt64) : isEcho (makeGap firstMissing count reason tIngestNs) = false := by
  change (FrameFlags.kGap &&& FrameFlags.kEcho != 0) = false
  decide

@[simp] theorem isEcho_makeEcho (nonce tSentNs : UInt64) :
    isEcho (makeEcho nonce tSentNs) = true := by
  change (FrameFlags.kEcho &&& FrameFlags.kEcho != 0) = true
  decide

@[simp] theorem isGap_makeEcho (nonce tSentNs : UInt64) :
    isGap (makeEcho nonce tSentNs) = false := by
  change (FrameFlags.kEcho &&& FrameFlags.kGap != 0) = false
  decide

@[simp] theorem gapReason_makeGap (firstMissing count : UInt64) (reason : GapReason)
    (tIngestNs : UInt64) : gapReason (makeGap firstMissing count reason tIngestNs) = reason :=
  GapReason.ofCode_code reason

theorem control_acceptable (firstMissing count tIngestNs nonce tSentNs : UInt64)
    (reason : GapReason) :
    ((makeGap firstMissing count reason tIngestNs).flags &&& FrameFlags.kReservedMask = 0 ∧
      (makeGap firstMissing count reason tIngestNs).len.toNat ≤ kMaxPayload) ∧
    ((makeEcho nonce tSentNs).flags &&& FrameFlags.kReservedMask = 0 ∧
      (makeEcho nonce tSentNs).len.toNat ≤ kMaxPayload) := by
  change ((FrameFlags.kGap &&& FrameFlags.kReservedMask = 0 ∧ (8 : UInt8).toNat ≤ kMaxPayload) ∧
    (FrameFlags.kEcho &&& FrameFlags.kReservedMask = 0 ∧ (0 : UInt8).toNat ≤ kMaxPayload))
  decide

theorem codec_bijective :
    (∀ (frame initial : Frame) (out : FrameBytes),
      frame.flags &&& 0xE0 = 0 → frame.len ≤ 8 →
      decodeFrame (encodeFrame frame out.val) initial = (.kOk, frame)) ∧
    (∀ (bytes out : FrameBytes) (initial frame : Frame),
      decodeFrame bytes.val initial = (.kOk, frame) →
      encodeFrame frame out.val = bytes.val) ∧
    (∀ (count : UInt32) (initial : BatchHeader) (out : HeaderBytes), count ≤ 65535 →
      ∃ header, decodeHeader (encodeHeader count out.val) initial = (.kOk, header) ∧
        header.count = count ∧ header.payloadLen.toNat = 40 * count.toNat) ∧
    (∀ (bytes out : HeaderBytes) (initial header : BatchHeader),
      decodeHeader bytes.val initial = (.kOk, header) →
      encodeHeader header.count out.val = bytes.val) ∧
    (∀ (firstMissing count tIngestNs : UInt64) (reason : GapReason) (initial : Frame)
        (out : FrameBytes),
      ∃ frame, decodeFrame (encodeFrame (makeGap firstMissing count reason tIngestNs) out.val)
          initial = (.kOk, frame) ∧
        isGap frame = true ∧ frame.seq = firstMissing ∧ gapCount frame = count ∧
        gapReason frame = reason) ∧
    (∀ (nonce tSentNs : UInt64) (initial : Frame) (out : FrameBytes),
      ∃ frame, decodeFrame (encodeFrame (makeEcho nonce tSentNs) out.val) initial =
          (.kOk, frame) ∧
        isEcho frame = true ∧ echoNonce frame = nonce ∧ echoSentNs frame = tSentNs) := by
  refine ⟨?_, ?_, ?_, ?_, ?_, ?_⟩
  · intro frame initial out flagsAllowed lenAllowed
    rw [encodeFrame_eq]
    exact decodeFrame_recordBytes frame initial flagsAllowed
      (UInt8.le_iff_toNat_le.mp lenAllowed)
  · intro bytes out initial frame accepted
    rw [encodeFrame_eq]
    rcases decodeFrame_cases bytes.val initial with ⟨_, refused⟩ | ⟨_, _, refused⟩ | ⟨_, _, parsed⟩
    · rw [refused] at accepted
      cases congrArg Prod.fst accepted
    · rw [refused] at accepted
      cases congrArg Prod.fst accepted
    · rw [parsed] at accepted
      cases accepted
      exact recordBytes_parsedFrame bytes
  · intro count initial out allowed
    rw [encodeHeader_eq]
    have bound : count.toNat ≤ 65535 := UInt32.le_iff_toNat_le.mp allowed
    refine ⟨_, decodeHeader_accepts _ initial (headerTestsPass_headerBytes count allowed), ?_⟩
    rw [parsedHeader_headerBytes]
    refine ⟨rfl, ?_⟩
    simp only [UInt32.toNat_mul]
    rw [show (UInt32.ofNat kRecordSize).toNat = 40 from rfl]
    omega
  · intro bytes out initial header accepted
    rw [encodeHeader_eq]
    rcases (decodeHeader_ok_iff _ _ _).mp accepted with ⟨tests, rfl⟩
    exact headerBytes_parsedHeader bytes.val bytes.property tests
  · intro firstMissing count tIngestNs reason initial out
    rw [encodeFrame_eq]
    have acceptable := (control_acceptable firstMissing count tIngestNs 0 0 reason).1
    refine ⟨_, decodeFrame_recordBytes _ initial acceptable.1 acceptable.2,
      isGap_makeGap _ _ _ _, rfl, ?_, ?_⟩
    · exact gapCount_makeGap firstMissing count reason tIngestNs
    · exact GapReason.ofCode_code reason
  · intro nonce tSentNs initial out
    rw [encodeFrame_eq]
    have acceptable := (control_acceptable 0 0 0 nonce tSentNs .kConsumerOverrun).2
    exact ⟨_, decodeFrame_recordBytes _ initial acceptable.1 acceptable.2,
      isEcho_makeEcho _ _, rfl, rfl⟩

theorem codec_bijective_marker :
    decodeFrame (encodeFrame (makeGap 1000 42 .kIngestLoss 12345) (List.replicate 40 0))
      Frame.zero = (.kOk, makeGap 1000 42 .kIngestLoss 12345) :=
  codec_bijective.1 _ Frame.zero ⟨List.replicate 40 0, rfl⟩ (by decide) (by decide)

end TelemetryGateway.Wire
