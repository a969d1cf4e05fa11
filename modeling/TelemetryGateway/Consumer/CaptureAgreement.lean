import TelemetryGateway.Consumer.GapTracker
import TelemetryGateway.Consumer.ParseCapture
import TelemetryGateway.Foundation.Successive

/-! # The script and the decoder

The capture script and the wire decoder read the same files of records. They
differ about a header that announces too many records, about the reserved byte
of a record and about every marker, and in what a sequence number does at its
end. -/

namespace TelemetryGateway.ParseCapture

/-! ## The decoder as a format -/

def wireFormat : RecordFormat headerSize recordSize Wire.DecodeError Frame where
  header buf :=
    match Wire.decodeHeader buf
        { count := 0, payloadLen := 0, recordLen := 0, version := 0, headerLen := 0 } with
    | (.kOk, header) => .ok header.count.toNat
    | (error, _) => .error error
  record buf :=
    match Wire.decodeFrame buf Frame.zero with
    | (.kOk, frame) => .ok frame
    | (error, _) => .error error

/-! ## Headers -/

structure Consistent (buf : List UInt8) : Prop where
  magic : buf.take 4 = magicBytes
  version : Wire.field buf 4 1 = version
  headerLen : Wire.field buf 5 1 = headerSize
  recordLen : Wire.field buf 6 2 = recordSize
  payloadLen : Wire.field buf 12 4 = Wire.field buf 8 4 * recordSize

/-- A header that is well formed but announces more records than the decoder
allows. -/
def Oversized (buf : List UInt8) : Prop :=
  Consistent buf ∧ 65535 < Wire.field buf 8 4

theorem parseHeader_of_consistent {buf : List UInt8} (consistent : Consistent buf) :
    parseHeader buf = .ok (Wire.field buf 8 4, Wire.field buf 12 4) := by
  rcases consistent with ⟨magic, version, headerLen, recordLen, payloadLen⟩
  have product : Wire.field buf 12 4 = Wire.field buf 8 4 * Wire.field buf 6 2 := by
    rw [payloadLen, recordLen]
  simp only [parseHeader, magic, version, headerLen, ne_eq, not_true_eq_false, if_false, ← product]
  rw [if_neg (fun other => other recordLen)]

theorem parseHeader_of_not_consistent {buf : List UInt8} (inconsistent : ¬ Consistent buf) :
    ∃ error, parseHeader buf = .error error := by
  simp only [parseHeader]
  by_cases magic : buf.take 4 = magicBytes
  · rw [if_neg (not_not_intro magic)]
    by_cases versionTest : Wire.field buf 4 1 = version
    · rw [if_neg (not_not_intro versionTest)]
      by_cases headerLen : Wire.field buf 5 1 = headerSize
      · rw [if_neg (not_not_intro headerLen)]
        by_cases recordLen : Wire.field buf 6 2 = recordSize
        · rw [if_neg (not_not_intro recordLen)]
          by_cases payloadLen : Wire.field buf 12 4 = Wire.field buf 8 4 * Wire.field buf 6 2
          · rw [recordLen] at payloadLen
            exact absurd ⟨magic, versionTest, headerLen, recordLen, payloadLen⟩ inconsistent
          · rw [if_pos payloadLen]
            exact ⟨_, rfl⟩
        · rw [if_pos recordLen]
          exact ⟨_, rfl⟩
      · rw [if_pos headerLen]
        exact ⟨_, rfl⟩
    · rw [if_pos versionTest]
      exact ⟨_, rfl⟩
  · rw [if_pos magic]
    exact ⟨_, rfl⟩

theorem headerTestsPass_iff_consistent (buf : Wire.HeaderBytes) :
    Wire.HeaderTestsPass buf.val ↔ Consistent buf.val ∧ Wire.field buf.val 8 4 ≤ 65535 := by
  rw [Wire.headerTestsPass_iff, Wire.HeaderDocumented]
  constructor
  · rintro ⟨magic, version, headerLen, recordLen, count, payloadLen⟩
    exact ⟨⟨magic, version, headerLen, recordLen, payloadLen.trans (Nat.mul_comm ..)⟩, count⟩
  · rintro ⟨⟨magic, version, headerLen, recordLen, payloadLen⟩, count⟩
    exact ⟨magic, version, headerLen, recordLen, count, payloadLen.trans (Nat.mul_comm ..)⟩

theorem wireFormat_header_ok {buf : Wire.HeaderBytes} (tests : Wire.HeaderTestsPass buf.val) :
    wireFormat.header buf.val = .ok (Wire.field buf.val 8 4) := by
  have size := buf.property
  have count := Wire.loadLe_eq_field buf.val 8 4 (by rw [size]; decide)
  have small := Wire.loadLe_lt 4 (buf.val.drop 8)
  simp only [wireFormat, Wire.decodeHeader_accepts _ _ tests, Wire.parsedHeader,
    UInt32.toNat_ofNat']
  rw [Nat.mod_eq_of_lt (by omega), count]

theorem wireFormat_header_error {buf : List UInt8} (tests : ¬ Wire.HeaderTestsPass buf) :
    ∃ error, wireFormat.header buf = .error error := by
  have refused := (Wire.decodeHeader_refuses buf
    { count := 0, payloadLen := 0, recordLen := 0, version := 0, headerLen := 0 } tests).1
  simp only [wireFormat]
  exact ⟨_, rfl⟩

theorem headers_agree_iff (buf : Wire.HeaderBytes) :
    RecordFormat.Agree Eq (wireFormat.header buf.val) (format.header buf.val) ↔
      ¬ Oversized buf.val := by
  have tests := headerTestsPass_iff_consistent buf
  by_cases consistent : Consistent buf.val
  · have accepted : format.header buf.val = .ok (Wire.field buf.val 8 4) := by
      change (parseHeader buf.val).map Prod.fst = _
      rw [parseHeader_of_consistent consistent]
      rfl
    by_cases allowed : Wire.field buf.val 8 4 ≤ 65535
    · rw [accepted, wireFormat_header_ok (tests.mpr ⟨consistent, allowed⟩)]
      exact ⟨fun _ oversized => absurd oversized.2 (Nat.not_lt.mpr allowed), fun _ => rfl⟩
    · rcases wireFormat_header_error (fun pass => allowed (tests.mp pass).2) with
        ⟨error, refused⟩
      rw [accepted, refused]
      exact ⟨False.elim, fun fine => fine ⟨consistent, Nat.not_le.mp allowed⟩⟩
  · rcases parseHeader_of_not_consistent consistent with ⟨scriptError, scriptRefused⟩
    rcases wireFormat_header_error (fun pass => consistent (tests.mp pass).1) with
      ⟨error, refused⟩
    have script : format.header buf.val = .error scriptError := by
      change (parseHeader buf.val).map Prod.fst = _
      rw [scriptRefused]
      rfl
    rw [script, refused]
    exact ⟨fun _ oversized => consistent oversized.1, fun _ => trivial⟩

/-! ## Records -/

def reasonName : GapReason → String
  | .kConsumerOverrun => "consumer_overrun"
  | .kIngestLoss => "ingest_loss"
  | .kConsumerAbsent => "consumer_absent"
  | .unnamed code _ => "unknown(" ++ toString code.toNat ++ ")"

structure SameFields (frame : Frame) (record : Record) : Prop where
  seq : record.seq = frame.seq.toNat
  tKernelNs : record.tKernelNs = frame.tKernelNs.toNat
  tIngestNs : record.tIngestNs = frame.tIngestNs.toNat
  canId : record.canId = frame.canId.toNat
  srcId : record.srcId = frame.srcId.toNat
  len : record.len = frame.len.toNat
  extended : record.extended = (frame.flags &&& FrameFlags.kExtendedId != 0)
  remote : record.remote = (frame.flags &&& FrameFlags.kRemote != 0)
  error : record.error = (frame.flags &&& FrameFlags.kError != 0)
  gap : record.gap = Wire.isGap frame
  echo : record.echo = Wire.isEcho frame
  data : record.data = hex (frame.data.toList.take frame.len.toNat)
  marker : Wire.isGap frame = true →
    record.gapCount = some (Wire.gapCount frame).toNat ∧
      record.gapReason = some (reasonName (Wire.gapReason frame))

section

variable (buf : Wire.FrameBytes)

theorem toNat_ofNat_loadLe_eight (offset : Nat) (inside : offset + 8 ≤ recordSize) :
    (UInt64.ofNat (Wire.loadLe 8 (buf.val.drop offset))).toNat = Wire.field buf.val offset 8 := by
  have small := Wire.loadLe_lt 8 (buf.val.drop offset)
  rw [UInt64.toNat_ofNat_of_lt' small,
    Wire.loadLe_eq_field buf.val offset 8 (by rw [buf.property]; exact inside)]

theorem toNat_ofNat_loadLe_one (offset : Nat) (inside : offset + 1 ≤ recordSize) :
    (UInt8.ofNat (Wire.loadLe 1 (buf.val.drop offset))).toNat = Wire.field buf.val offset 1 := by
  have small := Wire.loadLe_lt 1 (buf.val.drop offset)
  rw [UInt8.toNat_ofNat_of_lt' small,
    Wire.loadLe_eq_field buf.val offset 1 (by rw [buf.property]; exact inside)]

theorem toList_data_parsedFrame :
    (Wire.parsedFrame buf.val).data.toList = (buf.val.drop 32).take 8 := by
  have size := buf.property
  apply List.ext_getElem
  · simp [Wire.parsedFrame, size, Wire.kRecordSize]
  · intro index left right
    have inside : 32 + index < buf.val.length := by
      simp only [List.length_take, List.length_drop] at right
      omega
    simp [Wire.parsedFrame, inside]

theorem flag_eq (flags : UInt8) (bit : UInt8) :
    (flags.toNat &&& bit.toNat != 0) = (flags &&& bit != 0) := by
  rw [← UInt8.toNat_and, Bool.eq_iff_iff, bne_iff_ne, bne_iff_ne, ne_eq, ne_eq, not_iff_not,
    ← UInt8.toNat_inj]
  rfl

def scriptRecord : Record where
  seq := Wire.field buf.val 0 8
  tKernelNs := Wire.field buf.val 8 8
  tIngestNs := Wire.field buf.val 16 8
  canId := Wire.field buf.val 24 4
  srcId := Wire.field buf.val 28 1
  len := Wire.field buf.val 29 1
  extended := Wire.field buf.val 30 1 &&& flagExtended != 0
  remote := Wire.field buf.val 30 1 &&& flagRemote != 0
  error := Wire.field buf.val 30 1 &&& flagError != 0
  gap := Wire.field buf.val 30 1 &&& flagGap != 0
  echo := Wire.field buf.val 30 1 &&& flagEcho != 0
  data := hex (((buf.val.drop 32).take 8).take (Wire.field buf.val 29 1))

theorem sameFields_scriptRecord_iff :
    SameFields (Wire.parsedFrame buf.val) (scriptRecord buf) ↔
      Wire.isGap (Wire.parsedFrame buf.val) = false := by
  rcases Wire.parsedFrame_fields buf with ⟨flags, len⟩
  constructor
  · intro same
    cases gap : Wire.isGap (Wire.parsedFrame buf.val) with
    | false => rfl
    | true => cases (same.marker gap).1
  · intro notGap
    have canSmall := Wire.loadLe_lt 4 (buf.val.drop 24)
    constructor
    case seq => exact (toNat_ofNat_loadLe_eight buf 0 (by decide)).symm
    case tKernelNs => exact (toNat_ofNat_loadLe_eight buf 8 (by decide)).symm
    case tIngestNs => exact (toNat_ofNat_loadLe_eight buf 16 (by decide)).symm
    case canId =>
      have can := Wire.loadLe_eq_field buf.val 24 4 (by rw [buf.property]; decide)
      exact can.symm.trans (UInt32.toNat_ofNat_of_lt' canSmall).symm
    case srcId => exact (toNat_ofNat_loadLe_one buf 28 (by decide)).symm
    case len => exact len.symm
    case extended => rw [scriptRecord, ← flags]; exact flag_eq _ FrameFlags.kExtendedId
    case remote => rw [scriptRecord, ← flags]; exact flag_eq _ FrameFlags.kRemote
    case error => rw [scriptRecord, ← flags]; exact flag_eq _ FrameFlags.kError
    case gap => rw [scriptRecord, ← flags]; exact flag_eq _ FrameFlags.kGap
    case echo => rw [scriptRecord, ← flags]; exact flag_eq _ FrameFlags.kEcho
    case data => rw [scriptRecord, toList_data_parsedFrame, len]
    case marker =>
      intro gap
      rw [notGap] at gap
      cases gap

def Acceptable : Prop :=
  Wire.field buf.val 30 1 &&& flagReservedMask = 0 ∧ Wire.field buf.val 29 1 ≤ 8

theorem wireFormat_record_ok (acceptable : Acceptable buf) :
    wireFormat.record buf.val = .ok (Wire.parsedFrame buf.val) := by
  have accepts := (Wire.decodeFrame_accepts_iff buf Frame.zero).mpr acceptable
  simp only [wireFormat]
  rcases Wire.decodeFrame_cases buf.val Frame.zero with
    ⟨_, refused⟩ | ⟨_, _, refused⟩ | ⟨_, _, parsed⟩
  · rw [refused] at accepts
    cases accepts
  · rw [refused] at accepts
    cases accepts
  · rw [parsed]

theorem wireFormat_record_error (unacceptable : ¬ Acceptable buf) :
    ∃ error, wireFormat.record buf.val = .error error := by
  have refuses : (Wire.decodeFrame buf.val Frame.zero).1 ≠ .kOk :=
    fun accepts => unacceptable ((Wire.decodeFrame_accepts_iff buf Frame.zero).mp accepts)
  simp only [wireFormat]
  exact ⟨_, rfl⟩

theorem parseRecord_ok (acceptable : Acceptable buf) (pad : Wire.field buf.val 31 1 = 0) :
    parseRecord buf.val = .ok (scriptRecord buf) := by
  simp only [parseRecord, acceptable.1, pad, ne_eq, not_true_eq_false, if_false,
    if_neg (Nat.not_lt.mpr acceptable.2)]
  rfl

theorem parseRecord_error (refused : ¬ (Acceptable buf ∧ Wire.field buf.val 31 1 = 0)) :
    ∃ error, parseRecord buf.val = .error error := by
  simp only [parseRecord]
  by_cases flags : Wire.field buf.val 30 1 &&& flagReservedMask = 0
  · rw [if_neg (not_not_intro flags)]
    by_cases len : 8 < Wire.field buf.val 29 1
    · rw [if_pos len]
      exact ⟨_, rfl⟩
    · rw [if_neg len]
      by_cases pad : Wire.field buf.val 31 1 = 0
      · exact absurd ⟨⟨flags, Nat.not_lt.mp len⟩, pad⟩ refused
      · rw [if_pos pad]
        exact ⟨_, rfl⟩
  · rw [if_pos flags]
    exact ⟨_, rfl⟩

/-- They agree about a record that the decoder refuses, and else when it is no
marker and its reserved byte is 0. -/
theorem records_agree_iff :
    RecordFormat.Agree SameFields (wireFormat.record buf.val) (format.record buf.val) ↔
      ∀ frame, wireFormat.record buf.val = .ok frame →
        frame.reserved = 0 ∧ Wire.isGap frame = false := by
  have reserved : (Wire.parsedFrame buf.val).reserved = 0 ↔ Wire.field buf.val 31 1 = 0 := by
    rw [← toNat_ofNat_loadLe_one buf 31 (by decide), ← UInt8.toNat_inj]
    rfl
  rw [show format.record = parseRecord from rfl]
  by_cases acceptable : Acceptable buf
  · rw [wireFormat_record_ok buf acceptable]
    have only : (∀ frame, Except.ok (Wire.parsedFrame buf.val) = (Except.ok frame :
          Except Wire.DecodeError Frame) → frame.reserved = 0 ∧ Wire.isGap frame = false) ↔
        Wire.field buf.val 31 1 = 0 ∧ Wire.isGap (Wire.parsedFrame buf.val) = false := by
      rw [← reserved]
      exact ⟨fun all => all _ rfl, fun fine frame same => by cases same; exact fine⟩
    rw [only]
    by_cases pad : Wire.field buf.val 31 1 = 0
    · rw [parseRecord_ok buf acceptable pad]
      simp only [RecordFormat.Agree, pad, true_and]
      exact sameFields_scriptRecord_iff buf
    · rcases parseRecord_error buf (fun both => pad both.2) with ⟨error, refused⟩
      rw [refused]
      simp only [RecordFormat.Agree, pad, false_and]
  · rcases wireFormat_record_error buf acceptable with ⟨error, refused⟩
    rcases parseRecord_error buf (fun both => acceptable both.1) with ⟨scriptError, scriptRefused⟩
    rw [refused, scriptRefused]
    simp [RecordFormat.Agree]

end

/-! ## Sequence jumps -/

def sequences (frames : List Frame) : List Nat :=
  (frames.filter fun frame => !Wire.isEcho frame).map fun frame => frame.seq.toNat

def hole (earlier later : Nat) : Nat :=
  later - (earlier + 1)

def wrappedHole (earlier later : Nat) : Nat :=
  later - (earlier + 1) % 2 ^ 64

def jumps (apart : Nat → Nat → Nat) (sequences : List Nat) : Nat :=
  (sequences.zipWith (fun earlier later => if 0 < apart earlier later then 1 else 0)
    sequences.tail).sum

def lost (apart : Nat → Nat → Nat) (sequences : List Nat) : Nat :=
  (sequences.zipWith apart sequences.tail).sum

section

variable (apart : Nat → Nat → Nat) {sequences : List Nat} {last : Nat}

theorem jumps_concat (isLast : sequences.getLast? = some last) (next : Nat) :
    jumps apart (sequences ++ [next]) =
      jumps apart sequences + if 0 < apart last next then 1 else 0 := by
  rw [jumps, zipWith_tail_concat _ isLast, List.sum_append, List.sum_singleton]
  rfl

theorem lost_concat (isLast : sequences.getLast? = some last) (next : Nat) :
    lost apart (sequences ++ [next]) = lost apart sequences + apart last next := by
  rw [lost, zipWith_tail_concat _ isLast, List.sum_append, List.sum_singleton]
  rfl

end

theorem sequences_concat_echo (frames : List Frame) {frame : Frame}
    (echo : Wire.isEcho frame = true) : sequences (frames ++ [frame]) = sequences frames := by
  rw [sequences, List.filter_append, List.filter_singleton, echo]
  simp [sequences]

theorem sequences_concat_bus (frames : List Frame) {frame : Frame}
    (notEcho : Wire.isEcho frame = false) :
    sequences (frames ++ [frame]) = sequences frames ++ [frame.seq.toNat] := by
  rw [sequences, List.filter_append, List.filter_singleton, notEcho]
  simp [sequences]

/-! ## What each makes of records without markers -/

def Totals.Of (totals : Totals) (sequences : List Nat) : Prop :=
  totals.frames = sequences.length ∧ totals.markers = 0 ∧
    totals.silentJumps = jumps hole sequences ∧ totals.silentLost = lost hole sequences ∧
    totals.lastSeq = sequences.getLast?.map (Nat.cast : Nat → Int)

theorem Totals.Of.frame {totals : Totals} {sequences : List Nat} (counted : totals.Of sequences)
    {record : Record} : (totals.frame record).Of (sequences ++ [record.seq]) := by
  rcases counted with ⟨frames, markers, silentJumps, silentLost, lastSeq⟩
  cases isLast : sequences.getLast? with
  | none =>
      rw [isLast] at lastSeq
      have nothing := List.getLast?_eq_none_iff.mp isLast
      subst nothing
      simp only [Totals.frame, lastSeq, Option.map_none, List.nil_append]
      exact ⟨congrArg (· + 1) frames, markers, silentJumps, silentLost, rfl⟩
  | some last =>
      rw [isLast] at lastSeq
      have size : (sequences ++ [record.seq]).length = sequences.length + 1 := by
        rw [List.length_append, List.length_singleton]
      simp only [Totals.frame, lastSeq, Option.map_some]
      by_cases jump : (last : Int) + 1 < record.seq
      · rw [if_pos jump]
        have apart : 0 < hole last record.seq := by
          rw [hole]
          omega
        refine ⟨?_, markers, ?_, ?_, ?_⟩
        · rw [size, frames]
        · rw [jumps_concat hole isLast, if_pos apart, silentJumps]
        · change totals.silentLost + ((record.seq : Int) - last - 1) = _
          rw [lost_concat hole isLast, silentLost, Int.natCast_add, hole]
          omega
        · rw [List.getLast?_concat]
          rfl
      · rw [if_neg jump]
        have close : hole last record.seq = 0 := by
          rw [hole]
          omega
        refine ⟨?_, markers, ?_, ?_, ?_⟩
        · rw [size, frames]
        · rw [jumps_concat hole isLast, close, silentJumps]
          rfl
        · rw [lost_concat hole isLast, close, silentLost]
          rfl
        · rw [List.getLast?_concat]
          rfl

theorem account_eq {frames : List Frame} {records : List Record}
    (same : List.Forall₂ SameFields frames records)
    (noMarker : ∀ frame ∈ frames, Wire.isGap frame = false) {totals : Totals}
    {earlier : List Frame} (counted : totals.Of (sequences earlier)) :
    ∃ after, account 0 totals records = .ok (after, false) ∧
      after.Of (sequences (earlier ++ frames)) := by
  induction same generalizing totals earlier with
  | nil => exact ⟨totals, rfl, by rwa [List.append_nil]⟩
  | @cons frame record frames records fields same induction =>
      have quiet : ∀ other ∈ frames, Wire.isGap other = false :=
        fun other member => noMarker other (List.mem_cons_of_mem _ member)
      have notGap := noMarker frame List.mem_cons_self
      have moved : earlier ++ frame :: frames = (earlier ++ [frame]) ++ frames := by
        rw [List.append_assoc]
        rfl
      rw [account, fields.echo, fields.gap, notGap, moved]
      cases echo : Wire.isEcho frame with
      | true =>
          simp only [if_true]
          refine induction quiet ?_
          rw [sequences_concat_echo earlier echo]
          exact counted
      | false =>
          simp only [Bool.false_eq_true, if_false, limitReached, ne_eq, not_true_eq_false,
            decide_false, Bool.false_and]
          refine induction quiet ?_
          rw [sequences_concat_bus earlier echo, ← fields.seq]
          exact counted.frame

def TrackerOf (tracker : GapTracker) (sequences : List Nat) : Prop :=
  tracker.stats.frames = UInt64.ofNat sequences.length ∧ tracker.stats.markers = 0 ∧
    tracker.stats.silentJumps = UInt64.ofNat (jumps wrappedHole sequences) ∧
    tracker.stats.silentLost = UInt64.ofNat (lost wrappedHole sequences) ∧
    tracker.have_ = sequences.getLast?.isSome ∧
    tracker.next = UInt64.ofNat ((sequences.getLast?.map (· + 1)).getD 0)

theorem lt_next_iff (last : Nat) (seq : UInt64) :
    UInt64.ofNat (last + 1) < seq ↔ 0 < wrappedHole last seq.toNat := by
  rw [UInt64.lt_iff_toNat_lt, UInt64.toNat_ofNat', wrappedHole]
  omega

theorem sub_next_eq {last : Nat} {seq : UInt64} (jump : 0 < wrappedHole last seq.toNat) :
    seq - UInt64.ofNat (last + 1) = UInt64.ofNat (wrappedHole last seq.toNat) := by
  have later : UInt64.ofNat (last + 1) ≤ seq :=
    UInt64.le_of_lt ((lt_next_iff last seq).mpr jump)
  have bound := seq.toNat_lt
  apply UInt64.toNat_inj.mp
  rw [UInt64.toNat_sub_of_le _ _ later, UInt64.toNat_ofNat', UInt64.toNat_ofNat', wrappedHole]
  omega

theorem TrackerOf.frame {tracker : GapTracker} {sequences : List Nat}
    (counted : TrackerOf tracker sequences) {frame : Frame}
    (notEcho : Wire.isEcho frame = false) (notGap : Wire.isGap frame = false) :
    TrackerOf (tracker.observe frame).1 (sequences ++ [frame.seq.toNat]) := by
  rcases counted with ⟨frames, markers, silentJumps, silentLost, have_, next⟩
  have size : UInt64.ofNat (sequences ++ [frame.seq.toNat]).length =
      UInt64.ofNat sequences.length + 1 := by
    rw [List.length_append, List.length_singleton, UInt64.ofNat_add]
    rfl
  have moved : frame.seq + 1 =
      UInt64.ofNat (((sequences ++ [frame.seq.toNat]).getLast?.map (· + 1)).getD 0) := by
    rw [List.getLast?_concat, Option.map_some, Option.getD_some, UInt64.ofNat_add,
      UInt64.ofNat_toNat]
    rfl
  have seen : true = (sequences ++ [frame.seq.toNat]).getLast?.isSome := by
    rw [List.getLast?_concat]
    rfl
  simp only [GapTracker.observe, notEcho, notGap, Bool.false_eq_true, if_false]
  cases isLast : sequences.getLast? with
  | none =>
      rw [isLast] at have_
      have nothing := List.getLast?_eq_none_iff.mp isLast
      subst nothing
      rw [if_neg (by rw [have_]; exact fun jump => nomatch jump.1)]
      refine ⟨?_, markers, silentJumps, silentLost, seen, moved⟩
      rw [size, ← frames]
  | some last =>
      rw [isLast] at have_ next
      simp only [Option.isSome_some, Option.map_some, Option.getD_some] at have_ next
      by_cases jump : 0 < wrappedHole last frame.seq.toNat
      · rw [if_pos ⟨have_, by rw [next]; exact (lt_next_iff _ _).mpr jump⟩]
        refine ⟨?_, markers, ?_, ?_, seen, moved⟩
        · rw [size, ← frames]
        · rw [jumps_concat wrappedHole isLast, if_pos jump, UInt64.ofNat_add, ← silentJumps]
          rfl
        · rw [lost_concat wrappedHole isLast, UInt64.ofNat_add, ← silentLost,
            ← sub_next_eq jump, ← next]
      · have none : wrappedHole last frame.seq.toNat = 0 := by omega
        rw [if_neg (by rw [next]; exact fun both => jump ((lt_next_iff _ _).mp both.2))]
        refine ⟨?_, markers, ?_, ?_, seen, moved⟩
        · rw [size, ← frames]
        · rw [jumps_concat wrappedHole isLast, none, silentJumps]
          rfl
        · rw [lost_concat wrappedHole isLast, none, silentLost]
          rfl

theorem trackerOf_observeAll {frames : List Frame}
    (noMarker : ∀ frame ∈ frames, Wire.isGap frame = false) :
    TrackerOf (({} : GapTracker).observeAll frames) (sequences frames) := by
  induction frames using List.reverseRecOn with
  | nil => exact ⟨rfl, rfl, rfl, rfl, rfl, rfl⟩
  | append_singleton frames frame induction =>
      have counted := induction fun other member =>
        noMarker other (List.mem_append_left _ member)
      have notGap := noMarker frame (List.mem_append_right _ (List.mem_singleton.mpr rfl))
      rw [GapTracker.observeAll_append]
      change TrackerOf ((({} : GapTracker).observeAll frames).observe frame).1 _
      cases echo : Wire.isEcho frame with
      | true =>
          rw [sequences_concat_echo frames echo, GapTracker.observe, if_pos echo]
          exact counted
      | false =>
          rw [sequences_concat_bus frames echo]
          exact counted.frame echo notGap

/-! ## The numbers -/

structure SameNumbers (totals : Totals) (stats : GapTracker.Stats) : Prop where
  frames : totals.frames = stats.frames.toNat
  markers : totals.markers = stats.markers.toNat
  silentJumps : totals.silentJumps = stats.silentJumps.toNat
  silentLost : totals.silentLost = stats.silentLost.toNat

/-- Nothing is lost in 64 bits: not so many frames, no frame but the first behind
the last sequence there is, and not so many missing. -/
structure Countable (sequences : List Nat) : Prop where
  few : sequences.length < 2 ^ 64
  unwrapped : sequences.IsChain fun earlier later => earlier + 1 = 2 ^ 64 → later = 0
  small : lost hole sequences < 2 ^ 64

theorem jumps_cons_cons (apart : Nat → Nat → Nat) (first second : Nat) (rest : List Nat) :
    jumps apart (first :: second :: rest) =
      (if 0 < apart first second then 1 else 0) + jumps apart (second :: rest) := by
  rw [jumps, List.tail_cons, List.zipWith_cons_cons, List.sum_cons]
  rfl

theorem lost_cons_cons (apart : Nat → Nat → Nat) (first second : Nat) (rest : List Nat) :
    lost apart (first :: second :: rest) = apart first second + lost apart (second :: rest) := by
  rw [lost, List.tail_cons, List.zipWith_cons_cons, List.sum_cons]
  rfl

theorem jumps_le_length (apart : Nat → Nat → Nat) (sequences : List Nat) :
    jumps apart sequences ≤ sequences.length := by
  induction sequences with
  | nil => exact Nat.le_refl _
  | cons first rest induction =>
      cases rest with
      | nil => exact Nat.zero_le _
      | cons second rest =>
          rw [jumps_cons_cons, List.length_cons]
          split <;> omega

theorem wrappedHole_cases {earlier later : Nat} (early : earlier < 2 ^ 64)
    (late : later < 2 ^ 64) :
    (earlier + 1 = 2 ^ 64 ∧ hole earlier later = 0 ∧ wrappedHole earlier later = later) ∨
      (earlier + 1 ≠ 2 ^ 64 ∧ wrappedHole earlier later = hole earlier later) := by
  simp only [hole, wrappedHole]
  omega

/-- The tracker sees every jump that the script sees, and the same ones when
nothing but 0 follows the last sequence. -/
theorem jumps_wrapped {sequences : List Nat} (bounded : ∀ seq ∈ sequences, seq < 2 ^ 64) :
    jumps hole sequences ≤ jumps wrappedHole sequences ∧
      (jumps hole sequences = jumps wrappedHole sequences ↔
        sequences.IsChain fun earlier later => earlier + 1 = 2 ^ 64 → later = 0) := by
  induction sequences with
  | nil => exact ⟨Nat.le_refl _, fun _ => List.isChain_nil, fun _ => rfl⟩
  | cons first rest induction =>
      cases rest with
      | nil => exact ⟨Nat.le_refl _, fun _ => List.isChain_singleton _, fun _ => rfl⟩
      | cons second rest =>
          have early := bounded first List.mem_cons_self
          have late := bounded second (List.mem_cons_of_mem _ List.mem_cons_self)
          rcases induction fun seq member => bounded seq (List.mem_cons_of_mem _ member) with
            ⟨fewer, same⟩
          rw [jumps_cons_cons, jumps_cons_cons, List.isChain_cons_cons, ← same]
          rcases wrappedHole_cases early late with ⟨atEnd, none, wrapped⟩ | ⟨inside, equal⟩
          · rw [none, wrapped, if_neg (Nat.lt_irrefl 0)]
            by_cases zero : second = 0
            · rw [if_neg (by omega)]
              omega
            · rw [if_pos (by omega)]
              omega
          · rw [equal]
            omega

theorem lost_wrapped {sequences : List Nat} (bounded : ∀ seq ∈ sequences, seq < 2 ^ 64)
    (unwrapped : sequences.IsChain fun earlier later => earlier + 1 = 2 ^ 64 → later = 0) :
    lost wrappedHole sequences = lost hole sequences := by
  induction sequences with
  | nil => rfl
  | cons first rest induction =>
      cases rest with
      | nil => rfl
      | cons second rest =>
          have early := bounded first List.mem_cons_self
          have late := bounded second (List.mem_cons_of_mem _ List.mem_cons_self)
          rcases List.isChain_cons_cons.mp unwrapped with ⟨behind, others⟩
          have rest := induction (fun seq member => bounded seq (List.mem_cons_of_mem _ member))
            others
          rw [lost_cons_cons, lost_cons_cons, rest]
          rcases wrappedHole_cases early late with ⟨atEnd, none, wrapped⟩ | ⟨inside, equal⟩
          · rw [none, wrapped, behind atEnd]
          · rw [equal]

theorem sameNumbers_iff {totals : Totals} {tracker : GapTracker} {sequences : List Nat}
    (bounded : ∀ seq ∈ sequences, seq < 2 ^ 64) (script : totals.Of sequences)
    (consumer : TrackerOf tracker sequences) :
    SameNumbers totals tracker.stats ↔ Countable sequences := by
  rcases script with ⟨frames, markers, silentJumps, silentLost, _⟩
  rcases consumer with ⟨trackerFrames, trackerMarkers, trackerJumps, trackerLost, _, _⟩
  rcases jumps_wrapped bounded with ⟨fewer, same⟩
  have most := jumps_le_length wrappedHole sequences
  constructor
  · rintro ⟨sameFrames, _, sameJumps, sameLost⟩
    rw [frames, trackerFrames, UInt64.toNat_ofNat'] at sameFrames
    have few : sequences.length < 2 ^ 64 := by omega
    rw [silentJumps, trackerJumps, UInt64.toNat_ofNat', Nat.mod_eq_of_lt (by omega)] at sameJumps
    have unwrapped := same.mp sameJumps
    rw [silentLost, trackerLost, UInt64.toNat_ofNat', lost_wrapped bounded unwrapped] at sameLost
    exact ⟨few, unwrapped, by omega⟩
  · rintro ⟨few, unwrapped, small⟩
    constructor
    case frames =>
      rw [frames, trackerFrames, UInt64.toNat_ofNat', Nat.mod_eq_of_lt few]
    case markers =>
      rw [markers, trackerMarkers]
      rfl
    case silentJumps =>
      rw [silentJumps, trackerJumps, UInt64.toNat_ofNat', Nat.mod_eq_of_lt (by omega)]
      exact same.mpr unwrapped
    case silentLost =>
      rw [silentLost, trackerLost, UInt64.toNat_ofNat', lost_wrapped bounded unwrapped,
        Nat.mod_eq_of_lt small]

/-! ## The capture as a whole -/

/-- The script and the decoder implement one format, as far as this file shows. -/
structure Agreement (bytes : List UInt8) : Prop where
  reading : RecordFormat.Alike SameFields (wireFormat.read 0 0 bytes) (readCapture 0 bytes)
  numbers : (wireFormat.read 0 0 bytes).2.refused = false →
    ∃ totals tail, main 0 bytes = .report totals tail ∧
      SameNumbers totals (({} : GapTracker).observeAll (wireFormat.read 0 0 bytes).1).stats

abbrev pieces (bytes : List UInt8) : List RecordFormat.Piece :=
  wireFormat.visited 0 bytes

structure Unproblematic (bytes : List UInt8) : Prop where
  headers : ∀ buf, .header buf ∈ pieces bytes → ¬ Oversized buf
  records : ∀ buf, .record buf ∈ pieces bytes → ∀ frame, wireFormat.record buf = .ok frame →
    frame.reserved = 0 ∧ Wire.isGap frame = false
  numbers : (∀ piece ∈ pieces bytes, piece.accepted wireFormat = true) →
    Countable (sequences ((pieces bytes).filterMap fun piece => piece.value? wireFormat))

theorem reading_iff (bytes : List UInt8) :
    RecordFormat.Alike SameFields (wireFormat.read 0 0 bytes) (readCapture 0 bytes) ↔
      (∀ buf, .header buf ∈ pieces bytes → ¬ Oversized buf) ∧
        ∀ buf, .record buf ∈ pieces bytes → ∀ frame, wireFormat.record buf = .ok frame →
          frame.reserved = 0 ∧ Wire.isGap frame = false := by
  have fits := wireFormat.visited_fits 0 bytes (by rw [Nat.zero_mul]; exact Nat.zero_le _)
  have counts (buf : List UInt8) (left right : Nat) (size : buf.length = headerSize)
      (onLeft : wireFormat.header buf = .ok left) (onRight : format.header buf = .ok right) :
      left = right := by
    by_cases tests : Wire.HeaderTestsPass buf
    · have consistent := ((headerTestsPass_iff_consistent ⟨buf, size⟩).mp tests).1
      have accepted : format.header buf = .ok (Wire.field buf 8 4) := by
        change (parseHeader buf).map Prod.fst = _
        rw [parseHeader_of_consistent consistent]
        rfl
      rw [@wireFormat_header_ok ⟨buf, size⟩ tests] at onLeft
      rw [accepted] at onRight
      cases onLeft
      cases onRight
      rfl
    · rcases wireFormat_header_error tests with ⟨error, refused⟩
      rw [refused] at onLeft
      cases onLeft
  rw [readCapture_eq_read, RecordFormat.read_alike_iff SameFields wireFormat format counts]
  constructor
  · intro agree
    constructor
    · intro buf member
      exact (headers_agree_iff ⟨buf, fits _ member⟩).mp (agree _ member)
    · intro buf member
      exact (records_agree_iff ⟨buf, fits _ member⟩).mp (agree _ member)
  · rintro ⟨headers, records⟩ piece member
    cases piece with
    | header buf => exact (headers_agree_iff ⟨buf, fits _ member⟩).mpr (headers buf member)
    | record buf => exact (records_agree_iff ⟨buf, fits _ member⟩).mpr (records buf member)

/-- A file that is read to its end without markers is reported, with the totals
of its frames. -/
theorem main_eq_report {bytes : List UInt8}
    (reading : RecordFormat.Alike SameFields (wireFormat.read 0 0 bytes) (readCapture 0 bytes))
    (noMarker : ∀ frame ∈ (wireFormat.read 0 0 bytes).1, Wire.isGap frame = false)
    (accepted : (wireFormat.read 0 0 bytes).2.refused = false) :
    ∃ totals tail, main 0 bytes = .report totals tail ∧
      totals.Of (sequences (wireFormat.read 0 0 bytes).1) := by
  have fresh : ({} : Totals).Of (sequences []) := ⟨rfl, rfl, rfl, rfl, rfl⟩
  rcases account_eq reading.records noMarker fresh with ⟨totals, accounted, counted⟩
  have ending := reading.ending
  simp only [main, accounted]
  cases decoderEnding : (wireFormat.read 0 0 bytes).2 with
  | badHeader place error =>
      rw [decoderEnding] at accepted
      cases accepted
  | badRecord place error =>
      rw [decoderEnding] at accepted
      cases accepted
  | done =>
      rw [decoderEnding] at ending
      cases scriptEnding : (readCapture 0 bytes).2 with
      | done => exact ⟨totals, 0, rfl, counted⟩
      | truncated size => rw [scriptEnding] at ending; cases ending
      | badHeader place error => rw [scriptEnding] at ending; cases ending
      | badRecord place error => rw [scriptEnding] at ending; cases ending
  | truncated size =>
      rw [decoderEnding] at ending
      cases scriptEnding : (readCapture 0 bytes).2 with
      | done => rw [scriptEnding] at ending; cases ending
      | truncated tail => exact ⟨totals, tail, rfl, counted⟩
      | badHeader place error => rw [scriptEnding] at ending; cases ending
      | badRecord place error => rw [scriptEnding] at ending; cases ending

theorem agreement_iff_unproblematic (bytes : List UInt8) :
    Agreement bytes ↔ Unproblematic bytes := by
  rcases wireFormat.read_eq_visited 0 0 bytes with ⟨decoded, refusal⟩
  have accepted : (wireFormat.read 0 0 bytes).2.refused = false ↔
      ∀ piece ∈ pieces bytes, piece.accepted wireFormat = true := by
    rw [refusal, Bool.not_eq_false', List.all_eq_true]
  have bounded : ∀ seq ∈ sequences (wireFormat.read 0 0 bytes).1, seq < 2 ^ 64 := by
    intro seq member
    rcases List.mem_map.mp member with ⟨frame, _, rfl⟩
    exact frame.seq.toNat_lt
  have silent (records : ∀ buf, .record buf ∈ pieces bytes → ∀ frame,
      wireFormat.record buf = .ok frame → frame.reserved = 0 ∧ Wire.isGap frame = false) :
      ∀ frame ∈ (wireFormat.read 0 0 bytes).1, Wire.isGap frame = false := by
    intro frame member
    rw [decoded] at member
    rcases List.mem_filterMap.mp member with ⟨piece, found, value⟩
    cases piece with
    | header buf => cases value
    | record buf =>
        refine (records buf found frame ?_).2
        simp only [RecordFormat.Piece.value?] at value
        cases result : wireFormat.record buf with
        | error error => rw [result] at value; cases value
        | ok other => rw [result] at value; cases value; rfl
  constructor
  · rintro ⟨reading, numbers⟩
    rcases (reading_iff bytes).mp reading with ⟨headers, records⟩
    refine ⟨headers, records, fun all => ?_⟩
    rcases numbers (accepted.mpr all) with ⟨totals, tail, reported, same⟩
    rcases main_eq_report reading (silent records) (accepted.mpr all) with
      ⟨others, _, again, counted⟩
    rw [reported] at again
    cases again
    rw [← decoded]
    exact (sameNumbers_iff bounded counted (trackerOf_observeAll (silent records))).mp same
  · rintro ⟨headers, records, numbers⟩
    have reading := (reading_iff bytes).mpr ⟨headers, records⟩
    refine ⟨reading, fun notRefused => ?_⟩
    rcases main_eq_report reading (silent records) notRefused with
      ⟨totals, tail, reported, counted⟩
    refine ⟨totals, tail, reported, ?_⟩
    have countable := numbers (accepted.mp notRefused)
    rw [← decoded] at countable
    exact (sameNumbers_iff bounded counted (trackerOf_observeAll (silent records))).mpr countable

/-- One message that holds one marker, of two frames. -/
def markerCapture : List UInt8 :=
  Wire.messageBytes [Wire.makeGap 5 2 .kConsumerOverrun 0]

theorem main_markerCapture : main 0 markerCapture = .keyError .gapCount := by
  have header : parseHeader (markerCapture.take headerSize) = .ok (1, 40) := rfl
  rw [main, readCapture, if_neg (by decide), if_neg (by decide), header]
  rfl

theorem marker_mem_pieces :
    .record (Wire.recordBytes (Wire.makeGap 5 2 .kConsumerOverrun 0)) ∈ pieces markerCapture := by
  have header : wireFormat.header (markerCapture.take headerSize) = .ok 1 := rfl
  rw [pieces, RecordFormat.visited, if_neg (by decide), header]
  simp only [List.mem_cons]
  rw [if_neg (by decide), RecordFormat.visited]
  exact .inr (List.mem_cons.mpr (.inl rfl))

theorem marker_raises :
    main 0 markerCapture = .keyError .gapCount ∧ ¬ Agreement markerCapture := by
  refine ⟨main_markerCapture, fun agreement => ?_⟩
  have unmarked := ((reading_iff markerCapture).mp agreement.reading).2 _ marker_mem_pieces
    (Wire.makeGap 5 2 .kConsumerOverrun 0) rfl
  rw [Wire.isGap_makeGap] at unmarked
  cases unmarked.2

end TelemetryGateway.ParseCapture
