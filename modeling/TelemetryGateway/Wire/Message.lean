import TelemetryGateway.Foundation.NumberedStream
import TelemetryGateway.Wire.RoundTrip

/-! # Messages

A message is one batch header and the records it announces. -/

namespace TelemetryGateway.Wire

def messageBytes (frames : List Frame) : List UInt8 :=
  headerBytes (UInt32.ofNat frames.length) ++ (frames.map recordBytes).flatten

theorem length_flatten_recordBytes (frames : List Frame) :
    (frames.map recordBytes).flatten.length = frames.length * kRecordSize := by
  induction frames with
  | nil => rfl
  | cons frame rest induction =>
      rw [List.map_cons, List.flatten_cons, List.length_append, induction, length_recordBytes,
        List.length_cons, Nat.succ_mul, Nat.add_comm]

@[simp] theorem length_messageBytes (frames : List Frame) :
    (messageBytes frames).length = kHeaderSize + frames.length * kRecordSize := by
  rw [messageBytes, List.length_append, length_headerBytes, length_flatten_recordBytes]

/-! ## Writing a message into a buffer -/

/-- Records written one after the other from the pointer `p` on. -/
def encodeRecords : List Frame → List UInt8 → List UInt8
  | [], p => p
  | frame :: rest, p =>
      encodeFrame frame (p.take kRecordSize) ++ encodeRecords rest (p.drop kRecordSize)

theorem encodeRecords_eq (frames : List Frame) (p : List UInt8)
    (size : p.length = frames.length * kRecordSize) :
    encodeRecords frames p = (frames.map recordBytes).flatten := by
  induction frames generalizing p with
  | nil =>
      rw [List.length_nil, Nat.zero_mul] at size
      exact List.eq_nil_of_length_eq_zero size
  | cons frame rest induction =>
      rw [List.length_cons, Nat.succ_mul] at size
      have first : (p.take kRecordSize).length = kRecordSize := by
        rw [List.length_take, size]
        exact Nat.min_eq_left (Nat.le_add_left _ _)
      have remaining : (p.drop kRecordSize).length = rest.length * kRecordSize := by
        rw [List.length_drop, size, Nat.add_sub_cancel]
      rw [encodeRecords, encodeFrame_eq frame ⟨p.take kRecordSize, first⟩, induction _ remaining,
        List.map_cons, List.flatten_cons]

/-! ## What a record says about the sequence -/

/-- A marker covers `gap_count` sequences from its own on; the sequence field of
an echo is a nonce. -/
def item (record : Frame) : Item :=
  if isEcho record then .other
  else if isGap record then .gap record.seq.toNat (gapCount record).toNat
  else .data record.seq.toNat

theorem item_makeGap (firstMissing count : UInt64) (reason : GapReason) (tIngestNs : UInt64) :
    item (makeGap firstMissing count reason tIngestNs) = .gap firstMissing.toNat count.toNat := by
  rw [item, isEcho_makeGap, isGap_makeGap, gapCount_makeGap]
  rfl

theorem item_makeEcho (nonce tSentNs : UInt64) : item (makeEcho nonce tSentNs) = .other := by
  rw [item, isEcho_makeEcho]
  rfl

theorem isControl_eq_false {frame : Frame} :
    isControl frame = false ↔ isGap frame = false ∧ isEcho frame = false := by
  have split : frame.flags &&& (FrameFlags.kGap ||| FrameFlags.kEcho) =
      (frame.flags &&& FrameFlags.kGap) ||| (frame.flags &&& FrameFlags.kEcho) :=
    UInt8.toBitVec_inj.mp BitVec.and_or_distrib_left
  simp [isControl, isGap, isEcho, split]

theorem isControl_makeGap (firstMissing count : UInt64) (reason : GapReason) (tIngestNs : UInt64) :
    isControl (makeGap firstMissing count reason tIngestNs) = true := by
  change (FrameFlags.kGap &&& (FrameFlags.kGap ||| FrameFlags.kEcho) != 0) = true
  decide

theorem isControl_makeEcho (nonce tSentNs : UInt64) :
    isControl (makeEcho nonce tSentNs) = true := by
  change (FrameFlags.kEcho &&& (FrameFlags.kGap ||| FrameFlags.kEcho) != 0) = true
  decide

theorem item_of_bus {frame : Frame} (bus : isControl frame = false) :
    item frame = .data frame.seq.toNat := by
  rcases isControl_eq_false.mp bus with ⟨notGap, notEcho⟩
  rw [item, notEcho, notGap]
  rfl

structure Ordinary (frame : Frame) : Prop where
  bus : isControl frame = false
  unwrapped : frame.seq.toNat + 1 < 2 ^ 64

def Consecutive (frames : List Frame) : Prop :=
  frames.IsChain fun left right => right.seq.toNat = left.seq.toNat + 1

theorem Consecutive.last_eq {front : Frame} {rest : List Frame}
    (consecutive : Consecutive (front :: rest)) :
    ((front :: rest).getLast (List.cons_ne_nil _ _)).seq.toNat =
      front.seq.toNat + rest.length := by
  induction rest generalizing front with
  | nil => rfl
  | cons next rest induction =>
      rcases List.isChain_cons_cons.mp consecutive with ⟨first, others⟩
      rw [List.getLast_cons (List.cons_ne_nil _ _), induction others, first, List.length_cons]
      omega

def Increasing (frames : List Frame) : Prop :=
  frames.Pairwise fun earlier later => earlier.seq.toNat < later.seq.toNat

theorem Increasing.le_last {frames : List Frame} (increasing : Increasing frames) {last : Frame}
    (isLast : frames.getLast? = some last) {frame : Frame} (member : frame ∈ frames) :
    frame.seq.toNat ≤ last.seq.toNat := by
  rcases List.getLast?_eq_some_iff.mp isLast with ⟨earlier, rfl⟩
  rcases List.mem_append.mp member with old | same
  · exact Nat.le_of_lt ((List.pairwise_append.mp increasing).2.2 frame old last
      (List.mem_singleton.mpr rfl))
  · rw [List.mem_singleton.mp same]

theorem Increasing.append {left right : List Frame} (first : Increasing left)
    (second : Increasing right) (newer : ∀ last, left.getLast? = some last →
      ∀ frame ∈ right, last.seq.toNat < frame.seq.toNat) : Increasing (left ++ right) := by
  refine List.pairwise_append.mpr ⟨first, second, ?_⟩
  intro earlier early later late
  rcases List.getLast?_isSome.mpr (List.ne_nil_of_mem early) |> Option.isSome_iff_exists.mp with
    ⟨last, isLast⟩
  exact Nat.lt_of_le_of_lt (first.le_last isLast early) (newer last isLast later late)

end TelemetryGateway.Wire
