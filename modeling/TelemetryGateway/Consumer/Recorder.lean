import TelemetryGateway.Consumer.Coverage
import TelemetryGateway.Consumer.Reassembly

/-! # The recorder

`etg-record` answers the echoes of a batch, accounts for its other records and
writes the whole batch, encoded again, to its file. -/

namespace TelemetryGateway

/-! ## What is received -/

structure ReceivedBatch where
  records : List Wire.FrameBytes
  counted : records.length ≤ 65535
  accepted : ∀ record ∈ records, (Wire.decodeFrame record.val Frame.zero).1 = .kOk

def decoded (record : Wire.FrameBytes) : Frame :=
  (Wire.decodeFrame record.val Frame.zero).2

/-- What `read_batch` puts into `batch`. -/
def ReceivedBatch.frames (batch : ReceivedBatch) : List Frame :=
  batch.records.map decoded

theorem accepted_cases {record : Wire.FrameBytes}
    (accepted : (Wire.decodeFrame record.val Frame.zero).1 = .kOk) :
    decoded record = Wire.parsedFrame record.val ∧
      (Wire.parsedFrame record.val).flags &&& FrameFlags.kReservedMask = 0 ∧
      (Wire.parsedFrame record.val).len.toNat ≤ kMaxPayload := by
  rw [decoded]
  rcases Wire.decodeFrame_cases record.val Frame.zero with
    ⟨_, refused⟩ | ⟨_, _, refused⟩ | ⟨flags, len, parsed⟩
  · rw [refused] at accepted
    cases accepted
  · rw [refused] at accepted
    cases accepted
  · rw [parsed]
    exact ⟨rfl, flags, len⟩

theorem recordBytes_decoded {record : Wire.FrameBytes}
    (accepted : (Wire.decodeFrame record.val Frame.zero).1 = .kOk) :
    Wire.recordBytes (decoded record) = record.val := by
  rw [(accepted_cases accepted).1]
  exact Wire.recordBytes_parsedFrame record

theorem ReceivedBatch.encodable (batch : ReceivedBatch) :
    FrameStream.Encodable batch.frames := by
  refine ⟨?_, ?_⟩
  · rw [ReceivedBatch.frames, List.length_map]
    exact batch.counted
  · intro frame member
    rcases List.mem_map.mp member with ⟨record, found, rfl⟩
    rcases accepted_cases (batch.accepted record found) with ⟨parsed, flags, len⟩
    rw [parsed]
    exact ⟨flags, len⟩

theorem received_of_decodeRecords {count : Nat} {payload : List UInt8} {out : List Frame}
    (long : count * Wire.kRecordSize ≤ payload.length)
    (decodes : FrameStream.decodeRecords count payload = (out, .kOk)) :
    ∃ records : List Wire.FrameBytes, records.length = count ∧
      (∀ record ∈ records, (Wire.decodeFrame record.val Frame.zero).1 = .kOk) ∧
      records.map decoded = out ∧
      (records.map Subtype.val).flatten = payload.take (count * Wire.kRecordSize) := by
  induction count generalizing payload out with
  | zero =>
      cases decodes
      exact ⟨[], rfl, fun _ member => (nomatch member), rfl, by simp⟩
  | succ count induction =>
      rw [Nat.succ_mul] at long
      have size : (payload.take Wire.kRecordSize).length = Wire.kRecordSize := by
        rw [List.length_take]
        exact Nat.min_eq_left (by omega)
      rw [FrameStream.decodeRecords] at decodes
      cases first : Wire.decodeFrame (payload.take Wire.kRecordSize) Frame.zero with
      | mk error frame =>
          rw [first] at decodes
          cases error
          case kOk =>
            cases behind : FrameStream.decodeRecords count (payload.drop Wire.kRecordSize) with
            | mk rest error =>
                simp only [behind, Prod.mk.injEq] at decodes
                rcases decodes with ⟨rfl, rfl⟩
                rcases induction (by rw [List.length_drop]; omega) behind with
                  ⟨records, number, accepted, frames, bytes⟩
                refine ⟨⟨payload.take Wire.kRecordSize, size⟩ :: records, ?_, ?_, ?_, ?_⟩
                · rw [List.length_cons, number]
                · intro record member
                  rcases List.mem_cons.mp member with rfl | later
                  · rw [first]
                  · exact accepted record later
                · rw [List.map_cons, frames, decoded, first]
                · rw [List.map_cons, List.flatten_cons, bytes, Nat.succ_mul, Nat.add_comm,
                    List.take_add]
          all_goals cases decodes

theorem received_of_parseAll {bytes : List UInt8} {frames : List Frame}
    (parsed : FrameStream.Result.ok frames ∈ FrameStream.parseAll bytes) :
    ∃ batch : ReceivedBatch, batch.frames = frames := by
  fun_induction FrameStream.parseAll bytes with
  | case1 => simp at parsed
  | case2 => simp at parsed
  | case3 bytes long header headerDecoded payload enough out recordsDecoded induction =>
      rcases List.mem_cons.mp parsed with same | later
      · cases same
        have need := Wire.payloadLen_of_decoded headerDecoded
        rcases (Wire.decodeHeader_ok_iff _ _ _).mp headerDecoded with
          ⟨⟨_, _, _, _, allowed, _⟩, isHeader⟩
        rw [← isHeader] at allowed
        rcases received_of_decodeRecords (by omega) recordsDecoded with
          ⟨records, number, accepted, frames, _⟩
        refine ⟨⟨records, ?_, accepted⟩, frames⟩
        rw [number]
        exact UInt32.le_iff_toNat_le.mp allowed
      · exact induction later
  | case4 => simp at parsed
  | case5 => simp at parsed

/-! ## The loop of `main` -/

/-- How `fwrite` answers. -/
inductive Write
  | all
  /-- no more than so many bytes -/
  | short (size : Nat)
  deriving DecidableEq

structure Recorder where
  frames : UInt64 := 0
  batches : UInt64 := 0
  bytes : UInt64 := 0
  gaps : GapTracker := {}
  writeErrors : UInt64 := 0
  protocolErrs : UInt64 := 0
  encoded : List UInt8 := []
  file : List UInt8 := []
  /-- history: what `send_back` was called with -/
  sentBack : List Frame := []

namespace Recorder

inductive Event
  | connected
  | batch (batch : ReceivedBatch) (write : Write)
  | timeout
  | closed
  | protocolError

def account (recorder : Recorder) : List Frame → Recorder
  | [] => recorder
  | frame :: rest =>
      if Wire.isEcho frame then
        { recorder with sentBack := recorder.sentBack ++ [frame] }.account rest
      else { recorder with gaps := (recorder.gaps.observe frame).1 }.account rest

def resize (bytes : List UInt8) (size : Nat) : List UInt8 :=
  bytes.take size ++ List.replicate (size - bytes.length) 0

def encode (recorder : Recorder) (batch : List Frame) : Recorder :=
  let encoded := resize recorder.encoded (Wire.kHeaderSize + batch.length * Wire.kRecordSize)
  { recorder with encoded :=
      Wire.encodeHeader (UInt32.ofNat batch.length) (encoded.take Wire.kHeaderSize) ++
        Wire.encodeRecords batch (encoded.drop Wire.kHeaderSize) }

def write (recorder : Recorder) (batch : List Frame) (answer : Write) : Recorder :=
  let size := recorder.encoded.length
  let written := match answer with
    | .all => size
    | .short limit => min limit size
  let recorder := { recorder with
    file := recorder.file ++ recorder.encoded.take written
    batches := recorder.batches + 1 }
  if written ≠ size then { recorder with writeErrors := recorder.writeErrors + 1 }
  else
    { recorder with
      bytes := recorder.bytes + UInt64.ofNat size
      frames := recorder.frames + UInt64.ofNat batch.length }

def handle (recorder : Recorder) : Event → Recorder
  | .connected => { recorder with gaps := recorder.gaps.reset }
  | .batch batch answer =>
      if batch.frames.isEmpty then recorder
      else ((recorder.account batch.frames).encode batch.frames).write batch.frames answer
  | .timeout => recorder
  | .closed => recorder
  | .protocolError => { recorder with protocolErrs := recorder.protocolErrs + 1 }

def handleAll (recorder : Recorder) (events : List Event) : Recorder :=
  events.foldl handle recorder

/-! ## What a batch leaves -/

theorem account_file (recorder : Recorder) (batch : List Frame) :
    (recorder.account batch).file = recorder.file ∧
      (recorder.account batch).frames = recorder.frames := by
  induction batch generalizing recorder with
  | nil => exact ⟨rfl, rfl⟩
  | cons frame rest induction =>
      rw [account]
      split
      · exact induction _
      · exact induction _

theorem length_resize (bytes : List UInt8) (size : Nat) : (resize bytes size).length = size := by
  rw [resize, List.length_append, List.length_take, List.length_replicate]
  omega

theorem encode_encoded (recorder : Recorder) (batch : List Frame) :
    (recorder.encode batch).encoded = Wire.messageBytes batch := by
  have size := length_resize recorder.encoded
    (Wire.kHeaderSize + batch.length * Wire.kRecordSize)
  have header : ((resize recorder.encoded
      (Wire.kHeaderSize + batch.length * Wire.kRecordSize)).take Wire.kHeaderSize).length =
      Wire.kHeaderSize := by
    rw [List.length_take, size]
    exact Nat.min_eq_left (Nat.le_add_right _ _)
  have payload : ((resize recorder.encoded
      (Wire.kHeaderSize + batch.length * Wire.kRecordSize)).drop Wire.kHeaderSize).length =
      batch.length * Wire.kRecordSize := by
    rw [List.length_drop, size, Nat.add_sub_cancel_left]
  simp only [encode]
  rw [Wire.encodeHeader_eq _ ⟨_, header⟩, Wire.encodeRecords_eq _ _ payload, Wire.messageBytes]

def Event.recorded : Event → List ReceivedBatch
  | .batch received _ => if received.frames.isEmpty then [] else [received]
  | _ => []

def recorded (events : List Event) : List ReceivedBatch :=
  events.flatMap Event.recorded

/-- `fwrite` took everything. -/
def Event.succeeds : Event → Prop
  | .batch _ answer => answer = .all
  | _ => True

theorem file_handle (recorder : Recorder) {event : Event} (succeeds : event.succeeds) :
    (recorder.handle event).file =
        recorder.file ++ (event.recorded.map fun batch => Wire.messageBytes batch.frames).flatten ∧
      (recorder.handle event).frames = recorder.frames +
        UInt64.ofNat (event.recorded.map fun batch => batch.frames.length).sum := by
  have same : recorder.file = recorder.file ++ [] ∧
      recorder.frames = recorder.frames + UInt64.ofNat 0 :=
    ⟨(List.append_nil _).symm, (UInt64.add_zero _).symm⟩
  cases event with
  | connected => exact same
  | timeout => exact same
  | closed => exact same
  | protocolError => exact same
  | batch batch answer =>
      cases succeeds
      rw [handle, Event.recorded]
      split
      · exact same
      · rcases recorder.account_file batch.frames with ⟨file, frames⟩
        have encoded := (recorder.account batch.frames).encode_encoded batch.frames
        simp only [write, ne_eq, not_true_eq_false, if_false, List.take_length, encoded,
          List.map_singleton, List.flatten_singleton, List.sum_singleton]
        exact ⟨congrArg (· ++ Wire.messageBytes batch.frames) file,
          congrArg (· + UInt64.ofNat batch.frames.length) frames⟩

theorem file_handleAll (recorder : Recorder) {events : List Event}
    (succeed : ∀ event ∈ events, event.succeeds) :
    (recorder.handleAll events).file = recorder.file ++
        ((recorded events).map fun batch => Wire.messageBytes batch.frames).flatten ∧
      (recorder.handleAll events).frames = recorder.frames +
        UInt64.ofNat ((recorded events).map fun batch => batch.frames.length).sum := by
  induction events generalizing recorder with
  | nil => exact ⟨(List.append_nil _).symm, (UInt64.add_zero _).symm⟩
  | cons event events induction =>
      rcases recorder.file_handle (succeed event List.mem_cons_self) with ⟨file, frames⟩
      rcases induction (recorder.handle event)
        fun other member => succeed other (List.mem_cons_of_mem _ member) with ⟨files, counts⟩
      rw [recorded, List.flatMap_cons, List.map_append, List.flatten_append, List.map_append,
        List.sum_append, UInt64.ofNat_add, ← List.append_assoc, ← file, ← UInt64.add_assoc,
        ← frames]
      exact ⟨files, counts⟩

/-! ## The capture -/

def Event.records : Event → List Wire.FrameBytes
  | .batch received _ => received.records
  | _ => []

/-- Everything received, in order. -/
def records (events : List Event) : List Wire.FrameBytes :=
  events.flatMap Event.records

def isProbe (record : Wire.FrameBytes) : Bool :=
  Wire.isEcho (decoded record)

structure Captures (captured : List Frame) (received : List Wire.FrameBytes) : Prop where
  frames : captured = (received.filter fun record => !isProbe record).map decoded
  bytes : captured.map Wire.recordBytes =
    (received.filter fun record => !isProbe record).map Subtype.val
  noEcho : ∀ frame ∈ captured, Wire.isEcho frame = false

/-- The file reads back to its end as what it should hold, and `frames` counts
the bus frames in it. -/
def Faithful (recorder : Recorder) (received : List Wire.FrameBytes) : Prop :=
  ∃ batches : List (List Frame),
    FrameStream.parseAll recorder.file = batches.map .ok ++ [.closed] ∧
      Captures batches.flatten received ∧
      recorder.frames =
        UInt64.ofNat (batches.flatten.countP fun frame => !Wire.isControl frame)

theorem flatten_recorded (events : List Event) :
    ((recorded events).map ReceivedBatch.frames).flatten = (records events).map decoded := by
  induction events with
  | nil => rfl
  | cons event events induction =>
      have front : recorded (event :: events) = event.recorded ++ recorded events := rfl
      have all : records (event :: events) = event.records ++ records events := rfl
      rw [front, all, List.map_append, List.flatten_append, induction, List.map_append]
      refine congrArg (· ++ _) ?_
      cases event with
      | batch received answer =>
          rw [Event.recorded]
          split
          · rename_i empty
            exact (List.isEmpty_iff.mp empty).symm
          · exact List.append_nil _
      | connected => rfl
      | timeout => rfl
      | closed => rfl
      | protocolError => rfl

theorem accepted_records {events : List Event} {record : Wire.FrameBytes}
    (member : record ∈ records events) :
    (Wire.decodeFrame record.val Frame.zero).1 = .kOk := by
  rcases List.mem_flatMap.mp member with ⟨event, _, inside⟩
  cases event with
  | batch received answer => exact received.accepted record inside
  | connected => cases inside
  | timeout => cases inside
  | closed => cases inside
  | protocolError => cases inside

/-- The file after a run that wrote everything: all that was received, message
by message. -/
theorem parseAll_file {events : List Event} (succeed : ∀ event ∈ events, event.succeeds) :
    FrameStream.parseAll (handleAll {} events).file =
        ((recorded events).map ReceivedBatch.frames).map .ok ++ [.closed] ∧
      (handleAll {} events).frames = UInt64.ofNat (records events).length := by
  rcases file_handleAll {} succeed with ⟨file, frames⟩
  constructor
  · have messages : (handleAll {} events).file =
        (((recorded events).map ReceivedBatch.frames).map Wire.messageBytes).flatten := by
      rw [file, List.map_map]
      rfl
    rw [messages]
    refine FrameStream.parseAll_messages fun batch member => ?_
    rcases List.mem_map.mp member with ⟨received, _, rfl⟩
    exact received.encodable
  · have sizes : ((recorded events).map fun batch => batch.frames.length).sum =
        (records events).length := by
      have total := congrArg List.length (flatten_recorded events)
      rw [List.length_flatten, List.map_map, List.length_map] at total
      exact total
    rw [frames, sizes]
    exact UInt64.zero_add _

theorem length_eq_of_no_probe {received : List Wire.FrameBytes}
    (noProbe : ∀ record ∈ received, isProbe record = false) :
    received.length = ((received.map decoded).countP fun frame => !Wire.isControl frame) +
      received.countP fun record => Wire.isGap (decoded record) := by
  rw [List.countP_map, List.length_eq_countP_add_countP
    (fun record => !Wire.isControl (decoded record))]
  refine congrArg (_ + ·) (List.countP_congr fun record member => ?_)
  have notEcho : Wire.isEcho (decoded record) = false := noProbe record member
  cases gap : Wire.isGap (decoded record) with
  | true =>
      have control : Wire.isControl (decoded record) ≠ false := by
        intro bus
        rw [(Wire.isControl_eq_false.mp bus).1] at gap
        cases gap
      simp [control]
  | false => simp [Wire.isControl_eq_false.mpr ⟨gap, notEcho⟩]

theorem ofNat_add_eq_left_iff (left right : Nat) :
    UInt64.ofNat (left + right) = UInt64.ofNat left ↔ right % 2 ^ 64 = 0 := by
  rw [← UInt64.toNat_inj, UInt64.toNat_ofNat', UInt64.toNat_ofNat']
  omega

/-- The file has one reading, so what a faithful one holds is all that was
received. -/
theorem Faithful.captured {events : List Event} (succeed : ∀ event ∈ events, event.succeeds)
    (faithful : Faithful (handleAll {} events) (records events)) :
    Captures ((records events).map decoded) (records events) ∧
      (handleAll {} events).frames = UInt64.ofNat
        (((records events).map decoded).countP fun frame => !Wire.isControl frame) := by
  rcases faithful with ⟨batches, parsed, captures, counted⟩
  rw [(parseAll_file succeed).1] at parsed
  have same := List.append_cancel_right parsed
  have injective : Function.Injective FrameStream.Result.ok := by
    intro left right equal
    cases equal
    rfl
  rw [← List.map_injective_iff.mpr injective same, flatten_recorded] at captures counted
  exact ⟨captures, counted⟩

theorem Captures.no_probe {received : List Wire.FrameBytes}
    (captures : Captures (received.map decoded) received) :
    ∀ record ∈ received, isProbe record = false :=
  fun _ member => captures.noEcho _ (List.mem_map_of_mem member)

theorem captures_of_no_probe {events : List Event}
    (noProbe : ∀ record ∈ records events, isProbe record = false) :
    Captures ((records events).map decoded) (records events) := by
  have all : (records events).filter (fun record => !isProbe record) = records events := by
    refine List.filter_eq_self.mpr fun record member => ?_
    rw [noProbe record member]
    rfl
  constructor
  case frames => rw [all]
  case bytes =>
    rw [all, List.map_map]
    exact List.map_congr_left fun record member => recordBytes_decoded (accepted_records member)
  case noEcho =>
    intro frame member
    rcases List.mem_map.mp member with ⟨record, found, rfl⟩
    exact noProbe record found

theorem faithful_iff_no_control (events : List Event)
    (succeed : ∀ event ∈ events, event.succeeds) :
    Faithful (handleAll {} events) (records events) ↔
      (∀ record ∈ records events, isProbe record = false) ∧
        (records events).countP (fun record => Wire.isGap (decoded record)) % 2 ^ 64 = 0 := by
  rcases parseAll_file succeed with ⟨file, frames⟩
  constructor
  · intro faithful
    rcases faithful.captured succeed with ⟨captures, counted⟩
    refine ⟨captures.no_probe, ?_⟩
    rw [frames, length_eq_of_no_probe captures.no_probe] at counted
    exact (ofNat_add_eq_left_iff _ _).mp counted
  · rintro ⟨noProbe, turns⟩
    refine ⟨_, file, ?_, ?_⟩
    · rw [flatten_recorded]
      exact captures_of_no_probe noProbe
    · rw [frames, flatten_recorded, length_eq_of_no_probe noProbe]
      exact (ofNat_add_eq_left_iff _ _).mpr turns

def batchOf (frames : List Frame) (encodable : FrameStream.Encodable frames) : ReceivedBatch where
  records := frames.map fun frame => ⟨Wire.recordBytes frame, Wire.length_recordBytes frame⟩
  counted := by
    rw [List.length_map]
    exact encodable.1
  accepted := by
    intro record member
    rcases List.mem_map.mp member with ⟨frame, inside, rfl⟩
    rcases encodable.2 frame inside with ⟨flags, len⟩
    rw [Wire.decodeFrame_recordBytes frame _ flags len]

theorem frames_batchOf {frames : List Frame} (encodable : FrameStream.Encodable frames) :
    (batchOf frames encodable).frames = frames := by
  have decodes : ∀ frame ∈ frames,
      decoded ⟨Wire.recordBytes frame, Wire.length_recordBytes frame⟩ = frame := by
    intro frame inside
    rcases encodable.2 frame inside with ⟨flags, len⟩
    rw [decoded, Wire.decodeFrame_recordBytes frame _ flags len]
  rw [ReceivedBatch.frames, batchOf, List.map_map]
  exact (List.map_congr_left decodes).trans (List.map_id _)

/-- A connection that delivers these batches. -/
def deliver (batches : List ReceivedBatch) : List Event :=
  .connected :: batches.map (fun batch => .batch batch .all) ++ [.closed]

theorem deliver_succeeds (batches : List ReceivedBatch) :
    ∀ event ∈ deliver batches, event.succeeds := by
  intro event member
  rcases List.mem_append.mp member with inside | last
  · rcases List.mem_cons.mp inside with rfl | one
    · trivial
    · rcases List.mem_map.mp one with ⟨batch, _, rfl⟩
      rfl
  · rw [List.mem_singleton.mp last]
    trivial

theorem records_deliver (batches : List ReceivedBatch) :
    (records (deliver batches)).map decoded = (batches.map ReceivedBatch.frames).flatten := by
  have all : records (deliver batches) = (batches.map ReceivedBatch.records).flatten := by
    rw [records, deliver, List.flatMap_append, List.flatMap_cons, List.flatMap_map]
    exact List.append_nil _
  rw [all, List.map_flatten, List.map_map]
  rfl

/-- Bus frames in two messages. -/
def twoMessages : List ReceivedBatch :=
  [batchOf [GapTracker.frameAt 3, GapTracker.frameAt 4] (by decide),
    batchOf [GapTracker.frameAt 6, GapTracker.frameAt 7] (by decide)]

theorem faithful_bus_frames :
    Faithful (handleAll {} (deliver twoMessages)) (records (deliver twoMessages)) := by
  have all : (records (deliver twoMessages)).map decoded =
      [3, 4, 6, 7].map GapTracker.frameAt := by
    rw [records_deliver, twoMessages, List.map_cons, List.map_singleton, frames_batchOf,
      frames_batchOf]
    rfl
  refine (faithful_iff_no_control _ (deliver_succeeds _)).mpr ⟨?_, ?_⟩
  · have noEcho : ∀ frame ∈ [3, 4, 6, 7].map GapTracker.frameAt, Wire.isEcho frame = false := by
      decide
    intro record member
    apply noEcho
    rw [← all]
    exact List.mem_map_of_mem member
  · have gaps := List.countP_map (p := Wire.isGap) (f := decoded)
      (l := records (deliver twoMessages))
    rw [all] at gaps
    exact congrArg (· % 2 ^ 64) gaps.symm

/-- The probe is written to the file. -/
theorem probe_recorded :
    ¬ Faithful (handleAll {} (deliver [batchOf [Wire.makeEcho 7 0] (by decide)]))
      (records (deliver [batchOf [Wire.makeEcho 7 0] (by decide)])) := by
  intro faithful
  have captures := (faithful.captured (deliver_succeeds _)).1
  rw [records_deliver, List.map_singleton, frames_batchOf] at captures
  have silent := captures.noEcho _ (List.mem_singleton.mpr rfl)
  rw [Wire.isEcho_makeEcho] at silent
  cases silent

end Recorder

end TelemetryGateway
