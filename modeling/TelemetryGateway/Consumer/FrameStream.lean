import TelemetryGateway.Wire.Message

/-! # The consumer's incremental parser

`FrameStream::read_batch` over a socket that delivers a byte string and is then
closed by the peer. How the bytes arrive is a script: the answers to the calls
of `read` within one call of `read_batch`. Behind the end of a script `read`
gives whatever is asked for. -/

namespace TelemetryGateway

inductive FrameStream.Status
  | kOk
  | kTimeout
  | kClosed
  | kProtocolError
  deriving DecidableEq, Repr

inductive FrameStream.Expecting
  | kHeader
  | kPayload
  deriving DecidableEq, Repr

structure FrameStream where
  state : FrameStream.Expecting := .kHeader
  buf : List UInt8
  got : Nat := 0
  need : Nat := Wire.kHeaderSize
  records : UInt32 := 0
  lastError : Wire.DecodeError := .kOk
  deriving DecidableEq

namespace FrameStream

def connected : FrameStream where
  buf := List.replicate Wire.kHeaderSize 0

/-- One answer of `read`. -/
inductive ReadAnswer
  /-- at most `size + 1` bytes, and none only when the peer has closed -/
  | data (size : Nat)
  | interrupted
  /-- `EAGAIN`, and then `poll` reports data or is interrupted -/
  | retried
  /-- `EAGAIN`, and the deadline has passed, at once or in `poll` -/
  | timedOut
  deriving DecidableEq, Repr

def receive (stream : FrameStream) (bytes : List UInt8) : FrameStream :=
  { stream with
    buf := Buffer.poke stream.buf stream.got bytes
    got := stream.got + bytes.length }

def fillLoop (need : Nat) : List ReadAnswer → FrameStream → List UInt8 →
    Status × FrameStream × List UInt8 × List ReadAnswer
  | [], stream, input =>
      let bytes := input.take (need - stream.got)
      (if stream.got + bytes.length < need then .kClosed else .kOk,
        stream.receive bytes, input.drop bytes.length, [])
  | answer :: script, stream, input =>
      if need ≤ stream.got then (.kOk, stream, input, answer :: script)
      else
        match answer with
        | .data size =>
            match input with
            | [] => (.kClosed, stream, [], script)
            | byte :: rest =>
                let bytes := (byte :: rest).take (min (size + 1) (need - stream.got))
                fillLoop need script (stream.receive bytes) ((byte :: rest).drop bytes.length)
        | .interrupted => fillLoop need script stream input
        | .retried => fillLoop need script stream input
        | .timedOut => (.kTimeout, stream, input, script)

def fill (stream : FrameStream) (need : Nat) (input : List UInt8) (script : List ReadAnswer) :
    Status × FrameStream × List UInt8 × List ReadAnswer :=
  fillLoop need script
    { stream with buf := stream.buf ++ List.replicate (need - stream.buf.length) 0 } input

/-- The record loop: the frames decoded before the first error, and the last
error. -/
def decodeRecords : Nat → List UInt8 → List Frame × Wire.DecodeError
  | 0, _ => ([], .kOk)
  | count + 1, p =>
      match Wire.decodeFrame (p.take Wire.kRecordSize) Frame.zero with
      | (.kOk, frame) =>
          let (out, error) := decodeRecords count (p.drop Wire.kRecordSize)
          (frame :: out, error)
      | (error, _) => ([], error)

/-- The second half of `read_batch`: the payload of an announced batch. -/
def readPayload (stream : FrameStream) (input : List UInt8) (script : List ReadAnswer) :
    Status × List Frame × FrameStream × List UInt8 :=
  match stream.fill stream.need input script with
  | (.kOk, stream, input, _) =>
      let (out, error) := decodeRecords stream.records.toNat stream.buf
      let reset := { stream with
        lastError := error
        state := .kHeader
        got := 0
        need := Wire.kHeaderSize }
      (if error = .kOk then .kOk else .kProtocolError, out, reset, input)
  | (status, stream, input, _) => (status, [], stream, input)

def readBatch (stream : FrameStream) (input : List UInt8) (script : List ReadAnswer) :
    Status × List Frame × FrameStream × List UInt8 :=
  match stream.state with
  | .kPayload => stream.readPayload input script
  | .kHeader =>
      match stream.fill Wire.kHeaderSize input script with
      | (.kOk, stream, input, script) =>
          match Wire.decodeHeader (stream.buf.take Wire.kHeaderSize)
              { count := 0, payloadLen := 0, recordLen := 0, version := 0, headerLen := 0 } with
          | (.kOk, header) =>
              let stream := { stream with
                lastError := .kOk
                records := header.count
                need := header.payloadLen.toNat
                got := 0
                state := .kPayload }
              if stream.need = 0 then
                (.kOk, [], { stream with state := .kHeader, need := Wire.kHeaderSize }, input)
              else stream.readPayload input script
          | (error, _) => (.kProtocolError, [], { stream with lastError := error }, input)
      | (status, stream, input, _) => (status, [], stream, input)

/-! ## What is handed over -/

structure Batch where
  frames : List Frame
  short : ∀ frame ∈ frames, frame.len.toNat ≤ kMaxPayload

theorem short_of_decodeRecords (count : Nat) (p : List UInt8) :
    ∀ frame ∈ (decodeRecords count p).1, frame.len.toNat ≤ kMaxPayload := by
  induction count generalizing p with
  | zero => exact fun _ member => nomatch member
  | succ count induction =>
      have rest := induction (p.drop Wire.kRecordSize)
      rw [decodeRecords]
      rcases Wire.decodeFrame_cases (p.take Wire.kRecordSize) Frame.zero with
        ⟨_, refused⟩ | ⟨_, _, refused⟩ | ⟨_, len, decoded⟩
      · rw [refused]
        exact fun _ member => nomatch member
      · rw [refused]
        exact fun _ member => nomatch member
      · rw [decoded]
        exact List.forall_mem_cons.mpr ⟨len, rest⟩

theorem short_of_readPayload (stream : FrameStream) (input : List UInt8)
    (script : List ReadAnswer) :
    ∀ frame ∈ (stream.readPayload input script).2.1, frame.len.toNat ≤ kMaxPayload := by
  unfold readPayload
  split
  · exact short_of_decodeRecords _ _
  · exact fun _ member => nomatch member

theorem short_of_readBatch (stream : FrameStream) (input : List UInt8) (script : List ReadAnswer) :
    ∀ frame ∈ (stream.readBatch input script).2.1, frame.len.toNat ≤ kMaxPayload := by
  unfold readBatch
  split
  · exact short_of_readPayload _ _ _
  · split
    · split
      · dsimp only
        split
        · exact fun _ member => nomatch member
        · exact short_of_readPayload _ _ _
      · exact fun _ member => nomatch member
    · exact fun _ member => nomatch member

def Batch.read (stream : FrameStream) (input : List UInt8) (script : List ReadAnswer) : Batch where
  frames := (stream.readBatch input script).2.1
  short := stream.short_of_readBatch input script

/-! ## Whole conversations -/

inductive Result
  | ok (frames : List Frame)
  | timeout
  | closed
  | protocolError (error : Wire.DecodeError)
  deriving DecidableEq

/-- What the caller sees: the batch, or the status with `last_error`. -/
def Result.of (status : Status) (out : List Frame) (lastError : Wire.DecodeError) : Result :=
  match status with
  | .kOk => .ok out
  | .kTimeout => .timeout
  | .kClosed => .closed
  | .kProtocolError => .protocolError lastError

/-- Successive calls of `read_batch`, each with its own script. -/
def results (stream : FrameStream) (input : List UInt8) :
    List (List ReadAnswer) → List Result
  | [] => []
  | script :: calls =>
      match stream.readBatch input script with
      | (status, out, stream, input) =>
          .of status out stream.lastError :: stream.results input calls

/-- The results up to the first error or the end of the stream, timeouts left
out. -/
def observed : List Result → List Result
  | [] => []
  | .timeout :: rest => observed rest
  | .ok frames :: rest => .ok frames :: observed rest
  | .closed :: _ => [.closed]
  | .protocolError error :: _ => [.protocolError error]

end FrameStream

end TelemetryGateway
