import TelemetryGateway.Wire.Message

/-! # One consumer's outbound path

The members of `Egress` and the functions that work on them without waiting for
anything. A file descriptor of `-1` is `none`; `rtt_` is the sequence of samples
it was offered. -/

namespace TelemetryGateway

structure Tuning where
  maxFrames : Nat := 256
  lingerUs : UInt32 := 0
  echoMs : UInt32 := 0
  deriving DecidableEq, Repr

structure Counters where
  framesSent : UInt64 := 0
  batchesSent : UInt64 := 0
  bytesSent : UInt64 := 0
  wouldBlock : UInt64 := 0
  partialWrites : UInt64 := 0
  connects : UInt64 := 0
  disconnects : UInt64 := 0
  gapsSent : UInt64 := 0
  framesLost : UInt64 := 0
  lingered : UInt64 := 0
  echoesSent : UInt64 := 0
  echoesReturned : UInt64 := 0
  echoesLost : UInt64 := 0
  deriving DecidableEq, Repr

structure Egress where
  tuning : Tuning
  clientFd : Option Nat := none
  pending : List UInt8 := []
  pendingOffset : Nat := 0
  outgoing : List Frame := []
  nextSeq : UInt64 := 0
  haveSeq : Bool := false
  reconnected : Bool := false
  counters : Counters := {}
  echoNonce : UInt64 := 0
  echoSentNs : UInt64 := 0
  echoOutstanding : Bool := false
  nextEchoNs : UInt64 := 0
  replyBuf : List UInt8 := []
  rtt : List Int64 := []
  connected : Bool := false
  deriving DecidableEq

namespace Egress

def kMaxBatch : Nat := 4096

/-- `create` up to the object itself: the tuning test, then whatever the
listening socket and the event descriptor answer. -/
def create (tuning : Tuning) (listenOn eventfd : Except String Nat) : Except String Egress :=
  if tuning.maxFrames = 0 ∨ kMaxBatch < tuning.maxFrames then
    .error ("batch size must be between 1 and " ++ toString kMaxBatch)
  else
    match listenOn with
    | .error error => .error error
    | .ok _ =>
        match eventfd with
        | .error error => .error ("eventfd: " ++ error)
        | .ok _ => .ok { tuning := tuning }

/-! ## Round-trip probes -/

def maybeSendEcho (egress : Egress) (now : UInt64) : Egress :=
  if egress.tuning.echoMs = 0 ∨ egress.clientFd = none then egress
  else if now < egress.nextEchoNs then egress
  else
    { egress with
      echoNonce := egress.echoNonce + 1
      echoSentNs := now
      echoOutstanding := true
      nextEchoNs := now + egress.tuning.echoMs.toUInt64 * 1000000
      outgoing := egress.outgoing ++ [Wire.makeEcho (egress.echoNonce + 1) now]
      counters := { egress.counters with
        echoesLost := egress.counters.echoesLost + (if egress.echoOutstanding then 1 else 0)
        echoesSent := egress.counters.echoesSent + 1 } }

def kReplyLimit : Nat := 64 * 1024

def receive (egress : Egress) (bytes : List UInt8) : Egress :=
  let replyBuf := egress.replyBuf ++ bytes
  { egress with replyBuf := if kReplyLimit < replyBuf.length then [] else replyBuf }

def acceptReply (egress : Egress) (p : List UInt8) (now : UInt64) : Egress :=
  match Wire.decodeFrame p Frame.zero with
  | (.kOk, frame) =>
      if Wire.isEcho frame = false ∨ egress.echoOutstanding = false ∨
          Wire.echoNonce frame ≠ egress.echoNonce then egress
      else
        -- both are readings of the gateway's own monotonic clock, so the
        -- difference fits
        { egress with
          rtt := egress.rtt ++ [now.toInt64 - egress.echoSentNs.toInt64]
          echoOutstanding := false
          counters := { egress.counters with
            echoesReturned := egress.counters.echoesReturned + 1 } }
  | _ => egress

/-- The records of one complete message, from the pointer `p` on. -/
def acceptReplies (egress : Egress) (now : UInt64) : Nat → List UInt8 → Egress
  | 0, _ => egress
  | count + 1, p =>
      (egress.acceptReply (p.take Wire.kRecordSize) now).acceptReplies now count
        (p.drop Wire.kRecordSize)

/-- The parse loop of `drain_replies` over what is left of the reply buffer.
Every turn consumes at least a header, so the length of the buffer is fuel
enough. -/
def parseReplies (now : UInt64) : Nat → Egress → Egress
  | 0, egress => egress
  | fuel + 1, egress =>
      if egress.replyBuf.length < Wire.kHeaderSize then egress
      else
        match Wire.decodeHeader (egress.replyBuf.take Wire.kHeaderSize)
            { count := 0, payloadLen := 0, recordLen := 0, version := 0, headerLen := 0 } with
        | (.kOk, header) =>
            let size := Wire.kHeaderSize + header.payloadLen.toNat
            if egress.replyBuf.length < size then egress
            else
              let egress := egress.acceptReplies now header.count.toNat
                (egress.replyBuf.drop Wire.kHeaderSize)
              parseReplies now fuel { egress with replyBuf := egress.replyBuf.drop size }
        | _ => { egress with replyBuf := [] }

/-- Replies touch the round-trip members only: any view of the others is the
same after them. -/
theorem view_acceptReplies (view : Egress → α)
    (sample : ∀ (egress : Egress) rtt returned, view { egress with
      rtt := rtt
      echoOutstanding := false
      counters := { egress.counters with echoesReturned := returned } } = view egress)
    (egress : Egress) (now : UInt64) (count : Nat) (p : List UInt8) :
    view (egress.acceptReplies now count p) = view egress := by
  induction count generalizing egress p with
  | zero => rfl
  | succ count induction =>
      have first : view (egress.acceptReply (p.take Wire.kRecordSize) now) = view egress := by
        unfold acceptReply
        split
        · split
          · rfl
          · exact sample ..
        · rfl
      exact (induction _ _).trans first

theorem view_parseReplies (view : Egress → α)
    (sample : ∀ (egress : Egress) rtt returned, view { egress with
      rtt := rtt
      echoOutstanding := false
      counters := { egress.counters with echoesReturned := returned } } = view egress)
    (buffer : ∀ (egress : Egress) bytes, view { egress with replyBuf := bytes } = view egress)
    (now : UInt64) (fuel : Nat) (egress : Egress) :
    view (parseReplies now fuel egress) = view egress := by
  induction fuel generalizing egress with
  | zero => rfl
  | succ fuel induction =>
      unfold parseReplies
      split
      · rfl
      · split
        · dsimp only
          split
          · rfl
          · rw [induction, buffer]
            exact view_acceptReplies view sample ..
        · exact buffer ..

/-! ## Connections -/

def acceptClient (egress : Egress) (fd : Nat) : Egress :=
  { egress with
    clientFd := some fd
    connected := true
    counters := { egress.counters with connects := egress.counters.connects + 1 } }

def dropClient (egress : Egress) : Egress :=
  match egress.clientFd with
  | none => egress
  | some _ =>
      { egress with
        clientFd := none
        pending := []
        pendingOffset := 0
        replyBuf := []
        echoOutstanding := false
        reconnected := true
        connected := false
        counters := { egress.counters with disconnects := egress.counters.disconnects + 1 } }

/-! ## Batches -/

/-- The range of sequences `note_gap` finds missing in front of a batch. -/
def gapBefore (egress : Egress) (front : Frame) : Option (UInt64 × UInt64) :=
  if egress.haveSeq = true ∧ egress.nextSeq < front.seq then
    some (egress.nextSeq, front.seq - egress.nextSeq)
  else none

def gapReason (egress : Egress) : GapReason :=
  if egress.reconnected then .kConsumerAbsent else .kConsumerOverrun

def noteGap (egress : Egress) (frames : List Frame) (now : UInt64) : Egress :=
  match frames.head?, frames.getLast? with
  | some front, some back =>
      match egress.gapBefore front with
      | some (first, missing) =>
          { egress with
            outgoing := Wire.makeGap first missing egress.gapReason now :: frames
            reconnected := false
            nextSeq := back.seq + 1
            haveSeq := true
            counters := { egress.counters with
              gapsSent := egress.counters.gapsSent + 1
              framesLost := egress.counters.framesLost +
                (if egress.gapReason.isFault then missing else 0) } }
      | none =>
          { egress with
            outgoing := frames
            reconnected := false
            nextSeq := back.seq + 1
            haveSeq := true }
  | _, _ => egress

/-- What `note_gap` sends: a marker for the gap in front, if there is one, and
then the batch. -/
theorem outgoing_noteGap (egress : Egress) (front : Frame) (rest : List Frame) (now : UInt64) :
    (egress.noteGap (front :: rest) now).outgoing =
      ((egress.gapBefore front).toList.map fun gap =>
        Wire.makeGap gap.1 gap.2 egress.gapReason now) ++ front :: rest := by
  simp only [noteGap, List.head?_cons, List.getLast?_cons]
  cases egress.gapBefore front with
  | none => rfl
  | some range => rfl

/-- `vector::resize`: the old bytes stay, new ones are zero. -/
def resize (bytes : List UInt8) (size : Nat) : List UInt8 :=
  bytes.take size ++ List.replicate (size - bytes.length) 0

def encodeBatch (egress : Egress) (frames : List Frame) : Egress :=
  let buffer := resize egress.pending (Wire.kHeaderSize + frames.length * Wire.kRecordSize)
  { egress with
    pending := Wire.encodeHeader (UInt32.ofNat frames.length) (buffer.take Wire.kHeaderSize) ++
      Wire.encodeRecords frames (buffer.drop Wire.kHeaderSize)
    pendingOffset := 0 }

theorem length_resize (bytes : List UInt8) (size : Nat) : (resize bytes size).length = size := by
  rw [resize, List.length_append, List.length_take, List.length_replicate]
  omega

theorem pending_encodeBatch (egress : Egress) (frames : List Frame) :
    (egress.encodeBatch frames).pending = Wire.messageBytes frames := by
  have size := length_resize egress.pending
    (Wire.kHeaderSize + frames.length * Wire.kRecordSize)
  simp only [encodeBatch]
  generalize resize egress.pending _ = buffer at size
  have header : (buffer.take Wire.kHeaderSize).length = Wire.kHeaderSize := by
    rw [List.length_take, size]
    exact Nat.min_eq_left (Nat.le_add_right _ _)
  have records : (buffer.drop Wire.kHeaderSize).length = frames.length * Wire.kRecordSize := by
    rw [List.length_drop, size, Nat.add_sub_cancel_left]
  rw [Wire.encodeHeader_eq _ ⟨buffer.take Wire.kHeaderSize, header⟩,
    Wire.encodeRecords_eq frames _ records, Wire.messageBytes]

theorem encodeBatch_eq (egress : Egress) (frames : List Frame) :
    egress.encodeBatch frames =
      { egress with pending := Wire.messageBytes frames, pendingOffset := 0 } := by
  rw [← pending_encodeBatch egress frames]
  simp only [encodeBatch]

end Egress

end TelemetryGateway
