import TelemetryGateway.Foundation.Buffer
import TelemetryGateway.Frame

/-! # The wire codec

Records and headers are written field by field through explicit little-endian
loops and parsed the same way; a receive buffer is never cast. A span of bytes
is a list of known length, and an out-parameter is an argument that the
function returns, changed or not. -/

namespace TelemetryGateway.Wire

def kVersion : UInt8 := 3
abbrev kHeaderSize : Nat := 16
abbrev kRecordSize : Nat := 40
def kMaxCount : UInt32 := 65535

def kMagic : List UInt8 := [0x45, 0x54, 0x47, 0x31]

abbrev FrameBytes := { bytes : List UInt8 // bytes.length = kRecordSize }
abbrev HeaderBytes := { bytes : List UInt8 // bytes.length = kHeaderSize }

structure BatchHeader where
  count : UInt32
  payloadLen : UInt32
  recordLen : UInt16
  version : UInt8
  headerLen : UInt8
  deriving DecidableEq, Repr

inductive DecodeError
  | kOk
  | kBadMagic
  | kUnsupportedVersion
  | kBadHeaderLen
  | kBadRecordLen
  | kInconsistentLength
  | kCountTooLarge
  | kReservedFlagSet
  | kLengthOutOfRange
  deriving DecidableEq, Repr

/-! ## Little-endian helpers -/

def storeLe (width value : Nat) : List UInt8 :=
  LittleEndian.store width value

/-- `load_le` at the pointer `p`, here the rest of the buffer from that byte. -/
def loadLe (width : Nat) (p : List UInt8) : Nat :=
  LittleEndian.load width fun index => p.getD index 0

/-! ## Control records -/

def makeGap (firstMissing count : UInt64) (reason : GapReason) (tIngestNs : UInt64) : Frame where
  seq := firstMissing
  tKernelNs := 0
  tIngestNs := tIngestNs
  canId := 0
  srcId := reason.code
  len := 8
  flags := FrameFlags.kGap
  reserved := 0
  data := Vector.ofFn fun index => LittleEndian.byteAt count.toNat index.val

def isGap (frame : Frame) : Bool :=
  frame.flags &&& FrameFlags.kGap != 0

def makeEcho (nonce tSentNs : UInt64) : Frame where
  seq := nonce
  tKernelNs := 0
  tIngestNs := tSentNs
  canId := 0
  srcId := 0
  len := 0
  flags := FrameFlags.kEcho
  reserved := 0
  data := Vector.replicate 8 0

def isEcho (frame : Frame) : Bool :=
  frame.flags &&& FrameFlags.kEcho != 0

def echoNonce (frame : Frame) : UInt64 := frame.seq

def echoSentNs (frame : Frame) : UInt64 := frame.tIngestNs

def isControl (frame : Frame) : Bool :=
  frame.flags &&& (FrameFlags.kGap ||| FrameFlags.kEcho) != 0

def gapCount (frame : Frame) : UInt64 :=
  UInt64.ofNat (LittleEndian.load 8 fun index => frame.data.toList.getD index 0)

def gapReason (frame : Frame) : GapReason :=
  GapReason.ofCode frame.srcId

/-! ## Records -/

def encodeFrame (frame : Frame) (out : List UInt8) : List UInt8 :=
  let out := Buffer.poke out 0 (storeLe 8 frame.seq.toNat)
  let out := Buffer.poke out 8 (storeLe 8 frame.tKernelNs.toNat)
  let out := Buffer.poke out 16 (storeLe 8 frame.tIngestNs.toNat)
  let out := Buffer.poke out 24 (storeLe 4 frame.canId.toNat)
  let out := Buffer.poke out 28 (storeLe 1 frame.srcId.toNat)
  let out := Buffer.poke out 29 (storeLe 1 frame.len.toNat)
  let out := Buffer.poke out 30 (storeLe 1 frame.flags.toNat)
  let out := Buffer.poke out 31 (storeLe 1 frame.reserved.toNat)
  Buffer.poke out 32 frame.data.toList

def decodeFrame (p : List UInt8) (out : Frame) : DecodeError × Frame :=
  let flags := UInt8.ofNat (loadLe 1 (p.drop 30))
  if flags &&& FrameFlags.kReservedMask ≠ 0 then (.kReservedFlagSet, out)
  else
    let len := UInt8.ofNat (loadLe 1 (p.drop 29))
    if kMaxPayload < len.toNat then (.kLengthOutOfRange, out)
    else
      (.kOk,
        { seq := UInt64.ofNat (loadLe 8 (p.drop 0))
          tKernelNs := UInt64.ofNat (loadLe 8 (p.drop 8))
          tIngestNs := UInt64.ofNat (loadLe 8 (p.drop 16))
          canId := UInt32.ofNat (loadLe 4 (p.drop 24))
          srcId := UInt8.ofNat (loadLe 1 (p.drop 28))
          len := len
          flags := flags
          reserved := UInt8.ofNat (loadLe 1 (p.drop 31))
          data := Vector.ofFn fun index => p.getD (32 + index.val) 0 })

/-! ## Batch headers -/

def encodeHeader (count : UInt32) (out : List UInt8) : List UInt8 :=
  let out := Buffer.poke out 0 kMagic
  let out := Buffer.poke out 4 (storeLe 1 kVersion.toNat)
  let out := Buffer.poke out 5 (storeLe 1 kHeaderSize)
  let out := Buffer.poke out 6 (storeLe 2 kRecordSize)
  let out := Buffer.poke out 8 (storeLe 4 count.toNat)
  -- the product is taken in 32 bits, as the source multiplies two `uint32_t`
  Buffer.poke out 12 (storeLe 4 (count * UInt32.ofNat kRecordSize).toNat)

def decodeHeader (p : List UInt8) (out : BatchHeader) : DecodeError × BatchHeader :=
  if p.take kMagic.length ≠ kMagic then (.kBadMagic, out)
  else
    let version := UInt8.ofNat (loadLe 1 (p.drop 4))
    let headerLen := UInt8.ofNat (loadLe 1 (p.drop 5))
    let recordLen := UInt16.ofNat (loadLe 2 (p.drop 6))
    let count := UInt32.ofNat (loadLe 4 (p.drop 8))
    let payload := UInt32.ofNat (loadLe 4 (p.drop 12))
    if version ≠ kVersion then (.kUnsupportedVersion, out)
    else if headerLen.toNat ≠ kHeaderSize then (.kBadHeaderLen, out)
    else if recordLen.toNat ≠ kRecordSize then (.kBadRecordLen, out)
    else if kMaxCount < count then (.kCountTooLarge, out)
    else if payload ≠ count * UInt32.ofNat kRecordSize then (.kInconsistentLength, out)
    else
      (.kOk,
        { count := count
          payloadLen := payload
          recordLen := recordLen
          version := version
          headerLen := headerLen })

end TelemetryGateway.Wire
