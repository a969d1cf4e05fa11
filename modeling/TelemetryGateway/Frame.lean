import TelemetryGateway.Foundation.LittleEndian

/-! # Bus frames and the control records that share their shape -/

namespace TelemetryGateway

/-! ## Flags -/

namespace FrameFlags

def kExtendedId : UInt8 := (1 : UInt8) <<< 0
def kRemote : UInt8 := (1 : UInt8) <<< 1
def kError : UInt8 := (1 : UInt8) <<< 2
def kGap : UInt8 := (1 : UInt8) <<< 3
def kEcho : UInt8 := (1 : UInt8) <<< 4
def kReservedMask : UInt8 := 0xE0

end FrameFlags

/-! ## Gap reasons -/

/-- Why a consumer lost the frames a marker describes. The enumeration has a
fixed underlying byte, so a byte that names no enumerator is still a value of
it; `unnamed` carries the evidence that the byte is such a one. -/
inductive GapReason
  | kConsumerOverrun
  | kIngestLoss
  | kConsumerAbsent
  | unnamed (code : UInt8) (beyond : 2 < code)
  deriving DecidableEq, Repr

namespace GapReason

def code : GapReason → UInt8
  | .kConsumerOverrun => 0
  | .kIngestLoss => 1
  | .kConsumerAbsent => 2
  | .unnamed code _ => code

def ofCode (byte : UInt8) : GapReason :=
  if byte = 0 then .kConsumerOverrun
  else if byte = 1 then .kIngestLoss
  else if byte = 2 then .kConsumerAbsent
  else if beyond : 2 < byte then .unnamed byte beyond
  else .kConsumerOverrun

@[simp] theorem ofCode_code (reason : GapReason) : ofCode reason.code = reason := by
  cases reason with
  | kConsumerOverrun => rfl
  | kIngestLoss => rfl
  | kConsumerAbsent => rfl
  | unnamed code beyond =>
      have large : 2 < code.toNat := UInt8.lt_iff_toNat_lt.mp beyond
      have notZero : code ≠ 0 := fun equal => absurd large (by rw [equal]; decide)
      have notOne : code ≠ 1 := fun equal => absurd large (by rw [equal]; decide)
      have notTwo : code ≠ 2 := fun equal => absurd large (by rw [equal]; decide)
      simp [ofCode, GapReason.code, notZero, notOne, notTwo, beyond]

def isFault (reason : GapReason) : Bool :=
  reason != .kConsumerAbsent

end GapReason

/-! ## The frame -/

/-- One normalised bus frame, 40 bytes in memory. -/
structure Frame where
  seq : UInt64
  tKernelNs : UInt64
  tIngestNs : UInt64
  canId : UInt32
  srcId : UInt8
  len : UInt8
  flags : UInt8
  reserved : UInt8
  data : Vector UInt8 8
  deriving DecidableEq, Repr

def kMaxPayload : Nat := 8

def Frame.zero : Frame where
  seq := 0
  tKernelNs := 0
  tIngestNs := 0
  canId := 0
  srcId := 0
  len := 0
  flags := 0
  reserved := 0
  data := Vector.replicate 8 0

instance : Inhabited Frame := ⟨Frame.zero⟩

/-! ## Object representation

The ring copies a frame as five 64-bit words. Both targets are little-endian,
so a word is the little-endian value of the eight bytes at its offset. -/

abbrev kFrameWords : Nat := 5

instance kFrameWords_neZero : NeZero kFrameWords := ⟨by decide⟩

def Frame.toWords (frame : Frame) : Fin kFrameWords → UInt64
  | 0 => frame.seq
  | 1 => frame.tKernelNs
  | 2 => frame.tIngestNs
  | 3 => UInt64.ofNat (frame.canId.toNat + 2 ^ 32 * frame.srcId.toNat +
      2 ^ 40 * frame.len.toNat + 2 ^ 48 * frame.flags.toNat + 2 ^ 56 * frame.reserved.toNat)
  | 4 => UInt64.ofNat (LittleEndian.value frame.data.toList)

def Frame.ofWords (words : Fin kFrameWords → UInt64) : Frame where
  seq := words 0
  tKernelNs := words 1
  tIngestNs := words 2
  canId := UInt32.ofNat ((words 3).toNat % 2 ^ 32)
  srcId := UInt8.ofNat ((words 3).toNat / 2 ^ 32 % 256)
  len := UInt8.ofNat ((words 3).toNat / 2 ^ 40 % 256)
  flags := UInt8.ofNat ((words 3).toNat / 2 ^ 48 % 256)
  reserved := UInt8.ofNat ((words 3).toNat / 2 ^ 56 % 256)
  data := Vector.ofFn fun index => LittleEndian.byteAt (words 4).toNat index.val

theorem Frame.toNat_word_three (frame : Frame) :
    (frame.toWords 3).toNat = frame.canId.toNat + 2 ^ 32 * frame.srcId.toNat +
      2 ^ 40 * frame.len.toNat + 2 ^ 48 * frame.flags.toNat +
      2 ^ 56 * frame.reserved.toNat := by
  have canId := frame.canId.toNat_lt
  have srcId := frame.srcId.toNat_lt
  have len := frame.len.toNat_lt
  have flags := frame.flags.toNat_lt
  have reserved := frame.reserved.toNat_lt
  apply UInt64.toNat_ofNat_of_lt'
  simp only [UInt64.size]
  omega

theorem ofFn_byteAt_value (data : Vector UInt8 8) :
    (Vector.ofFn fun index : Fin 8 =>
      LittleEndian.byteAt (LittleEndian.value data.toList) index.val) = data := by
  apply Vector.toList_inj.mp
  have stored := LittleEndian.store_value data.toList
  rw [Vector.length_toList] at stored
  rw [LittleEndian.toList_ofFn_byteAt, stored]

@[simp] theorem Frame.ofWords_toWords (frame : Frame) : ofWords frame.toWords = frame := by
  have canId := frame.canId.toNat_lt
  have srcId := frame.srcId.toNat_lt
  have len := frame.len.toNat_lt
  have flags := frame.flags.toNat_lt
  have reserved := frame.reserved.toNat_lt
  have word := frame.toNat_word_three
  have bytes := LittleEndian.value_lt frame.data.toList
  rw [Vector.length_toList] at bytes
  have dataWord : (frame.toWords 4).toNat = LittleEndian.value frame.data.toList :=
    UInt64.toNat_ofNat_of_lt' bytes
  cases frame with
  | mk seq tKernelNs tIngestNs canIdField srcIdField lenField flagsField reservedField data =>
      simp only at canId srcId len flags reserved
      simp only [ofWords, mk.injEq, word, dataWord]
      refine ⟨rfl, rfl, rfl, ?_, ?_, ?_, ?_, ?_, ofFn_byteAt_value data⟩
      · apply UInt32.toNat_inj.mp
        rw [UInt32.toNat_ofNat']
        omega
      all_goals
        apply UInt8.toNat_inj.mp
        rw [UInt8.toNat_ofNat']
        omega

end TelemetryGateway
