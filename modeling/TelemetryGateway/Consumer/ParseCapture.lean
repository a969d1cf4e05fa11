import TelemetryGateway.Foundation.RecordFile
import TelemetryGateway.Wire.Language

/-! # The capture script

`scripts/parse-capture.py` reads a capture from the documented tables alone, in
a language whose integers do not wrap. -/

namespace TelemetryGateway.ParseCapture

def magicBytes : List UInt8 := [0x45, 0x54, 0x47, 0x31]
def version : Nat := 3
abbrev headerSize : Nat := 16
abbrev recordSize : Nat := 40

def flagExtended : Nat := 1 <<< 0
def flagRemote : Nat := 1 <<< 1
def flagError : Nat := 1 <<< 2
def flagGap : Nat := 1 <<< 3
def flagEcho : Nat := 1 <<< 4
def flagReservedMask : Nat := 0xE0

inductive ProtocolError
  | badMagic (magic : List UInt8)
  | unsupportedVersion (version : Nat)
  | badHeaderLength (headerLen : Nat)
  | badRecordLength (recordLen : Nat)
  | payloadDisagrees (payloadLen count recordLen : Nat)
  | reservedFlagBit (flags : Nat)
  | lengthExceeds (length : Nat)
  | reservedByteNotZero
  deriving DecidableEq, Repr

/-- The dictionary of a record. The last two keys are on no record: the function
returns before it comes to them. -/
structure Record where
  seq : Nat
  tKernelNs : Nat
  tIngestNs : Nat
  canId : Nat
  srcId : Nat
  len : Nat
  extended : Bool
  remote : Bool
  error : Bool
  gap : Bool
  echo : Bool
  data : String
  gapCount : Option Nat := none
  gapReason : Option String := none
  deriving DecidableEq, Repr

def hex (bytes : List UInt8) : String :=
  String.ofList <| bytes.flatMap fun byte =>
    [Nat.digitChar (byte.toNat / 16), Nat.digitChar (byte.toNat % 16)]

/-! ## Headers and records

`struct.unpack` reads little-endian fields at fixed offsets. -/

def parseHeader (buf : List UInt8) : Except ProtocolError (Nat × Nat) :=
  let magic := buf.take 4
  let version' := Wire.field buf 4 1
  let headerLen := Wire.field buf 5 1
  let recordLen := Wire.field buf 6 2
  let count := Wire.field buf 8 4
  let payloadLen := Wire.field buf 12 4
  if magic ≠ magicBytes then .error (.badMagic magic)
  else if version' ≠ version then .error (.unsupportedVersion version')
  else if headerLen ≠ headerSize then .error (.badHeaderLength headerLen)
  else if recordLen ≠ recordSize then .error (.badRecordLength recordLen)
  else if payloadLen ≠ count * recordLen then
    .error (.payloadDisagrees payloadLen count recordLen)
  else .ok (count, payloadLen)

def parseRecord (buf : List UInt8) : Except ProtocolError Record :=
  let length := Wire.field buf 29 1
  let flags := Wire.field buf 30 1
  let pad := Wire.field buf 31 1
  let data := (buf.drop 32).take 8
  if flags &&& flagReservedMask ≠ 0 then .error (.reservedFlagBit flags)
  else if 8 < length then .error (.lengthExceeds length)
  else if pad ≠ 0 then .error .reservedByteNotZero
  else
    .ok
      { seq := Wire.field buf 0 8
        tKernelNs := Wire.field buf 8 8
        tIngestNs := Wire.field buf 16 8
        canId := Wire.field buf 24 4
        srcId := Wire.field buf 28 1
        len := length
        extended := flags &&& flagExtended != 0
        remote := flags &&& flagRemote != 0
        error := flags &&& flagError != 0
        gap := flags &&& flagGap != 0
        echo := flags &&& flagEcho != 0
        data := hex (data.take length) }

theorem payloadLen_of_parseHeader {buf : List UInt8} {count payloadLen : Nat}
    (parsed : parseHeader buf = .ok (count, payloadLen)) : payloadLen = count * recordSize := by
  simp only [parseHeader] at parsed
  split at parsed
  · cases parsed
  · split at parsed
    · cases parsed
    · split at parsed
      · cases parsed
      · split at parsed
        · cases parsed
        · rename_i sized
          split at parsed
          · cases parsed
          · rename_i consistent
            cases parsed
            rw [Decidable.not_not.mp consistent, Decidable.not_not.mp sized]

/-! ## The generator -/

/-- The loop over the payload from record `i` on: what it yields, and where it
was refused. -/
def yieldFrom (payload : List UInt8) (i : Nat) : Nat → List Record × Option (Nat × ProtocolError)
  | 0 => ([], none)
  | count + 1 =>
      match parseRecord ((payload.drop (i * recordSize)).take recordSize) with
      | .error error => ([], some (i, error))
      | .ok record =>
          let rest := yieldFrom payload (i + 1) count
          (record :: rest.1, rest.2)

/-- What is yielded before the file ends or an exception is raised. The offset is
where in the file the next read begins. -/
def readCapture (offset : Nat) (bytes : List UInt8) :
    List Record × RecordFormat.Ending ProtocolError :=
  let head := bytes.take headerSize
  if head = [] then ([], .done)
  else if head.length ≠ headerSize then ([], .truncated head.length)
  else
    match parseHeader head with
    | .error error => ([], .badHeader offset error)
    | .ok (count, payloadLen) =>
        let payload := (bytes.drop headerSize).take payloadLen
        if payload.length ≠ payloadLen then ([], .truncated (headerSize + payload.length))
        else
          match yieldFrom payload 0 count with
          | (records, some (i, error)) =>
              (records, .badRecord (offset + headerSize + i * recordSize) error)
          | (records, none) =>
              let rest := readCapture (offset + headerSize + payloadLen)
                ((bytes.drop headerSize).drop payloadLen)
              (records ++ rest.1, rest.2)
termination_by bytes.length
decreasing_by
  have head : ¬ bytes.take headerSize = [] := by assumption
  have some : bytes ≠ [] := by
    rintro rfl
    exact head rfl
  have positive := List.length_pos_of_ne_nil some
  simp only [List.length_drop, headerSize]
  omega

/-! ## The generator reads a file of records -/

def format : RecordFormat headerSize recordSize ProtocolError Record where
  header buf := (parseHeader buf).map Prod.fst
  record := parseRecord

theorem read_yieldFrom (start : Nat) (payload rest : List UInt8) (i count : Nat)
    (size : payload.length = (i + count) * recordSize) :
    format.read (start + i * recordSize) count (payload.drop (i * recordSize) ++ rest) =
      match yieldFrom payload i count with
      | (records, some (i, error)) => (records, .badRecord (start + i * recordSize) error)
      | (records, none) =>
          let more := format.read (start + payload.length) 0 rest
          (records ++ more.1, more.2) := by
  induction count generalizing i with
  | zero =>
      rw [Nat.add_zero] at size
      rw [← size, List.drop_length, List.nil_append]
      rfl
  | succ count induction =>
      have room : recordSize ≤ (payload.drop (i * recordSize)).length := by
        rw [List.length_drop, size]
        simp only [recordSize]
        omega
      rw [RecordFormat.read, List.take_append_of_le_length room,
        List.drop_append_of_le_length room, List.drop_drop, ← Nat.succ_mul, Nat.add_assoc,
        ← Nat.succ_mul, induction (i + 1) (by rw [size]; congr 1; omega)]
      rw [yieldFrom, show format.record = parseRecord from rfl]
      cases parseRecord ((payload.drop (i * recordSize)).take recordSize) with
      | error error => rfl
      | ok record =>
          dsimp only
          rcases yieldFrom payload (i + 1) count with ⟨records, _ | ⟨place, error⟩⟩
          · rfl
          · rfl

theorem read_payload {offset : Nat} {bytes : List UInt8} {count payloadLen : Nat}
    (full : (bytes.take headerSize).length = headerSize)
    (accepted : parseHeader (bytes.take headerSize) = .ok (count, payloadLen)) :
    format.read offset 0 bytes =
      if (bytes.drop headerSize).length < payloadLen then ([], .truncated bytes.length)
      else format.read (offset + headerSize) count (bytes.drop headerSize) := by
  rw [List.length_take] at full
  have long : ¬ bytes.length < headerSize := by omega
  have some : bytes ≠ [] := by
    rintro rfl
    exact long (by decide)
  have header : format.header (bytes.take headerSize) = .ok count := by
    change (parseHeader (bytes.take headerSize)).map Prod.fst = _
    rw [accepted]
    rfl
  rw [RecordFormat.read, if_neg some, if_neg long, header, payloadLen_of_parseHeader accepted]

theorem read_batch {offset : Nat} {bytes : List UInt8} {count payloadLen : Nat}
    (full : (bytes.take headerSize).length = headerSize)
    (accepted : parseHeader (bytes.take headerSize) = .ok (count, payloadLen))
    (filled : ((bytes.drop headerSize).take payloadLen).length = payloadLen) :
    format.read offset 0 bytes =
      match yieldFrom ((bytes.drop headerSize).take payloadLen) 0 count with
      | (records, some (i, error)) =>
          (records, .badRecord (offset + headerSize + i * recordSize) error)
      | (records, none) =>
          let more := format.read (offset + headerSize + payloadLen) 0
            ((bytes.drop headerSize).drop payloadLen)
          (records ++ more.1, more.2) := by
  have enough : ¬ (bytes.drop headerSize).length < payloadLen := by
    rw [List.length_take] at filled
    omega
  have batch := read_yieldFrom (offset + headerSize) _
    ((bytes.drop headerSize).drop payloadLen) 0 count
    (by rw [filled, payloadLen_of_parseHeader accepted, Nat.zero_add])
  rw [filled, Nat.zero_mul, Nat.add_zero, List.drop_zero, List.take_append_drop] at batch
  rw [read_payload full accepted, if_neg enough, batch]

theorem readCapture_eq_read (offset : Nat) (bytes : List UInt8) :
    readCapture offset bytes = format.read offset 0 bytes := by
  fun_induction readCapture offset bytes with
  | case1 offset bytes head empty =>
      have nothing : bytes = [] := by
        rcases List.take_eq_nil_iff.mp empty with impossible | nothing
        · cases impossible
        · exact nothing
      rw [RecordFormat.read, if_pos nothing]
  | case2 offset bytes head some short =>
      have few : bytes.length < headerSize := by
        rw [show head.length = min headerSize bytes.length from List.length_take] at short
        omega
      have nonempty : bytes ≠ [] := by
        rintro rfl
        exact some rfl
      rw [RecordFormat.read, if_neg nonempty, if_pos few,
        show head = bytes from List.take_of_length_le (Nat.le_of_lt few)]
  | case3 offset bytes head some full error refused =>
      have long : ¬ bytes.length < headerSize := by
        rw [show head.length = min headerSize bytes.length from List.length_take] at full
        omega
      have nonempty : bytes ≠ [] := by
        rintro rfl
        exact some rfl
      have header : format.header (bytes.take headerSize) = .error error := by
        change (parseHeader head).map Prod.fst = _
        rw [refused]
        rfl
      rw [RecordFormat.read, if_neg nonempty, if_neg long, header]
  | case4 offset bytes head some full count payloadLen accepted payload short =>
      have sized := Decidable.not_not.mp full
      have lacking : (bytes.drop headerSize).length < payloadLen := by
        rw [show payload.length = min payloadLen (bytes.drop headerSize).length from
          List.length_take] at short
        omega
      have all : payload = bytes.drop headerSize :=
        List.take_of_length_le (Nat.le_of_lt lacking)
      rw [read_payload sized accepted, if_pos lacking, all, List.length_drop]
      rw [show head.length = min headerSize bytes.length from List.length_take] at sized
      rw [Nat.add_sub_cancel' (by omega)]
  | case5 offset bytes head some full count payloadLen accepted payload long records i error stops =>
      rw [read_batch (Decidable.not_not.mp full) accepted (Decidable.not_not.mp long), stops]
  | case6 offset bytes head some full count payloadLen accepted payload long records goesOn rest
      induction =>
      rw [read_batch (Decidable.not_not.mp full) accepted (Decidable.not_not.mp long), goesOn,
        ← induction]

/-! ## The accounting loop of `main` -/

structure Totals where
  frames : Nat := 0
  markers : Nat := 0
  reportedLost : Nat := 0
  silentJumps : Nat := 0
  silentLost : Int := 0
  echoes : Nat := 0
  lastSeq : Option Int := none
  deriving DecidableEq, Repr

inductive KeyError
  | gapCount
  deriving DecidableEq, Repr

def Totals.frame (totals : Totals) (record : Record) : Totals :=
  match totals.lastSeq with
  | some lastSeq =>
      if lastSeq + 1 < record.seq then
        { totals with
          frames := totals.frames + 1
          silentJumps := totals.silentJumps + 1
          silentLost := totals.silentLost + (record.seq - lastSeq - 1)
          lastSeq := some record.seq }
      else { totals with frames := totals.frames + 1, lastSeq := some record.seq }
  | none => { totals with frames := totals.frames + 1, lastSeq := some record.seq }

def limitReached (limit : Nat) (totals : Totals) : Bool :=
  limit ≠ 0 && limit ≤ totals.frames

def account (limit : Nat) (totals : Totals) : List Record → Except KeyError (Totals × Bool)
  | [] => .ok (totals, false)
  | record :: rest =>
      if record.echo then account limit { totals with echoes := totals.echoes + 1 } rest
      else if record.gap then
        match record.gapCount with
        | none => .error .gapCount
        | some count =>
            let totals := { totals with
              markers := totals.markers + 1
              reportedLost := totals.reportedLost + count
              lastSeq := some (record.seq + count - 1) }
            if limitReached limit totals then .ok (totals, true) else account limit totals rest
      else
        let totals := totals.frame record
        if limitReached limit totals then .ok (totals, true) else account limit totals rest

inductive Outcome
  /-- an exception that nothing catches -/
  | keyError (error : KeyError)
  | protocolError (frames : Nat) (error : ProtocolError)
  | report (totals : Totals) (tail : Nat)

/-- The records come from a generator: an exception of the loop is raised before
one of the reading behind it. -/
def main (limit : Nat) (bytes : List UInt8) : Outcome :=
  let capture := readCapture 0 bytes
  match account limit {} capture.1 with
  | .error error => .keyError error
  | .ok (totals, true) => .report totals 0
  | .ok (totals, false) =>
      match capture.2 with
      | .done => .report totals 0
      | .truncated size => .report totals size
      | .badHeader _ error => .protocolError totals.frames error
      | .badRecord _ error => .protocolError totals.frames error

end TelemetryGateway.ParseCapture
