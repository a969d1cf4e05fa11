import TelemetryGateway.Foundation.Pieces

/-! # Messages with a head and a length

A head of lines, an empty line, and a body whose length a header gives. Who
reads until the connection is closed can tell a message that was cut short. -/

namespace TelemetryGateway

/-! ## Texts as bytes -/

theorem toList_byteArray_loop (bytes : ByteArray) (start : Nat) (before : List UInt8) :
    ByteArray.toList.loop bytes start before = before.reverse ++ bytes.data.toList.drop start := by
  induction start, before using ByteArray.toList.loop.induct bytes with
  | case1 start before inside induction =>
      have within : start < bytes.data.toList.length := by
        rw [Array.length_toList]
        exact inside
      have first : bytes.get! start = bytes.data.toList[start] := by
        rw [Array.getElem_toList]
        exact getElem!_pos bytes.data start inside
      rw [ByteArray.toList.loop, if_pos inside, induction, List.drop_eq_getElem_cons within, first,
        List.reverse_cons, List.append_assoc]
      rfl
  | case2 start before outside =>
      have beyond : bytes.data.toList.length ≤ start := by
        rw [Array.length_toList]
        exact Nat.not_lt.mp outside
      rw [ByteArray.toList.loop, if_neg outside, List.drop_eq_nil_of_le beyond, List.append_nil]

theorem toList_byteArray (bytes : ByteArray) : bytes.toList = bytes.data.toList :=
  toList_byteArray_loop bytes 0 []

theorem utf8_append (left right : String) :
    (left ++ right).toUTF8.toList = left.toUTF8.toList ++ right.toUTF8.toList := by
  rw [toList_byteArray, toList_byteArray, toList_byteArray, String.toUTF8_eq_toByteArray,
    String.toByteArray_append, ByteArray.toList_data_append]
  rfl

theorem fromUTF8?_utf8 (characters : String) :
    String.fromUTF8? ⟨characters.toUTF8.toList.toArray⟩ = some characters := by
  have same : (⟨characters.toUTF8.toList.toArray⟩ : ByteArray) = characters.toByteArray := by
    rw [toList_byteArray, Array.toArray_toList]
    rfl
  rw [same, String.fromUTF8?, dif_pos characters.isValidUTF8]
  rfl

theorem utf8_ascii {characters : String}
    (ascii : ∀ character ∈ characters.toList, character.toNat < 128) :
    characters.toUTF8.toList = characters.toList.map fun character => character.val.toUInt8 := by
  have encoded : characters.toUTF8.toList =
      characters.toList.flatMap fun character => String.utf8EncodeChar character := by
    rw [toList_byteArray, String.toUTF8_eq_toByteArray, ← String.utf8Encode_toList, List.utf8Encode,
      List.toList_data_toByteArray]
  have single : ∀ character ∈ characters.toList,
      String.utf8EncodeChar character = [character.val.toUInt8] := by
    intro character member
    apply String.utf8EncodeChar_eq_singleton
    exact if_pos (Nat.le_of_lt_succ (ascii character member))
  rw [encoded, List.flatMap_congr single, List.map_eq_flatMap]

def decimal (n : Nat) : List UInt8 := (toString n).toUTF8.toList

/-! ## Messages -/

structure HttpLine where
  bytes : List UInt8
  some : bytes ≠ []
  plain : 13 ∉ bytes

structure HttpMessage where
  status : HttpLine
  headers : List HttpLine
  body : List UInt8

namespace HttpMessage

def lineEnd : List UInt8 := [13, 10]

def emptyLine : List UInt8 := [13, 10, 13, 10]

def moreLines (lines : List HttpLine) : List UInt8 :=
  lines.flatMap fun line => lineEnd ++ line.bytes

def head (message : HttpMessage) : List UInt8 :=
  message.status.bytes ++ moreLines message.headers

def bytes (message : HttpMessage) : List UInt8 :=
  message.head ++ (emptyLine ++ message.body)

/-! ### Reading them -/

def splitLines : List UInt8 → List (List UInt8)
  | [] => [[]]
  | [byte] => [[byte]]
  | first :: second :: rest =>
      if first = 13 ∧ second = 10 then [] :: splitLines rest
      else
        match splitLines (second :: rest) with
        | [] => [[first]]
        | line :: lines => (first :: line) :: lines

def headerValue (name : List UInt8) (headers : List (List UInt8)) : Option (List UInt8) :=
  headers.findSome? fun line =>
    if name.isPrefixOf line then some (line.drop name.length) else none

/-- What a client has of a message. -/
structure Reply where
  status : List UInt8
  headers : List (List UInt8)
  body : List UInt8
  deriving DecidableEq, Repr

/-- Everything up to the end of the connection is read. It is a message if the
body has the length that is announced under this name. -/
def read (lengthName received : List UInt8) : Option Reply :=
  match findPart emptyLine received with
  | none => none
  | some ending =>
      match splitLines (received.take ending) with
      | [] => none
      | status :: headers =>
          let body := received.drop (ending + emptyLine.length)
          if headerValue lengthName headers = some (decimal body.length) then
            some { status := status, headers := headers, body := body }
          else none

/-! ### What is read of a message -/

theorem findPart_line {line rest : List UInt8} (plain : 13 ∉ line) :
    findPart emptyLine (line ++ rest) = (findPart emptyLine rest).map (· + line.length) := by
  induction line with
  | nil => exact Option.map_id'.symm
  | cons byte line induction =>
      have other : ¬ emptyLine <+: byte :: (line ++ rest) := fun here =>
        plain (List.mem_cons.mpr (.inl (List.cons_prefix_cons.mp here).1))
      rw [List.cons_append, findPart, if_neg other,
        induction fun member => plain (List.mem_cons_of_mem _ member), Option.map_map]
      rfl

theorem findPart_moreLines (lines : List HttpLine) (body : List UInt8) :
    findPart emptyLine (moreLines lines ++ (emptyLine ++ body)) =
      some (moreLines lines).length := by
  induction lines with
  | nil =>
      have here : emptyLine <+: 13 :: 10 :: 13 :: 10 :: body := List.prefix_append _ _
      exact if_pos here
  | cons line lines induction =>
      rcases line with ⟨bytes, some, plain⟩
      cases bytes with
      | nil => exact absurd rfl some
      | cons byte bytes =>
          have whole : moreLines (⟨byte :: bytes, some, plain⟩ :: lines) ++ (emptyLine ++ body) =
              13 :: 10 :: ((byte :: bytes) ++ (moreLines lines ++ (emptyLine ++ body))) := by
            simp only [moreLines, lineEnd, List.flatMap_cons, List.cons_append, List.nil_append,
              List.append_assoc]
          have notFirst : ¬ emptyLine <+:
              13 :: 10 :: ((byte :: bytes) ++ (moreLines lines ++ (emptyLine ++ body))) := by
            intro here
            have third := (List.cons_prefix_cons.mp (List.cons_prefix_cons.mp
              (List.cons_prefix_cons.mp here).2).2).1
            exact plain (List.mem_cons.mpr (.inl third))
          have notSecond : ¬ emptyLine <+:
              10 :: ((byte :: bytes) ++ (moreLines lines ++ (emptyLine ++ body))) := by
            intro here
            exact absurd (List.cons_prefix_cons.mp here).1 (by decide)
          rw [whole, findPart, if_neg notFirst, findPart, if_neg notSecond, findPart_line plain,
            induction, Option.map_some, Option.map_some, Option.map_some, moreLines, moreLines,
            List.flatMap_cons, List.length_append, List.length_append]
          simp only [lineEnd, List.length_cons, List.length_nil]
          congr 1
          omega

theorem findPart_bytes (message : HttpMessage) :
    findPart emptyLine message.bytes = some message.head.length := by
  rw [bytes, head, List.append_assoc, findPart_line message.status.plain, findPart_moreLines,
    Option.map_some, List.length_append, Nat.add_comm]

theorem splitLines_line {line : List UInt8} (plain : 13 ∉ line) (rest : List UInt8) :
    splitLines (line ++ 13 :: 10 :: rest) = line :: splitLines rest ∧ splitLines line = [line] := by
  induction line with
  | nil => exact ⟨rfl, rfl⟩
  | cons byte line induction =>
      have other : byte ≠ 13 := fun same => plain (List.mem_cons.mpr (.inl same.symm))
      rcases induction fun member => plain (List.mem_cons_of_mem _ member) with ⟨first, last⟩
      cases line with
      | nil =>
          refine ⟨?_, rfl⟩
          rw [List.cons_append, List.nil_append, splitLines, if_neg fun both => other both.1]
          rfl
      | cons next line =>
          rw [List.cons_append, List.cons_append, splitLines, if_neg fun both => other both.1,
            splitLines, if_neg fun both => other both.1, last, ← List.cons_append, first]
          exact ⟨rfl, rfl⟩

theorem splitLines_head (message : HttpMessage) :
    splitLines message.head =
      message.status.bytes :: message.headers.map fun line => line.bytes := by
  rcases message with ⟨status, headers, body⟩
  unfold head
  dsimp only
  induction headers generalizing status with
  | nil =>
      rw [moreLines, List.flatMap_nil, List.append_nil]
      exact (splitLines_line status.plain []).2
  | cons line lines induction =>
      have next : status.bytes ++ moreLines (line :: lines) =
          status.bytes ++ 13 :: 10 :: (line.bytes ++ moreLines lines) := by
        rw [moreLines, List.flatMap_cons, List.append_assoc]
        rfl
      rw [next, (splitLines_line status.plain _).1, induction line, List.map_cons]

def Sized (message : HttpMessage) (lengthName : List UInt8) : Prop :=
  headerValue lengthName (message.headers.map fun line => line.bytes) =
    some (decimal message.body.length)

section

variable {message : HttpMessage} {lengthName received : List UInt8}

theorem read_bytes (sized : message.Sized lengthName) :
    read lengthName message.bytes =
      some {
        status := message.status.bytes
        headers := message.headers.map fun line => line.bytes
        body := message.body } := by
  have headOnly : message.bytes.take message.head.length = message.head := List.take_left
  have bodyOnly : message.bytes.drop (message.head.length + emptyLine.length) = message.body := by
    rw [bytes, ← List.append_assoc, ← List.length_append]
    exact List.drop_left
  rw [read, findPart_bytes]
  dsimp only
  rw [headOnly, bodyOnly, splitLines_head]
  exact if_pos sized

theorem decimal_injective {n m : Nat} (same : decimal n = decimal m) : n = m := by
  have texts : (some (toString n) : Option String) = some (toString m) := by
    rw [← fromUTF8?_utf8, ← fromUTF8?_utf8 (toString m)]
    unfold decimal at same
    rw [same]
  have digits : Nat.toDigits 10 n = Nat.toDigits 10 m := by
    rw [← Nat.toList_repr, ← Nat.toList_repr]
    exact congrArg String.toList (Option.some.inj texts)
  rw [← @Nat.ofDigitChars_ten_toDigits n, digits, Nat.ofDigitChars_ten_toDigits]

theorem read_prefix (sized : message.Sized lengthName) (start : received <+: message.bytes)
    (short : received ≠ message.bytes) : read lengthName received = none := by
  rcases start with ⟨lost, whole⟩
  have some : lost ≠ [] := by
    intro none
    rw [none, List.append_nil] at whole
    exact short whole
  have positive : 0 < lost.length := List.length_pos_iff.mpr some
  have beginning : received = message.bytes.take received.length := by
    rw [← whole, List.take_left]
  have found := @findPart_take UInt8 _ emptyLine message.bytes (by decide) received.length
  rw [← beginning, findPart_bytes] at found
  rw [read]
  by_cases ended : message.head.length + emptyLine.length ≤ received.length
  · rw [Option.filter_some_pos (by simpa using ended)] at found
    rw [found]
    have headOnly : received.take message.head.length = message.head := by
      rw [beginning, List.take_take, Nat.min_eq_left (by omega)]
      exact List.take_left
    have less : (received.drop (message.head.length + emptyLine.length)).length <
        message.body.length := by
      have total := congrArg List.length whole
      rw [bytes, List.length_append, List.length_append, List.length_append] at total
      rw [List.length_drop]
      omega
    dsimp only
    rw [headOnly, splitLines_head]
    dsimp only
    rw [sized, if_neg]
    intro same
    exact Nat.ne_of_gt less (decimal_injective (Option.some.inj same))
  · rw [Option.filter_some_neg (by simpa using ended)] at found
    rw [found]

end

end HttpMessage

end TelemetryGateway
