import Mathlib.Data.List.TakeWhile
import TelemetryGateway.Foundation.Pieces

/-! # The status page's server

A request is read until the empty line behind its headers has come, or too much
has. What follows in the same read is part of what is looked through for the
path. -/

namespace TelemetryGateway

namespace Http

/-- The bytes of a text. -/
def text (characters : String) : List UInt8 := characters.toUTF8.toList

def space : UInt8 := 32

def question : UInt8 := 63

def lineEnd : List UInt8 := [13, 10]

def terminator : List UInt8 := [13, 10, 13, 10]

def kMaxRequest : Nat := 8192

def kReadSize : Nat := 2048

def findFrom (byte : UInt8) (pos : Nat) (bytes : List UInt8) : Option Nat :=
  ((bytes.drop pos).findIdx? (· == byte)).map (· + pos)

def requestPath (request : List UInt8) : Option (List UInt8) :=
  match findFrom space 0 request with
  | none => none
  | some sp1 =>
      match findFrom space (sp1 + 1) request with
      | none => none
      | some sp2 =>
          let path := (request.drop (sp1 + 1)).take (sp2 - sp1 - 1)
          let path :=
            match findFrom question 0 path with
            | none => path
            | some query => path.take query
          if path.isEmpty then none else some path

/-- An answer of `recv`; where it would block also whether `poll` finds
something in time. -/
inductive Recv
  | data (bytes : List UInt8)
  | closed
  | interrupted
  | wouldBlock (ready : Bool)
  | failed
  deriving DecidableEq, Repr

inductive Incoming
  | request (bytes : List UInt8)
  | tooLarge
  | gone
  deriving DecidableEq, Repr

/-- The first loop of `serve_one`. Behind the end of the answers nothing comes
in time. -/
def readRequest (request : List UInt8) (answers : List Recv) : Incoming :=
  if (findPart terminator request).isSome then .request request
  else if kMaxRequest < request.length then .tooLarge
  else
    match answers with
    | [] => .gone
    | .data bytes :: rest => readRequest (request ++ bytes) rest
    | .closed :: _ => .gone
    | .interrupted :: rest => readRequest request rest
    | .wouldBlock ready :: rest => if ready then readRequest request rest else .gone
    | .failed :: _ => .gone

inductive Outcome
  | tooLarge
  | malformed
  | handled (path : List UInt8)
  | gone
  deriving DecidableEq, Repr

def pathOutcome (request : List UInt8) : Outcome :=
  match requestPath request with
  | none => .malformed
  | some path => .handled path

def Incoming.outcome : Incoming → Outcome
  | .request bytes => pathOutcome bytes
  | .tooLarge => .tooLarge
  | .gone => .gone

def outcome (answers : List Recv) : Outcome := (readRequest [] answers).outcome

structure Response where
  status : Int := 200
  contentType : List UInt8 := text "text/plain"
  body : List UInt8 := []

def reason : Int → String
  | 200 => "OK"
  | 400 => "Bad Request"
  | 404 => "Not Found"
  | 413 => "Payload Too Large"
  | _ => "Error"

def respondTo (res : Response) : List UInt8 :=
  text ("HTTP/1.1 " ++ toString res.status ++ " " ++ reason res.status ++ "\r\nContent-Type: ") ++
    res.contentType ++
    text ("\r\nContent-Length: " ++ toString res.body.length ++
      "\r\nCache-Control: no-store\r\nConnection: close\r\n\r\n") ++
    res.body

def tooLargeReply : List UInt8 :=
  let body := text "request too large"
  text ("HTTP/1.1 413 Payload Too Large\r\nContent-Length: " ++ toString body.length ++
    "\r\nConnection: close\r\n\r\n") ++ body

/-- The reply that is sent, if any, and the number of requests served. -/
def serveOne (handler : List UInt8 → Response) (requests : UInt64) (answers : List Recv) :
    Option (List UInt8) × UInt64 :=
  match outcome answers with
  | .tooLarge => (some tooLargeReply, requests)
  | .malformed =>
      (some (respondTo { status := 400, body := text "malformed request" }), requests + 1)
  | .handled path => (some (respondTo (handler path)), requests + 1)
  | .gone => (none, requests)

/-! ## The path of a line -/

def requestLine (bytes : List UInt8) : List UInt8 :=
  match findPart lineEnd bytes with
  | none => bytes
  | some length => bytes.take length

def Token (bytes path : List UInt8) : Prop :=
  ∃ before token after, bytes = before ++ space :: (token ++ space :: after) ∧
    space ∉ before ∧ space ∉ token ∧ path = token.takeWhile (· ≠ question) ∧ path ≠ []

section

variable {byte : UInt8} {bytes more front before token after path : List UInt8}

theorem findFrom_none {pos : Nat} (absent : byte ∉ bytes.drop pos) :
    findFrom byte pos bytes = none := by
  have nowhere : (bytes.drop pos).findIdx? (· == byte) = none := by
    apply List.findIdx?_eq_none_iff.mpr
    intro other member
    exact beq_false_of_ne fun same => absent (same ▸ member)
  rw [findFrom, nowhere, Option.map_none]

theorem findFrom_found (absent : byte ∉ before) :
    findFrom byte front.length (front ++ (before ++ byte :: after)) =
      some (front.length + before.length) := by
  have nowhere : before.findIdx? (· == byte) = none := by
    apply List.findIdx?_eq_none_iff.mpr
    intro other member
    exact beq_false_of_ne fun same => absent (same ▸ member)
  rw [findFrom, List.drop_left, List.findIdx?_append, nowhere]
  simp [List.findIdx?_cons, Nat.add_comm]

theorem beforeQuery_eq (path : List UInt8) :
    (match findFrom question 0 path with
      | none => path
      | some query => path.take query) = path.takeWhile (· ≠ question) := by
  by_cases asked : question ∈ path
  · rcases List.eq_append_cons_of_mem asked with ⟨before, after, rfl, absent⟩
    have found := @findFrom_found question [] before after absent
    have plain : ∀ byte ∈ before, decide (byte ≠ question) = true := fun byte member =>
      decide_eq_true fun same => absent (same ▸ member)
    simp only [List.nil_append, List.length_nil, Nat.zero_add] at found
    rw [found, List.takeWhile_append_of_pos plain]
    simp
  · have plain : ∀ byte ∈ path, decide (byte ≠ question) = true := fun byte member =>
      decide_eq_true fun same => asked (same ▸ member)
    rw [findFrom_none asked, List.takeWhile_eq_self_iff.mpr plain]

theorem requestPath_between (first : space ∉ before) (second : space ∉ token) :
    requestPath (before ++ space :: (token ++ space :: after)) =
      if (token.takeWhile (· ≠ question)).isEmpty then none
      else some (token.takeWhile (· ≠ question)) := by
  have sp1 := @findFrom_found space [] before (token ++ space :: after) first
  have sp2 := @findFrom_found space (before ++ [space]) token after second
  simp only [List.nil_append, List.length_nil, Nat.zero_add] at sp1
  rw [List.append_assoc, List.singleton_append, List.length_append, List.length_singleton] at sp2
  have between : ((before ++ space :: (token ++ space :: after)).drop (before.length + 1)).take
      (before.length + 1 + token.length - before.length - 1) = token := by
    have size : before.length + 1 + token.length - before.length - 1 = token.length := by omega
    rw [size, List.drop_append, List.drop_eq_nil_of_le (Nat.le_succ before.length)]
    simp
  rw [requestPath, sp1]
  simp only [sp2, between, beforeQuery_eq]

theorem requestPath_few (few : bytes.count space < 2) : requestPath bytes = none := by
  by_cases found : space ∈ bytes
  · rcases List.eq_append_cons_of_mem found with ⟨before, after, rfl, absent⟩
    have sp1 := @findFrom_found space [] before after absent
    have nomore : space ∉ (before ++ space :: after).drop (before.length + 1) := by
      rw [List.count_append, List.count_cons_self] at few
      have none : space ∉ after := List.count_eq_zero.mp (by omega)
      simpa using none
    simp only [List.nil_append, List.length_nil, Nat.zero_add] at sp1
    rw [requestPath, sp1]
    simp only [findFrom_none nomore]
  · rw [requestPath, findFrom_none found]

theorem exists_between (two : 2 ≤ bytes.count space) :
    ∃ before token after, bytes = before ++ space :: (token ++ space :: after) ∧
      space ∉ before ∧ space ∉ token := by
  have found : space ∈ bytes := List.count_pos_iff.mp (by omega)
  rcases List.eq_append_cons_of_mem found with ⟨before, rest, rfl, first⟩
  rw [List.count_append, List.count_cons_self, List.count_eq_zero.mpr first] at two
  have again : space ∈ rest := List.count_pos_iff.mp (by omega)
  rcases List.eq_append_cons_of_mem again with ⟨token, after, rfl, second⟩
  exact ⟨before, token, after, rfl, first, second⟩

theorem requestPath_eq_some_iff : requestPath bytes = some path ↔ Token bytes path := by
  constructor
  · intro found
    rcases Nat.lt_or_ge (bytes.count space) 2 with few | two
    · rw [requestPath_few few] at found
      cases found
    · rcases exists_between two with ⟨before, token, after, rfl, first, second⟩
      rw [requestPath_between first second] at found
      split at found
      · cases found
      · rename_i nonempty
        cases found
        exact ⟨before, token, after, rfl, first, second, rfl, by simpa using nonempty⟩
  · rintro ⟨before, token, after, rfl, first, second, rfl, nonempty⟩
    rw [requestPath_between first second, if_neg (by simpa using nonempty)]

theorem requestPath_append (two : 2 ≤ bytes.count space) (more : List UInt8) :
    requestPath (bytes ++ more) = requestPath bytes := by
  rcases exists_between two with ⟨before, token, after, rfl, first, second⟩
  rw [List.append_assoc, List.cons_append, List.append_assoc, List.cons_append,
    requestPath_between first second, requestPath_between first second]

theorem Token.append (found : Token bytes path) (more : List UInt8) : Token (bytes ++ more) path := by
  rcases found with ⟨before, token, after, rfl, rest⟩
  exact ⟨before, token, after ++ more, by simp, rest⟩

end

end Http

end TelemetryGateway
