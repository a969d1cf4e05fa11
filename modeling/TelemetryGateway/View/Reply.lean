import TelemetryGateway.Foundation.HttpMessage
import TelemetryGateway.View.Http

/-! # The reply and what the client has of it

A reply is sent until the socket does not take more in time; that a request is
too large is sent with one call. The connection is closed then, whether all of
the reply has been taken or not. -/

namespace TelemetryGateway

namespace Http

/-- An answer of `send`; where it would block also whether `poll` finds room in
time. -/
inductive Send
  /-- at most `size + 1` bytes -/
  | accepted (size : Nat)
  | interrupted
  | wouldBlock (ready : Bool)
  /-- another error, or nothing sent -/
  | failed
  deriving DecidableEq, Repr

/-- The second loop of `serve_one`: what it sends from `sent` on. Behind the end
of the answers nothing is taken in time. -/
def sendLoop (out : List UInt8) : List Send → Nat → List UInt8
  | [], _ => []
  | answer :: rest, sent =>
      if out.length ≤ sent then []
      else
        match answer with
        | .accepted size =>
            let n := min (size + 1) (out.length - sent)
            (out.drop sent).take n ++ sendLoop out rest (sent + n)
        | .interrupted => sendLoop out rest sent
        | .wouldBlock ready => if ready then sendLoop out rest sent else []
        | .failed => []

def sendOnce (out : List UInt8) : List Send → List UInt8
  | .accepted size :: _ => out.take (size + 1)
  | _ => []

/-- One connection: what is sent before it is closed, and the number of requests
served. -/
def serveConnection (handler : List UInt8 → Response) (requests : UInt64) (recvs : List Recv)
    (sends : List Send) : List UInt8 × UInt64 :=
  match serveOne handler requests recvs with
  | (none, requests) => ([], requests)
  | (some out, requests) =>
      if outcome recvs = .tooLarge then (sendOnce out sends, requests)
      else (sendLoop out sends 0, requests)

/-! ## What the client is to have -/

def lengthName : List UInt8 := text "Content-Length: "

def Response.reply (res : Response) : HttpMessage.Reply where
  status := text ("HTTP/1.1 " ++ toString res.status ++ " " ++ reason res.status)
  headers :=
    [text "Content-Type: " ++ res.contentType, lengthName ++ decimal res.body.length,
      text "Cache-Control: no-store", text "Connection: close"]
  body := res.body

def replyTo (handler : List UInt8 → Response) : Outcome → Option HttpMessage.Reply
  | .tooLarge => some {
      status := text "HTTP/1.1 413 Payload Too Large"
      headers := [lengthName ++ decimal 17, text "Connection: close"]
      body := text "request too large" }
  | .malformed => some (Response.reply { status := 400, body := text "malformed request" })
  | .handled path => some (handler path).reply
  | .gone => none

def taken : List Send → Nat
  | [] => 0
  | .accepted size :: rest => size + 1 + taken rest
  | .interrupted :: rest => taken rest
  | .wouldBlock ready :: rest => if ready then taken rest else 0
  | .failed :: _ => 0

def takenAtOnce : List Send → Nat
  | .accepted size :: _ => size + 1
  | _ => 0

def room (outcome : Outcome) (sends : List Send) : Nat :=
  if outcome = .tooLarge then takenAtOnce sends else taken sends

/-! ## The socket -/

theorem sendLoop_eq (out : List UInt8) (sends : List Send) (sent : Nat) :
    sendLoop out sends sent = (out.drop sent).take (taken sends) := by
  induction sends generalizing sent with
  | nil => rfl
  | cons answer sends induction =>
      unfold sendLoop
      split
      · rename_i complete
        rw [List.drop_eq_nil_of_le complete, List.take_nil]
      · rename_i more
        cases answer with
        | accepted size =>
            dsimp only
            rw [induction, ← List.drop_drop, taken]
            rcases Nat.le_total (size + 1) (out.length - sent) with part | all
            · rw [Nat.min_eq_left part]
              exact List.take_add.symm
            · have length : (out.drop sent).length = out.length - sent := List.length_drop
              rw [Nat.min_eq_right all, ← length, List.take_length, List.drop_length, List.take_nil,
                List.append_nil, List.take_of_length_le (by omega)]
        | interrupted => exact induction sent
        | wouldBlock ready =>
            cases ready with
            | true => exact induction sent
            | false => rfl
        | failed => rfl

theorem sendOnce_eq (out : List UInt8) (sends : List Send) :
    sendOnce out sends = out.take (takenAtOnce sends) := by
  cases sends with
  | nil => rfl
  | cons answer sends => cases answer <;> rfl

theorem serveConnection_eq (handler : List UInt8 → Response) (requests : UInt64)
    (recvs : List Recv) (sends : List Send) :
    (serveConnection handler requests recvs sends).1 =
      match (serveOne handler requests recvs).1 with
      | none => []
      | some out => out.take (room (outcome recvs) sends) := by
  unfold serveConnection room
  rcases serveOne handler requests recvs with ⟨reply, counted⟩
  cases reply with
  | none => rfl
  | some out =>
      dsimp only
      split
      · exact sendOnce_eq out sends
      · exact sendLoop_eq out sends 0

/-! ## The replies are messages -/

def PlainLine (characters : String) : Prop :=
  ∀ character ∈ characters.toList, 14 ≤ character.toNat ∧ character.toNat < 128

instance (characters : String) : Decidable (PlainLine characters) :=
  List.decidableBAll _ characters.toList

theorem PlainLine.text_eq {characters : String} (plain : PlainLine characters) :
    text characters = characters.toList.map fun character => character.val.toUInt8 :=
  utf8_ascii fun character member => (plain character member).2

theorem PlainLine.plain {characters : String} (plain : PlainLine characters) :
    13 ∉ text characters := by
  rw [plain.text_eq]
  intro member
  rcases List.mem_map.mp member with ⟨character, inside, same⟩
  rcases plain character inside with ⟨least, greatest⟩
  have value : character.toNat % 256 = 13 := congrArg UInt8.toNat same
  omega

theorem PlainLine.append {left right : String} (first : PlainLine left)
    (second : PlainLine right) : PlainLine (left ++ right) := by
  intro character member
  rw [String.toList_append] at member
  exact (List.mem_append.mp member).elim (first character) (second character)

theorem plainLine_nat (n : Nat) : PlainLine (toString n) := by
  intro character member
  rw [Nat.toString_eq_repr, Nat.toList_repr] at member
  have digit := Char.isDigit_iff_toNat.mp
    (Nat.isDigit_of_mem_toDigits (by decide) (by decide) member)
  have first : '0'.toNat = 48 := rfl
  have last : '9'.toNat = 57 := rfl
  omega

theorem plainLine_int (n : Int) : PlainLine (toString n) := by
  cases n with
  | ofNat n => exact plainLine_nat n
  | negSucc n =>
      have minus : PlainLine "-" := by decide +kernel
      exact minus.append (plainLine_nat (n + 1))

theorem plainLine_reason (status : Int) : PlainLine (reason status) := by
  unfold reason
  split <;> decide +kernel

theorem text_append (left right : String) : text (left ++ right) = text left ++ text right :=
  utf8_append left right

theorem PlainLine.ne_nil {characters : String} (plain : PlainLine characters)
    (some : characters.toList ≠ []) : text characters ≠ [] := by
  rw [plain.text_eq]
  exact fun none => some (List.map_eq_nil_iff.mp none)

def line (name : String) (value : List UInt8) (some : name.toList ≠ [])
    (plainName : PlainLine name) (plainValue : 13 ∉ value) : HttpLine where
  bytes := text name ++ value
  some := List.append_ne_nil_of_left_ne_nil (plainName.ne_nil some) _
  plain := fun member => (List.mem_append.mp member).elim plainName.plain plainValue

def Response.message (res : Response) (plain : 13 ∉ res.contentType) : HttpMessage where
  status := line "HTTP/1.1 " (text (toString res.status ++ " " ++ reason res.status))
    (by decide +kernel) (by decide +kernel)
    (((plainLine_int _).append (by decide +kernel)).append (plainLine_reason _)).plain
  headers :=
    [line "Content-Type: " res.contentType (by decide +kernel) (by decide +kernel) plain,
      line "Content-Length: " (decimal res.body.length) (by decide +kernel) (by decide +kernel)
        (plainLine_nat _).plain,
      line "Cache-Control: " (text "no-store") (by decide +kernel) (by decide +kernel)
        (PlainLine.plain (by decide +kernel)),
      line "Connection: " (text "close") (by decide +kernel) (by decide +kernel)
        (PlainLine.plain (by decide +kernel))]
  body := res.body

def tooLargeMessage : HttpMessage where
  status := line "HTTP/1.1 " (text "413 Payload Too Large") (by decide +kernel)
    (by decide +kernel) (PlainLine.plain (by decide +kernel))
  headers :=
    [line "Content-Length: " (decimal 17) (by decide +kernel) (by decide +kernel)
        (plainLine_nat _).plain,
      line "Connection: " (text "close") (by decide +kernel) (by decide +kernel)
        (PlainLine.plain (by decide +kernel))]
  body := text "request too large"

theorem text_lineEnd : text "\r\n" = HttpMessage.lineEnd := by decide +kernel

theorem text_emptyLine : text "\r\n\r\n" = HttpMessage.emptyLine := by decide +kernel

theorem bytes_message (res : Response) (plain : 13 ∉ res.contentType) :
    (res.message plain).bytes = respondTo res := by
  have contentType : "\r\nContent-Type: " = "\r\n" ++ "Content-Type: " := rfl
  have contentLength : "\r\nContent-Length: " = "\r\n" ++ "Content-Length: " := rfl
  have ending : "\r\nCache-Control: no-store\r\nConnection: close\r\n\r\n" =
      "\r\n" ++ "Cache-Control: " ++ "no-store" ++ "\r\n" ++ "Connection: " ++ "close" ++
        "\r\n\r\n" := rfl
  rw [respondTo, contentType, contentLength, ending]
  simp only [HttpMessage.bytes, HttpMessage.head, HttpMessage.moreLines, Response.message, line,
    List.flatMap_cons, List.flatMap_nil, text_append, text_lineEnd, text_emptyLine, decimal,
    List.append_assoc, List.append_nil]
  rfl

theorem bytes_tooLargeMessage : tooLargeMessage.bytes = tooLargeReply := by
  decide +kernel

theorem headerValue_here (value : List UInt8) (rest : List (List UInt8)) :
    HttpMessage.headerValue lengthName ((text "Content-Length: " ++ value) :: rest) =
      some value := by
  have here : lengthName.isPrefixOf (text "Content-Length: " ++ value) = true :=
    List.isPrefixOf_iff_prefix.mpr (List.prefix_append _ _)
  rw [HttpMessage.headerValue, List.findSome?_cons, if_pos here]
  exact congrArg some List.drop_left

theorem headerValue_contentType (value : List UInt8) (rest : List (List UInt8)) :
    HttpMessage.headerValue lengthName ((text "Content-Type: " ++ value) :: rest) =
      HttpMessage.headerValue lengthName rest := by
  have name : PlainLine "Content-Length: " := by decide +kernel
  have other : PlainLine "Content-Type: " := by decide +kernel
  have elsewhere : lengthName.isPrefixOf (text "Content-Type: " ++ value) = false := by
    rw [lengthName, name.text_eq, other.text_eq]
    rfl
  rw [HttpMessage.headerValue, List.findSome?_cons, elsewhere]
  rfl

theorem sized_message (res : Response) (plain : 13 ∉ res.contentType) :
    (res.message plain).Sized lengthName :=
  (headerValue_contentType _ _).trans (headerValue_here _ _)

theorem sized_tooLarge : tooLargeMessage.Sized lengthName := by
  have length : tooLargeMessage.body.length = 17 := by decide +kernel
  rw [HttpMessage.Sized, length]
  exact headerValue_here _ _

/-! ## The client -/

theorem read_take {message : HttpMessage} (sized : message.Sized lengthName) (size : Nat) :
    HttpMessage.read lengthName (message.bytes.take size) =
      if message.bytes.length ≤ size then some {
        status := message.status.bytes
        headers := message.headers.map fun line => line.bytes
        body := message.body }
      else none := by
  split
  · rename_i all
    rw [List.take_of_length_le all]
    exact HttpMessage.read_bytes sized
  · rename_i part
    apply HttpMessage.read_prefix sized (List.take_prefix _ _)
    intro whole
    have length := congrArg List.length whole
    rw [List.length_take] at length
    omega

theorem reply_message (res : Response) (plain : 13 ∉ res.contentType) :
    res.reply = {
      status := (res.message plain).status.bytes
      headers := (res.message plain).headers.map fun line => line.bytes
      body := (res.message plain).body } := by
  have cache : text "Cache-Control: no-store" = text "Cache-Control: " ++ text "no-store" :=
    text_append "Cache-Control: " "no-store"
  have connection : text "Connection: close" = text "Connection: " ++ text "close" :=
    text_append "Connection: " "close"
  rw [Response.reply, cache, connection]
  simp only [text_append, List.append_assoc, Response.message, line, List.map_cons, List.map_nil]
  rfl

theorem reply_tooLarge (handler : List UInt8 → Response) :
    replyTo handler .tooLarge = some {
      status := tooLargeMessage.status.bytes
      headers := tooLargeMessage.headers.map fun line => line.bytes
      body := tooLargeMessage.body } := by
  have connection : text "Connection: close" = text "Connection: " ++ text "close" :=
    text_append "Connection: " "close"
  have status : text "HTTP/1.1 413 Payload Too Large" =
      text "HTTP/1.1 " ++ text "413 Payload Too Large" :=
    text_append "HTTP/1.1 " "413 Payload Too Large"
  rw [replyTo, connection, status]
  rfl

theorem read_respondTo (res : Response) (plain : 13 ∉ res.contentType) (size : Nat) :
    HttpMessage.read lengthName ((respondTo res).take size) =
      if (respondTo res).length ≤ size then some res.reply else none := by
  rw [← bytes_message res plain, read_take (sized_message res plain), reply_message res plain]

/-- Whatever the client sends and however much of the reply the socket takes:
the client reads the whole reply if there is room for all of it, and otherwise
nothing that it could take for a reply. -/
theorem client_reads (handler : List UInt8 → Response)
    (plain : ∀ path, 13 ∉ (handler path).contentType) (requests : UInt64) (recvs : List Recv)
    (sends : List Send) :
    HttpMessage.read lengthName (serveConnection handler requests recvs sends).1 =
      if ((serveOne handler requests recvs).1.getD []).length ≤ room (outcome recvs) sends then
        replyTo handler (outcome recvs)
      else none := by
  rw [serveConnection_eq, serveOne]
  cases outcome recvs with
  | tooLarge =>
      dsimp only [Option.getD_some]
      rw [← bytes_tooLargeMessage, read_take sized_tooLarge, reply_tooLarge]
  | malformed =>
      apply read_respondTo
      exact PlainLine.plain (by decide +kernel)
  | handled path => exact read_respondTo (handler path) (plain path) _
  | gone =>
      rw [replyTo, ite_self]
      rfl

/-- The socket takes ninety bytes of a reply and no more in time. -/
theorem client_reads_cutShort :
    HttpMessage.read lengthName
        (serveConnection (fun _ => { body := text "ok" }) 0
          [.data (text "GET / HTTP/1.1\r\n\r\n")] [.accepted 89, .wouldBlock false]).1 =
      none :=
  (client_reads (fun _ => { body := text "ok" })
      (fun _ => PlainLine.plain (by decide +kernel)) 0 _ _).trans
    (if_neg (by decide +kernel))

end Http

end TelemetryGateway
