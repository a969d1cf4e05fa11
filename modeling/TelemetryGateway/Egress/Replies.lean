import TelemetryGateway.Egress.Echo
import TelemetryGateway.Egress.Markers
import TelemetryGateway.Egress.ReplyBuffer
import TelemetryGateway.Foundation.Units

/-! # What a consumer sends back

A consumer that keeps to the format sends one message after the other. However
`recv` cuts the stream, the records of the messages that are complete are
examined, and the beginning of the next one waits in the reply buffer. -/

namespace TelemetryGateway.Egress

/-- A message of as many records as a header may announce, whatever they hold. -/
structure Reply where
  records : List Wire.FrameBytes
  allowed : records.length ≤ Wire.kMaxCount.toNat

namespace Reply

def contents (reply : Reply) : List (List UInt8) := reply.records.map Subtype.val

def count (reply : Reply) : UInt32 := UInt32.ofNat reply.records.length

def bytes (reply : Reply) : List UInt8 := Wire.headerBytes reply.count ++ reply.contents.flatten

theorem toNat_count (reply : Reply) : reply.count.toNat = reply.records.length := by
  have allowed := reply.allowed
  simp only [show Wire.kMaxCount.toNat = 65535 from rfl] at allowed
  apply UInt32.toNat_ofNat_of_lt'
  simp only [UInt32.size]
  omega

theorem length_flatten_records (records : List Wire.FrameBytes) :
    (records.map Subtype.val).flatten.length = records.length * Wire.kRecordSize := by
  induction records with
  | nil => rfl
  | cons record records induction =>
      rw [List.map_cons, List.flatten_cons, List.length_append, induction, record.property,
        List.length_cons, Nat.succ_mul, Nat.add_comm]

theorem length_bytes (reply : Reply) :
    reply.bytes.length = Wire.kHeaderSize + reply.records.length * Wire.kRecordSize := by
  rw [bytes, contents, List.length_append, Wire.length_headerBytes, length_flatten_records]

theorem decodeHeader_bytes (reply : Reply) :
    ∃ header, Wire.decodeHeader (Wire.headerBytes reply.count) noHeader = (.kOk, header) ∧
      header.count.toNat = reply.records.length ∧
      header.payloadLen.toNat = reply.records.length * Wire.kRecordSize := by
  have allowed : reply.count ≤ Wire.kMaxCount := by
    rw [UInt32.le_iff_toNat_le, toNat_count]
    exact reply.allowed
  have decoded := Wire.decodeHeader_accepts _ noHeader
    (Wire.headerTestsPass_headerBytes reply.count allowed)
  have announced : (Wire.parsedHeader (Wire.headerBytes reply.count)).count.toNat =
      reply.records.length := by
    rw [Wire.parsedHeader_headerBytes, toNat_count]
  refine ⟨_, decoded, announced, ?_⟩
  rw [Wire.payloadLen_of_decoded decoded, announced]

theorem recordsOf_flatten (records : List Wire.FrameBytes) (rest : List UInt8) :
    recordsOf records.length ((records.map Subtype.val).flatten ++ rest) =
      records.map Subtype.val := by
  induction records with
  | nil => rfl
  | cons record records induction =>
      rw [List.map_cons, List.flatten_cons, List.append_assoc, List.length_cons, recordsOf,
        List.take_left' record.property, List.drop_left' record.property, induction]

theorem exists_records {count : Nat} {payload : List UInt8}
    (size : payload.length = count * Wire.kRecordSize) :
    ∃ records : List Wire.FrameBytes, records.length = count ∧
      (records.map Subtype.val).flatten = payload := by
  induction count generalizing payload with
  | zero =>
      rw [Nat.zero_mul] at size
      exact ⟨[], rfl, (List.eq_nil_of_length_eq_zero size).symm⟩
  | succ count induction =>
      rw [Nat.succ_mul] at size
      have first : (payload.take Wire.kRecordSize).length = Wire.kRecordSize := by
        rw [List.length_take, size]
        exact Nat.min_eq_left (Nat.le_add_left _ _)
      obtain ⟨records, counted, others⟩ := @induction (payload.drop Wire.kRecordSize) (by
        rw [List.length_drop, size, Nat.add_sub_cancel])
      refine ⟨⟨payload.take Wire.kRecordSize, first⟩ :: records, by rw [List.length_cons, counted], ?_⟩
      rw [List.map_cons, List.flatten_cons, others, List.take_append_drop]

theorem exists_reply {bytes : List UInt8} {header : Wire.BatchHeader}
    (decoded : Wire.decodeHeader (bytes.take Wire.kHeaderSize) noHeader = (.kOk, header))
    (size : bytes.length = Wire.kHeaderSize + header.payloadLen.toNat) :
    ∃ reply : Reply, reply.bytes = bytes := by
  have payload := Wire.payloadLen_of_decoded decoded
  obtain ⟨records, counted, contents⟩ := @exists_records header.count.toNat
    (bytes.drop Wire.kHeaderSize) (by
      rw [List.length_drop, size, Nat.add_sub_cancel_left, payload])
  rcases (Wire.decodeHeader_ok_iff _ _ _).mp decoded with ⟨tests, rfl⟩
  have allowed := UInt32.le_iff_toNat_le.mp tests.2.2.2.2.1
  have front := Wire.headerBytes_parsedHeader (bytes.take Wire.kHeaderSize) (by
    rw [List.length_take, size]
    exact Nat.min_eq_left (Nat.le_add_right _ _)) tests
  refine ⟨⟨records, by rw [counted]; exact allowed⟩, ?_⟩
  rw [Reply.bytes, Reply.contents, Reply.count, contents, counted, UInt32.ofNat_toNat, front,
    List.take_append_drop]

end Reply

/-! ## The scan of a stream -/

section Scan

variable {replies : List Reply} {bytes : List UInt8}

theorem scan_complete (reply : Reply) (turns : Nat) (others : List UInt8) :
    scan (turns + 1) (reply.bytes ++ others) =
      (reply.contents ++ (scan turns others).1, (scan turns others).2) := by
  obtain ⟨header, accepted, count, payload⟩ := reply.decodeHeader_bytes
  have size := reply.length_bytes
  have front : (reply.bytes ++ others).take Wire.kHeaderSize = Wire.headerBytes reply.count := by
    rw [Reply.bytes, List.append_assoc]
    exact List.take_left' (Wire.length_headerBytes _)
  have behind : (reply.bytes ++ others).drop Wire.kHeaderSize =
      reply.contents.flatten ++ others := by
    rw [Reply.bytes, List.append_assoc]
    exact List.drop_left' (Wire.length_headerBytes _)
  have next : (reply.bytes ++ others).drop (Wire.kHeaderSize + header.payloadLen.toNat) =
      others := by
    apply List.drop_left'
    rw [size, payload]
  have long : Wire.kHeaderSize + header.payloadLen.toNat ≤ (reply.bytes ++ others).length := by
    rw [List.length_append, size, payload]
    exact Nat.le_add_right _ _
  rw [← front] at accepted
  rw [scan_message turns accepted (by omega) (by omega), behind, next, count, Reply.contents,
    Reply.recordsOf_flatten]

theorem scan_incomplete {reply : Reply} (turns : Nat) (begins : bytes <+: reply.bytes)
    (incomplete : bytes.length < reply.bytes.length) :
    scan (turns + 1) bytes = ([], bytes) := by
  obtain ⟨header, accepted, count, payload⟩ := reply.decodeHeader_bytes
  rw [reply.length_bytes, ← payload] at incomplete
  by_cases short : bytes.length < Wire.kHeaderSize
  · rw [scan, if_pos short]
  · have front : bytes.take Wire.kHeaderSize = Wire.headerBytes reply.count := by
      rw [Reply.bytes] at begins
      have header := List.prefix_of_prefix_length_le (List.prefix_append _ _) begins (by
        rw [Wire.length_headerBytes]
        exact Nat.le_of_not_lt short)
      rw [List.prefix_iff_eq_take.mp header, Wire.length_headerBytes]
    rw [← front] at accepted
    rw [scan, if_neg short]
    simp only [accepted, if_pos incomplete]

/-- Of a stream of messages the scan examines the complete ones and leaves the
beginning of the next. -/
theorem scan_stream {turns : Nat} (stream : bytes <+: replies.flatMap Reply.bytes)
    (enough : bytes.length < turns) :
    scan turns bytes =
      ((complete Reply.bytes replies bytes.length).flatMap Reply.contents,
        bytes.drop ((complete Reply.bytes replies bytes.length).flatMap Reply.bytes).length) := by
  induction replies generalizing turns bytes with
  | nil =>
      have nothing : bytes = [] := List.prefix_nil.mp stream
      cases turns with
      | zero => omega
      | succ turns =>
          subst nothing
          rfl
  | cons reply replies induction =>
      rw [List.flatMap_cons] at stream
      cases turns with
      | zero => omega
      | succ turns =>
          by_cases fits : reply.bytes.length ≤ bytes.length
          · obtain ⟨others, split⟩ := List.prefix_of_prefix_length_le
              (List.prefix_append reply.bytes _) stream fits
            subst split
            have size := reply.length_bytes
            have left : (reply.bytes ++ others).length - reply.bytes.length = others.length := by
              rw [List.length_append, Nat.add_sub_cancel_left]
            have next := @induction others turns ((List.prefix_append_right_inj _).mp stream) (by
              rw [List.length_append] at enough
              simp only [size, Wire.kHeaderSize] at enough
              omega)
            rw [scan_complete, complete, if_pos fits, left, next, List.flatMap_cons,
              List.flatMap_cons, List.length_append, ← List.drop_drop, List.drop_left]
          · have begins := List.prefix_of_prefix_length_le stream (List.prefix_append reply.bytes _)
              (Nat.le_of_not_le fits)
            rw [scan_incomplete turns begins (Nat.lt_of_not_le fits), complete, if_neg fits]
            rfl

end Scan

/-! ## What the thread makes of it -/

def examinedRecords (now : UInt64) (egress : Egress) : List (List UInt8) :=
  match examineMessages now (egress.replyBuf.length + 1) 0 egress with
  | .ok (records, _) => records
  | .error _ => []

/-- An observer writes down what has come over the current connection, how much
of it had come when the loops last ran, and the records they have examined. -/
structure ReplyLedger where
  received : List UInt8 := []
  parsed : Nat := 0
  examined : List (List UInt8) := []

def ReplyLedger.note (ledger : ReplyLedger) (state : State) (event : Event) (after : State) :
    ReplyLedger :=
  if after.history.past.length ≠ state.history.past.length then {}
  else
    match state.phase, event with
    | .parse, .clock now =>
        { ledger with
          parsed := ledger.received.length
          examined := ledger.examined ++ examinedRecords now state.egress }
    | _, _ => { ledger with received := ledger.received ++ event.received }

/-- What a connection brings is the beginning of its stream, and what follows the
messages the loops have been through is never more than the buffer may hold. -/
def Orderly (stream : Nat → List Reply) (run : State × ReplyLedger) (event : Event) : Prop :=
  run.2.received ++ event.received <+:
      (stream run.1.history.past.length).flatMap Reply.bytes ∧
    (run.2.received ++ event.received).length -
      ((complete Reply.bytes (stream run.1.history.past.length) run.2.parsed).flatMap
        Reply.bytes).length ≤ kReplyLimit

instance (stream : Nat → List Reply) (run : State × ReplyLedger) (event : Event) :
    Decidable (Orderly stream run event) :=
  inferInstanceAs (Decidable (_ ∧ _))

namespace State

inductive ReplyStep (state : State) : Event → State → Prop
  | keep (replyBuf : after.egress.replyBuf = state.egress.replyBuf)
      (past : after.history.past = state.history.past) (nothing : event.received = [])
      (idle : ∀ now, state.phase = .parse → event ≠ .clock now)
      (settles : after.phase ≠ .recv → after.phase ≠ .parse →
        state.phase ≠ .recv ∧ state.phase ≠ .parse) :
      ReplyStep state event after
  | recv (receiving : state.phase = .recv) (bytes : List UInt8) :
      ReplyStep state (.recv bytes) { state with egress := state.egress.receive bytes }
  | parse (parsing : state.phase = .parse) (now : UInt64) :
      ReplyStep state (.clock now) { state with
        phase := .pop
        egress := parseReplies now state.egress.replyBuf.length state.egress }
  | drop (drops : state.Drops event) : ReplyStep state event state.dropAndContinue

theorem replyBuf_maybeSendEcho (egress : Egress) (now : UInt64) :
    (egress.maybeSendEcho now).replyBuf = egress.replyBuf := by
  unfold maybeSendEcho
  split
  · rfl
  · split
    · rfl
    · rfl

theorem receiving_of_recv {state after : State} {bytes : List UInt8}
    (stepped : state.step (.recv bytes) = some after) : state.phase = .recv := by
  cases step_cases stepped with
  | recv receiving => exact receiving
  | recvEnd receiving => exact receiving

theorem Framed.replyBuf_dropped {state : State} {event : Event} (framed : state.Framed)
    (drops : state.Drops event) : state.dropAndContinue.egress.replyBuf = [] := by
  rcases Option.ne_none_iff_exists'.mp (framed.client drops.attached) with ⟨fd, client⟩
  simp only [State.dropAndContinue, dropClient, client]

theorem parsing_of_pop {state after : State} {now : UInt64}
    (stepped : state.step (.clock now) = some after) (popping : after.phase = .pop) :
    state.phase = .parse := by
  cases step_cases stepped with
  | parse parsing => exact parsing
  | coalesce batch coalescing =>
      simp only [State.coalesce] at popping
      split at popping <;> cases popping
  | linger batch deadline waited lingering =>
      rcases state.linger_cases batch deadline waited now with leaves | goesOn
      · rw [leaves] at popping
        cases popping
      · rw [goesOn] at popping
        cases popping
  | noteGap batch noting => cases popping
  | sendEcho n probing => cases popping

theorem step_reply {state after : State} {event : Event}
    (stepped : state.step event = some after) : state.ReplyStep event after := by
  by_cases receiving : state.phase = .recv
  · cases event with
    | stop =>
        cases stepped
        refine .keep rfl rfl rfl ?_ ?_
        · intro now _ impossible
          cases impossible
        · intro leaves
          exact absurd receiving leaves
    | recv bytes =>
        cases step_cases stepped with
        | recv _ _ _ _ => exact .recv receiving bytes
        | recvEnd _ =>
            refine .keep rfl rfl rfl ?_ ?_
            · intro now _ impossible
              cases impossible
            · intro _ leaves
              exact absurd rfl leaves
    | _ => simp [State.step, receiving] at stepped
  · by_cases parsing : state.phase = .parse
    · cases event with
      | stop =>
          cases stepped
          refine .keep rfl rfl rfl ?_ ?_
          · intro now _ impossible
            cases impossible
          · intro _ leaves
            exact absurd parsing leaves
      | clock now =>
          simp only [State.step, parsing, Option.some.injEq] at stepped
          subst stepped
          exact .parse parsing now
      | _ => simp [State.step, parsing] at stepped
    · have idle {next : State} {event : Event}
          (replyBuf : next.egress.replyBuf = state.egress.replyBuf)
          (past : next.history.past = state.history.past) (nothing : event.received = []) :
          state.ReplyStep event next :=
        .keep replyBuf past nothing (fun _ parses => absurd parses parsing)
          (fun _ _ => ⟨receiving, parsing⟩)
      cases step_probe stepped with
      | keep same past nothing => exact idle same.replyBuf past nothing
      | recv bytes => exact absurd (receiving_of_recv stepped) receiving
      | parse now => exact absurd (parsing_of_pop stepped rfl) parsing
      | sendEcho n now => exact idle (replyBuf_maybeSendEcho _ _) rfl rfl
      | drop drops => exact .drop drops

end State

/-- Messages the connection has brought in its first `size` bytes. -/
def repliesIn (stream : Nat → List Reply) (state : State) (size : Nat) : List Reply :=
  complete Reply.bytes (stream state.history.past.length) size

structure KeepsUp (stream : Nat → List Reply) (state : State) (ledger : ReplyLedger) : Prop where
  begins : ledger.received <+: (stream state.history.past.length).flatMap Reply.bytes
  seen : ledger.parsed ≤ ledger.received.length
  records : ledger.examined = (repliesIn stream state ledger.parsed).flatMap Reply.contents
  waiting : state.egress.replyBuf =
    ledger.received.drop ((repliesIn stream state ledger.parsed).flatMap Reply.bytes).length
  settled : state.phase ≠ .recv → state.phase ≠ .parse → ledger.parsed = ledger.received.length

namespace KeepsUp

variable {stream : Nat → List Reply} {state after : State} {ledger : ReplyLedger} {event : Event}

theorem fresh (empty : state.egress.replyBuf = []) : KeepsUp stream state {} := by
  have none : repliesIn stream state 0 = [] := by
    cases current : stream state.history.past.length with
    | nil => rw [repliesIn, current, complete]
    | cons reply replies =>
        have size := reply.length_bytes
        simp only [Wire.kHeaderSize] at size
        rw [repliesIn, current, complete, if_neg (by omega)]
  exact ⟨List.nil_prefix, Nat.le_refl 0, by rw [none]; rfl, by rw [none, empty]; rfl,
    fun _ _ => rfl⟩

theorem keep (keepsUp : KeepsUp stream state ledger)
    (replyBuf : after.egress.replyBuf = state.egress.replyBuf)
    (past : after.history.past = state.history.past) (nothing : event.received = [])
    (idle : ∀ now, state.phase = .parse → event ≠ .clock now)
    (settles : after.phase ≠ .recv → after.phase ≠ .parse →
      state.phase ≠ .recv ∧ state.phase ≠ .parse) :
    KeepsUp stream after (ledger.note state event after) := by
  have same : ledger.note state event after = ledger := by
    unfold ReplyLedger.note
    rw [past, if_neg (not_not_intro rfl)]
    split
    · rename_i now parsing
      exact absurd rfl (idle now parsing)
    · rw [nothing, List.append_nil]
  have replies (size : Nat) : repliesIn stream after size = repliesIn stream state size := by
    rw [repliesIn, past, repliesIn]
  rw [same]
  refine ⟨by rw [past]; exact keepsUp.begins, keepsUp.seen, ?_, ?_, ?_⟩
  · rw [replies]
    exact keepsUp.records
  · rw [replies, replyBuf]
    exact keepsUp.waiting
  · intro notRecv notParse
    exact keepsUp.settled (settles notRecv notParse).1 (settles notRecv notParse).2

theorem recv (keepsUp : KeepsUp stream state ledger) (receiving : state.phase = .recv)
    (bytes : List UInt8) (orderly : Orderly stream (state, ledger) (.recv bytes)) :
    KeepsUp stream { state with egress := state.egress.receive bytes }
      (ledger.note state (.recv bytes) { state with egress := state.egress.receive bytes }) := by
  rcases orderly with ⟨begins, room⟩
  have noted : ledger.note state (.recv bytes)
      { state with egress := state.egress.receive bytes } =
        { ledger with received := ledger.received ++ bytes } := by
    unfold ReplyLedger.note
    rw [if_neg (not_not_intro rfl), receiving]
    rfl
  have inside : ((repliesIn stream state ledger.parsed).flatMap Reply.bytes).length ≤
      ledger.received.length :=
    Nat.le_trans (length_complete_le _ _ _) keepsUp.seen
  have longer : state.egress.replyBuf ++ bytes = (ledger.received ++ bytes).drop
      ((repliesIn stream state ledger.parsed).flatMap Reply.bytes).length := by
    rw [keepsUp.waiting, List.drop_append_of_le_length inside]
  rw [noted]
  refine ⟨begins, ?_, keepsUp.records, ?_, ?_⟩
  · have seen := keepsUp.seen
    simp only [List.length_append]
    omega
  · simp only [receive, longer]
    apply if_neg
    rw [List.length_drop]
    exact Nat.not_lt.mpr room
  · intro notRecv
    exact absurd receiving notRecv

theorem parse (keepsUp : KeepsUp stream state ledger) (parsing : state.phase = .parse)
    (now : UInt64) (history : after.history = state.history)
    (parsed : after.egress = parseReplies now state.egress.replyBuf.length state.egress) :
    KeepsUp stream after (ledger.note state (.clock now) after) := by
  obtain ⟨replies, current⟩ : ∃ replies, stream state.history.past.length = replies := ⟨_, rfl⟩
  have noted : ledger.note state (.clock now) after =
      { ledger with
        parsed := ledger.received.length
        examined := ledger.examined ++ examinedRecords now state.egress } := by
    unfold ReplyLedger.note
    rw [history, if_neg (not_not_intro rfl), parsing]
  rcases keepsUp with ⟨begins, seen, records, waiting, -⟩
  rw [repliesIn, current] at records waiting
  rw [current] at begins
  obtain ⟨front, before⟩ : ∃ front, complete Reply.bytes replies ledger.parsed = front := ⟨_, rfl⟩
  have inside := length_complete_le Reply.bytes replies ledger.parsed
  have stream := drop_complete_prefix Reply.bytes begins seen
  have all := complete_add Reply.bytes replies ledger.parsed
    (ledger.received.length - ledger.parsed)
  have size : state.egress.replyBuf.length =
      ledger.parsed - (front.flatMap Reply.bytes).length +
        (ledger.received.length - ledger.parsed) := by
    rw [waiting, List.length_drop, before]
    rw [before] at inside
    omega
  rw [before] at stream all waiting records
  rw [← waiting] at stream
  rw [← size, Nat.add_sub_cancel' seen] at all
  have scanned := scan_stream stream (Nat.lt_succ_self _)
  have rest : after.egress.replyBuf = (scan (state.egress.replyBuf.length + 1)
      state.egress.replyBuf).2 := by
    rw [parsed, ← parseReplies_succ now (Nat.le_refl _), replyBuf_parseReplies]
  rw [noted]
  refine ⟨?_, Nat.le_refl _, ?_, ?_, fun _ _ => rfl⟩
  · rw [history, current]
    exact begins
  · rw [repliesIn, history, current, all, List.flatMap_append, ← records, examinedRecords,
      examineMessages_parse, scanned]
  · rw [repliesIn, history, current, all, List.flatMap_append, List.length_append,
      ← List.drop_drop, ← waiting, rest, scanned]

theorem step (keepsUp : KeepsUp stream state ledger) (framed : state.Framed)
    (orderly : Orderly stream (state, ledger) event) (stepped : state.step event = some after) :
    KeepsUp stream after (ledger.note state event after) := by
  cases State.step_reply stepped with
  | keep replyBuf past nothing idle settles =>
      exact keepsUp.keep replyBuf past nothing idle settles
  | recv receiving bytes => exact keepsUp.recv receiving bytes orderly
  | parse parsing now => exact keepsUp.parse parsing now rfl rfl
  | drop drops =>
      have noted : ledger.note state event state.dropAndContinue = {} := by
        apply if_pos
        simp [State.dropAndContinue]
      rw [noted]
      exact fresh (framed.replyBuf_dropped drops)

end KeepsUp

theorem keepsUp_of_reachable {tuning : Tuning} {stream : Nat → List Reply}
    {run : State × ReplyLedger}
    (reached : ((system tuning).observed {} ReplyLedger.note).ReachableUnder (Orderly stream) run) :
    (system tuning).Reachable run.1 ∧ KeepsUp stream run.1 run.2 := by
  apply reached.invariant (fun run => (system tuning).Reachable run.1 ∧ KeepsUp stream run.1 run.2)
  · intro run initial
    rcases run with ⟨state, ledger⟩
    rcases initial with ⟨initial, rfl⟩
    refine ⟨.start initial, ?_⟩
    rcases initial with ⟨listenFd, stopFd, egress, created, rfl⟩
    unfold create at created
    split at created <;> cases created
    exact .fresh rfl
  · intro run event after _ orderly holds stepped
    rcases Option.map_eq_some_iff.mp stepped with ⟨state, moved, rfl⟩
    exact ⟨.next holds.1 trivial moved,
      holds.2.step (State.framed_of_reachable holds.1) orderly moved⟩

theorem length_replyBuf_le {tuning : Tuning} {state : State}
    (reached : (system tuning).Reachable state) : state.egress.replyBuf.length ≤ kReplyLimit := by
  apply reached.invariant (fun state => state.egress.replyBuf.length ≤ kReplyLimit)
  · intro state initial
    rcases initial with ⟨listenFd, stopFd, egress, created, rfl⟩
    unfold create at created
    split at created <;> cases created
    exact Nat.zero_le _
  · intro state event after before _ small stepped
    cases State.step_probe stepped with
    | keep same past nothing =>
        rw [same.replyBuf]
        exact small
    | recv bytes =>
        simp only [receive]
        split
        · exact Nat.zero_le _
        · exact Nat.not_lt.mp ‹_›
    | parse now => exact Nat.le_trans (replied_parseReplies now _ _).2.length_le small
    | sendEcho n now =>
        rw [State.replyBuf_maybeSendEcho]
        exact small
    | drop drops =>
        rw [(State.framed_of_reachable before).replyBuf_dropped drops]
        exact Nat.zero_le _

/-- In every run the buffer holds 64 KiB at most, and the loops come to their end
and read nothing outside of it. While the consumers send messages, and not more
than the buffer holds at once, whenever `drain_replies` is not running the records
of all complete messages have been examined, each once and in order, and what is
left is the beginning of the next message. -/
theorem replies_examined (tuning : Tuning) :
    (∀ state, (system tuning).Reachable state →
      state.egress.replyBuf.length ≤ kReplyLimit ∧
      ∀ now, ∃ records, examineMessages now (state.egress.replyBuf.length + 1) 0 state.egress =
        .ok (records, parseReplies now state.egress.replyBuf.length state.egress)) ∧
    (∀ stream run,
      ((system tuning).observed {} ReplyLedger.note).ReachableUnder (Orderly stream) run →
      run.1.phase ≠ .recv → run.1.phase ≠ .parse →
      run.2.examined =
        (repliesIn stream run.1 run.2.received.length).flatMap Reply.contents ∧
      run.1.egress.replyBuf = run.2.received.drop
        ((repliesIn stream run.1 run.2.received.length).flatMap Reply.bytes).length) := by
  constructor
  · intro state reached
    exact ⟨length_replyBuf_le reached, fun now => ⟨_, examineMessages_parse now state.egress⟩⟩
  · intro stream run reached notReceiving notParsing
    have keepsUp := (keepsUp_of_reachable reached).2
    rw [← keepsUp.settled notReceiving notParsing]
    exact ⟨keepsUp.records, keepsUp.waiting⟩

def firstAnswer : Reply where
  records := [⟨Wire.recordBytes (Wire.makeEcho 1 7), Wire.length_recordBytes _⟩]
  allowed := by decide

def answerInTwo : List Event :=
  [.poll (.answered true), .accept (some 5)] ++ probeBatch ++
    [.peer false, .recv (firstAnswer.bytes.take 20), .recv [], .clock 18, .pop [], .closed false,
      .proceed, .proceed, .peer false, .recv (firstAnswer.bytes.drop 20), .recv [], .clock 19]

theorem replies_examined_answerInTwo :
    ∃ run, ((system { echoMs := 1 }).observed {} ReplyLedger.note).run
        (.initial { tuning := { echoMs := 1 } }, {}) answerInTwo = some run ∧
      run.2.examined = [Wire.recordBytes (Wire.makeEcho 1 7)] ∧
      run.1.egress.replyBuf = [] ∧
      run.2.examined = (repliesIn (fun _ => [firstAnswer]) run.1
        run.2.received.length).flatMap Reply.contents := by
  have final : (((system { echoMs := 1 }).observed {} ReplyLedger.note).runUnder
      (Orderly fun _ => [firstAnswer])
      (.initial { tuning := { echoMs := 1 } }, {}) answerInTwo).map
      (fun run => (run.2.examined, run.1.egress.replyBuf, run.1.phase)) =
      some ([Wire.recordBytes (Wire.makeEcho 1 7)], [], .pop) := by
    decide +kernel
  rcases Option.map_eq_some_iff.mp final with ⟨run, ran, facts⟩
  simp only [Prod.mk.injEq] at facts
  have reached : ((system { echoMs := 1 }).observed {} ReplyLedger.note).ReachableUnder
      (Orderly fun _ => [firstAnswer]) run :=
    .runUnder (.start ⟨⟨3, 4, _, rfl, rfl⟩, rfl⟩) _ ran
  refine ⟨run, System.run_of_runUnder ran, facts.1, facts.2.1,
    ((replies_examined { echoMs := 1 }).2 _ run reached ?_ ?_).1⟩
  · rw [facts.2.2]
    decide
  · rw [facts.2.2]
    decide

end TelemetryGateway.Egress
