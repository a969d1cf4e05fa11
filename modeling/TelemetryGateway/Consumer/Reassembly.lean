import TelemetryGateway.Consumer.FrameStream

/-! # The parser depends on the bytes, not on how they are cut

The reference parses a whole byte string at once. At every point between two
calls of `read_batch`, what the reference still has to say about the buffered
bytes followed by the undelivered ones is what the calls to come will return. -/

namespace TelemetryGateway.FrameStream

/-! ## Parsing the whole string at once -/

abbrev noHeader : Wire.BatchHeader :=
  { count := 0, payloadLen := 0, recordLen := 0, version := 0, headerLen := 0 }

/-- Every message of a byte string, and how the string ends. -/
def parseAll (bytes : List UInt8) : List Result :=
  if bytes.length < Wire.kHeaderSize then [.closed]
  else
    match Wire.decodeHeader (bytes.take Wire.kHeaderSize) noHeader with
    | (.kOk, header) =>
        let payload := bytes.drop Wire.kHeaderSize
        if payload.length < header.payloadLen.toNat then [.closed]
        else
          match decodeRecords header.count.toNat payload with
          | (out, .kOk) => .ok out :: parseAll (payload.drop header.payloadLen.toNat)
          | (_, error) => [.protocolError error]
    | (error, _) => [.protocolError error]
termination_by bytes.length
decreasing_by
  simp only [List.length_drop, Wire.kHeaderSize] at *
  omega

def parsePayload (records : UInt32) (need : Nat) (payload : List UInt8) : List Result :=
  if payload.length < need then [.closed]
  else
    match decodeRecords records.toNat payload with
    | (out, .kOk) => .ok out :: parseAll (payload.drop need)
    | (_, error) => [.protocolError error]

theorem parseAll_short {bytes : List UInt8} (short : bytes.length < Wire.kHeaderSize) :
    parseAll bytes = [.closed] := by
  rw [parseAll, if_pos short]

theorem parseAll_header {bytes : List UInt8} {header : Wire.BatchHeader}
    (long : Wire.kHeaderSize ≤ bytes.length)
    (decoded : Wire.decodeHeader (bytes.take Wire.kHeaderSize) noHeader = (.kOk, header)) :
    parseAll bytes =
      parsePayload header.count header.payloadLen.toNat (bytes.drop Wire.kHeaderSize) := by
  rw [parseAll, if_neg (Nat.not_lt.mpr long), decoded]
  rfl

theorem parseAll_refused {bytes : List UInt8} {error : Wire.DecodeError}
    {header : Wire.BatchHeader} (long : Wire.kHeaderSize ≤ bytes.length)
    (decoded : Wire.decodeHeader (bytes.take Wire.kHeaderSize) noHeader = (error, header))
    (refused : error ≠ .kOk) : parseAll bytes = [.protocolError error] := by
  rw [parseAll, if_neg (Nat.not_lt.mpr long), decoded]
  cases error <;> first | rfl | exact absurd rfl refused

theorem parsePayload_short {records : UInt32} {need : Nat} {payload : List UInt8}
    (short : payload.length < need) : parsePayload records need payload = [.closed] := by
  rw [parsePayload, if_pos short]

theorem decodeRecords_congr {count : Nat} {left right : List UInt8}
    (same : left.take (count * Wire.kRecordSize) = right.take (count * Wire.kRecordSize)) :
    decodeRecords count left = decodeRecords count right := by
  induction count generalizing left right with
  | zero => rfl
  | succ count induction =>
      rw [Nat.succ_mul] at same
      have first : left.take Wire.kRecordSize = right.take Wire.kRecordSize := by
        have shortened := congrArg (List.take Wire.kRecordSize) same
        rwa [List.take_take, List.take_take, Nat.min_eq_left (Nat.le_add_left _ _)] at shortened
      have others : (left.drop Wire.kRecordSize).take (count * Wire.kRecordSize) =
          (right.drop Wire.kRecordSize).take (count * Wire.kRecordSize) := by
        have shortened := congrArg (List.drop Wire.kRecordSize) same
        rwa [List.drop_take, List.drop_take, Nat.add_sub_cancel] at shortened
      rw [decodeRecords, decodeRecords, first, induction others]

/-! ## What `fill` does -/

/-- The bytes in the buffer and those still to come are what they were, and the
buffer is fuller; it is full when `fill` succeeds and nothing is left to come
when it finds the stream closed. -/
structure Filled (need : Nat) (before : FrameStream) (input : List UInt8) (status : Status)
    (after : FrameStream) (rest : List UInt8) : Prop where
  state : after.state = before.state
  records : after.records = before.records
  wanted : after.need = before.need
  within : after.got ≤ need
  room : need ≤ after.buf.length
  bytes : after.buf.take after.got ++ rest = before.buf.take before.got ++ input
  full : status = .kOk → after.got = need
  ended : status = .kClosed → after.got < need ∧ rest = []
  parsed : status ≠ .kProtocolError

theorem take_receive {stream : FrameStream} (room : stream.got ≤ stream.buf.length)
    (bytes : List UInt8) :
    (stream.receive bytes).buf.take (stream.receive bytes).got =
      stream.buf.take stream.got ++ bytes :=
  Buffer.take_poke stream.buf stream.got bytes room

theorem length_receive {stream : FrameStream} {bytes : List UInt8}
    (fits : stream.got + bytes.length ≤ stream.buf.length) :
    (stream.receive bytes).buf.length = stream.buf.length :=
  Buffer.length_poke stream.buf stream.got bytes fits

theorem take_append_drop_taken (input : List UInt8) (size : Nat) :
    input.take size ++ input.drop (input.take size).length = input := by
  rcases Nat.le_total size input.length with inside | beyond
  · rw [List.length_take, Nat.min_eq_left inside, List.take_append_drop]
  · rw [List.take_of_length_le beyond, List.drop_length, List.append_nil]

theorem Filled.receive {need size : Nat} {before after : FrameStream} {input rest : List UInt8}
    {status : Status} (room : before.got ≤ before.buf.length)
    (filled : Filled need (before.receive (input.take size))
      (input.drop (input.take size).length) status after rest) :
    Filled need before input status after rest := by
  refine ⟨filled.state, filled.records, filled.wanted, filled.within, filled.room, ?_,
    filled.full, filled.ended, filled.parsed⟩
  rw [filled.bytes, take_receive room, List.append_assoc, take_append_drop_taken]

theorem fillLoop_filled {need : Nat} {script remaining : List ReadAnswer}
    {before after : FrameStream} {input rest : List UInt8} {status : Status}
    (within : before.got ≤ need) (room : need ≤ before.buf.length)
    (filled : fillLoop need script before input = (status, after, rest, remaining)) :
    Filled need before input status after rest := by
  induction script generalizing before input with
  | nil =>
      simp only [fillLoop, Prod.mk.injEq] at filled
      rcases filled with ⟨rfl, rfl, rfl, rfl⟩
      have taken : (input.take (need - before.got)).length =
          min (need - before.got) input.length := List.length_take
      have fits : before.got + (input.take (need - before.got)).length ≤ need := by omega
      refine Filled.receive (Nat.le_trans within room) ⟨rfl, rfl, rfl, fits, ?_, rfl, ?_, ?_, ?_⟩
      · rw [length_receive (Nat.le_trans fits room)]
        exact room
      · intro success
        split at success
        · cases success
        · rename_i enough
          exact Nat.le_antisymm fits (Nat.not_lt.mp enough)
      · intro closed
        split at closed
        · rename_i missing
          refine ⟨missing, ?_⟩
          apply List.drop_eq_nil_of_le
          omega
        · cases closed
      · split <;> decide
  | cons answer script induction =>
      unfold fillLoop at filled
      split at filled
      · rename_i full
        cases filled
        exact ⟨rfl, rfl, rfl, within, room, rfl, (fun _ => Nat.le_antisymm within full),
          (fun closed => nomatch closed), by decide⟩
      · rename_i missing
        split at filled
        · split at filled
          · cases filled
            exact ⟨rfl, rfl, rfl, within, room, rfl, (fun success => nomatch success),
              (fun _ => ⟨Nat.not_le.mp missing, rfl⟩), by decide⟩
          · rename_i size _ byte remainder
            have taken : ((byte :: remainder).take (min (size + 1) (need - before.got))).length ≤
                need - before.got := by
              rw [List.length_take]
              omega
            refine Filled.receive (Nat.le_trans within room) (induction ?_ ?_ filled)
            · change before.got + _ ≤ need
              omega
            · rw [length_receive (by omega)]
              exact room
        · exact induction within room filled
        · exact induction within room filled
        · cases filled
          exact ⟨rfl, rfl, rfl, within, room, rfl, (fun success => nomatch success),
            (fun closed => nomatch closed), by decide⟩

theorem fill_filled {need : Nat} {script remaining : List ReadAnswer}
    {before after : FrameStream} {input rest : List UInt8} {status : Status}
    (within : before.got ≤ need) (room : before.got ≤ before.buf.length)
    (filled : before.fill need input script = (status, after, rest, remaining)) :
    Filled need before input status after rest := by
  unfold fill at filled
  have loop : Filled need
      { before with buf := before.buf ++ List.replicate (need - before.buf.length) 0 }
      input status after rest := by
    refine fillLoop_filled within ?_ filled
    change need ≤ (before.buf ++ _).length
    rw [List.length_append, List.length_replicate]
    omega
  refine ⟨loop.state, loop.records, loop.wanted, loop.within, loop.room, ?_, loop.full,
    loop.ended, loop.parsed⟩
  rw [loop.bytes]
  change (before.buf ++ _).take before.got ++ input = _
  rw [List.take_append_of_le_length room]

theorem fillLoop_patient {need : Nat} {script remaining : List ReadAnswer}
    {before after : FrameStream} {input rest : List UInt8} {status : Status}
    (patient : .timedOut ∉ script)
    (filled : fillLoop need script before input = (status, after, rest, remaining)) :
    status ≠ .kTimeout ∧ .timedOut ∉ remaining := by
  induction script generalizing before input with
  | nil =>
      simp only [fillLoop, Prod.mk.injEq] at filled
      rcases filled with ⟨rfl, _, _, rfl⟩
      refine ⟨?_, patient⟩
      split <;> decide
  | cons answer script induction =>
      rw [List.mem_cons, not_or] at patient
      unfold fillLoop at filled
      split at filled
      · cases filled
        exact ⟨by decide, fun member => (List.mem_cons.mp member).elim patient.1 patient.2⟩
      · split at filled
        · split at filled
          · cases filled
            exact ⟨by decide, patient.2⟩
          · exact induction patient.2 filled
        · exact induction patient.2 filled
        · exact induction patient.2 filled
        · exact absurd rfl patient.1

/-! ## What `read_batch` does -/

structure Waiting (stream : FrameStream) : Prop where
  room : stream.got ≤ stream.buf.length
  header : stream.state = .kHeader → stream.got ≤ Wire.kHeaderSize
  payload : stream.state = .kPayload → stream.got ≤ stream.need ∧
    stream.need = stream.records.toNat * Wire.kRecordSize

def future (stream : FrameStream) (input : List UInt8) : List Result :=
  match stream.state with
  | .kHeader => parseAll (stream.buf.take stream.got ++ input)
  | .kPayload => parsePayload stream.records stream.need (stream.buf.take stream.got ++ input)

theorem connected_waiting : connected.Waiting :=
  ⟨Nat.zero_le _, (fun _ => Nat.zero_le _), fun impossible => nomatch impossible⟩

/-- The possible outcomes of one call, each with what it leaves to be parsed. -/
inductive Answers (stream : FrameStream) (input : List UInt8) :
    Status → List Frame → FrameStream → List UInt8 → Prop
  | timeout (waiting : after.Waiting) (same : future after rest = future stream input) :
      Answers stream input .kTimeout out after rest
  | ok (waiting : after.Waiting) (next : future stream input = .ok out :: future after rest) :
      Answers stream input .kOk out after rest
  | closed (last : future stream input = [.closed]) :
      Answers stream input .kClosed out after rest
  | protocolError (last : future stream input = [.protocolError after.lastError]) :
      Answers stream input .kProtocolError out after rest

theorem Answers.of_future {stream other after : FrameStream} {input otherInput rest : List UInt8}
    {status : Status} {out : List Frame} (same : future stream input = future other otherInput)
    (answers : Answers other otherInput status out after rest) :
    Answers stream input status out after rest := by
  cases answers with
  | timeout waiting unchanged => exact .timeout waiting (unchanged.trans same.symm)
  | ok waiting next => exact .ok waiting (same.trans next)
  | closed last => exact .closed (same.trans last)
  | protocolError last => exact .protocolError (same.trans last)

theorem reset_waiting {stream : FrameStream} (header : stream.state = .kHeader)
    (empty : stream.got = 0) : stream.Waiting := by
  refine ⟨by omega, (fun _ => by omega), ?_⟩
  intro payload
  rw [header] at payload
  cases payload

theorem future_reset {stream : FrameStream} (header : stream.state = .kHeader)
    (empty : stream.got = 0) (input : List UInt8) : future stream input = parseAll input := by
  rw [future, header, empty, List.take_zero, List.nil_append]

def wants (stream : FrameStream) : Nat :=
  match stream.state with
  | .kHeader => Wire.kHeaderSize
  | .kPayload => stream.need

theorem Waiting.within {stream : FrameStream} (waiting : stream.Waiting) :
    stream.got ≤ stream.wants := by
  unfold wants
  split
  · exact waiting.header ‹_›
  · exact (waiting.payload ‹_›).1

theorem Filled.future_eq {need : Nat} {before after : FrameStream} {input rest : List UInt8}
    {status : Status} (filled : Filled need before input status after rest) :
    future after rest = future before input := by
  rw [future, future, filled.state, filled.records, filled.wanted, filled.bytes]

theorem Filled.complete {need : Nat} {before after : FrameStream} {input rest : List UInt8}
    (filled : Filled need before input .kOk after rest) :
    need ≤ (after.buf.take after.got ++ rest).length ∧
      (after.buf.take after.got ++ rest).take need = after.buf.take need ∧
      (after.buf.take after.got ++ rest).drop need = rest := by
  have length : (after.buf.take after.got).length = need := by
    rw [List.length_take, filled.full rfl]
    exact Nat.min_eq_left filled.room
  refine ⟨?_, ?_, ?_⟩
  · rw [List.length_append, length]
    exact Nat.le_add_right _ _
  · rw [List.take_append_of_le_length (Nat.le_of_eq length.symm), filled.full rfl, List.take_take,
      Nat.min_self]
  · rw [List.drop_append_of_le_length (Nat.le_of_eq length.symm), ← length, List.drop_length,
      List.nil_append]

theorem Filled.answers {before after : FrameStream} {input rest : List UInt8} {status : Status}
    (filled : Filled before.wants before input status after rest) (waiting : before.Waiting)
    (unfilled : status ≠ .kOk) (out : List Frame) :
    Answers before input status out after rest := by
  cases status with
  | kOk => exact absurd rfl unfilled
  | kProtocolError => exact absurd rfl filled.parsed
  | kTimeout =>
      refine .timeout ⟨Nat.le_trans filled.within filled.room, ?_, ?_⟩ filled.future_eq
      · intro header
        rw [filled.state] at header
        have within := filled.within
        rwa [wants, header] at within
      · intro payload
        rw [filled.state] at payload
        have within := filled.within
        rw [wants, payload] at within
        rw [filled.wanted, filled.records]
        exact ⟨within, (waiting.payload payload).2⟩
  | kClosed =>
      apply Answers.closed
      rcases filled.ended rfl with ⟨short, nothing⟩
      have length : (after.buf.take after.got ++ rest).length < before.wants := by
        rw [nothing, List.append_nil, List.length_take]
        omega
      rw [← filled.future_eq, future, filled.state]
      unfold wants at length
      split at length
      · exact parseAll_short length
      · rw [filled.wanted]
        exact parsePayload_short length

theorem readPayload_answers {stream after : FrameStream} {input rest : List UInt8}
    {script : List ReadAnswer} {status : Status} {out : List Frame}
    (waiting : stream.Waiting) (expecting : stream.state = .kPayload)
    (read : stream.readPayload input script = (status, out, after, rest)) :
    Answers stream input status out after rest := by
  have wanted : stream.wants = stream.need := by
    rw [wants, expecting]
  unfold readPayload at read
  rw [← wanted] at read
  rcases filling : stream.fill stream.wants input script with ⟨progress, full, remaining, unused⟩
  have filled := fill_filled waiting.within waiting.room filling
  rw [filling] at read
  cases progress with
  | kOk =>
      rcases filled.complete with ⟨long, payload, behind⟩
      have now : future stream input = parsePayload stream.records stream.wants
          (full.buf.take full.got ++ remaining) := by
        rw [← filled.future_eq, future, filled.state, expecting, filled.records, filled.wanted,
          wanted]
      rw [wanted, (waiting.payload expecting).2] at payload
      rw [parsePayload, if_neg (Nat.not_lt.mpr long), behind, decodeRecords_congr payload] at now
      dsimp only at read
      rw [filled.records] at read
      rcases decoded : decodeRecords stream.records.toNat full.buf with ⟨frames, error⟩
      rw [decoded] at read now
      simp only [Prod.mk.injEq] at read
      rcases read with ⟨rfl, rfl, rfl, rfl⟩
      cases error with
      | kOk =>
          refine .ok (reset_waiting rfl rfl) ?_
          rw [now, future_reset rfl rfl]
      | _ => exact .protocolError now
  | _ =>
      cases read
      exact filled.answers waiting (by decide) []

theorem readBatch_answers {stream after : FrameStream} {input rest : List UInt8}
    {script : List ReadAnswer} {status : Status} {out : List Frame} (waiting : stream.Waiting)
    (read : stream.readBatch input script = (status, out, after, rest)) :
    Answers stream input status out after rest := by
  cases expecting : stream.state with
  | kPayload =>
      rw [readBatch, expecting] at read
      exact readPayload_answers waiting expecting read
  | kHeader =>
      have wanted : stream.wants = Wire.kHeaderSize := by
        rw [wants, expecting]
      rw [readBatch, expecting] at read
      dsimp only at read
      rcases filling : stream.fill Wire.kHeaderSize input script with
        ⟨progress, full, remaining, unused⟩
      have filled := fill_filled (waiting.header expecting) waiting.room filling
      rw [filling] at read
      cases progress with
      | kOk =>
          rcases filled.complete with ⟨long, header, behind⟩
          have now : future stream input = parseAll (full.buf.take full.got ++ remaining) := by
            rw [← filled.future_eq, future, filled.state, expecting]
          dsimp only at read
          rcases decoded : Wire.decodeHeader (full.buf.take Wire.kHeaderSize) noHeader with
            ⟨error, announced⟩
          rw [decoded] at read
          rw [← header] at decoded
          cases error with
          | kOk =>
              have need := Wire.payloadLen_of_decoded decoded
              rw [parseAll_header long decoded, behind] at now
              dsimp only at read
              split at read
              · rename_i empty
                cases read
                have none : announced.count.toNat = 0 := by
                  rw [empty, Wire.kRecordSize] at need
                  omega
                refine .ok (reset_waiting rfl rfl) ?_
                rw [now, future_reset rfl rfl, parsePayload, empty,
                  if_neg (Nat.not_lt_zero _), none]
                rfl
              · refine Answers.of_future ?_ (readPayload_answers ?_ rfl read)
                · rw [now]
                  rfl
                · exact ⟨Nat.zero_le _, (fun impossible => nomatch impossible),
                    fun _ => ⟨Nat.zero_le _, need⟩⟩
          | _ =>
              cases read
              exact .protocolError (now.trans (parseAll_refused long decoded
                fun impossible => nomatch impossible))
      | _ =>
          cases read
          rw [← wanted] at filled
          exact filled.answers waiting (by decide) []

theorem readBatch_patient {stream after : FrameStream} {input rest : List UInt8}
    {script : List ReadAnswer} {status : Status} {out : List Frame}
    (patient : .timedOut ∉ script)
    (read : stream.readBatch input script = (status, out, after, rest)) : status ≠ .kTimeout := by
  have payload {stream : FrameStream} {input : List UInt8} {script : List ReadAnswer}
      (patient : .timedOut ∉ script)
      (read : stream.readPayload input script = (status, out, after, rest)) :
      status ≠ .kTimeout := by
    unfold readPayload at read
    rcases filling : stream.fill stream.need input script with ⟨progress, full, remaining, unused⟩
    rw [filling] at read
    have inTime := (fillLoop_patient patient filling).1
    cases progress with
    | kOk =>
        dsimp only at read
        simp only [Prod.mk.injEq] at read
        rw [← read.1]
        split <;> decide
    | _ =>
        cases read
        exact inTime
  cases expecting : stream.state with
  | kPayload =>
      rw [readBatch, expecting] at read
      exact payload patient read
  | kHeader =>
      rw [readBatch, expecting] at read
      dsimp only at read
      rcases filling : stream.fill Wire.kHeaderSize input script with
        ⟨progress, full, remaining, unused⟩
      rw [filling] at read
      rcases fillLoop_patient patient filling with ⟨inTime, stillPatient⟩
      cases progress with
      | kOk =>
          dsimp only at read
          split at read
          · split at read
            · cases read
              decide
            · exact payload stillPatient read
          · cases read
            decide
      | _ =>
          cases read
          exact inTime

/-! ## Whole conversations -/

def patient (script : List ReadAnswer) : Bool :=
  script.all (· ≠ .timedOut)

theorem observed_results_prefix {stream : FrameStream} (waiting : stream.Waiting)
    (input : List UInt8) (calls : List (List ReadAnswer)) :
    observed (stream.results input calls) <+: future stream input := by
  induction calls generalizing stream input with
  | nil => exact List.nil_prefix
  | cons script calls induction =>
      rcases read : stream.readBatch input script with ⟨status, out, after, rest⟩
      rw [results, read]
      cases readBatch_answers waiting read with
      | timeout stillWaiting same =>
          rw [← same]
          exact induction stillWaiting rest
      | ok stillWaiting next =>
          rw [next]
          exact List.cons_prefix_cons.mpr ⟨rfl, induction stillWaiting rest⟩
      | closed last =>
          rw [last]
          exact List.prefix_refl _
      | protocolError last =>
          rw [last]
          exact List.prefix_refl _

theorem parsePayload_ne_nil (records : UInt32) (need : Nat) (payload : List UInt8) :
    parsePayload records need payload ≠ [] := by
  unfold parsePayload
  split
  · exact List.cons_ne_nil _ _
  · split <;> exact List.cons_ne_nil _ _

theorem parseAll_ne_nil (bytes : List UInt8) : parseAll bytes ≠ [] := by
  rw [parseAll]
  split
  · exact List.cons_ne_nil _ _
  · split
    · exact parsePayload_ne_nil _ _ _
    · exact List.cons_ne_nil _ _

theorem future_ne_nil (stream : FrameStream) (input : List UInt8) : future stream input ≠ [] := by
  unfold future
  split
  · exact parseAll_ne_nil _
  · exact parsePayload_ne_nil _ _ _

theorem observed_results_complete {stream : FrameStream} (waiting : stream.Waiting)
    (input : List UInt8) (calls : List (List ReadAnswer))
    (enough : (future stream input).length ≤ calls.countP patient) :
    observed (stream.results input calls) = future stream input := by
  induction calls generalizing stream input with
  | nil =>
      have nothing : future stream input = [] :=
        List.eq_nil_of_length_eq_zero (by simpa using enough)
      exact absurd nothing (future_ne_nil stream input)
  | cons script calls induction =>
      rcases read : stream.readBatch input script with ⟨status, out, after, rest⟩
      rw [results, read]
      rw [List.countP_cons] at enough
      cases readBatch_answers waiting read with
      | timeout stillWaiting same =>
          have expired : patient script = false := by
            by_contra inTime
            have none : .timedOut ∉ script := by
              simpa [patient] using inTime
            exact readBatch_patient none read rfl
          rw [expired, if_neg Bool.false_ne_true, Nat.add_zero] at enough
          rw [← same] at enough ⊢
          exact induction stillWaiting rest enough
      | ok stillWaiting next =>
          rw [next, List.length_cons] at enough
          rw [next]
          refine congrArg _ (induction stillWaiting rest ?_)
          split at enough <;> omega
      | closed last => exact last.symm
      | protocolError last => exact last.symm

/-- A batch that the codec can carry. -/
def Encodable (frames : List Frame) : Prop :=
  frames.length ≤ 65535 ∧ ∀ frame ∈ frames,
    frame.flags &&& FrameFlags.kReservedMask = 0 ∧ frame.len.toNat ≤ kMaxPayload

instance (frames : List Frame) : Decidable (Encodable frames) :=
  inferInstanceAs (Decidable (_ ∧ _))

theorem decodeRecords_encoded {frames : List Frame}
    (encodable : ∀ frame ∈ frames,
      frame.flags &&& FrameFlags.kReservedMask = 0 ∧ frame.len.toNat ≤ kMaxPayload)
    (rest : List UInt8) :
    decodeRecords frames.length ((frames.map Wire.recordBytes).flatten ++ rest) =
      (frames, .kOk) := by
  induction frames with
  | nil => rfl
  | cons frame frames induction =>
      rcases encodable frame List.mem_cons_self with ⟨flags, len⟩
      have others := induction fun other member => encodable other (List.mem_cons_of_mem _ member)
      have size := Wire.length_recordBytes frame
      rw [List.length_cons, decodeRecords, List.map_cons, List.flatten_cons, List.append_assoc,
        List.take_append_of_le_length (Nat.le_of_eq size.symm),
        List.take_of_length_le (Nat.le_of_eq size),
        List.drop_append_of_le_length (Nat.le_of_eq size.symm), ← size, List.drop_length,
        List.nil_append, Wire.decodeFrame_recordBytes frame Frame.zero flags len]
      dsimp only
      rw [others]

theorem parseAll_message {frames : List Frame} (encodable : Encodable frames)
    (rest : List UInt8) :
    parseAll (Wire.messageBytes frames ++ rest) = .ok frames :: parseAll rest := by
  rcases encodable with ⟨count, valid⟩
  have number : (UInt32.ofNat frames.length).toNat = frames.length :=
    UInt32.toNat_ofNat_of_lt' (by simp [UInt32.size]; omega)
  have allowed : UInt32.ofNat frames.length ≤ Wire.kMaxCount := by
    rw [UInt32.le_iff_toNat_le, number]
    exact count
  have size := Wire.length_headerBytes (UInt32.ofNat frames.length)
  have header : (Wire.messageBytes frames ++ rest).take Wire.kHeaderSize =
      Wire.headerBytes (UInt32.ofNat frames.length) := by
    rw [Wire.messageBytes, List.append_assoc,
      List.take_append_of_le_length (Nat.le_of_eq size.symm),
      List.take_of_length_le (Nat.le_of_eq size)]
  have payload : (Wire.messageBytes frames ++ rest).drop Wire.kHeaderSize =
      (frames.map Wire.recordBytes).flatten ++ rest := by
    rw [Wire.messageBytes, List.append_assoc,
      List.drop_append_of_le_length (Nat.le_of_eq size.symm), ← size, List.drop_length,
      List.nil_append]
  have decoded : Wire.decodeHeader ((Wire.messageBytes frames ++ rest).take Wire.kHeaderSize)
      noHeader = (.kOk, Wire.parsedHeader (Wire.headerBytes (UInt32.ofNat frames.length))) := by
    rw [header]
    exact Wire.decodeHeader_accepts _ _ (Wire.headerTestsPass_headerBytes _ allowed)
  have need := Wire.payloadLen_of_decoded decoded
  rw [parseAll_header (by rw [List.length_append, Wire.length_messageBytes]; omega) decoded,
    payload, need, Wire.parsedHeader_headerBytes]
  dsimp only
  have records := Wire.length_flatten_recordBytes frames
  rw [parsePayload, number, decodeRecords_encoded valid rest,
    if_neg (by rw [List.length_append, records]; omega), ← records,
    List.drop_left]

theorem parseAll_messages {batches : List (List Frame)}
    (encodable : ∀ batch ∈ batches, Encodable batch) :
    parseAll (batches.map Wire.messageBytes).flatten = batches.map .ok ++ [.closed] := by
  induction batches with
  | nil => exact parseAll_short (by decide)
  | cons batch batches induction =>
      have others := induction fun other member => encodable other (List.mem_cons_of_mem _ member)
      rw [List.map_cons, List.flatten_cons, parseAll_message (encodable batch List.mem_cons_self),
        others]
      rfl

def Result.final : Result → Bool
  | .closed => true
  | .protocolError _ => true
  | _ => false

theorem observed_results_final {stream : FrameStream} (waiting : stream.Waiting)
    (input : List UInt8) (calls : List (List ReadAnswer))
    (ended : ∃ result ∈ stream.results input calls, result.final = true) :
    observed (stream.results input calls) = future stream input := by
  induction calls generalizing stream input with
  | nil =>
      rcases ended with ⟨result, member, _⟩
      cases member
  | cons script calls induction =>
      rcases read : stream.readBatch input script with ⟨status, out, after, rest⟩
      rw [results, read] at ended ⊢
      rcases ended with ⟨result, member, final⟩
      cases readBatch_answers waiting read with
      | timeout stillWaiting same =>
          rcases List.mem_cons.mp member with rfl | later
          · cases final
          · rw [← same]
            exact induction stillWaiting rest ⟨result, later, final⟩
      | ok stillWaiting next =>
          rcases List.mem_cons.mp member with rfl | later
          · cases final
          · rw [next]
            exact congrArg _ (induction stillWaiting rest ⟨result, later, final⟩)
      | closed last => exact last.symm
      | protocolError last => exact last.symm

theorem future_connected (bytes : List UInt8) : future connected bytes = parseAll bytes :=
  future_reset rfl rfl bytes

theorem results_complete {bytes : List UInt8} {calls : List (List ReadAnswer)}
    (enough : (parseAll bytes).length ≤ calls.countP patient) :
    observed (connected.results bytes calls) = parseAll bytes := by
  rw [← future_connected] at enough ⊢
  exact observed_results_complete connected_waiting bytes calls enough

theorem results_of_messages {batches : List (List Frame)}
    (encodable : ∀ batch ∈ batches, Encodable batch) {calls : List (List ReadAnswer)}
    (enough : batches.length + 1 ≤ calls.countP patient) :
    observed (connected.results (batches.map Wire.messageBytes).flatten calls) =
      batches.map .ok ++ [.closed] := by
  rw [← parseAll_messages encodable]
  apply results_complete
  rw [parseAll_messages encodable, List.length_append, List.length_map]
  exact enough

theorem results_independent_of_cuts :
    (∀ (bytes : List UInt8) (calls : List (List ReadAnswer)),
      observed (connected.results bytes calls) <+: parseAll bytes ∧
        ((∃ result ∈ connected.results bytes calls, result.final = true) →
          observed (connected.results bytes calls) = parseAll bytes) ∧
        ((parseAll bytes).length ≤ calls.countP patient →
          observed (connected.results bytes calls) = parseAll bytes)) ∧
    (∀ (batches : List (List Frame)) (calls : List (List ReadAnswer)),
      (∀ batch ∈ batches, Encodable batch) → batches.length + 1 ≤ calls.countP patient →
      observed (connected.results (batches.map Wire.messageBytes).flatten calls) =
        batches.map .ok ++ [.closed]) := by
  constructor
  · intro bytes calls
    refine ⟨?_, ?_, results_complete⟩
    · rw [← future_connected]
      exact observed_results_prefix connected_waiting bytes calls
    · intro ended
      rw [← future_connected]
      exact observed_results_final connected_waiting bytes calls ended
  · intro batches calls encodable enough
    exact results_of_messages encodable enough

/-- One frame, an empty batch, and reads that stop in the middle of a header
and of a record. -/
theorem results_independent_of_cuts_smallReads :
    observed (connected.results (([[Frame.zero], []] : List (List Frame)).map
        Wire.messageBytes).flatten
      [[.data 2, .timedOut], [.interrupted, .data 14, .retried], [.data 6, .timedOut],
        [.data 3], []]) =
      [.ok [Frame.zero], .ok [], .closed] :=
  results_independent_of_cuts.2 [[Frame.zero], []] _
    (by simp only [List.mem_cons, List.not_mem_nil, or_false, forall_eq_or_imp, forall_eq]
        exact ⟨⟨by decide, by simp [Frame.zero, kMaxPayload]⟩, by decide, by simp⟩)
    (by decide)

end TelemetryGateway.FrameStream
