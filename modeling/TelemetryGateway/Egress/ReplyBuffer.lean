import TelemetryGateway.Egress.Egress

/-! # The reply buffer

The loops of `drain_replies` as they are written, with an offset into the buffer
and every read checked. What they examine is recorded. The thread's own step
takes the bytes from the front of the buffer instead; the two come to the same. -/

namespace TelemetryGateway.Egress

inductive Fault
  | outOfBounds
  /-- `size() - off` wraps -/
  | wrapped
  | outOfTurns
  deriving DecidableEq, Repr

def readAt (buffer : List UInt8) (pos size : Nat) : Except Fault (List UInt8) :=
  if pos + size ≤ buffer.length then .ok ((buffer.drop pos).take size) else .error .outOfBounds

def noHeader : Wire.BatchHeader where
  count := 0
  payloadLen := 0
  recordLen := 0
  version := 0
  headerLen := 0

/-- The loop over the records of a message, from record `i` at `p` on. -/
def examineRecords (now : UInt64) (p : Nat) :
    Nat → Nat → Egress → Except Fault (List (List UInt8) × Egress)
  | 0, _, egress => .ok ([], egress)
  | left + 1, i, egress => do
      let record ← readAt egress.replyBuf (p + i * Wire.kRecordSize) Wire.kRecordSize
      let (more, egress) ← examineRecords now p left (i + 1) (egress.acceptReply record now)
      return (record :: more, egress)

def eraseFront (egress : Egress) (off : Nat) : Egress :=
  if 0 < off then { egress with replyBuf := egress.replyBuf.drop off } else egress

/-- The loop over the messages, for so many turns at most, and the end of the
function. -/
def examineMessages (now : UInt64) :
    Nat → Nat → Egress → Except Fault (List (List UInt8) × Egress)
  | 0, _, _ => .error .outOfTurns
  | turns + 1, off, egress =>
      if egress.replyBuf.length < off then .error .wrapped
      else if egress.replyBuf.length - off < Wire.kHeaderSize then
        .ok ([], egress.eraseFront off)
      else do
        let bytes ← readAt egress.replyBuf off Wire.kHeaderSize
        match Wire.decodeHeader bytes noHeader with
        | (.kOk, header) =>
            if egress.replyBuf.length - off < Wire.kHeaderSize + header.payloadLen.toNat then
              return ([], egress.eraseFront off)
            else
              let (records, egress) ←
                examineRecords now (off + Wire.kHeaderSize) header.count.toNat 0 egress
              let (more, egress) ← examineMessages now turns
                (off + (Wire.kHeaderSize + header.payloadLen.toNat)) egress
              return (records ++ more, egress)
        | _ => return ([], { egress with replyBuf := [] })

/-! ## On the rest of the buffer

The same without an offset. -/

def recordsOf : Nat → List UInt8 → List (List UInt8)
  | 0, _ => []
  | count + 1, p => p.take Wire.kRecordSize :: recordsOf count (p.drop Wire.kRecordSize)

def scan : Nat → List UInt8 → List (List UInt8) × List UInt8
  | 0, bytes => ([], bytes)
  | turns + 1, bytes =>
      if bytes.length < Wire.kHeaderSize then ([], bytes)
      else
        match Wire.decodeHeader (bytes.take Wire.kHeaderSize) noHeader with
        | (.kOk, header) =>
            let size := Wire.kHeaderSize + header.payloadLen.toNat
            if bytes.length < size then ([], bytes)
            else
              let (more, rest) := scan turns (bytes.drop size)
              (recordsOf header.count.toNat (bytes.drop Wire.kHeaderSize) ++ more, rest)
        | _ => ([], [])

theorem replyBuf_acceptReply (egress : Egress) (p : List UInt8) (now : UInt64) :
    (egress.acceptReply p now).replyBuf = egress.replyBuf := by
  rw [acceptReply]
  split
  · split
    · rfl
    · rfl
  · rfl

theorem examineRecords_eq (now : UInt64) {egress : Egress} {p left i : Nat}
    (inside : p + (i + left) * Wire.kRecordSize ≤ egress.replyBuf.length) :
    examineRecords now p left i egress =
      .ok (recordsOf left (egress.replyBuf.drop (p + i * Wire.kRecordSize)),
        egress.acceptReplies now left (egress.replyBuf.drop (p + i * Wire.kRecordSize))) := by
  induction left generalizing i egress with
  | zero => rfl
  | succ left induction =>
      have first : p + i * Wire.kRecordSize + Wire.kRecordSize ≤ egress.replyBuf.length := by
        simp only [Wire.kRecordSize] at inside ⊢
        omega
      obtain ⟨rest, here⟩ : ∃ rest, egress.replyBuf.drop (p + i * Wire.kRecordSize) = rest :=
        ⟨_, rfl⟩
      have further : egress.replyBuf.drop (p + (i + 1) * Wire.kRecordSize) =
          rest.drop Wire.kRecordSize := by
        rw [← here, List.drop_drop, Nat.succ_mul, Nat.add_assoc]
      have same := replyBuf_acceptReply egress (rest.take Wire.kRecordSize) now
      have next := @induction (egress.acceptReply (rest.take Wire.kRecordSize) now) (i + 1) (by
        rw [same, Nat.add_assoc, Nat.add_comm 1 left]
        exact inside)
      rw [same, further] at next
      rw [examineRecords, readAt, if_pos first, here]
      simp only [bind, Except.bind, next, pure, Except.pure, recordsOf, acceptReplies]

def holding (egress : Egress) (bytes : List UInt8) : Egress := { egress with replyBuf := bytes }

@[simp] theorem replyBuf_holding (egress : Egress) (bytes : List UInt8) :
    (egress.holding bytes).replyBuf = bytes := rfl

@[simp] theorem holding_holding (egress : Egress) (bytes other : List UInt8) :
    (egress.holding bytes).holding other = egress.holding other := rfl

theorem eraseFront_eq (egress : Egress) (off : Nat) :
    egress.eraseFront off = egress.holding (egress.replyBuf.drop off) := by
  rw [eraseFront]
  split
  · rfl
  · rename_i none
    rw [Nat.eq_zero_of_not_pos none, List.drop_zero]
    rfl

theorem acceptReply_holding (egress : Egress) (bytes p : List UInt8) (now : UInt64) :
    (egress.holding bytes).acceptReply p now = (egress.acceptReply p now).holding bytes := by
  unfold acceptReply
  cases Wire.decodeFrame p Frame.zero with
  | mk error frame =>
      cases error with
      | kOk =>
          dsimp only
          by_cases ignored : Wire.isEcho frame = false ∨ egress.echoOutstanding = false ∨
              Wire.echoNonce frame ≠ egress.echoNonce
          · rw [if_pos ignored]
            exact if_pos ignored
          · rw [if_neg ignored]
            exact if_neg ignored
      | _ => rfl

theorem acceptReplies_holding (egress : Egress) (bytes : List UInt8) (now : UInt64) (count : Nat)
    (p : List UInt8) :
    (egress.holding bytes).acceptReplies now count p =
      (egress.acceptReplies now count p).holding bytes := by
  induction count generalizing egress p with
  | zero => rfl
  | succ count induction => rw [acceptReplies, acceptReply_holding, induction, acceptReplies]

theorem replyBuf_acceptReplies (egress : Egress) (now : UInt64) (count : Nat) (p : List UInt8) :
    (egress.acceptReplies now count p).replyBuf = egress.replyBuf := by
  induction count generalizing egress p with
  | zero => rfl
  | succ count induction => rw [acceptReplies, induction, replyBuf_acceptReply]

theorem parseReplies_message (now : UInt64) (turns : Nat) {egress : Egress} {bytes : List UInt8}
    {header : Wire.BatchHeader}
    (decoded : Wire.decodeHeader (bytes.take Wire.kHeaderSize) noHeader = (.kOk, header))
    (long : ¬ bytes.length < Wire.kHeaderSize)
    (complete : ¬ bytes.length < Wire.kHeaderSize + header.payloadLen.toNat) :
    parseReplies now (turns + 1) (egress.holding bytes) =
      parseReplies now turns
        ((egress.acceptReplies now header.count.toNat (bytes.drop Wire.kHeaderSize)).holding
          (bytes.drop (Wire.kHeaderSize + header.payloadLen.toNat))) := by
  rw [noHeader] at decoded
  rw [parseReplies, replyBuf_holding, if_neg long]
  simp only [decoded]
  rw [if_neg complete, acceptReplies_holding]
  rfl

theorem scan_message (turns : Nat) {bytes : List UInt8} {header : Wire.BatchHeader}
    (decoded : Wire.decodeHeader (bytes.take Wire.kHeaderSize) noHeader = (.kOk, header))
    (long : ¬ bytes.length < Wire.kHeaderSize)
    (complete : ¬ bytes.length < Wire.kHeaderSize + header.payloadLen.toNat) :
    scan (turns + 1) bytes =
      (recordsOf header.count.toNat (bytes.drop Wire.kHeaderSize) ++
        (scan turns (bytes.drop (Wire.kHeaderSize + header.payloadLen.toNat))).1,
        (scan turns (bytes.drop (Wire.kHeaderSize + header.payloadLen.toNat))).2) := by
  rw [scan, if_neg long]
  simp only [decoded]
  rw [if_neg complete]

/-- From an offset the loop over the messages does what the one over the rest of
the buffer does, and comes to its end. -/
theorem examineMessages_eq (now : UInt64) {turns off : Nat} {egress : Egress}
    (inside : off ≤ egress.replyBuf.length) (enough : egress.replyBuf.length - off < turns) :
    examineMessages now turns off egress =
      .ok ((scan turns (egress.replyBuf.drop off)).1,
        parseReplies now turns (egress.holding (egress.replyBuf.drop off))) := by
  induction turns generalizing off egress with
  | zero => omega
  | succ turns induction =>
      obtain ⟨rest, here⟩ : ∃ rest, egress.replyBuf.drop off = rest := ⟨_, rfl⟩
      have size : egress.replyBuf.length - off = rest.length := by rw [← here, List.length_drop]
      rw [size] at enough
      rw [examineMessages, if_neg (Nat.not_lt.mpr inside), size, here]
      by_cases short : rest.length < Wire.kHeaderSize
      · rw [if_pos short, eraseFront_eq, here, scan, if_pos short, parseReplies, replyBuf_holding,
          if_pos short]
      · have header : readAt egress.replyBuf off Wire.kHeaderSize =
            .ok (rest.take Wire.kHeaderSize) := by
          rw [readAt, if_pos (by omega), here]
        rw [if_neg short, header]
        simp only [bind, Except.bind, pure, Except.pure]
        cases decoded : Wire.decodeHeader (rest.take Wire.kHeaderSize) noHeader with
        | mk error header =>
            cases error with
            | kOk =>
                have payload := Wire.payloadLen_of_decoded decoded
                by_cases incomplete : rest.length < Wire.kHeaderSize + header.payloadLen.toNat
                · have stays : scan (turns + 1) rest = ([], rest) := by
                    rw [scan, if_neg short]
                    simp only [decoded, if_pos incomplete]
                  have keeps : parseReplies now (turns + 1) (egress.holding rest) =
                      egress.holding rest := by
                    rw [noHeader] at decoded
                    rw [parseReplies, replyBuf_holding, if_neg short]
                    simp only [decoded, if_pos incomplete]
                  simp only [if_pos incomplete, stays, keeps, eraseFront_eq, here]
                · have records := @examineRecords_eq now egress (off + Wire.kHeaderSize)
                    header.count.toNat 0 (by
                      simp only [Wire.kHeaderSize, Wire.kRecordSize] at payload incomplete ⊢
                      omega)
                  have behind : egress.replyBuf.drop (off + Wire.kHeaderSize) =
                      rest.drop Wire.kHeaderSize := by rw [← here, List.drop_drop]
                  have next := @induction (off + (Wire.kHeaderSize + header.payloadLen.toNat))
                    (egress.acceptReplies now header.count.toNat (rest.drop Wire.kHeaderSize))
                  rw [Nat.zero_mul, Nat.add_zero, behind] at records
                  rw [replyBuf_acceptReplies, ← List.drop_drop, here] at next
                  rw [scan_message turns decoded short incomplete,
                    parseReplies_message now turns decoded short incomplete]
                  simp only [if_neg incomplete, records, next (by omega) (by
                    simp only [Wire.kHeaderSize] at incomplete ⊢
                    omega)]
            | _ =>
                have cleared : scan (turns + 1) rest = ([], []) := by
                  rw [scan, if_neg short]
                  simp only [decoded]
                have dropped : parseReplies now (turns + 1) (egress.holding rest) =
                    egress.holding [] := by
                  rw [noHeader] at decoded
                  rw [parseReplies, replyBuf_holding, if_neg short]
                  simp only [decoded]
                  rfl
                simp only [cleared, dropped]
                rfl

/-! ## The two loops -/

theorem parseReplies_succ (now : UInt64) {turns : Nat} {egress : Egress}
    (enough : egress.replyBuf.length ≤ turns) :
    parseReplies now (turns + 1) egress = parseReplies now turns egress := by
  induction turns generalizing egress with
  | zero =>
      have empty : egress.replyBuf.length < Wire.kHeaderSize := by
        simp only [Wire.kHeaderSize]
        omega
      simp only [parseReplies, if_pos empty]
  | succ turns induction =>
      rw [parseReplies]
      conv_rhs => rw [parseReplies]
      split
      · rfl
      · split
        · dsimp only
          split
          · rfl
          · apply induction
            simp only [replyBuf_acceptReplies, List.length_drop, Wire.kHeaderSize]
            omega
        · rfl

/-- The loops of the source come to their end, read nothing outside of the buffer
and leave what the thread's step leaves. -/
theorem examineMessages_parse (now : UInt64) (egress : Egress) :
    examineMessages now (egress.replyBuf.length + 1) 0 egress =
      .ok ((scan (egress.replyBuf.length + 1) egress.replyBuf).1,
        parseReplies now egress.replyBuf.length egress) := by
  have same : egress.holding egress.replyBuf = egress := rfl
  rw [examineMessages_eq now (Nat.zero_le _) (by omega), List.drop_zero, same,
    parseReplies_succ now (Nat.le_refl _)]

theorem replyBuf_parseReplies (now : UInt64) (turns : Nat) (egress : Egress) :
    (parseReplies now turns egress).replyBuf = (scan turns egress.replyBuf).2 := by
  induction turns generalizing egress with
  | zero => rfl
  | succ turns induction =>
      rw [parseReplies, scan, ← noHeader]
      split
      · rfl
      · cases decoded : Wire.decodeHeader (egress.replyBuf.take Wire.kHeaderSize) noHeader with
        | mk error header =>
            cases error with
            | kOk =>
                dsimp only
                split
                · rfl
                · rw [induction, replyBuf_acceptReplies]
            | _ => rfl

end TelemetryGateway.Egress
