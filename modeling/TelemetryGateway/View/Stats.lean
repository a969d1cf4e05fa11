import TelemetryGateway.Foundation.Json
import TelemetryGateway.Measure.Percentiles
import TelemetryGateway.View.PageRate

/-! # The statistics as JSON

The text that the page is drawn from. It is put together from pieces that are
formatted in a buffer of 512 bytes, with a mutex held twice: first for the
latencies, then for the rest. -/

namespace TelemetryGateway

namespace View

/-! ## The text -/

/-- What depends on doubles: the ranks of the quantiles, and what is shown of
nanoseconds as seconds with one digit behind the point or as whole milliseconds.
What is shown is not a whole unit too much. -/
structure Doubles where
  rank : Samples.Quantile → Nat → Nat
  tenths : UInt64 → Nat
  millis : UInt64 → Nat
  tenths_le : ∀ ns, tenths ns ≤ ns.toNat / 100000000 + 1
  millis_le : ∀ ns, millis ns ≤ ns.toNat / 1000000 + 1

def snprintf (size : Nat) (formatted : List Char) : List Char := formatted.take (size - 1)

def unsigned (n : Nat) : List Char := Decimal.digits n

def signed (value : Int64) : List Char :=
  Decimal.render { mantissa := value.toInt, places := 0 }

def truth (value : Bool) : List Char := if value then "true".toList else "false".toList

def kHex : List Char := "0123456789ABCDEF".toList

def hexByte (byte : UInt8) : List Char :=
  [kHex.getD (byte >>> 4).toNat ' ', kHex.getD (byte &&& 0x0F).toNat ' ']

def hexDigits (len : UInt8) (data : Vector UInt8 8) : List Char :=
  (data.toList.take len.toNat).flatMap hexByte

def hexPayload (len : UInt8) (data : Vector UInt8 8) : Option (List Char) :=
  if len.toNat ≤ kMaxPayload then some (hexDigits len data) else none

def summaryText (doubles : Doubles) (port : UInt16) (state : State) (now : UInt64) : List Char :=
  "\x7b\"connected\":".toList ++ truth state.connected ++
    ",\"port\":".toList ++ unsigned port.toNat ++
    ",\"uptime_s\":".toList ++ Decimal.fixed (doubles.tenths (now - state.startedNs)) 1 ++
    ",\"frames\":".toList ++ unsigned state.frames.toNat ++
    ",\"batches\":".toList ++ unsigned state.batches.toNat ++
    ",\"markers\":".toList ++ unsigned state.gaps.stats.markers.toNat ++
    ",\"missing\":".toList ++ unsigned state.gaps.totalLost.toNat ++
    ",\"silent\":".toList ++ unsigned state.gaps.stats.silentJumps.toNat ++
    ",\"reconnects\":".toList ++ unsigned state.reconnects.toNat ++
    ",\"protocol_errs\":".toList ++ unsigned state.protocolErrs.toNat ++
    ",\"first_seq\":".toList ++ unsigned state.firstSeq.toNat ++
    ",\"last_seq\":".toList ++ unsigned state.lastSeq.toNat ++
    ",".toList

def State.sharedClock (state : State) : Bool := !(state.frames / 2 < state.offDomain)

def latencyText (doubles : Doubles) (p : Samples.Percentiles) (span : UInt64) (state : State) :
    List Char :=
  "\"latency\":\x7b\"n\":".toList ++ unsigned p.count.toNat ++
    ",\"off_domain\":".toList ++ unsigned state.offDomain.toNat ++
    ",\"shared_clock\":".toList ++ truth state.sharedClock ++
    ",\"span_s\":".toList ++ Decimal.fixed (doubles.tenths span) 1 ++
    ",\"min\":".toList ++ signed p.min ++
    ",\"p50\":".toList ++ signed p.p50 ++
    ",\"p90\":".toList ++ signed p.p90 ++
    ",\"p99\":".toList ++ signed p.p99 ++
    ",\"p999\":".toList ++ signed p.p999 ++
    ",\"max\":".toList ++ signed p.max ++
    "\x7d,".toList

def rateText (state : State) : List Char :=
  (List.range kRateWindow).flatMap fun i =>
    (if i ≠ 0 then [','] else []) ++ unsigned (state.rateAt i).toNat

def entriesText {T : Type u} (entry : T → Option (List Char)) (first : Bool) :
    List T → Option (List Char)
  | [] => some []
  | item :: rest => do
      let text ← entry item
      let others ← entriesText entry false rest
      some ((if first then [] else [',']) ++ text ++ others)

def idText (doubles : Doubles) (now : UInt64) (entry : UInt32 × IdStat) : Option (List Char) :=
  (hexPayload entry.2.len entry.2.data).map fun payload =>
    snprintf 512
        ("\x7b\"id\":".toList ++ unsigned entry.1.toNat ++
          ",\"count\":".toList ++ unsigned entry.2.count.toNat ++
          ",\"src\":".toList ++ unsigned entry.2.srcId.toNat ++
          ",\"len\":".toList ++ unsigned entry.2.len.toNat ++
          ",\"age_ms\":".toList ++ Decimal.fixed (doubles.millis (now - entry.2.lastSeenNs)) 0 ++
          ",\"data\":\"".toList) ++
      payload ++ "\"\x7d".toList

def recentText (frame : Frame) : Option (List Char) :=
  (hexPayload frame.len frame.data).map fun payload =>
    snprintf 512
      ("\x7b\"seq\":".toList ++ unsigned frame.seq.toNat ++
        ",\"id\":".toList ++ unsigned frame.canId.toNat ++
        ",\"src\":".toList ++ unsigned frame.srcId.toNat ++
        ",\"len\":".toList ++ unsigned frame.len.toNat ++
        ",\"data\":\"".toList ++ payload ++ "\"\x7d".toList)

def statsText (doubles : Doubles) (port : UInt16) (p : Samples.Percentiles) (span : UInt64)
    (state : State) (now : UInt64) : Option (List Char) := do
  let ids ← entriesText (idText doubles now) true state.ids.entries
  let recent ← entriesText recentText true state.recent.reverse
  some (snprintf 512 (summaryText doubles port state now) ++
    snprintf 512 (latencyText doubles p span state) ++
    "\"rate\":[".toList ++ rateText state ++
    "],\"ids\":[".toList ++ ids ++ "],\"recent\":[".toList ++ recent ++ "]\x7d".toList)

/-- The latencies are of an earlier state than the rest. Without a result where
their sum overflows. -/
def jsonStats (doubles : Doubles) (port : UInt16) (snapshot state : State) (now : UInt64) :
    Option (List Char) :=
  (Samples.percentilesOf doubles.rank snapshot.latency.values).bind fun p =>
    statsText doubles port p snapshot.latency.spanNs state now

/-! ## What it is to say -/

def natural (n : Nat) : Json := .number { mantissa := n, places := 0 }

def integer (value : Int64) : Json := .number { mantissa := value.toInt, places := 0 }

def tenth (n : Nat) : Json := .number { mantissa := n, places := 1 }

theorem hexDigit_plain (nibble : Nat) : isPlain (kHex.getD nibble ' ') = true := by
  rcases Nat.lt_or_ge nibble kHex.length with inside | outside
  · rw [List.getD_eq_getElem _ _ inside]
    have all : kHex.all isPlain = true := by decide
    exact List.all_eq_true.mp all _ (List.getElem_mem inside)
  · rw [List.getD_eq_default _ _ outside]
    rfl

theorem hexDigits_plain (len : UInt8) (data : Vector UInt8 8) :
    (hexDigits len data).all isPlain = true := by
  apply List.all_eq_true.mpr
  intro digit member
  rcases List.mem_flatMap.mp member with ⟨byte, _, found⟩
  rcases List.mem_cons.mp found with rfl | found
  · exact hexDigit_plain _
  · rw [List.mem_singleton.mp found]
    exact hexDigit_plain _

def payloadText (len : UInt8) (data : Vector UInt8 8) : PlainText :=
  ⟨hexDigits len data, hexDigits_plain len data⟩

def member (name : String) (plain : name.toList.all isPlain = true) (value : Json) :
    PlainText × Json :=
  (⟨name.toList, plain⟩, value)

def IdStat.document (doubles : Doubles) (now : UInt64) (id : UInt32) (stat : IdStat) : Json :=
  .object
    [member "id" rfl (natural id.toNat),
      member "count" rfl (natural stat.count.toNat),
      member "src" rfl (natural stat.srcId.toNat),
      member "len" rfl (natural stat.len.toNat),
      member "age_ms" rfl (natural (doubles.millis (now - stat.lastSeenNs))),
      member "data" rfl (.string (payloadText stat.len stat.data))]

def frameDocument (frame : Frame) : Json :=
  .object
    [member "seq" rfl (natural frame.seq.toNat),
      member "id" rfl (natural frame.canId.toNat),
      member "src" rfl (natural frame.srcId.toNat),
      member "len" rfl (natural frame.len.toNat),
      member "data" rfl (.string (payloadText frame.len frame.data))]

def latencyDocument (doubles : Doubles) (p : Samples.Percentiles) (span : UInt64)
    (state : State) : Json :=
  .object
    [member "n" rfl (natural p.count.toNat),
      member "off_domain" rfl (natural state.offDomain.toNat),
      member "shared_clock" rfl (.bool state.sharedClock),
      member "span_s" rfl (tenth (doubles.tenths span)),
      member "min" rfl (integer p.min),
      member "p50" rfl (integer p.p50),
      member "p90" rfl (integer p.p90),
      member "p99" rfl (integer p.p99),
      member "p999" rfl (integer p.p999),
      member "max" rfl (integer p.max)]

def summaryMembers (doubles : Doubles) (port : UInt16) (state : State) (now : UInt64) :
    List (PlainText × Json) :=
  [member "connected" rfl (.bool state.connected),
    member "port" rfl (natural port.toNat),
    member "uptime_s" rfl (tenth (doubles.tenths (now - state.startedNs))),
    member "frames" rfl (natural state.frames.toNat),
    member "batches" rfl (natural state.batches.toNat),
    member "markers" rfl (natural state.gaps.stats.markers.toNat),
    member "missing" rfl (natural state.gaps.totalLost.toNat),
    member "silent" rfl (natural state.gaps.stats.silentJumps.toNat),
    member "reconnects" rfl (natural state.reconnects.toNat),
    member "protocol_errs" rfl (natural state.protocolErrs.toNat),
    member "first_seq" rfl (natural state.firstSeq.toNat),
    member "last_seq" rfl (natural state.lastSeq.toNat)]

/-- The seconds, the oldest first; the identifiers in their order; the last
frames, the newest first. -/
def document (doubles : Doubles) (port : UInt16) (p : Samples.Percentiles) (span : UInt64)
    (state : State) (now : UInt64) : Json :=
  .object <| summaryMembers doubles port state now ++
    [member "latency" rfl (latencyDocument doubles p span state),
      member "rate" rfl (.array (state.rateOldestFirst.map fun count => natural count.toNat)),
      member "ids" rfl
        (.array (state.ids.entries.map fun entry => entry.2.document doubles now entry.1)),
      member "recent" rfl (.array (state.recent.reverse.map frameDocument))]

/-! ## Nothing is cut off -/

theorem snprintf_eq {size : Nat} {formatted : List Char} (room : formatted.length < size) :
    snprintf size formatted = formatted :=
  List.take_of_length_le (Nat.le_sub_one_of_lt room)

theorem length_unsigned {n width : Nat} (positive : 0 < width) (small : n < 10 ^ width) :
    (unsigned n).length ≤ width :=
  (Nat.length_toDigits_le_iff (by decide) positive).mpr small

theorem length_unsigned64 (n : UInt64) : (unsigned n.toNat).length ≤ 20 :=
  length_unsigned (by decide) (Nat.lt_trans n.toNat_lt (by decide))

theorem length_unsigned32 (n : UInt32) : (unsigned n.toNat).length ≤ 10 :=
  length_unsigned (by decide) (Nat.lt_trans n.toNat_lt (by decide))

theorem length_unsigned8 (n : UInt8) : (unsigned n.toNat).length ≤ 3 :=
  length_unsigned (by decide) (Nat.lt_trans n.toNat_lt (by decide))

theorem length_unsigned16 (n : UInt16) : (unsigned n.toNat).length ≤ 5 :=
  length_unsigned (by decide) (Nat.lt_trans n.toNat_lt (by decide))

theorem length_signed (value : Int64) : (signed value).length ≤ 20 := by
  have small : (Decimal.fixed value.toInt.natAbs 0).length ≤ 19 := by
    have lower := value.le_toInt
    have upper := value.toInt_lt
    apply length_unsigned (by decide)
    omega
  rw [signed, Decimal.render]
  dsimp only
  split
  · rw [List.length_cons]
    omega
  · omega

theorem length_tenths (doubles : Doubles) (ns : UInt64) :
    (Decimal.fixed (doubles.tenths ns) 1).length ≤ 13 := by
  have bound := doubles.tenths_le ns
  have range := ns.toNat_lt
  have whole : (Decimal.digits (doubles.tenths ns / 10 ^ 1)).length ≤ 11 :=
    length_unsigned (by decide) (by omega)
  have fraction : (Decimal.padded 1 (doubles.tenths ns % 10 ^ 1)).length = 1 :=
    Decimal.length_padded (by decide) (Nat.mod_lt _ (by decide))
  rw [Decimal.fixed, if_neg (by decide), List.length_append, List.length_cons, fraction]
  omega

theorem length_millis (doubles : Doubles) (ns : UInt64) :
    (Decimal.fixed (doubles.millis ns) 0).length ≤ 14 := by
  have bound := doubles.millis_le ns
  have range := ns.toNat_lt
  exact length_unsigned (by decide) (by omega)

theorem length_truth (value : Bool) : (truth value).length ≤ 5 := by
  cases value <;> decide

theorem length_hexDigits (len : UInt8) (data : Vector UInt8 8) :
    (hexDigits len data).length ≤ 16 := by
  have all : (hexDigits len data).length = 2 * (data.toList.take len.toNat).length := by
    unfold hexDigits
    induction data.toList.take len.toNat with
    | nil => rfl
    | cons byte bytes induction =>
        rw [List.flatMap_cons, List.length_append, induction, List.length_cons, Nat.mul_succ,
          Nat.add_comm]
        rfl
  rw [all, List.length_take, Vector.length_toList]
  omega

theorem summaryText_fits (doubles : Doubles) (port : UInt16) (state : State) (now : UInt64) :
    (summaryText doubles port state now).length < 512 := by
  have connected := length_truth state.connected
  have port := length_unsigned16 port
  have uptime := length_tenths doubles (now - state.startedNs)
  have frames := length_unsigned64 state.frames
  have batches := length_unsigned64 state.batches
  have markers := length_unsigned64 state.gaps.stats.markers
  have missing := length_unsigned64 state.gaps.totalLost
  have silent := length_unsigned64 state.gaps.stats.silentJumps
  have reconnects := length_unsigned64 state.reconnects
  have protocolErrs := length_unsigned64 state.protocolErrs
  have firstSeq := length_unsigned64 state.firstSeq
  have lastSeq := length_unsigned64 state.lastSeq
  unfold summaryText
  simp only [List.length_append, String.reduceToList, List.length_cons, List.length_nil,
    Nat.reduceAdd]
  omega

theorem latencyText_fits (doubles : Doubles) (p : Samples.Percentiles) (span : UInt64)
    (state : State) : (latencyText doubles p span state).length < 512 := by
  have count := length_unsigned64 p.count
  have offDomain := length_unsigned64 state.offDomain
  have shared := length_truth state.sharedClock
  have span := length_tenths doubles span
  have least := length_signed p.min
  have p50 := length_signed p.p50
  have p90 := length_signed p.p90
  have p99 := length_signed p.p99
  have p999 := length_signed p.p999
  have greatest := length_signed p.max
  unfold latencyText
  simp only [List.length_append, String.reduceToList, List.length_cons, List.length_nil,
    Nat.reduceAdd]
  omega

/-! ## The text is the document -/

theorem render_natural (n : Nat) : (natural n).render = unsigned n := rfl

theorem render_tenth (n : Nat) : (tenth n).render = Decimal.fixed n 1 := rfl

theorem render_integer (value : Int64) : (integer value).render = signed value := by
  rw [integer, Json.render]
  rfl

theorem render_bool (value : Bool) : (Json.bool value).render = truth value := by
  cases value <;> rfl

theorem rateText_eq (state : State) :
    rateText state =
      Json.renderItems (state.rateOldestFirst.map fun count => natural count.toNat) := by
  have all : List.range kRateWindow = 0 :: (List.range 59).map Nat.succ :=
    List.range_succ_eq_map
  unfold rateText State.rateOldestFirst
  rw [all, List.map_cons, List.map_cons, Json.renderItems, Json.renderMoreItems_eq, List.flatMap_cons,
    List.map_map, List.map_map, List.flatMap_map, List.flatMap_map]
  rfl

theorem entriesText_eq {T : Type u} {entry : T → Option (List Char)} {document : T → Json}
    {items : List T} (same : ∀ item ∈ items, entry item = some (document item).render) :
    entriesText entry true items = some (Json.renderItems (items.map document)) ∧
      entriesText entry false items = some (Json.renderMoreItems (items.map document)) := by
  induction items with
  | nil => exact ⟨rfl, rfl⟩
  | cons item items induction =>
      have others := (induction fun other member => same other (List.mem_cons_of_mem _ member)).2
      unfold entriesText
      rw [same item List.mem_cons_self, others]
      exact ⟨rfl, rfl⟩

theorem idText_eq (doubles : Doubles) (now : UInt64) {entry : UInt32 × IdStat}
    (len : entry.2.len.toNat ≤ kMaxPayload) :
    idText doubles now entry = some (entry.2.document doubles now entry.1).render := by
  have id := length_unsigned32 entry.1
  have count := length_unsigned64 entry.2.count
  have src := length_unsigned8 entry.2.srcId
  have length := length_unsigned8 entry.2.len
  have age := length_millis doubles (now - entry.2.lastSeenNs)
  rw [idText, hexPayload, if_pos len, Option.map_some, snprintf_eq]
  · simp only [IdStat.document, Json.render, Json.renderMembers, Json.renderMoreMembers, member,
      payloadText, render_natural, String.reduceToList, List.append_assoc, List.cons_append,
      List.nil_append, unsigned, Decimal.fixed, if_true]
  · simp only [List.length_append, String.reduceToList, List.length_cons, List.length_nil,
      Nat.reduceAdd]
    omega

theorem recentText_eq {frame : Frame} (len : frame.len.toNat ≤ kMaxPayload) :
    recentText frame = some (frameDocument frame).render := by
  have seq := length_unsigned64 frame.seq
  have id := length_unsigned32 frame.canId
  have src := length_unsigned8 frame.srcId
  have length := length_unsigned8 frame.len
  have payload := length_hexDigits frame.len frame.data
  rw [recentText, hexPayload, if_pos len, Option.map_some, snprintf_eq]
  · simp only [frameDocument, Json.render, Json.renderMembers, Json.renderMoreMembers, member,
      payloadText, render_natural, String.reduceToList, List.append_assoc, List.cons_append,
      List.nil_append]
  · simp only [List.length_append, String.reduceToList, List.length_cons, List.length_nil,
      Nat.reduceAdd]
    omega

theorem summaryText_eq (doubles : Doubles) (port : UInt16) (state : State) (now : UInt64) :
    summaryText doubles port state now =
      '{' :: (Json.renderMembers (summaryMembers doubles port state now) ++ [',']) := by
  unfold summaryText summaryMembers
  simp only [Json.renderMembers, Json.renderMoreMembers, member, render_natural, render_tenth,
    render_bool, String.reduceToList, List.append_assoc, List.cons_append, List.nil_append]

theorem latencyText_eq (doubles : Doubles) (p : Samples.Percentiles) (span : UInt64)
    (state : State) :
    latencyText doubles p span state =
      "\"latency\":".toList ++ ((latencyDocument doubles p span state).render ++ [',']) := by
  unfold latencyText latencyDocument
  simp only [Json.render, Json.renderMembers, Json.renderMoreMembers, member, render_natural,
    render_tenth, render_integer, render_bool, String.reduceToList, List.append_assoc,
    List.cons_append, List.nil_append]

theorem statsText_eq (doubles : Doubles) (port : UInt16) (p : Samples.Percentiles)
    (span : UInt64) {state : State} (now : UInt64)
    (ids : ∀ entry ∈ state.ids.entries, entry.2.len.toNat ≤ kMaxPayload)
    (recent : ∀ frame ∈ state.recent, frame.len.toNat ≤ kMaxPayload) :
    statsText doubles port p span state now =
      some (document doubles port p span state now).render := by
  have idsText := (entriesText_eq fun entry member => idText_eq doubles now (ids entry member)).1
  have recentTexts := (entriesText_eq fun frame member =>
    recentText_eq (recent frame (List.mem_reverse.mp member))).1
  have summary : summaryMembers doubles port state now ≠ [] := List.cons_ne_nil _ _
  rw [statsText, idsText, recentTexts, snprintf_eq (summaryText_fits ..),
    snprintf_eq (latencyText_fits ..), rateText_eq, summaryText_eq, latencyText_eq]
  simp only [Option.bind_eq_bind, Option.bind_some]
  rw [document, Json.render, Json.renderMembers_append summary]
  simp only [Json.render, Json.renderMoreMembers, member, String.reduceToList,
    List.append_assoc, List.cons_append, List.nil_append]

end View

end TelemetryGateway
