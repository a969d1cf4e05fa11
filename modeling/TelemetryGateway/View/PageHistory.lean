import Mathlib.Data.List.DropRight
import TelemetryGateway.Foundation.DropOldest
import TelemetryGateway.View.Page

/-! # The page and what was received

The consumer loop updates its state frame by frame. What the state says is a
function of all the bus frames that were received, and of nothing else. -/

namespace TelemetryGateway

namespace View

/-! ## What it is to show -/

structure Sighting where
  now : UInt64
  frame : Frame

def sightings (status : FrameStream.Status) (batch : List Frame) (now : UInt64) :
    List Sighting :=
  match status with
  | .kOk => (batch.filter fun frame => !Wire.isControl frame).map fun frame => ⟨now, frame⟩
  | _ => []

/-- All bus frames that were received, in order. -/
def seen (events : List Loop.Event) : List Sighting :=
  events.flatMap fun
    | .round status batch now => sightings status batch.frames now
    | _ => []

def admitted (sightings : List Sighting) : List UInt32 :=
  ((sightings.map fun sighting => sighting.frame.canId).eraseDups).take kMaxIds

def IdStat.summary (sightings : List Sighting) : IdStat :=
  sightings.foldl (fun stat sighting => stat.see sighting.now sighting.frame) {}

def ofId (id : UInt32) (sightings : List Sighting) : List Sighting :=
  sightings.filter fun sighting => sighting.frame.canId == id

def Sighting.delay (sighting : Sighting) : Int :=
  sighting.now.toInt64.toInt - sighting.frame.tIngestNs.toInt64.toInt

def Sighting.onClock (sighting : Sighting) : Bool :=
  0 ≤ sighting.delay && sighting.delay ≤ kMaxPlausibleLatencyNs.toInt

def latencyOf (sightings : List Sighting) : RollingLatency :=
  (sightings.filter Sighting.onClock).foldl
    (fun latency sighting => latency.add sighting.now (.ofInt sighting.delay)) {}

/-- The state says of the frames what there is to say. -/
structure State.Shows (state : State) (history : List Sighting) : Prop where
  frames : state.frames = UInt64.ofNat history.length
  firstSeq : ∀ first ∈ history.head?, state.firstSeq = first.frame.seq
  lastSeq : ∀ last ∈ history.getLast?, state.lastSeq = last.frame.seq
  haveSeq : state.haveSeq = !history.isEmpty
  recent : state.recent = (history.map fun sighting => sighting.frame).rtake kRecentFrames
  size : state.ids.size = (admitted history).length
  ids : ∀ id, state.ids.find? id =
    if id ∈ admitted history then some (IdStat.summary (ofId id history)) else none
  offDomain : state.offDomain =
    UInt64.ofNat (history.filter fun sighting => !sighting.onClock).length
  latency : state.latency = latencyOf history
  real : state.gaps.stats.frames = state.frames

/-! ## One more frame -/

theorem eraseDups_concat {T : Type u} [BEq T] [LawfulBEq T] (items : List T) (item : T) :
    (items ++ [item]).eraseDups =
      if items.contains item then items.eraseDups else items.eraseDups ++ [item] := by
  rw [List.eraseDups_append, List.removeAll, List.filter_singleton, List.elem_eq_contains]
  cases items.contains item with
  | true => exact List.append_nil _
  | false => rfl

section

variable {history : List Sighting} {sighting : Sighting} {state : State}

theorem ids_concat (history : List Sighting) (sighting : Sighting) :
    ((history ++ [sighting]).map fun sighting => sighting.frame.canId) =
      (history.map fun sighting => sighting.frame.canId) ++ [sighting.frame.canId] := by
  rw [List.map_append, List.map_singleton]

/-- An identifier that has been admitted stays, and there is no second entry for
it; one that has not is admitted if there is room. -/
theorem admitted_concat (history : List Sighting) (sighting : Sighting) :
    admitted (history ++ [sighting]) =
      if sighting.frame.canId ∉ admitted history ∧ (admitted history).length < kMaxIds then
        admitted history ++ [sighting.frame.canId]
      else admitted history := by
  unfold admitted
  rw [ids_concat, eraseDups_concat]
  generalize history.map _ = ids
  generalize sighting.frame.canId = id
  have room : (ids.eraseDups.take kMaxIds).length < kMaxIds ↔ ids.eraseDups.length < kMaxIds := by
    rw [List.length_take]
    omega
  simp only [room]
  cases known : ids.contains id with
  | true =>
      have distinct : id ∈ ids.eraseDups := List.mem_eraseDups.mpr (List.contains_iff_mem.mp known)
      rw [if_pos rfl, if_neg]
      rintro ⟨absent, few⟩
      rw [List.take_of_length_le (Nat.le_of_lt few)] at absent
      exact absent distinct
  | false =>
      have fresh : id ∉ ids.eraseDups := by
        rw [List.mem_eraseDups, ← List.contains_iff_mem, known]
        exact Bool.false_ne_true
      rw [if_neg Bool.false_ne_true]
      split
      · rename_i few
        rw [List.take_of_length_le (Nat.le_of_lt few.2), List.take_of_length_le]
        rw [List.length_append, List.length_singleton]
        exact few.2
      · rename_i many
        have full : kMaxIds ≤ ids.eraseDups.length := by
          apply Nat.le_of_not_lt
          intro few
          exact many ⟨fun member => fresh (List.mem_of_mem_take member), few⟩
        rw [List.take_append_of_le_length full]

theorem ofId_concat (id : UInt32) (history : List Sighting) (sighting : Sighting) :
    ofId id (history ++ [sighting]) =
      if sighting.frame.canId = id then ofId id history ++ [sighting] else ofId id history := by
  rw [ofId, List.filter_append, List.filter_singleton]
  by_cases same : sighting.frame.canId = id
  · rw [if_pos same, beq_iff_eq.mpr same]
    rfl
  · rw [if_neg same, beq_eq_false_iff_ne.mpr same]
    exact List.append_nil _

theorem summary_concat (history : List Sighting) (sighting : Sighting) :
    IdStat.summary (history ++ [sighting]) =
      (IdStat.summary history).see sighting.now sighting.frame := by
  rw [IdStat.summary, List.foldl_append]
  rfl

theorem ofId_eq_nil {id : UInt32} (room : (admitted history).length < kMaxIds)
    (absent : id ∉ admitted history) : ofId id history = [] := by
  have all : admitted history =
      (history.map fun sighting => sighting.frame.canId).eraseDups := by
    apply List.take_of_length_le
    rw [admitted, List.length_take] at room
    omega
  rw [ofId, List.filter_eq_nil_iff]
  intro sighting member same
  apply absent
  rw [all, List.mem_eraseDups, ← beq_iff_eq.mp same]
  exact List.mem_map_of_mem member

theorem latencyOf_concat (history : List Sighting) (sighting : Sighting) :
    latencyOf (history ++ [sighting]) =
      if sighting.onClock then (latencyOf history).add sighting.now (.ofInt sighting.delay)
      else latencyOf history := by
  rw [latencyOf, List.filter_append, List.foldl_append, List.filter_singleton]
  cases sighting.onClock with
  | true => rfl
  | false => rfl

theorem delay_of_delayNs {delay : Int64}
    (measured : delayNs sighting.now sighting.frame = some delay) :
    delay = .ofInt sighting.delay ∧ sameClockDomain delay = sighting.onClock := by
  rcases checkedSub_eq_some.mp measured with ⟨fits, rfl⟩
  have number : (Int64.ofInt sighting.delay).toInt = sighting.delay := fits.toInt_ofInt
  refine ⟨rfl, ?_⟩
  change sameClockDomain (.ofInt sighting.delay) = sighting.onClock
  unfold sameClockDomain Sighting.onClock
  congr 1
  · rw [decide_eq_decide, Int64.le_iff_toInt_le, number]
    exact Iff.rfl
  · rw [decide_eq_decide, Int64.le_iff_toInt_le, number]

theorem remember_eq (history : List Frame) (frame : Frame) :
    remember (history.rtake kRecentFrames) frame = (history ++ [frame]).rtake kRecentFrames := by
  rw [← rtake_rtake_append]
  generalize trimmed : history.rtake kRecentFrames = recent
  have few : recent.length ≤ kRecentFrames := by
    rw [← trimmed, length_rtake]
    exact Nat.min_le_right _ _
  unfold remember List.rtake
  dsimp only
  rw [List.length_append, List.length_singleton]
  split
  · rename_i more
    have one : recent.length + 1 - kRecentFrames = 1 := by omega
    rw [one, List.drop_one]
  · rename_i room
    have none : recent.length + 1 - kRecentFrames = 0 := by omega
    rw [none, List.drop_zero]

theorem ofNat_length_concat {T : Type u} (items : List T) (item : T) :
    UInt64.ofNat (items ++ [item]).length = UInt64.ofNat items.length + 1 := by
  rw [List.length_append, List.length_singleton, UInt64.ofNat_add]
  rfl

theorem head?_concat {T : Type u} {items : List T} {item first : T}
    (found : (items ++ [item]).head? = some first) :
    items.head? = some first ∨ items = [] ∧ first = item := by
  cases items with
  | nil => exact .inr ⟨rfl, (Option.some.inj found).symm⟩
  | cons other rest => exact .inl found

/-! ### What is a frame -/

theorem sightings_nil (status : FrameStream.Status) (now : UInt64) :
    sightings status [] now = [] := by
  cases status <;> rfl

theorem sightings_concat (batch : List Frame) (frame : Frame) (now : UInt64) :
    sightings .kOk (batch ++ [frame]) now =
      sightings .kOk batch now ++ sightings .kOk [frame] now := by
  unfold sightings
  rw [List.filter_append, List.map_append]

theorem sightings_bus (now : UInt64) {frame : Frame} (bus : Wire.isControl frame = false) :
    sightings .kOk [frame] now = [⟨now, frame⟩] := by
  rw [sightings, List.filter_singleton, bus]
  rfl

theorem sightings_control (now : UInt64) {frame : Frame} (control : Wire.isControl frame = true) :
    sightings .kOk [frame] now = [] := by
  rw [sightings, List.filter_singleton, control]
  rfl

theorem sightings_other {status : FrameStream.Status} (other : status ≠ .kOk) (batch : List Frame)
    (now : UInt64) : sightings status batch now = [] := by
  cases status with
  | kOk => exact absurd rfl other
  | kTimeout => rfl
  | kClosed => rfl
  | kProtocolError => rfl

theorem control_of {frame : Frame} (some : Wire.isGap frame = true ∨ Wire.isEcho frame = true) :
    Wire.isControl frame = true := by
  cases control : Wire.isControl frame with
  | true => rfl
  | false =>
      rcases Wire.isControl_eq_false.mp control with ⟨notGap, notEcho⟩
      rw [notGap, notEcho] at some
      rcases some with wrong | wrong <;> cases wrong

theorem observe_bus (gaps : GapTracker) {frame : Frame} (bus : Wire.isControl frame = false) :
    (gaps.observe frame).2 = true ∧
      (gaps.observe frame).1.stats.frames = gaps.stats.frames + 1 := by
  have counted := congrArg GapTracker.Totals.frames (gaps.totals_observe_bus bus)
  rcases Wire.isControl_eq_false.mp bus with ⟨notGap, notEcho⟩
  refine ⟨?_, counted⟩
  rw [GapTracker.observe, notEcho, notGap]
  rfl

theorem observe_marker (gaps : GapTracker) {frame : Frame} (notEcho : Wire.isEcho frame = false)
    (gap : Wire.isGap frame = true) :
    (gaps.observe frame).2 = false ∧
      (gaps.observe frame).1.stats.frames = gaps.stats.frames := by
  rw [GapTracker.observe, notEcho, gap]
  refine ⟨rfl, ?_⟩
  change (gaps.stats.countMarker (Wire.gapReason frame) (Wire.gapCount frame)).frames = _
  cases Wire.gapReason frame <;> rfl

namespace State.Shows

theorem emplaceId_eq (shows : state.Shows history) (id : UInt32) :
    emplaceId state.ids id =
      if id ∉ admitted history ∧ (admitted history).length < kMaxIds then state.ids.emplace id {}
      else state.ids := by
  have unknown : state.ids.find? id = none ↔ id ∉ admitted history := by
    rw [shows.ids]
    split <;> simp [*]
  rw [emplaceId, shows.size]
  simp only [unknown]

theorem find?_emplaceId (shows : state.Shows history) (sighting : Sighting) (id : UInt32) :
    (emplaceId state.ids sighting.frame.canId).find? id =
      if id ∈ admitted (history ++ [sighting]) then some (IdStat.summary (ofId id history))
      else none := by
  rw [admitted_concat, shows.emplaceId_eq]
  by_cases fresh :
      sighting.frame.canId ∉ admitted history ∧ (admitted history).length < kMaxIds
  · rw [if_pos fresh, if_pos fresh, SortedMap.find?_emplace, shows.ids, shows.ids,
      if_neg fresh.1]
    simp only [List.mem_append, List.mem_singleton]
    by_cases same : id = sighting.frame.canId
    · rw [if_pos same, if_pos (.inr same), same, ofId_eq_nil fresh.2 fresh.1]
      rfl
    · simp only [same, or_false, if_false]
  · rw [if_neg fresh, if_neg fresh, shows.ids]

theorem size_emplaceId (shows : state.Shows history) (sighting : Sighting) :
    (emplaceId state.ids sighting.frame.canId).size = (admitted (history ++ [sighting])).length := by
  rw [admitted_concat, shows.emplaceId_eq]
  split
  · rename_i fresh
    have absent : state.ids.find? sighting.frame.canId = none := by
      rw [shows.ids, if_neg fresh.1]
    rw [SortedMap.size_emplace _ absent, shows.size, List.length_append, List.length_singleton]
  · exact shows.size

theorem showFrame (shows : state.Shows history) (sighting : Sighting) (gaps : GapTracker)
    (counted : gaps.stats.frames = state.frames + 1)
    (domain : sameClockDomain (.ofInt sighting.delay) = sighting.onClock) :
    ({ state with gaps := gaps }.showFrame sighting.now sighting.frame (.ofInt sighting.delay)).Shows
      (history ++ [sighting]) where
  frames := by
    rw [ofNat_length_concat, ← shows.frames]
    rfl
  firstSeq := by
    intro first found
    rw [State.showFrame, shows.haveSeq]
    rcases head?_concat found with before | ⟨none, same⟩
    · have some : history.isEmpty = false := by
        cases history with
        | nil => cases before
        | cons _ _ => rfl
      rw [some]
      exact shows.firstSeq first before
    · rw [none, same]
      rfl
  lastSeq := by
    intro last found
    rw [List.getLast?_concat] at found
    cases found
    rfl
  haveSeq := by
    have some : (history ++ [sighting]).isEmpty = false := by
      cases history <;> rfl
    rw [some]
    rfl
  recent := by
    rw [State.showFrame, shows.recent, remember_eq, List.map_append]
    rfl
  size := by
    rw [State.showFrame, SortedMap.size_modify]
    exact shows.size_emplaceId sighting
  ids := by
    intro id
    rw [State.showFrame, SortedMap.find?_modify]
    simp only [shows.find?_emplaceId sighting, ofId_concat]
    by_cases same : id = sighting.frame.canId
    · rw [if_pos same, if_pos same.symm, summary_concat, same]
      split <;> rfl
    · rw [if_neg same, if_neg (Ne.symm same)]
  offDomain := by
    rw [State.showFrame, domain, List.filter_append, List.filter_singleton]
    dsimp only
    cases sighting.onClock with
    | true =>
        rw [Bool.not_true, cond_false, List.append_nil]
        exact shows.offDomain
    | false =>
        rw [Bool.not_false, cond_true, ofNat_length_concat, ← shows.offDomain]
        rfl
  latency := by
    rw [State.showFrame, domain, latencyOf_concat, ← shows.latency]
  real := counted

theorem busFrame (shows : state.Shows history) {now : UInt64} {frame : Frame} {gaps : GapTracker}
    (counted : gaps.stats.frames = state.frames + 1) {after : State}
    (shown : { state with gaps := gaps }.busFrame now frame = some after) :
    after.Shows (history ++ [⟨now, frame⟩]) := by
  rcases Option.map_eq_some_iff.mp shown with ⟨delay, measured, rfl⟩
  rcases @delay_of_delayNs ⟨now, frame⟩ delay measured with ⟨rfl, domain⟩
  exact shows.showFrame ⟨now, frame⟩ gaps counted domain

theorem apart (shows : state.Shows history) {gaps : GapTracker}
    (same : gaps.stats.frames = state.gaps.stats.frames) (connected : Bool)
    (batches reconnects protocolErrs framesAtTick : UInt64) (rate : Vector UInt64 kRateWindow)
    (ratePos : Fin kRateWindow) :
    { state with
      gaps := gaps, connected := connected, batches := batches, reconnects := reconnects
      protocolErrs := protocolErrs, framesAtTick := framesAtTick, rate := rate
      ratePos := ratePos }.Shows history where
  frames := shows.frames
  firstSeq := shows.firstSeq
  lastSeq := shows.lastSeq
  haveSeq := shows.haveSeq
  recent := shows.recent
  size := shows.size
  ids := shows.ids
  offDomain := shows.offDomain
  latency := shows.latency
  real := same.trans shows.real

theorem record (shows : state.Shows history) {now : UInt64} {frame : Frame} {after : State}
    (recorded : state.record now frame = some after) :
    after.Shows (history ++ sightings .kOk [frame] now) := by
  unfold State.record at recorded
  cases echo : Wire.isEcho frame with
  | true =>
      rw [echo, if_pos rfl] at recorded
      cases recorded
      rw [sightings_control now (control_of (.inr echo)), List.append_nil]
      exact shows
  | false =>
      rw [echo, if_neg Bool.false_ne_true] at recorded
      dsimp only at recorded
      cases gap : Wire.isGap frame with
      | true =>
          rcases observe_marker state.gaps echo gap with ⟨answer, same⟩
          rw [answer, if_neg Bool.false_ne_true] at recorded
          cases recorded
          rw [sightings_control now (control_of (.inl gap)), List.append_nil]
          exact shows.apart same _ _ _ _ _ _ _
      | false =>
          have bus : Wire.isControl frame = false := Wire.isControl_eq_false.mpr ⟨gap, echo⟩
          rcases observe_bus state.gaps bus with ⟨answer, counted⟩
          rw [answer, if_pos rfl] at recorded
          rw [sightings_bus now bus]
          exact shows.busFrame (counted.trans (congrArg (· + 1) shows.real)) recorded

theorem records (shows : state.Shows history) {now : UInt64} {batch : List Frame} {after : State}
    (recorded : batch.foldlM (State.record now) state = some after) :
    after.Shows (history ++ sightings .kOk batch now) := by
  have start : state.Shows (history ++ sightings .kOk [] now) := by
    rw [sightings_nil, List.append_nil]
    exact shows
  refine foldlM_keeps (fun done state => state.Shows (history ++ sightings .kOk done now)) ?_
    start recorded
  intro done state frame after shows recorded
  rw [sightings_concat, ← List.append_assoc]
  exact shows.record recorded

theorem receive (shows : state.Shows history) {status : FrameStream.Status} {batch : List Frame}
    {now : UInt64} {after : State} (received : state.receive status batch now = some after) :
    after.Shows (history ++ sightings status batch now) := by
  cases status with
  | kOk =>
      cases batch with
      | nil =>
          cases received
          rw [sightings_nil, List.append_nil]
          exact shows
      | cons frame batch => exact (shows.apart rfl _ _ _ _ _ _ _).records received
  | kProtocolError =>
      cases received
      rw [sightings_other (by decide), List.append_nil]
      exact shows.apart rfl _ _ _ _ _ _ _
  | kClosed =>
      cases received
      rw [sightings_other (by decide), List.append_nil]
      exact shows
  | kTimeout =>
      cases received
      rw [sightings_other (by decide), List.append_nil]
      exact shows

end State.Shows

theorem Loop.shows_round {loop after : Loop} (shows : loop.state.Shows history)
    {status : FrameStream.Status} {batch : FrameStream.Batch} {now : UInt64}
    (turned : loop.round status batch now = some after) :
    after.state.Shows (history ++ sightings status batch.frames now) := by
  unfold Loop.round at turned
  split at turned
  · rename_i closed
    cases turned
    rw [closed, sightings_other (by decide), List.append_nil]
    exact shows
  · rcases Option.map_eq_some_iff.mp turned with ⟨state, received, rfl⟩
    have shown := shows.receive received
    split
    · exact shown.apart rfl _ _ _ _ _ _ _
    · exact shown

theorem Loop.shows_perform {loop after : Loop} (shows : loop.state.Shows history)
    {event : Loop.Event} (performed : loop.perform event = some after) :
    after.state.Shows (history ++ seen [event]) := by
  cases event with
  | connect =>
      cases performed
      have nothing : history ++ seen [.connect] = history := List.append_nil _
      have same : loop.state.gaps.reset.stats.frames = loop.state.gaps.stats.frames := rfl
      rw [nothing]
      exact shows.apart same _ _ _ _ _ _ _
  | round status batch now =>
      have only : seen [.round status batch now] = sightings status batch.frames now :=
        List.append_nil _
      rw [only]
      exact Loop.shows_round shows performed
  | leave =>
      cases performed
      have nothing : history ++ seen [.leave] = history := List.append_nil _
      rw [nothing]
      exact shows.apart rfl _ _ _ _ _ _ _

theorem seen_cons (event : Loop.Event) (events : List Loop.Event) :
    seen (event :: events) = seen [event] ++ seen events := by
  unfold seen
  rw [← List.flatMap_append, List.singleton_append]

theorem Loop.shows_run {startedNs nextTick : UInt64} {loop after : Loop}
    {events : List Loop.Event} (shows : loop.state.Shows history)
    (final : (Loop.system startedNs nextTick).run loop events = some after) :
    after.state.Shows (history ++ seen events) := by
  induction events generalizing loop history with
  | nil =>
      cases final
      exact (List.append_nil history).symm ▸ shows
  | cons event events induction =>
      rcases Option.bind_eq_some_iff.mp final with ⟨middle, stepped, remaining⟩
      rcases Loop.step_eq_some.mp stepped with ⟨_, performed⟩
      rw [seen_cons, ← List.append_assoc]
      exact induction (Loop.shows_perform shows performed) remaining

end

theorem State.shows_start (startedNs nextTick : UInt64) :
    (Loop.start startedNs nextTick).state.Shows [] where
  frames := rfl
  firstSeq := fun _ found => by cases found
  lastSeq := fun _ found => by cases found
  haveSeq := rfl
  recent := rfl
  size := rfl
  ids := fun _ => rfl
  offDomain := rfl
  latency := rfl
  real := rfl

/-- Whatever connections are made and lost, whatever comes through them and at
whatever time: the state says of the bus frames received what there is to say. -/
theorem Loop.page_of_history {startedNs nextTick : UInt64} {events : List Loop.Event} {loop : Loop}
    (final : (Loop.system startedNs nextTick).run (Loop.start startedNs nextTick) events =
      some loop) :
    loop.state.Shows (seen events) :=
  Loop.shows_run (State.shows_start startedNs nextTick) final

def Loop.Event.call (stream : FrameStream) (input : List UInt8) (script : List FrameStream.ReadAnswer)
    (now : UInt64) : Loop.Event :=
  .round (stream.readBatch input script).1 (.read stream input script) now

/-- Two frames of one identifier around a marker, then the stream is broken. -/
def Loop.brokenConnection : List Loop.Event :=
  let message := Wire.messageBytes
    [{ Frame.zero with seq := 1 }, Wire.makeGap 2 3 .kIngestLoss 0, { Frame.zero with seq := 5 }]
  [.connect, .call .connected message [.data 99] 900,
    .call .connected (List.replicate 16 0) [] 1100, .leave]

theorem Loop.brokenConnection_runs :
    ∃ loop, (Loop.system 0 1000).run (Loop.start 0 1000) brokenConnection = some loop := by
  apply Option.isSome_iff_exists.mp
  decide +kernel

theorem Loop.page_of_history_brokenConnection :
    ∃ loop, (Loop.system 0 1000).run (Loop.start 0 1000) brokenConnection = some loop ∧
      loop.state.Shows (seen brokenConnection) := by
  rcases brokenConnection_runs with ⟨loop, final⟩
  exact ⟨loop, final, Loop.page_of_history final⟩

end View

end TelemetryGateway
