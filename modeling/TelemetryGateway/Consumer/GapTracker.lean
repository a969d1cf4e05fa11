import TelemetryGateway.Wire.Message

/-! # Loss accounting of a consumer

Loss that a marker reports and jumps of the sequence that no marker announced
are counted apart. A stream whose gaps are all announced has no such jump. -/

namespace TelemetryGateway

structure GapTracker.Stats where
  frames : UInt64 := 0
  markers : UInt64 := 0
  reportedLost : UInt64 := 0
  silentJumps : UInt64 := 0
  silentLost : UInt64 := 0
  overrunMarkers : UInt64 := 0
  ingestMarkers : UInt64 := 0
  absentMarkers : UInt64 := 0
  absentFrames : UInt64 := 0
  echoes : UInt64 := 0
  deriving DecidableEq, Repr

structure GapTracker where
  stats : GapTracker.Stats := {}
  next : UInt64 := 0
  have_ : Bool := false
  deriving DecidableEq, Repr

namespace GapTracker

def Stats.countMarker (stats : Stats) (reason : GapReason) (n : UInt64) : Stats :=
  match reason with
  | .kConsumerAbsent =>
      { stats with
        markers := stats.markers + 1
        absentMarkers := stats.absentMarkers + 1
        absentFrames := stats.absentFrames + n }
  | .kIngestLoss =>
      { stats with
        markers := stats.markers + 1
        ingestMarkers := stats.ingestMarkers + 1
        reportedLost := stats.reportedLost + n }
  | _ =>
      { stats with
        markers := stats.markers + 1
        overrunMarkers := stats.overrunMarkers + 1
        reportedLost := stats.reportedLost + n }

/-- `observe`, with its answer whether the record was a real frame. -/
def observe (tracker : GapTracker) (frame : Frame) : GapTracker × Bool :=
  if Wire.isEcho frame then
    ({ tracker with stats := { tracker.stats with echoes := tracker.stats.echoes + 1 } }, false)
  else if Wire.isGap frame then
    ({ stats := tracker.stats.countMarker (Wire.gapReason frame) (Wire.gapCount frame)
       next := frame.seq + Wire.gapCount frame
       have_ := true }, false)
  else
    let stats :=
      if tracker.have_ = true ∧ tracker.next < frame.seq then
        { tracker.stats with
          silentJumps := tracker.stats.silentJumps + 1
          silentLost := tracker.stats.silentLost + (frame.seq - tracker.next) }
      else tracker.stats
    ({ stats := { stats with frames := stats.frames + 1 }
       next := frame.seq + 1
       have_ := true }, true)

def observeAll (tracker : GapTracker) (records : List Frame) : GapTracker :=
  records.foldl (fun tracker record => (tracker.observe record).1) tracker

theorem observeAll_cons (tracker : GapTracker) (record : Frame) (records : List Frame) :
    tracker.observeAll (record :: records) = (tracker.observe record).1.observeAll records := rfl

/-! ## Announced gaps leave no silent jump -/

def Awaits (tracker : GapTracker) : Expect → Prop
  | .anything => tracker.have_ = false
  | .dataOrGap next => tracker.have_ = true ∧ tracker.next = UInt64.ofNat next
  | .data next => tracker.have_ = true ∧ tracker.next = UInt64.ofNat next

theorem silentJumps_countMarker (stats : Stats) (reason : GapReason) (n : UInt64) :
    (stats.countMarker reason n).silentJumps = stats.silentJumps := by
  unfold Stats.countMarker
  split <;> rfl

theorem Awaits.no_jump {tracker : GapTracker} {expect next : Expect} {frame : Frame}
    (awaits : tracker.Awaits expect)
    (followed : expect.after (.data frame.seq.toNat) = some next) :
    ¬ (tracker.have_ = true ∧ tracker.next < frame.seq) := by
  have expected {number : Nat} (same : frame.seq.toNat = number)
      (position : tracker.next = UInt64.ofNat number) :
      ¬ (tracker.have_ = true ∧ tracker.next < frame.seq) := by
    rw [position, ← same, UInt64.ofNat_toNat]
    exact fun jump => absurd jump.2 (UInt64.lt_irrefl _)
  cases expect with
  | anything =>
      intro jump
      rw [show tracker.have_ = false from awaits] at jump
      cases jump.1
  | dataOrGap number =>
      simp only [Expect.after] at followed
      split at followed
      · exact expected ‹_› awaits.2
      · cases followed
  | data number =>
      simp only [Expect.after] at followed
      split at followed
      · exact expected ‹_› awaits.2
      · cases followed

theorem Awaits.observe {tracker : GapTracker} {expect next : Expect} {record : Frame}
    (awaits : tracker.Awaits expect) (followed : expect.after (Wire.item record) = some next) :
    (tracker.observe record).1.Awaits next ∧
      (tracker.observe record).1.stats.silentJumps = tracker.stats.silentJumps := by
  unfold Wire.item at followed
  unfold GapTracker.observe
  split at followed
  · rename_i echo
    rw [Expect.after_other] at followed
    cases followed
    rw [if_pos echo]
    refine ⟨?_, rfl⟩
    cases expect <;> exact awaits
  · rename_i notEcho
    rw [if_neg notEcho]
    split at followed
    · rename_i gap
      rw [if_pos gap, Expect.after_gap followed]
      refine ⟨⟨rfl, ?_⟩, silentJumps_countMarker ..⟩
      rw [UInt64.ofNat_add, UInt64.ofNat_toNat, UInt64.ofNat_toNat]
    · rename_i notGap
      rw [if_neg notGap]
      dsimp only
      rw [if_neg (awaits.no_jump followed), Expect.after_data followed]
      refine ⟨⟨rfl, ?_⟩, rfl⟩
      rw [UInt64.ofNat_add, UInt64.ofNat_toNat]
      rfl

theorem Awaits.observeAll {tracker : GapTracker} {expect final : Expect} {records : List Frame}
    (awaits : tracker.Awaits expect)
    (followed : expect.follow (records.map Wire.item) = some final) :
    (tracker.observeAll records).Awaits final ∧
      (tracker.observeAll records).stats.silentJumps = tracker.stats.silentJumps := by
  induction records generalizing tracker expect with
  | nil =>
      cases followed
      exact ⟨awaits, rfl⟩
  | cons record records induction =>
      rw [List.map_cons, Expect.follow_cons] at followed
      rcases Option.bind_eq_some_iff.mp followed with ⟨next, first, rest⟩
      rcases awaits.observe first with ⟨awaitsNext, same⟩
      rcases induction awaitsNext rest with ⟨awaitsFinal, others⟩
      exact ⟨awaitsFinal, others.trans same⟩

theorem silentJumps_of_follow {expect : Expect} {records : List Frame}
    (followed : Expect.anything.follow (records.map Wire.item) = some expect) :
    (({} : GapTracker).observeAll records).stats.silentJumps = 0 := by
  have fresh : ({} : GapTracker).Awaits .anything := rfl
  exact (fresh.observeAll followed).2

/-! ## What the records add up to -/

structure Totals where
  frames : UInt64
  markers : UInt64
  reportedLost : UInt64

def totals (tracker : GapTracker) : Totals where
  frames := tracker.stats.frames
  markers := tracker.stats.markers
  reportedLost := tracker.stats.reportedLost

theorem observeAll_append (tracker : GapTracker) (left right : List Frame) :
    tracker.observeAll (left ++ right) = (tracker.observeAll left).observeAll right :=
  List.foldl_append

theorem totals_observe_bus (tracker : GapTracker) {frame : Frame}
    (bus : Wire.isControl frame = false) :
    (tracker.observe frame).1.totals =
      { tracker.totals with frames := tracker.totals.frames + 1 } := by
  rcases Wire.isControl_eq_false.mp bus with ⟨notGap, notEcho⟩
  unfold observe
  rw [notEcho, notGap, if_neg Bool.false_ne_true, if_neg Bool.false_ne_true]
  unfold totals
  dsimp only
  split <;> rfl

theorem totals_observeAll_bus (tracker : GapTracker) {frames : List Frame}
    (bus : ∀ frame ∈ frames, Wire.isControl frame = false) :
    (tracker.observeAll frames).totals =
      { tracker.totals with frames := tracker.totals.frames + UInt64.ofNat frames.length } := by
  induction frames generalizing tracker with
  | nil =>
      have same : tracker.totals.frames + UInt64.ofNat 0 = tracker.totals.frames :=
        UInt64.add_zero _
      rw [List.length_nil, same]
      rfl
  | cons frame frames induction =>
      have first := tracker.totals_observe_bus (bus frame List.mem_cons_self)
      have rest := induction (tracker.observe frame).1
        fun other member => bus other (List.mem_cons_of_mem _ member)
      have number : UInt64.ofNat (frames.length + 1) = 1 + UInt64.ofNat frames.length := by
        rw [Nat.add_comm, UInt64.ofNat_add]
        rfl
      change ((tracker.observe frame).1.observeAll frames).totals = _
      rw [rest, first, List.length_cons, number, UInt64.add_assoc]

theorem totals_observe_overrun (tracker : GapTracker) (first missing now : UInt64) :
    (tracker.observe (Wire.makeGap first missing .kConsumerOverrun now)).1.totals =
      { tracker.totals with
        markers := tracker.totals.markers + 1
        reportedLost := tracker.totals.reportedLost + missing } := by
  unfold observe
  rw [Wire.isEcho_makeGap, Wire.isGap_makeGap, if_neg Bool.false_ne_true, if_pos rfl,
    Wire.gapCount_makeGap]
  rfl

theorem totals_observe_echo (tracker : GapTracker) (nonce now : UInt64) :
    (tracker.observe (Wire.makeEcho nonce now)).1.totals = tracker.totals := by
  unfold observe
  rw [Wire.isEcho_makeEcho, if_pos rfl]
  rfl

end GapTracker

end TelemetryGateway
