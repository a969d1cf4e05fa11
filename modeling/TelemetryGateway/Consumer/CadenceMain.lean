import TelemetryGateway.Consumer.Cadence
import TelemetryGateway.Consumer.Coverage

/-! # The cadence consumer

`etg-cadence` feeds every record that is not an echo to a gap tracker and to a
cadence monitor. The monitor adds up what markers report whatever their reason;
the tracker keeps absences apart. -/

namespace TelemetryGateway

structure CadenceMain where
  monitor : CadenceMonitor
  gaps : GapTracker := {}

namespace CadenceMain

def start (calibrate : Nat) (threshold : UInt64 → UInt64) (gapBlind : Bool) : CadenceMain where
  monitor := CadenceMonitor.create calibrate threshold (!gapBlind)

inductive Event
  | connected
  /-- the next record of a batch -/
  | record (frame : Frame)

def handle (state : CadenceMain) : Event → CadenceMain
  | .connected => { monitor := state.monitor.resetAll, gaps := state.gaps.reset }
  | .record frame =>
      if Wire.isEcho frame then state
      else
        { monitor := (state.monitor.observe frame).1
          gaps := (state.gaps.observe frame).1 }

def handleAll (state : CadenceMain) (events : List Event) : CadenceMain :=
  events.foldl handle state

/-! ## Two accounts of one stream -/

/-- The two report the same. -/
structure Agrees (state : CadenceMain) : Prop where
  frames : state.monitor.frames = state.gaps.stats.frames
  markers : state.monitor.markers = state.gaps.stats.markers
  reportedLost : state.monitor.reportedLost = state.gaps.stats.reportedLost

structure Reconciled (state : CadenceMain) : Prop where
  frames : state.monitor.frames = state.gaps.stats.frames
  markers : state.monitor.markers = state.gaps.stats.markers
  reportedLost : state.monitor.reportedLost =
    state.gaps.stats.reportedLost + state.gaps.stats.absentFrames

theorem reconciled_start (calibrate : Nat) (threshold : UInt64 → UInt64) (gapBlind : Bool) :
    (start calibrate threshold gapBlind).Reconciled :=
  ⟨rfl, rfl, rfl⟩

theorem countMarker_total (stats : GapTracker.Stats) (reason : GapReason) (n : UInt64) :
    (stats.countMarker reason n).frames = stats.frames ∧
      (stats.countMarker reason n).markers = stats.markers + 1 ∧
      (stats.countMarker reason n).reportedLost + (stats.countMarker reason n).absentFrames =
        stats.reportedLost + stats.absentFrames + n := by
  have lost : stats.reportedLost + n + stats.absentFrames =
      stats.reportedLost + stats.absentFrames + n := by
    rw [UInt64.add_assoc, UInt64.add_comm n, UInt64.add_assoc]
  cases reason with
  | kConsumerAbsent => exact ⟨rfl, rfl, (UInt64.add_assoc ..).symm⟩
  | kIngestLoss => exact ⟨rfl, rfl, lost⟩
  | kConsumerOverrun => exact ⟨rfl, rfl, lost⟩
  | unnamed code beyond => exact ⟨rfl, rfl, lost⟩

theorem Reconciled.observe_marker {state : CadenceMain} (reconciled : state.Reconciled)
    {frame : Frame} (notEcho : Wire.isEcho frame = false) (gap : Wire.isGap frame = true) :
    Reconciled
      { monitor := (state.monitor.observe frame).1, gaps := (state.gaps.observe frame).1 } := by
  have other : (CadenceMonitor.Op.record frame).id? = none := by
    rw [CadenceMonitor.Op.id?, if_pos gap]
  rcases state.monitor.totals_other other with ⟨framesSame, _, _⟩
  rcases state.monitor.markers_apply (.record frame) with ⟨markers, lost⟩
  simp only [CadenceMonitor.Op.isMarker, CadenceMonitor.Op.lost, gap, if_true] at markers lost
  have tracked : (state.gaps.observe frame).1.stats =
      state.gaps.stats.countMarker (Wire.gapReason frame) (Wire.gapCount frame) := by
    rw [GapTracker.observe, notEcho, gap]
    rfl
  rcases countMarker_total state.gaps.stats (Wire.gapReason frame) (Wire.gapCount frame) with
    ⟨framesKept, oneMore, total⟩
  constructor
  case frames => rw [tracked, framesKept, ← reconciled.frames]; exact framesSame
  case markers => rw [tracked, oneMore, ← reconciled.markers]; exact markers
  case reportedLost => rw [tracked, total, ← reconciled.reportedLost]; exact lost

theorem stats_observe_bus (gaps : GapTracker) {frame : Frame}
    (notEcho : Wire.isEcho frame = false) (notGap : Wire.isGap frame = false) :
    (gaps.observe frame).1.stats.frames = gaps.stats.frames + 1 ∧
      (gaps.observe frame).1.stats.markers = gaps.stats.markers ∧
      (gaps.observe frame).1.stats.reportedLost = gaps.stats.reportedLost ∧
      (gaps.observe frame).1.stats.absentFrames = gaps.stats.absentFrames := by
  rw [GapTracker.observe, notEcho, notGap]
  simp only [Bool.false_eq_true, if_false]
  split <;> exact ⟨rfl, rfl, rfl, rfl⟩

theorem Reconciled.observe_bus {state : CadenceMain} (reconciled : state.Reconciled)
    {frame : Frame} (notEcho : Wire.isEcho frame = false) (notGap : Wire.isGap frame = false) :
    Reconciled
      { monitor := (state.monitor.observe frame).1, gaps := (state.gaps.observe frame).1 } := by
  have isFrame : (CadenceMonitor.Op.record frame).id? = some frame.canId := by
    rw [CadenceMonitor.Op.id?, notGap]
    rfl
  rcases state.monitor.totals_frame isFrame rfl with ⟨oneMore, _, _⟩
  rcases state.monitor.markers_apply (.record frame) with ⟨markers, lost⟩
  simp only [CadenceMonitor.Op.isMarker, CadenceMonitor.Op.lost, notGap, Bool.false_eq_true,
    if_false, UInt64.add_zero] at markers lost
  rcases stats_observe_bus state.gaps notEcho notGap with
    ⟨frames, sameMarkers, sameLost, sameAbsent⟩
  constructor
  case frames => rw [frames, ← reconciled.frames]; exact oneMore
  case markers => rw [sameMarkers, ← reconciled.markers]; exact markers
  case reportedLost => rw [sameLost, sameAbsent, ← reconciled.reportedLost]; exact lost

theorem Reconciled.handle {state : CadenceMain} (reconciled : state.Reconciled) (event : Event) :
    (state.handle event).Reconciled := by
  cases event with
  | connected => exact ⟨reconciled.frames, reconciled.markers, reconciled.reportedLost⟩
  | record frame =>
      simp only [CadenceMain.handle]
      cases echo : Wire.isEcho frame with
      | true => exact reconciled
      | false =>
          cases gap : Wire.isGap frame with
          | true => exact reconciled.observe_marker echo gap
          | false => exact reconciled.observe_bus echo gap

theorem Reconciled.handleAll {state : CadenceMain} (reconciled : state.Reconciled)
    (events : List Event) : (state.handleAll events).Reconciled := by
  induction events generalizing state with
  | nil => exact reconciled
  | cons event events induction => exact induction (reconciled.handle event)

/-! ## When they agree -/

def Event.countsAbsence : Event → Bool
  | .connected => false
  | .record frame => !Wire.isEcho frame && Wire.isGap frame &&
      (Wire.gapReason frame = .kConsumerAbsent && Wire.gapCount frame ≠ 0)

def Event.absent : Event → UInt64
  | .connected => 0
  | .record frame =>
      if Wire.isEcho frame = false ∧ Wire.isGap frame = true ∧
          Wire.gapReason frame = .kConsumerAbsent then Wire.gapCount frame
      else 0

theorem absent_eq_zero_iff (event : Event) : event.absent = 0 ↔ event.countsAbsence = false := by
  cases event with
  | connected => simp [Event.absent, Event.countsAbsence]
  | record frame =>
      simp only [Event.absent, Event.countsAbsence]
      cases Wire.isEcho frame <;> cases Wire.isGap frame <;>
        by_cases absent : Wire.gapReason frame = .kConsumerAbsent <;> simp [absent]

theorem absentFrames_handle (state : CadenceMain) (event : Event) :
    (state.handle event).gaps.stats.absentFrames =
      state.gaps.stats.absentFrames + event.absent := by
  cases event with
  | connected => exact (UInt64.add_zero _).symm
  | record frame =>
      simp only [handle, Event.absent]
      cases echo : Wire.isEcho frame with
      | true => simp
      | false =>
          cases gap : Wire.isGap frame with
          | false => simp [(stats_observe_bus state.gaps echo gap).2.2.2]
          | true =>
              simp only [GapTracker.observe, echo, gap, Bool.false_eq_true, if_false, if_true,
                true_and]
              cases Wire.gapReason frame <;> simp [GapTracker.Stats.countMarker]

/-- Frames of absences are never taken back, so that they stay 0 only when no
event adds any. -/
theorem absentFrames_eq_zero_iff {state : CadenceMain}
    (none : state.gaps.stats.absentFrames = 0) (events : List Event) :
    (∀ count, (state.handleAll (events.take count)).gaps.stats.absentFrames = 0) ↔
      ∀ event ∈ events, event.countsAbsence = false := by
  induction events generalizing state with
  | nil => simpa [handleAll] using none
  | cons event events induction =>
      have step : (state.handle event).gaps.stats.absentFrames = event.absent := by
        rw [absentFrames_handle, none, UInt64.zero_add]
      constructor
      · intro always
        have first : event.absent = 0 := step.symm.trans (always 1)
        intro other member
        rcases List.mem_cons.mp member with rfl | later
        · exact (absent_eq_zero_iff other).mp first
        · exact (induction (step.trans first)).mp (fun count => always (count + 1)) other later
      · intro quiet count
        have first := (absent_eq_zero_iff event).mpr (quiet event List.mem_cons_self)
        cases count with
        | zero => exact none
        | succ count =>
            refine (induction (step.trans first)).mpr (fun other later => ?_) count
            exact quiet other (List.mem_cons_of_mem _ later)

theorem Reconciled.agrees_iff {state : CadenceMain} (reconciled : state.Reconciled) :
    state.Agrees ↔ state.gaps.stats.absentFrames = 0 := by
  constructor
  · intro agrees
    have both := reconciled.reportedLost.symm.trans agrees.reportedLost
    rwa [UInt64.add_eq_left] at both
  · intro none
    refine ⟨reconciled.frames, reconciled.markers, ?_⟩
    rw [reconciled.reportedLost, none, UInt64.add_zero]

theorem agrees_iff_no_absence_counted (calibrate : Nat) (threshold : UInt64 → UInt64)
    (gapBlind : Bool) (events : List Event) :
    (∀ count, ((start calibrate threshold gapBlind).handleAll (events.take count)).Agrees) ↔
      ∀ event ∈ events, event.countsAbsence = false := by
  have reconciled := reconciled_start calibrate threshold gapBlind
  rw [← @absentFrames_eq_zero_iff (start calibrate threshold gapBlind) rfl events]
  exact forall_congr' fun count => (reconciled.handleAll (events.take count)).agrees_iff

/-- A consumer that was away for four frames. -/
def awayForFour : List Event :=
  [.connected, .record (Wire.makeGap 0 4 .kConsumerAbsent 0)]

theorem absence_counted_as_loss :
    ((start 4 (fun expected => 2 * expected) false).handleAll awayForFour).monitor.reportedLost =
        4 ∧
      ((start 4 (fun expected => 2 * expected) false).handleAll
        awayForFour).gaps.stats.reportedLost = 0 ∧
      ¬ ∀ count, ((start 4 (fun expected => 2 * expected) false).handleAll
        (awayForFour.take count)).Agrees := by
  refine ⟨by decide, by decide, ?_⟩
  intro always
  have lost := (always 2).reportedLost
  revert lost
  decide

end CadenceMain

end TelemetryGateway
