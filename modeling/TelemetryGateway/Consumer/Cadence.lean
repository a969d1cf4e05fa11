import Mathlib
import TelemetryGateway.Wire.Message

/-! # The cadence monitor

Per id, intervals between frames are measured against a learned period. The
threshold `factor_ * expected_ns` is a product of doubles in the source; here it
is any function of the learned period. -/

namespace TelemetryGateway

structure CadenceMonitor.IdStats where
  frames : UInt64 := 0
  expectedNs : UInt64 := 0
  anomalies : UInt64 := 0
  suppressed : UInt64 := 0
  worstNs : UInt64 := 0
  deriving DecidableEq, Repr

structure CadenceMonitor.State where
  lastNs : UInt64 := 0
  haveLast : Bool := false
  resync : Bool := false
  samples : List UInt64 := []
  stats : CadenceMonitor.IdStats := {}
  deriving DecidableEq, Repr

structure CadenceMonitor.Settings where
  calibrate : Nat
  threshold : UInt64 → UInt64
  gapAware : Bool

/-- `ids_` maps the ids seen so far. -/
structure CadenceMonitor extends CadenceMonitor.Settings where
  ids : UInt32 → Option CadenceMonitor.State := fun _ => none
  frames : UInt64 := 0
  anomalies : UInt64 := 0
  suppressed : UInt64 := 0
  markers : UInt64 := 0
  reportedLost : UInt64 := 0

namespace CadenceMonitor

def create (calibrationSamples : Nat) (threshold : UInt64 → UInt64) (gapAware : Bool) :
    CadenceMonitor where
  calibrate := if calibrationSamples < 2 then 2 else calibrationSamples
  threshold := threshold
  gapAware := gapAware

/-! ## One frame of an id -/

inductive Outcome
  /-- there is no frame before -/
  | first
  | suppressed
  | calibrating
  | regular
  | anomaly
  deriving DecidableEq, Repr

def State.calibrateWith (settings : Settings) (state : State) (dt : UInt64) : State :=
  let samples := state.samples ++ [dt]
  if samples.length = settings.calibrate then
    let v := samples.insertionSort (· ≤ ·)
    { state with
      samples := samples
      stats := { state.stats with expectedNs := v.getD (v.length / 2) 0 } }
  else { state with samples := samples }

def State.observe (settings : Settings) (state : State) (now : UInt64) : State × Outcome :=
  let state := { state with stats := { state.stats with frames := state.stats.frames + 1 } }
  if state.haveLast = false then
    ({ state with lastNs := now, haveLast := true }, .first)
  else
    let dt := if state.lastNs < now then now - state.lastNs else 0
    let state := { state with lastNs := now }
    if state.resync = true then
      ({ state with
        resync := false
        stats := { state.stats with suppressed := state.stats.suppressed + 1 } }, .suppressed)
    else if state.samples.length < settings.calibrate then
      (state.calibrateWith settings dt, .calibrating)
    else if settings.threshold state.stats.expectedNs < dt then
      ({ state with stats := { state.stats with
          anomalies := state.stats.anomalies + 1
          worstNs := max state.stats.worstNs dt } }, .anomaly)
    else (state, .regular)

/-! ## One record -/

def resetAll (monitor : CadenceMonitor) : CadenceMonitor :=
  { monitor with ids := fun id => (monitor.ids id).map fun state => { state with resync := true } }

/-- `observe`, with its answer whether the record was flagged. -/
def observe (monitor : CadenceMonitor) (frame : Frame) : CadenceMonitor × Bool :=
  if Wire.isGap frame then
    let monitor := { monitor with
      markers := monitor.markers + 1
      reportedLost := monitor.reportedLost + Wire.gapCount frame }
    (if monitor.gapAware then monitor.resetAll else monitor, false)
  else
    let (state, outcome) := ((monitor.ids frame.canId).getD {}).observe monitor.toSettings
      frame.tIngestNs
    ({ monitor with
      frames := monitor.frames + 1
      ids := Function.update monitor.ids frame.canId (some state)
      suppressed := monitor.suppressed + (if outcome = .suppressed then 1 else 0)
      anomalies := monitor.anomalies + (if outcome = .anomaly then 1 else 0) },
      outcome = .anomaly)

def perId (monitor : CadenceMonitor) (id : UInt32) : Option IdStats :=
  (monitor.ids id).map fun state => state.stats

/-! ## A stream -/

inductive Op
  | record (frame : Frame)
  | resetAll

def apply (monitor : CadenceMonitor) : Op → CadenceMonitor × Bool
  | .record frame => monitor.observe frame
  | .resetAll => (monitor.resetAll, false)

def applyAll (monitor : CadenceMonitor) (ops : List Op) : CadenceMonitor :=
  ops.foldl (fun monitor op => (monitor.apply op).1) monitor

def verdicts (monitor : CadenceMonitor) : List Op → List Bool
  | [] => []
  | op :: ops => (monitor.apply op).2 :: (monitor.apply op).1.verdicts ops

theorem applyAll_concat (monitor : CadenceMonitor) (ops : List Op) (op : Op) :
    monitor.applyAll (ops ++ [op]) = ((monitor.applyAll ops).apply op).1 := by
  rw [applyAll, List.foldl_append]
  rfl

theorem verdicts_concat (monitor : CadenceMonitor) (ops : List Op) (op : Op) :
    monitor.verdicts (ops ++ [op]) =
      monitor.verdicts ops ++ [((monitor.applyAll ops).apply op).2] := by
  induction ops generalizing monitor with
  | nil => rfl
  | cons first ops induction =>
      rw [List.cons_append, verdicts, verdicts, List.cons_append, induction]
      rfl

@[simp] theorem length_verdicts (monitor : CadenceMonitor) (ops : List Op) :
    (monitor.verdicts ops).length = ops.length := by
  induction ops generalizing monitor with
  | nil => rfl
  | cons op ops induction => rw [verdicts, List.length_cons, List.length_cons, induction]

/-! ## What one operation means for one id -/

def Op.id? : Op → Option UInt32
  | .record frame => if Wire.isGap frame then none else some frame.canId
  | .resetAll => none

def Op.breaks (gapAware : Bool) : Op → Bool
  | .record frame => gapAware && Wire.isGap frame
  | .resetAll => true

def Op.time : Op → UInt64
  | .record frame => frame.tIngestNs
  | .resetAll => 0

@[simp] theorem toSettings_apply (monitor : CadenceMonitor) (op : Op) :
    (monitor.apply op).1.toSettings = monitor.toSettings := by
  cases op with
  | resetAll => rfl
  | record frame =>
      rw [apply, observe]
      by_cases gap : Wire.isGap frame = true
      · rw [if_pos gap]
        dsimp only
        split <;> rfl
      · rw [if_neg gap]

theorem toSettings_applyAll (monitor : CadenceMonitor) (ops : List Op) :
    (monitor.applyAll ops).toSettings = monitor.toSettings := by
  induction ops generalizing monitor with
  | nil => rfl
  | cons op ops induction => exact (induction _).trans (toSettings_apply monitor op)

theorem apply_frame (monitor : CadenceMonitor) {op : Op} {id : UInt32} (isFrame : op.id? = some id) :
    (monitor.apply op).1.ids = Function.update monitor.ids id
        (some (((monitor.ids id).getD {}).observe monitor.toSettings op.time).1) ∧
      (monitor.apply op).2 =
        decide ((((monitor.ids id).getD {}).observe monitor.toSettings op.time).2 = .anomaly) := by
  cases op with
  | resetAll => cases isFrame
  | record frame =>
      simp only [Op.id?] at isFrame
      split at isFrame
      · cases isFrame
      · rename_i notGap
        cases isFrame
        rw [apply, observe, if_neg notGap]
        exact ⟨rfl, rfl⟩

theorem apply_other (monitor : CadenceMonitor) {op : Op} (isOther : op.id? = none) (id : UInt32) :
    (monitor.apply op).1.ids id = (if op.breaks monitor.gapAware then
        (monitor.ids id).map fun state => { state with resync := true } else monitor.ids id) ∧
      (monitor.apply op).2 = false := by
  cases op with
  | resetAll => exact ⟨rfl, rfl⟩
  | record frame =>
      simp only [Op.id?] at isOther
      split at isOther
      · rename_i gap
        rw [apply, observe, if_pos gap, Op.breaks, gap, Bool.and_true]
        refine ⟨?_, rfl⟩
        dsimp only
        split <;> rfl
      · cases isOther

def Op.lost : Op → UInt64
  | .record frame => if Wire.isGap frame then Wire.gapCount frame else 0
  | .resetAll => 0

def Op.isMarker : Op → Bool
  | .record frame => Wire.isGap frame
  | .resetAll => false

theorem totals_frame (monitor : CadenceMonitor) {op : Op} {id : UInt32}
    (isFrame : op.id? = some id) {outcome : Outcome}
    (becomes : (((monitor.ids id).getD {}).observe monitor.toSettings op.time).2 = outcome) :
    (monitor.apply op).1.frames = monitor.frames + 1 ∧
      (monitor.apply op).1.suppressed =
        monitor.suppressed + (if outcome = .suppressed then 1 else 0) ∧
      (monitor.apply op).1.anomalies =
        monitor.anomalies + (if outcome = .anomaly then 1 else 0) := by
  cases op with
  | resetAll => cases isFrame
  | record frame =>
      simp only [Op.id?] at isFrame
      split at isFrame
      · cases isFrame
      · rename_i notGap
        cases isFrame
        subst becomes
        rw [apply, observe, if_neg notGap]
        exact ⟨rfl, rfl, rfl⟩

theorem totals_other (monitor : CadenceMonitor) {op : Op} (isOther : op.id? = none) :
    (monitor.apply op).1.frames = monitor.frames ∧
      (monitor.apply op).1.suppressed = monitor.suppressed ∧
      (monitor.apply op).1.anomalies = monitor.anomalies := by
  cases op with
  | resetAll => exact ⟨rfl, rfl, rfl⟩
  | record frame =>
      simp only [Op.id?] at isOther
      split at isOther
      · rename_i gap
        rw [apply, observe, if_pos gap]
        dsimp only
        split <;> exact ⟨rfl, rfl, rfl⟩
      · cases isOther

theorem markers_apply (monitor : CadenceMonitor) (op : Op) :
    (monitor.apply op).1.markers = monitor.markers + (if op.isMarker then 1 else 0) ∧
      (monitor.apply op).1.reportedLost = monitor.reportedLost + op.lost := by
  cases op with
  | resetAll => exact ⟨(UInt64.add_zero _).symm, (UInt64.add_zero _).symm⟩
  | record frame =>
      rw [apply, observe, Op.isMarker, Op.lost]
      by_cases gap : Wire.isGap frame = true
      · rw [if_pos gap, if_pos gap, if_pos gap]
        dsimp only
        split <;> exact ⟨rfl, rfl⟩
      · rw [if_neg gap, if_neg gap, if_neg gap]
        exact ⟨(UInt64.add_zero _).symm, (UInt64.add_zero _).symm⟩

theorem markers_applyAll (monitor : CadenceMonitor) (ops : List Op) :
    (monitor.applyAll ops).markers =
        monitor.markers + UInt64.ofNat (ops.countP Op.isMarker) ∧
      (monitor.applyAll ops).reportedLost = monitor.reportedLost + (ops.map Op.lost).sum := by
  induction ops generalizing monitor with
  | nil => exact ⟨(UInt64.add_zero _).symm, (UInt64.add_zero _).symm⟩
  | cons op ops induction =>
      rcases induction (monitor.apply op).1 with ⟨markers, lost⟩
      rcases markers_apply monitor op with ⟨marker, one⟩
      change ((monitor.apply op).1.applyAll ops).markers = _ ∧
        ((monitor.apply op).1.applyAll ops).reportedLost = _
      rw [markers, lost, marker, one, List.countP_cons, List.map_cons, List.sum_cons,
        UInt64.ofNat_add, UInt64.add_assoc, UInt64.add_assoc]
      refine ⟨?_, rfl⟩
      rw [UInt64.add_comm (UInt64.ofNat _)]
      cases op.isMarker <;> rfl

end CadenceMonitor

end TelemetryGateway
