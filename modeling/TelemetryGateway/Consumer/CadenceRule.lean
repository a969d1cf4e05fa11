import TelemetryGateway.Consumer.Cadence
import TelemetryGateway.Foundation.Successive

/-! # What the cadence monitor computes

The rule over the whole stream: the intervals between consecutive frames of an
id, those that can be measured, the period learned from the first of them, and
the later ones that exceed the threshold. The monitor keeps up with it record
by record. -/

namespace TelemetryGateway.CadenceMonitor

/-! ## Intervals -/

/-- A frame of an id, by its position in the stream. -/
structure Arrival where
  index : Nat
  time : UInt64
  deriving DecidableEq, Repr

def arrivals (id : UInt32) (ops : List Op) : List Arrival :=
  ops.zipIdx.filterMap fun entry =>
    if entry.1.id? = some id then some { index := entry.2, time := entry.1.time } else none

structure Interval where
  opening : Arrival
  closing : Arrival
  deriving DecidableEq, Repr

/-- Between consecutive frames of the id. -/
def intervals (id : UInt32) (ops : List Op) : List Interval :=
  (arrivals id ops).zipWith Interval.mk (arrivals id ops).tail

def Interval.dt (interval : Interval) : UInt64 :=
  if interval.opening.time < interval.closing.time then
    interval.closing.time - interval.opening.time
  else 0

def Interval.isSuppressed (gapAware : Bool) (ops : List Op) (interval : Interval) : Bool :=
  ops.zipIdx.any fun entry => interval.opening.index < entry.2 &&
    (entry.2 < interval.closing.index && entry.1.breaks gapAware)

def suppressedOf (gapAware : Bool) (id : UInt32) (ops : List Op) : List Interval :=
  (intervals id ops).filter fun interval => interval.isSuppressed gapAware ops

def measuredOf (gapAware : Bool) (id : UInt32) (ops : List Op) : List Interval :=
  (intervals id ops).filter fun interval => !interval.isSuppressed gapAware ops

/-! ## The rule -/

namespace Settings

/-- The first measured intervals, once there are enough: the middle one in the
order of their lengths. -/
def expected (settings : Settings) (measured : List Interval) : UInt64 :=
  if settings.calibrate ≤ measured.length then
    (((measured.take settings.calibrate).map Interval.dt).insertionSort (· ≤ ·)).getD
      (settings.calibrate / 2) 0
  else 0

def flagged (settings : Settings) (measured : List Interval) : List Interval :=
  (measured.drop settings.calibrate).filter fun interval =>
    settings.threshold (settings.expected measured) < interval.dt

def flaggedOf (settings : Settings) (id : UInt32) (ops : List Op) : List Interval :=
  settings.flagged (measuredOf settings.gapAware id ops)

def statsOf (settings : Settings) (id : UInt32) (ops : List Op) : IdStats where
  frames := UInt64.ofNat (arrivals id ops).length
  expectedNs := settings.expected (measuredOf settings.gapAware id ops)
  anomalies := UInt64.ofNat (settings.flaggedOf id ops).length
  suppressed := UInt64.ofNat (suppressedOf settings.gapAware id ops).length
  worstNs := ((settings.flaggedOf id ops).map Interval.dt).foldl max 0

end Settings

/-! ## One more operation -/

theorem arrivals_concat (id : UInt32) (ops : List Op) (op : Op) :
    arrivals id (ops ++ [op]) = arrivals id ops ++
      if op.id? = some id then [{ index := ops.length, time := op.time }] else [] := by
  rw [arrivals, List.zipIdx_append, List.filterMap_append, arrivals]
  by_cases isFrame : op.id? = some id
  · simp [isFrame]
  · simp [isFrame]

theorem index_lt_of_mem_arrivals {id : UInt32} {ops : List Op} {arrival : Arrival}
    (member : arrival ∈ arrivals id ops) : arrival.index < ops.length := by
  rcases List.mem_filterMap.mp member with ⟨entry, found, same⟩
  split at same
  · cases same
    have bound := List.snd_lt_of_mem_zipIdx found
    simpa using bound
  · cases same

theorem intervals_concat_frame {id : UInt32} {ops : List Op} {op : Op}
    (isFrame : op.id? = some id) {last : Arrival} (isLast : (arrivals id ops).getLast? = some last) :
    intervals id (ops ++ [op]) = intervals id ops ++
      [{ opening := last, closing := { index := ops.length, time := op.time } }] := by
  rw [intervals, arrivals_concat, if_pos isFrame]
  exact zipWith_tail_concat _ isLast _

theorem intervals_concat_other {id : UInt32} {ops : List Op} {op : Op}
    (isOther : op.id? ≠ some id) : intervals id (ops ++ [op]) = intervals id ops := by
  rw [intervals, arrivals_concat, if_neg isOther, List.append_nil]
  rfl

theorem mem_of_mem_intervals {id : UInt32} {ops : List Op} {interval : Interval}
    (member : interval ∈ intervals id ops) :
    interval.opening ∈ arrivals id ops ∧ interval.closing ∈ arrivals id ops := by
  rcases List.mem_iff_getElem.mp member with ⟨index, bound, rfl⟩
  simp only [intervals, List.getElem_zipWith]
  exact ⟨List.getElem_mem _, List.mem_of_mem_tail (List.getElem_mem _)⟩

/-- Since the frame at `index` a reset or a heeded marker has come. -/
def brokenSince (gapAware : Bool) (ops : List Op) (index : Nat) : Bool :=
  ops.zipIdx.any fun entry => index < entry.2 && entry.1.breaks gapAware

theorem brokenSince_concat (gapAware : Bool) {ops : List Op} (op : Op) {index : Nat}
    (inside : index < ops.length) :
    brokenSince gapAware (ops ++ [op]) index =
      (brokenSince gapAware ops index || op.breaks gapAware) := by
  rw [brokenSince, List.zipIdx_append, List.any_append]
  simp [brokenSince, inside]

theorem brokenSince_last (gapAware : Bool) (ops : List Op) (op : Op) :
    brokenSince gapAware (ops ++ [op]) ops.length = false := by
  rw [brokenSince, List.any_eq_false]
  intro entry member
  have bound := List.snd_lt_of_mem_zipIdx member
  simp only [List.length_append, List.length_singleton, Nat.add_zero] at bound
  have notLater : ¬ ops.length < entry.2 := by omega
  simp [notLater]

theorem isSuppressed_concat (gapAware : Bool) {ops : List Op} (op : Op) {interval : Interval}
    (inside : interval.closing.index ≤ ops.length) :
    interval.isSuppressed gapAware (ops ++ [op]) = interval.isSuppressed gapAware ops := by
  rw [Interval.isSuppressed, List.zipIdx_append, List.any_append]
  have beyond : ¬ ops.length < interval.closing.index := Nat.not_lt.mpr inside
  simp [Interval.isSuppressed, beyond]

theorem isSuppressed_closing (gapAware : Bool) (ops : List Op) (op : Op) (last : Arrival)
    (time : UInt64) :
    Interval.isSuppressed gapAware (ops ++ [op])
        { opening := last, closing := { index := ops.length, time := time } } =
      brokenSince gapAware ops last.index := by
  rw [isSuppressed_concat gapAware op (Nat.le_refl _), Interval.isSuppressed, brokenSince,
    Bool.eq_iff_iff, List.any_eq_true, List.any_eq_true]
  refine exists_congr fun entry => and_congr_right fun member => ?_
  have bound := List.snd_lt_of_mem_zipIdx member
  simp only [Nat.add_zero] at bound
  simp [bound]

/-- What the operations so far say about their intervals, the next one does not
change. -/
theorem filter_intervals_concat (gapAware : Bool) (id : UInt32) (ops : List Op) (op : Op)
    (wanted : Bool → Bool) :
    ((intervals id ops).filter fun interval =>
        wanted (interval.isSuppressed gapAware (ops ++ [op]))) =
      (intervals id ops).filter fun interval => wanted (interval.isSuppressed gapAware ops) := by
  refine List.filter_congr fun interval member => ?_
  have inside := index_lt_of_mem_arrivals (mem_of_mem_intervals member).2
  rw [isSuppressed_concat gapAware op (Nat.le_of_lt inside)]

theorem measuredOf_concat_other (gapAware : Bool) {id : UInt32} {ops : List Op} {op : Op}
    (isOther : op.id? ≠ some id) :
    measuredOf gapAware id (ops ++ [op]) = measuredOf gapAware id ops := by
  rw [measuredOf, intervals_concat_other isOther]
  exact filter_intervals_concat gapAware id ops op fun isSuppressed => !isSuppressed

theorem suppressedOf_concat_other (gapAware : Bool) {id : UInt32} {ops : List Op} {op : Op}
    (isOther : op.id? ≠ some id) :
    suppressedOf gapAware id (ops ++ [op]) = suppressedOf gapAware id ops := by
  rw [suppressedOf, intervals_concat_other isOther]
  exact filter_intervals_concat gapAware id ops op fun isSuppressed => isSuppressed

section

variable {id : UInt32} {ops : List Op} {op : Op} {last : Arrival}

theorem measuredOf_concat_frame (gapAware : Bool) (isFrame : op.id? = some id)
    (isLast : (arrivals id ops).getLast? = some last) :
    measuredOf gapAware id (ops ++ [op]) = measuredOf gapAware id ops ++
      if brokenSince gapAware ops last.index then []
      else [{ opening := last, closing := { index := ops.length, time := op.time } }] := by
  rw [measuredOf, intervals_concat_frame isFrame isLast, List.filter_append,
    filter_intervals_concat gapAware id ops op fun isSuppressed => !isSuppressed,
    List.filter_singleton, isSuppressed_closing]
  cases brokenSince gapAware ops last.index <;> rfl

theorem suppressedOf_concat_frame (gapAware : Bool) (isFrame : op.id? = some id)
    (isLast : (arrivals id ops).getLast? = some last) :
    suppressedOf gapAware id (ops ++ [op]) = suppressedOf gapAware id ops ++
      if brokenSince gapAware ops last.index then
        [{ opening := last, closing := { index := ops.length, time := op.time } }]
      else [] := by
  rw [suppressedOf, intervals_concat_frame isFrame isLast, List.filter_append,
    filter_intervals_concat gapAware id ops op fun isSuppressed => isSuppressed,
    List.filter_singleton, isSuppressed_closing]
  cases brokenSince gapAware ops last.index <;> rfl

end

/-! ## Calibration -/

theorem expected_concat (settings : Settings) {measured : List Interval}
    (learned : settings.calibrate ≤ measured.length) (interval : Interval) :
    settings.expected (measured ++ [interval]) = settings.expected measured := by
  have still : settings.calibrate ≤ (measured ++ [interval]).length := by
    rw [List.length_append]
    omega
  rw [Settings.expected, Settings.expected, if_pos learned, if_pos still,
    List.take_append_of_le_length learned]

theorem flagged_concat (settings : Settings) (measured : List Interval) (interval : Interval) :
    settings.flagged (measured ++ [interval]) = settings.flagged measured ++
      if settings.calibrate ≤ measured.length ∧
        settings.threshold (settings.expected measured) < interval.dt then [interval] else [] := by
  by_cases learned : settings.calibrate ≤ measured.length
  · rw [Settings.flagged, expected_concat settings learned,
      List.drop_append_of_le_length learned, List.filter_append, List.filter_singleton,
      Settings.flagged]
    congr 1
    by_cases long : settings.threshold (settings.expected measured) < interval.dt
    · simp [learned, long]
    · simp [long]
  · have early : (measured ++ [interval]).drop settings.calibrate = [] := by
      apply List.drop_eq_nil_of_le
      rw [List.length_append, List.length_singleton]
      omega
    have earlier : measured.drop settings.calibrate = [] :=
      List.drop_eq_nil_of_le (by omega)
    rw [Settings.flagged, early, Settings.flagged, earlier]
    simp [learned]

theorem calibrateWith_next (settings : Settings) {measured : List Interval} {interval : Interval}
    (early : measured.length < settings.calibrate) {state : State}
    (samples : state.samples = (measured.take settings.calibrate).map Interval.dt)
    (expectedNs : state.stats.expectedNs = settings.expected measured) :
    state.calibrateWith settings interval.dt = { state with
      samples := ((measured ++ [interval]).take settings.calibrate).map Interval.dt
      stats := { state.stats with expectedNs := settings.expected (measured ++ [interval]) } } := by
  have grown : state.samples ++ [interval.dt] =
      ((measured ++ [interval]).take settings.calibrate).map Interval.dt := by
    rw [samples, List.take_of_length_le (Nat.le_of_lt early), List.take_of_length_le,
      List.map_append, List.map_singleton]
    rw [List.length_append, List.length_singleton]
    exact early
  have size : ((measured ++ [interval]).take settings.calibrate).length = measured.length + 1 := by
    rw [List.length_take, List.length_append, List.length_singleton]
    exact Nat.min_eq_right early
  rw [State.calibrateWith, grown, List.length_map, size]
  dsimp only
  by_cases enough : measured.length + 1 = settings.calibrate
  · have learned : settings.calibrate ≤ (measured ++ [interval]).length := by
      rw [List.length_append, List.length_singleton, enough]
    rw [if_pos enough, Settings.expected, if_pos learned, List.length_insertionSort,
      List.length_map, size, enough]
  · have unlearned : ¬ settings.calibrate ≤ (measured ++ [interval]).length := by
      rw [List.length_append, List.length_singleton]
      omega
    rw [if_neg enough, Settings.expected, if_neg unlearned]
    rw [Settings.expected, if_neg (Nat.not_le.mpr early)] at expectedNs
    rw [← expectedNs]

/-! ## The monitor keeps up -/

def stateOf (settings : Settings) (id : UInt32) (ops : List Op) : Option State :=
  (arrivals id ops).getLast?.map fun last =>
    { lastNs := last.time
      haveLast := true
      resync := brokenSince settings.gapAware ops last.index
      samples := ((measuredOf settings.gapAware id ops).take settings.calibrate).map Interval.dt
      stats := settings.statsOf id ops }

theorem stateOf_concat_other (settings : Settings) {id : UInt32} {ops : List Op} {op : Op}
    (isOther : op.id? ≠ some id) :
    stateOf settings id (ops ++ [op]) = if op.breaks settings.gapAware then
        (stateOf settings id ops).map fun state => { state with resync := true }
      else stateOf settings id ops := by
  have same : settings.statsOf id (ops ++ [op]) = settings.statsOf id ops := by
    rw [Settings.statsOf, Settings.statsOf, Settings.flaggedOf, Settings.flaggedOf,
      measuredOf_concat_other _ isOther, suppressedOf_concat_other _ isOther, arrivals_concat,
      if_neg isOther, List.append_nil]
  rw [stateOf, same, measuredOf_concat_other _ isOther, arrivals_concat, if_neg isOther,
    List.append_nil, stateOf]
  cases isLast : (arrivals id ops).getLast? with
  | none => split <;> rfl
  | some last =>
      have inside := index_lt_of_mem_arrivals (List.mem_of_getLast? isLast)
      simp only [Option.map_some, brokenSince_concat settings.gapAware op inside]
      cases op.breaks settings.gapAware
      · rw [Bool.or_false, if_neg Bool.false_ne_true]
      · rw [Bool.or_true, if_pos rfl]

theorem stateOf_first (settings : Settings) {id : UInt32} {ops : List Op} {op : Op}
    (isFrame : op.id? = some id) (isFirst : arrivals id ops = []) :
    stateOf settings id (ops ++ [op]) =
        some (((stateOf settings id ops).getD {}).observe settings op.time).1 ∧
      (((stateOf settings id ops).getD {}).observe settings op.time).2 = .first ∧
      settings.flaggedOf id (ops ++ [op]) = settings.flaggedOf id ops ∧
      suppressedOf settings.gapAware id (ops ++ [op]) = suppressedOf settings.gapAware id ops := by
  have arrived : arrivals id (ops ++ [op]) = [{ index := ops.length, time := op.time }] := by
    rw [arrivals_concat, isFirst, if_pos isFrame]
    rfl
  have before : intervals id ops = [] := by
    rw [intervals, isFirst]
    rfl
  have after : intervals id (ops ++ [op]) = [] := by
    rw [intervals, arrived]
    rfl
  have measured (gapAware : Bool) : measuredOf gapAware id (ops ++ [op]) = [] := by
    rw [measuredOf, after]
    rfl
  have nothing : stateOf settings id ops = none := by
    rw [stateOf, isFirst]
    rfl
  refine ⟨?_, by rw [nothing]; rfl, ?_, ?_⟩
  · rw [nothing, stateOf, Settings.statsOf, Settings.flaggedOf, measured, suppressedOf, after,
      arrived]
    simp only [List.getLast?_singleton, Option.map_some, brokenSince_last]
    simp [Settings.flagged, Settings.expected, State.observe]
  · rw [Settings.flaggedOf, measured, Settings.flaggedOf, measuredOf, before]
    rfl
  · rw [suppressedOf, after, suppressedOf, before]
    rfl

def Settings.outcome (settings : Settings) (broken : Bool) (measured : List Interval)
    (interval : Interval) : Outcome :=
  if broken = true then .suppressed
  else if measured.length < settings.calibrate then .calibrating
  else if settings.threshold (settings.expected measured) < interval.dt then .anomaly
  else .regular

section

variable (settings : Settings) {id : UInt32} {ops : List Op} {op : Op} {last : Arrival}

theorem lists_concat_frame (isFrame : op.id? = some id)
    (isLast : (arrivals id ops).getLast? = some last) {interval : Interval}
    (closes : interval = { opening := last, closing := { index := ops.length, time := op.time } })
    {outcome : Outcome}
    (becomes : outcome = settings.outcome (brokenSince settings.gapAware ops last.index)
      (measuredOf settings.gapAware id ops) interval) :
    settings.flaggedOf id (ops ++ [op]) = settings.flaggedOf id ops ++
        (if outcome = .anomaly then [interval] else []) ∧
      suppressedOf settings.gapAware id (ops ++ [op]) = suppressedOf settings.gapAware id ops ++
        (if outcome = .suppressed then [interval] else []) := by
  rw [Settings.flaggedOf, Settings.flaggedOf, measuredOf_concat_frame _ isFrame isLast,
    suppressedOf_concat_frame _ isFrame isLast, ← closes]
  subst becomes
  unfold Settings.outcome
  by_cases broken : brokenSince settings.gapAware ops last.index = true
  · simp [broken]
  · by_cases early : (measuredOf settings.gapAware id ops).length < settings.calibrate
    · simp [broken, early, flagged_concat, Nat.not_le.mpr early]
    · by_cases long : settings.threshold (settings.expected (measuredOf settings.gapAware id ops)) <
          interval.dt
      · simp [broken, early, flagged_concat, Nat.not_lt.mp early, long]
      · simp [broken, early, flagged_concat, long]

theorem stateOf_next (isFrame : op.id? = some id)
    (isLast : (arrivals id ops).getLast? = some last) {interval : Interval}
    (closes : interval = { opening := last, closing := { index := ops.length, time := op.time } }) :
    stateOf settings id (ops ++ [op]) =
        some (((stateOf settings id ops).getD {}).observe settings op.time).1 ∧
      (((stateOf settings id ops).getD {}).observe settings op.time).2 =
        settings.outcome (brokenSince settings.gapAware ops last.index)
          (measuredOf settings.gapAware id ops) interval := by
  rcases lists_concat_frame settings isFrame isLast closes rfl with ⟨flagged, suppressed⟩
  have now : (arrivals id (ops ++ [op])).getLast? =
      some { index := ops.length, time := op.time } := by
    rw [arrivals_concat, if_pos isFrame, List.getLast?_append]
    rfl
  have frames : (arrivals id (ops ++ [op])).length = (arrivals id ops).length + 1 := by
    rw [arrivals_concat, if_pos isFrame, List.length_append]
    rfl
  have dt : (if last.time < op.time then op.time - last.time else 0) = interval.dt := by
    rw [closes]
    rfl
  have measured := measuredOf_concat_frame settings.gapAware isFrame isLast
  rw [← closes] at measured
  rw [stateOf, stateOf, isLast, now]
  simp only [Option.map_some, Option.getD_some, brokenSince_last, Settings.statsOf, flagged,
    suppressed, frames, measured, State.observe, dt]
  unfold Settings.outcome
  by_cases broken : brokenSince settings.gapAware ops last.index = true
  · simp [broken, UInt64.ofNat_add]
  · by_cases early : (measuredOf settings.gapAware id ops).length < settings.calibrate
    · have few : (((measuredOf settings.gapAware id ops).take settings.calibrate).map
          Interval.dt).length < settings.calibrate := by
        rw [List.length_map, List.length_take]
        omega
      simp only [broken, few, if_true, early]
      rw [calibrateWith_next settings early rfl rfl]
      simp [UInt64.ofNat_add]
    · have learned := Nat.not_lt.mp early
      have same := expected_concat settings learned interval
      by_cases long : settings.threshold (settings.expected (measuredOf settings.gapAware id ops)) <
          interval.dt
      · simp [broken, early, long, UInt64.ofNat_add, learned, same]
      · simp [broken, early, long, UInt64.ofNat_add, learned, same]

end

theorem Op.breaks_of_frame {op : Op} {id : UInt32} (isFrame : op.id? = some id) (gapAware : Bool) :
    op.breaks gapAware = false := by
  cases op with
  | resetAll => cases isFrame
  | record frame =>
      simp only [Op.id?] at isFrame
      split at isFrame
      · cases isFrame
      · rename_i notGap
        simp [Op.breaks, notGap]

theorem stateOf_concat_frame (settings : Settings) {id : UInt32} {ops : List Op} {op : Op}
    (isFrame : op.id? = some id) :
    stateOf settings id (ops ++ [op]) =
        some (((stateOf settings id ops).getD {}).observe settings op.time).1 ∧
      ∃ interval : Interval, interval.closing.index = ops.length ∧
        settings.flaggedOf id (ops ++ [op]) = settings.flaggedOf id ops ++
          (if (((stateOf settings id ops).getD {}).observe settings op.time).2 = .anomaly then
            [interval] else []) ∧
        suppressedOf settings.gapAware id (ops ++ [op]) =
          suppressedOf settings.gapAware id ops ++
            (if (((stateOf settings id ops).getD {}).observe settings op.time).2 = .suppressed then
              [interval] else []) := by
  cases isLast : (arrivals id ops).getLast? with
  | none =>
      rcases stateOf_first settings isFrame (List.getLast?_eq_none_iff.mp isLast) with
        ⟨state, outcome, flagged, suppressed⟩
      refine ⟨state, ⟨⟨0, 0⟩, ⟨ops.length, op.time⟩⟩, rfl, ?_⟩
      rw [outcome, flagged, suppressed]
      simp
  | some last =>
      rcases stateOf_next settings isFrame isLast rfl with ⟨state, outcome⟩
      exact ⟨state, _, rfl, lists_concat_frame settings isFrame isLast rfl outcome⟩

theorem ids_applyAll {monitor : CadenceMonitor} (fresh : monitor.ids = fun _ => none)
    (ops : List Op) (id : UInt32) :
    (monitor.applyAll ops).ids id = stateOf monitor.toSettings id ops := by
  induction ops using List.reverseRecOn generalizing id with
  | nil =>
      change monitor.ids id = _
      rw [fresh]
      rfl
  | append_singleton ops op induction =>
      have settings := monitor.toSettings_applyAll ops
      rw [applyAll_concat]
      cases isFrame : op.id? with
      | none =>
          rw [(apply_other _ isFrame id).1, stateOf_concat_other _ (by rw [isFrame]; simp),
            induction, settings]
      | some owner =>
          rw [(apply_frame _ isFrame).1, settings]
          by_cases same : id = owner
          · subst same
            rw [Function.update_self, induction, (stateOf_concat_frame _ isFrame).1]
          · rw [Function.update_of_ne same, induction,
              stateOf_concat_other _ (by rw [isFrame]; exact fun equal => same (by cases equal; rfl)),
              op.breaks_of_frame isFrame]
            rfl

/-! ## Verdicts -/

theorem closing_lt_of_mem_flaggedOf {settings : Settings} {id : UInt32} {ops : List Op}
    {interval : Interval} (member : interval ∈ settings.flaggedOf id ops) :
    interval.closing.index < ops.length :=
  index_lt_of_mem_arrivals (mem_of_mem_intervals
    (List.mem_of_mem_filter (List.mem_of_mem_drop (List.mem_of_mem_filter member)))).2

theorem flaggedOf_concat_other (settings : Settings) {id : UInt32} {ops : List Op} {op : Op}
    (isOther : op.id? ≠ some id) :
    settings.flaggedOf id (ops ++ [op]) = settings.flaggedOf id ops := by
  rw [Settings.flaggedOf, measuredOf_concat_other _ isOther, Settings.flaggedOf]

theorem flaggedOf_concat {monitor : CadenceMonitor} (fresh : monitor.ids = fun _ => none)
    (ops : List Op) (op : Op) (id : UInt32) :
    ∃ interval : Interval, interval.closing.index = ops.length ∧
      monitor.flaggedOf id (ops ++ [op]) = monitor.flaggedOf id ops ++
        if op.id? = some id ∧ ((monitor.applyAll ops).apply op).2 = true then [interval]
        else [] := by
  by_cases isFrame : op.id? = some id
  · rcases (@stateOf_concat_frame monitor.toSettings id ops op isFrame).2 with
      ⟨interval, closes, flagged, _⟩
    refine ⟨interval, closes, ?_⟩
    rw [flagged, (apply_frame _ isFrame).2, ids_applyAll fresh, toSettings_applyAll]
    simp [isFrame]
  · refine ⟨⟨⟨0, 0⟩, ⟨ops.length, 0⟩⟩, rfl, ?_⟩
    rw [flaggedOf_concat_other _ isFrame]
    simp [isFrame]

theorem verdicts_iff {monitor : CadenceMonitor} (fresh : monitor.ids = fun _ => none)
    (ops : List Op) (index : Nat) :
    (monitor.verdicts ops)[index]? = some true ↔
      ∃ id, ∃ interval ∈ monitor.flaggedOf id ops, interval.closing.index = index := by
  induction ops using List.reverseRecOn with
  | nil => simp [verdicts, Settings.flaggedOf, measuredOf, intervals, arrivals, Settings.flagged]
  | append_singleton ops op induction =>
      rw [verdicts_concat]
      rcases Nat.lt_trichotomy index ops.length with earlier | now | beyond
      · rw [List.getElem?_append_left (by rw [length_verdicts]; exact earlier), induction]
        refine exists_congr fun id => ?_
        rcases flaggedOf_concat fresh ops op id with ⟨new, closes, flagged⟩
        rw [flagged]
        constructor
        · rintro ⟨interval, member, same⟩
          exact ⟨interval, List.mem_append_left _ member, same⟩
        · rintro ⟨interval, member, same⟩
          rcases List.mem_append.mp member with old | added
          · exact ⟨interval, old, same⟩
          · split at added
            · rw [List.mem_singleton.mp added] at same
              omega
            · cases added
      · subst now
        rw [List.getElem?_append_right (by rw [length_verdicts]), length_verdicts, Nat.sub_self]
        constructor
        · intro answered
          have isTrue : ((monitor.applyAll ops).apply op).2 = true := by
            simpa using answered
          cases isFrame : op.id? with
          | none =>
              rw [(apply_other _ isFrame 0).2] at isTrue
              cases isTrue
          | some id =>
              rcases flaggedOf_concat fresh ops op id with ⟨new, closes, flagged⟩
              refine ⟨id, new, ?_, closes⟩
              rw [flagged, if_pos ⟨isFrame, isTrue⟩]
              exact List.mem_append_right _ (List.mem_singleton.mpr rfl)
        · rintro ⟨id, interval, member, same⟩
          rcases flaggedOf_concat fresh ops op id with ⟨new, _, flagged⟩
          rw [flagged] at member
          rcases List.mem_append.mp member with old | added
          · exact absurd (closing_lt_of_mem_flaggedOf old) (by omega)
          · split at added
            · rename_i answered
              simp [answered.2]
            · cases added
      · constructor
        · intro answered
          rw [List.getElem?_eq_none] at answered
          · cases answered
          · rw [List.length_append, length_verdicts, List.length_singleton]
            exact beyond
        · rintro ⟨id, interval, member, same⟩
          have bound := closing_lt_of_mem_flaggedOf member
          rw [List.length_append, List.length_singleton] at bound
          omega

/-! ## Totals -/

def idsOf (ops : List Op) : Finset UInt32 :=
  (ops.filterMap Op.id?).toFinset

theorem sum_insert_grown [DecidableEq ι] {keys : Finset ι} {key : ι} {before after : ι → Nat}
    {more : Nat} (others : ∀ other, other ≠ key → after other = before other)
    (grown : after key = before key + more) (fresh : key ∉ keys → before key = 0) :
    ∑ key ∈ insert key keys, after key = ∑ key ∈ keys, before key + more := by
  by_cases member : key ∈ keys
  · rw [Finset.insert_eq_of_mem member, ← Finset.add_sum_erase _ _ member,
      ← Finset.add_sum_erase _ before member, grown,
      Finset.sum_congr rfl fun other found => others other (Finset.ne_of_mem_erase found)]
    exact Nat.add_right_comm ..
  · rw [Finset.sum_insert member, grown, fresh member,
      Finset.sum_congr rfl fun other found =>
        others other fun same => member (same ▸ found), Nat.zero_add]
    exact Nat.add_comm ..

theorem total_insert_grown [DecidableEq ι] {keys : Finset ι} {key : ι} {before after : ι → List T}
    {item : T} {grows : Prop} [Decidable grows]
    (others : ∀ other, other ≠ key → after other = before other)
    (grown : after key = before key ++ if grows then [item] else [])
    (fresh : key ∉ keys → before key = []) :
    UInt64.ofNat (∑ key ∈ insert key keys, (after key).length) =
      UInt64.ofNat (∑ key ∈ keys, (before key).length) + if grows then 1 else 0 := by
  have total : ∑ key ∈ insert key keys, (after key).length =
      ∑ key ∈ keys, (before key).length + if grows then 1 else 0 := by
    apply sum_insert_grown
    · intro other apart
      rw [others other apart]
    · rw [grown, List.length_append]
      split <;> rfl
    · intro missing
      rw [fresh missing, List.length_nil]
  rw [total, UInt64.ofNat_add]
  split <;> rfl

theorem empty_of_absent (settings : Settings) {id : UInt32} {ops : List Op}
    (absent : id ∉ idsOf ops) :
    arrivals id ops = [] ∧ settings.flaggedOf id ops = [] ∧
      suppressedOf settings.gapAware id ops = [] := by
  have nothing : arrivals id ops = [] := by
    refine List.filterMap_eq_nil_iff.mpr ?_
    intro entry member
    rw [if_neg]
    intro isFrame
    refine absent (List.mem_toFinset.mpr (List.mem_filterMap.mpr ⟨entry.1, ?_, isFrame⟩))
    exact (List.mem_zipIdx_iff_getElem?.mp member) |> List.mem_of_getElem?
  have none : intervals id ops = [] := by
    rw [intervals, nothing]
    rfl
  refine ⟨nothing, ?_, ?_⟩
  · rw [Settings.flaggedOf, measuredOf, none]
    simp [Settings.flagged]
  · rw [suppressedOf, none]
    rfl

structure Sums (monitor : CadenceMonitor) (settings : Settings) (ops : List Op) : Prop where
  frames : monitor.frames = UInt64.ofNat (∑ id ∈ idsOf ops, (arrivals id ops).length)
  suppressed : monitor.suppressed =
    UInt64.ofNat (∑ id ∈ idsOf ops, (suppressedOf settings.gapAware id ops).length)
  anomalies : monitor.anomalies =
    UInt64.ofNat (∑ id ∈ idsOf ops, (settings.flaggedOf id ops).length)

theorem sums_applyAll {calibrationSamples : Nat} {threshold : UInt64 → UInt64} {gapAware : Bool}
    (ops : List Op) :
    Sums ((create calibrationSamples threshold gapAware).applyAll ops)
      (create calibrationSamples threshold gapAware).toSettings ops := by
  generalize created : create calibrationSamples threshold gapAware = monitor
  have fresh : monitor.ids = fun _ => none := by
    rw [← created]
    rfl
  induction ops using List.reverseRecOn with
  | nil =>
      subst created
      exact ⟨rfl, rfl, rfl⟩
  | append_singleton ops op induction =>
      rw [applyAll_concat]
      cases isFrame : op.id? with
      | none =>
          have others (id : UInt32) : op.id? ≠ some id := by
            rw [isFrame]
            exact fun impossible => nomatch impossible
          have same : idsOf (ops ++ [op]) = idsOf ops := by
            simp [idsOf, isFrame]
          rcases totals_other (monitor.applyAll ops) isFrame with ⟨frames, suppressed, anomalies⟩
          constructor
          · rw [frames, induction.frames, same]
            simp only [arrivals_concat, if_neg (others _), List.append_nil]
          · rw [suppressed, induction.suppressed, same]
            simp only [suppressedOf_concat_other _ (others _)]
          · rw [anomalies, induction.anomalies, same]
            simp only [flaggedOf_concat_other _ (others _)]
      | some id =>
          have others {other : UInt32} (apart : other ≠ id) : op.id? ≠ some other := by
            rw [isFrame]
            exact fun same => apart (by cases same; rfl)
          have keys : idsOf (ops ++ [op]) = insert id (idsOf ops) := by
            ext key
            simp [idsOf, isFrame]
          have absent := @empty_of_absent monitor.toSettings id ops
          rcases (@stateOf_concat_frame monitor.toSettings id ops op isFrame).2 with
            ⟨interval, _, flagged, suppressed⟩
          rcases totals_frame (monitor.applyAll ops) isFrame rfl with
            ⟨framesTotal, suppressedTotal, anomaliesTotal⟩
          rw [ids_applyAll fresh, toSettings_applyAll] at suppressedTotal anomaliesTotal
          generalize becomes : (((stateOf monitor.toSettings id ops).getD {}).observe
            monitor.toSettings op.time).2 = outcome at *
          constructor
          case frames =>
            have grown : ∑ key ∈ insert id (idsOf ops), (arrivals key (ops ++ [op])).length =
                ∑ key ∈ idsOf ops, (arrivals key ops).length + 1 := by
              apply sum_insert_grown
              · intro other apart
                rw [arrivals_concat, if_neg (others apart), List.append_nil]
              · rw [arrivals_concat, if_pos isFrame, List.length_append, List.length_singleton]
              · intro missing
                rw [(absent missing).1, List.length_nil]
            rw [framesTotal, induction.frames, keys, grown, UInt64.ofNat_add]
            rfl
          case suppressed =>
            have grown := total_insert_grown
              (fun other apart => suppressedOf_concat_other monitor.gapAware (others apart))
              suppressed fun missing => (absent missing).2.2
            rw [suppressedTotal, induction.suppressed, keys, grown]
          case anomalies =>
            have grown := total_insert_grown
              (fun other apart => flaggedOf_concat_other monitor.toSettings (others apart))
              flagged fun missing => (absent missing).2.1
            rw [anomaliesTotal, induction.anomalies, keys, grown]

/-! ## One id at a time -/

def verdictsOf (id : UInt32) (monitor : CadenceMonitor) : List Op → List Bool
  | [] => []
  | op :: ops =>
      (if op.id? = some id then [(monitor.apply op).2] else []) ++
        verdictsOf id (monitor.apply op).1 ops

def Op.concerns (id : UInt32) (op : Op) : Bool :=
  op.id? = none || op.id? = some id

/-- Frames of other ids do not touch an id, and the rest touches it whatever the
others are. -/
theorem verdictsOf_filter {id : UInt32} {monitor other : CadenceMonitor}
    (settings : monitor.toSettings = other.toSettings) (same : monitor.ids id = other.ids id)
    (ops : List Op) :
    verdictsOf id monitor ops = verdictsOf id other (ops.filter fun op => op.concerns id) := by
  induction ops generalizing monitor other with
  | nil => rfl
  | cons op ops induction =>
      have stay : (monitor.apply op).1.toSettings = other.toSettings :=
        (toSettings_apply monitor op).trans settings
      have both : (monitor.apply op).1.toSettings = (other.apply op).1.toSettings :=
        stay.trans (toSettings_apply other op).symm
      cases isFrame : op.id? with
      | none =>
          rw [List.filter_cons_of_pos (by simp [Op.concerns, isFrame]), verdictsOf, verdictsOf,
            isFrame]
          refine congrArg _ (induction both ?_)
          rw [(apply_other monitor isFrame id).1, (apply_other other isFrame id).1, same,
            show monitor.gapAware = other.gapAware from congrArg Settings.gapAware settings]
      | some owner =>
          by_cases mine : owner = id
          · subst mine
            rw [List.filter_cons_of_pos (by simp [Op.concerns, isFrame]), verdictsOf, verdictsOf,
              (apply_frame monitor isFrame).2, (apply_frame other isFrame).2, same, settings]
            refine congrArg _ (induction both ?_)
            rw [(apply_frame monitor isFrame).1, (apply_frame other isFrame).1,
              Function.update_self, Function.update_self, same, settings]
          · have notMine : ¬ (some owner = some id) := fun equal => mine (by cases equal; rfl)
            rw [List.filter_cons_of_neg (by simp [Op.concerns, isFrame, mine]), verdictsOf, isFrame,
              if_neg notMine]
            refine induction stay ?_
            rw [(apply_frame monitor isFrame).1, Function.update_of_ne (Ne.symm mine), same]

/-! ## The monitor and the rule -/

structure FollowsRule (monitor : CadenceMonitor) (ops : List Op) : Prop where
  verdicts : ∀ index, (monitor.verdicts ops)[index]? = some true ↔
    ∃ id, ∃ interval ∈ monitor.flaggedOf id ops, interval.closing.index = index
  perId : ∀ id, (monitor.applyAll ops).perId id =
    if arrivals id ops = [] then none else some (monitor.statsOf id ops)
  sums : (monitor.applyAll ops).Sums monitor.toSettings ops
  markers : (monitor.applyAll ops).markers = UInt64.ofNat (ops.countP Op.isMarker)
  reportedLost : (monitor.applyAll ops).reportedLost = (ops.map Op.lost).sum
  independent : ∀ id, verdictsOf id monitor ops =
    verdictsOf id monitor (ops.filter fun op => op.concerns id)

/-- The rule is that of what the constructor is asked for: `calibrate` is its
number of samples, but at least two, and the threshold, which is that of a factor
of at least one, and `gapAware` are the arguments themselves. -/
theorem cadence_follows_rule (calibrationSamples : Nat) (threshold : UInt64 → UInt64)
    (gapAware : Bool) (ops : List Op) :
    FollowsRule (create calibrationSamples threshold gapAware) ops := by
  rcases markers_applyAll (create calibrationSamples threshold gapAware) ops with
    ⟨markers, reportedLost⟩
  constructor
  case verdicts => exact verdicts_iff rfl ops
  case perId =>
    intro id
    rw [CadenceMonitor.perId, ids_applyAll rfl, stateOf]
    cases isLast : (arrivals id ops).getLast? with
    | none => rw [if_pos (List.getLast?_eq_none_iff.mp isLast)]; rfl
    | some last =>
        have some : arrivals id ops ≠ [] := by
          intro none
          rw [none] at isLast
          cases isLast
        rw [if_neg some]
        rfl
  case sums => exact sums_applyAll ops
  case markers => exact markers.trans (UInt64.zero_add _)
  case reportedLost => exact reportedLost.trans (UInt64.zero_add _)
  case independent => exact fun id => verdictsOf_filter rfl rfl ops

end TelemetryGateway.CadenceMonitor
