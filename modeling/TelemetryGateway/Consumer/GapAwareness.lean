import TelemetryGateway.Consumer.CadenceRule

/-! # What gap awareness changes

Two monitors of one stream, one that heeds markers and one that does not. Once
every id is calibrated before the first marker they have learned the same
periods, and they differ only about intervals that a marker falls into. -/

namespace TelemetryGateway.CadenceMonitor

/-! ## Filtering behind a first part -/

theorem filter_take_drop (keep : α → Bool) {values : List α} {count : Nat}
    (kept : ∀ value ∈ values.take count, keep value = true) :
    values.filter keep = values.take count ++ (values.drop count).filter keep := by
  conv_lhs => rw [← List.take_append_drop count values]
  rw [List.filter_append, List.filter_eq_self.mpr kept]

theorem expected_filter (settings : Settings) {measured : List Interval} {keep : Interval → Bool}
    (kept : ∀ interval ∈ measured.take settings.calibrate, keep interval = true)
    (learned : settings.calibrate ≤ measured.length) :
    settings.expected (measured.filter keep) = settings.expected measured := by
  have front : (measured.take settings.calibrate).length = settings.calibrate := by
    rw [List.length_take]
    exact Nat.min_eq_left learned
  have still : settings.calibrate ≤ (measured.filter keep).length := by
    rw [filter_take_drop keep kept, List.length_append]
    omega
  have sameTake : (measured.filter keep).take settings.calibrate =
      measured.take settings.calibrate := by
    rw [filter_take_drop keep kept, List.take_append_of_le_length (Nat.le_of_eq front.symm),
      List.take_take, Nat.min_self]
  rw [Settings.expected, Settings.expected, if_pos still, if_pos learned, sameTake]

/-- Beyond calibration, leaving out an interval leaves it out of the flagged
ones. -/
theorem flagged_filter (settings : Settings) {measured : List Interval} {keep : Interval → Bool}
    (kept : ∀ interval ∈ measured.take settings.calibrate, keep interval = true)
    (learned : settings.calibrate ≤ measured.length) :
    settings.flagged (measured.filter keep) = (settings.flagged measured).filter keep := by
  have front : (measured.take settings.calibrate).length = settings.calibrate := by
    rw [List.length_take]
    exact Nat.min_eq_left learned
  have behind : (measured.filter keep).drop settings.calibrate =
      (measured.drop settings.calibrate).filter keep := by
    rw [filter_take_drop keep kept, List.drop_append_of_le_length (Nat.le_of_eq front.symm),
      List.drop_of_length_le (Nat.le_of_eq front), List.nil_append]
  rw [Settings.flagged, expected_filter settings kept learned, behind, Settings.flagged,
    List.filter_filter, List.filter_filter]
  exact List.filter_congr fun _ _ => Bool.and_comm ..

/-! ## Intervals and positions -/

theorem frame_of_mem_arrivals {id : UInt32} {ops : List Op} {arrival : Arrival}
    (member : arrival ∈ arrivals id ops) :
    ∃ op, ops[arrival.index]? = some op ∧ op.id? = some id := by
  rcases List.mem_filterMap.mp member with ⟨entry, found, same⟩
  split at same
  · rename_i isFrame
    cases same
    exact ⟨entry.1, List.mem_zipIdx_iff_getElem?.mp found, isFrame⟩
  · cases same

theorem arrivals_ascending (id : UInt32) (ops : List Op) :
    (arrivals id ops).Pairwise fun earlier later => earlier.index < later.index := by
  induction ops using List.reverseRecOn with
  | nil => exact List.Pairwise.nil
  | append_singleton ops op induction =>
      rw [arrivals_concat]
      split
      · refine List.pairwise_append.mpr ⟨induction, List.pairwise_singleton _ _, ?_⟩
        intro earlier member last isLast
        rw [List.mem_singleton.mp isLast]
        exact index_lt_of_mem_arrivals member
      · rw [List.append_nil]
        exact induction

theorem interval_of_closing {id other : UInt32} {ops : List Op} {left right : Interval}
    (leftMember : left ∈ intervals id ops) (rightMember : right ∈ intervals other ops)
    (same : left.closing.index = right.closing.index) : id = other ∧ left = right := by
  rcases frame_of_mem_arrivals (mem_of_mem_intervals leftMember).2 with ⟨op, isOp, isFrame⟩
  rcases frame_of_mem_arrivals (mem_of_mem_intervals rightMember).2 with ⟨again, isAgain, alike⟩
  rw [same, isAgain] at isOp
  cases isOp
  rw [alike] at isFrame
  cases isFrame
  refine ⟨rfl, ?_⟩
  have closings : (intervals id ops).map (fun interval => interval.closing.index) =
      (arrivals id ops).tail.map Arrival.index := by
    rw [intervals, List.map_zipWith]
    refine List.ext_getElem ?_ fun position _ _ => ?_
    · rw [length_zipWith_tail, List.length_map, List.length_tail]
    · rw [List.getElem_zipWith, List.getElem_map]
  have distinct : ((intervals id ops).map fun interval => interval.closing.index).Nodup := by
    rw [closings]
    refine List.Pairwise.map _ (fun _ _ ascending => Nat.ne_of_lt ascending) ?_
    exact List.Pairwise.tail (arrivals_ascending id ops)
  exact List.inj_on_of_nodup_map distinct leftMember rightMember same

theorem arrivals_append (id : UInt32) (ops later : List Op) :
    ∃ more, arrivals id (ops ++ later) = arrivals id ops ++ more := by
  rw [arrivals, List.zipIdx_append, List.filterMap_append]
  exact ⟨_, rfl⟩

theorem take_intervals_append (id : UInt32) {ops : List Op} (later : List Op) {count : Nat}
    (enough : count ≤ (intervals id ops).length) :
    (intervals id (ops ++ later)).take count = (intervals id ops).take count := by
  rcases arrivals_append id ops later with ⟨more, appended⟩
  have size : (intervals id ops).length = (arrivals id ops).length - 1 :=
    length_zipWith_tail _ _
  refine List.ext_getElem? fun position => ?_
  rw [List.getElem?_take, List.getElem?_take]
  split
  · rename_i inside
    have first : position < (arrivals id ops).length := by omega
    have second : position + 1 < (arrivals id ops).length := by omega
    simp only [intervals, List.getElem?_zipWith, List.getElem?_tail, appended,
      List.getElem?_append_left first, List.getElem?_append_left second]
  · rfl

/-! ## A stream without resets -/

def stream (records : List Frame) : List Op :=
  records.map Op.record

/-- A marker lies between the two frames. -/
def Interval.SpansMarker (records : List Frame) (interval : Interval) : Prop :=
  ∃ position marker, interval.opening.index < position ∧ position < interval.closing.index ∧
    records[position]? = some marker ∧ Wire.isGap marker = true

theorem isSuppressed_blind (records : List Frame) (interval : Interval) :
    interval.isSuppressed false (stream records) = false := by
  rw [Interval.isSuppressed, List.any_eq_false]
  intro entry member
  have found := List.mem_of_getElem? (List.mem_zipIdx_iff_getElem?.mp member)
  rcases List.mem_map.mp found with ⟨frame, _, isRecord⟩
  rw [← isRecord]
  simp [Op.breaks]

theorem isSuppressed_aware (records : List Frame) (interval : Interval) :
    interval.isSuppressed true (stream records) = true ↔ interval.SpansMarker records := by
  rw [Interval.isSuppressed, List.any_eq_true]
  constructor
  · rintro ⟨entry, member, found⟩
    have isOp := List.mem_zipIdx_iff_getElem?.mp member
    simp only [Bool.and_eq_true, decide_eq_true_eq] at found
    rw [stream, List.getElem?_map] at isOp
    rcases Option.map_eq_some_iff.mp isOp with ⟨marker, isMarker, isRecord⟩
    rw [← isRecord] at found
    exact ⟨entry.2, marker, found.1, found.2.1, isMarker, by simpa [Op.breaks] using found.2.2⟩
  · rintro ⟨position, marker, after, before, isMarker, gap⟩
    refine ⟨(.record marker, position), List.mem_zipIdx_iff_getElem?.mpr ?_, ?_⟩
    · rw [stream, List.getElem?_map, isMarker]
      rfl
    · simp [Op.breaks, after, before, gap]

/-! ## Calibration before the first marker -/

/-- Every id of the stream has completed calibration when the first marker
comes. -/
def CalibratedFirst (monitor : CadenceMonitor) (records : List Frame) : Prop :=
  ∀ before marker after, records = before ++ marker :: after → Wire.isGap marker = true →
    (∀ frame ∈ before, Wire.isGap frame = false) →
    ∀ frame ∈ records, Wire.isGap frame = false →
      ∃ state, (monitor.applyAll (stream before)).ids frame.canId = some state ∧
        monitor.calibrate ≤ state.samples.length

section

variable {monitor : CadenceMonitor} {records : List Frame}

theorem not_spansMarker_of_quiet {before after : List Frame}
    (quiet : ∀ frame ∈ before, Wire.isGap frame = false) {interval : Interval}
    (closed : interval.closing.index < before.length) :
    ¬ interval.SpansMarker (before ++ after) := by
  rintro ⟨position, marker, _, inside, isMarker, gap⟩
  rw [List.getElem?_append_left (by omega)] at isMarker
  rw [quiet marker (List.mem_of_getElem? isMarker)] at gap
  cases gap

/-- Either no interval of the id spans a marker, or the first ones that the
period is learned from do not. -/
theorem CalibratedFirst.front (calibrated : CalibratedFirst monitor records)
    (fresh : monitor.ids = fun _ => none) (id : UInt32) :
    (∀ interval ∈ intervals id (stream records), ¬ interval.SpansMarker records) ∨
      monitor.calibrate ≤ (intervals id (stream records)).length ∧
        ∀ interval ∈ (intervals id (stream records)).take monitor.calibrate,
          ¬ interval.SpansMarker records := by
  cases first : records.find? Wire.isGap with
  | none =>
      left
      rintro interval _ ⟨position, marker, _, _, isMarker, gap⟩
      exact List.find?_eq_none.mp first marker (List.mem_of_getElem? isMarker) gap
  | some marker =>
      rcases List.find?_eq_some_iff_append.mp first with ⟨gap, before, after, split, quiet⟩
      have silent : ∀ frame ∈ before, Wire.isGap frame = false := by
        intro frame member
        simpa using quiet frame member
      by_cases occurs : arrivals id (stream records) = []
      · left
        intro interval member
        rw [intervals, occurs] at member
        cases member
      · right
        rcases List.exists_mem_of_ne_nil _ occurs with ⟨arrival, arrived⟩
        rcases frame_of_mem_arrivals arrived with ⟨op, isOp, isFrame⟩
        rw [stream, List.getElem?_map] at isOp
        rcases Option.map_eq_some_iff.mp isOp with ⟨frame, isRecord, rfl⟩
        simp only [Op.id?] at isFrame
        split at isFrame
        · cases isFrame
        · rename_i notGap
          cases isFrame
          rcases calibrated before marker after split gap silent frame
            (List.mem_of_getElem? isRecord) (by simpa using notGap) with ⟨state, isState, learned⟩
          rw [ids_applyAll fresh, stateOf] at isState
          rcases Option.map_eq_some_iff.mp isState with ⟨last, _, rfl⟩
          have enough : monitor.calibrate ≤ (intervals frame.canId (stream before)).length := by
            simp only [List.length_map, List.length_take] at learned
            have fewer := List.length_filter_le
              (fun interval => !Interval.isSuppressed monitor.gapAware (stream before) interval)
              (intervals frame.canId (stream before))
            rw [measuredOf] at learned
            omega
          have streamed : stream records = stream before ++ stream (marker :: after) := by
            rw [split, stream, List.map_append]
            rfl
          have front := take_intervals_append frame.canId (stream (marker :: after)) enough
          rw [← streamed] at front
          constructor
          · have shorter := congrArg List.length front
            rw [List.length_take, List.length_take] at shorter
            omega
          · intro interval member
            rw [front] at member
            rw [split]
            refine not_spansMarker_of_quiet silent ?_
            have closed := index_lt_of_mem_arrivals
              (mem_of_mem_intervals (List.mem_of_mem_take member)).2
            simpa [stream] using closed

end

/-! ## Both monitors -/

/-- The record at `index` is answered with an anomaly. -/
def Flags (monitor : CadenceMonitor) (records : List Frame) (index : Nat) : Prop :=
  (monitor.verdicts (stream records))[index]? = some true

def learned (monitor : CadenceMonitor) (records : List Frame) (id : UInt32) : UInt64 :=
  (((monitor.applyAll (stream records)).perId id).getD {}).expectedNs

theorem learned_eq_expected {monitor : CadenceMonitor} (fresh : monitor.ids = fun _ => none)
    (records : List Frame) (id : UInt32) :
    monitor.learned records id =
      monitor.expected (measuredOf monitor.gapAware id (stream records)) := by
  rw [learned, perId, ids_applyAll fresh, stateOf]
  cases isLast : (arrivals id (stream records)).getLast? with
  | some last => rfl
  | none =>
      have nothing : measuredOf monitor.gapAware id (stream records) = [] := by
        rw [measuredOf, intervals, List.getLast?_eq_none_iff.mp isLast]
        rfl
      simp [nothing, Settings.expected]

section

variable {calibrationSamples : Nat} {threshold : UInt64 → UInt64} {records : List Frame}

theorem measuredOf_blind (id : UInt32) :
    measuredOf false id (stream records) = intervals id (stream records) := by
  rw [measuredOf]
  refine List.filter_eq_self.mpr fun interval _ => ?_
  rw [isSuppressed_blind]
  rfl

theorem not_isSuppressed_aware {interval : Interval}
    (spared : ¬ interval.SpansMarker records) :
    (!interval.isSuppressed true (stream records)) = true := by
  cases suppressed : interval.isSuppressed true (stream records) with
  | false => rfl
  | true => exact absurd ((isSuppressed_aware records interval).mp suppressed) spared

theorem mem_intervals_of_flagged {settings : Settings} {gapAware : Bool} {id : UInt32}
    {ops : List Op} {interval : Interval}
    (member : interval ∈ settings.flagged (measuredOf gapAware id ops)) :
    interval ∈ intervals id ops :=
  List.mem_of_mem_filter (List.mem_of_mem_drop (List.mem_of_mem_filter member))

/-- They learn one period, and what the aware one flags are the blind one's
intervals without a marker. -/
theorem CalibratedFirst.aware_eq_blind
    (calibrated : CalibratedFirst (create calibrationSamples threshold true) records)
    (id : UInt32) :
    (create calibrationSamples threshold true).learned records id =
        (create calibrationSamples threshold false).learned records id ∧
      (create calibrationSamples threshold true).flaggedOf id (stream records) =
        ((create calibrationSamples threshold false).flaggedOf id (stream records)).filter
          fun interval => !interval.isSuppressed true (stream records) := by
  rw [learned_eq_expected rfl, learned_eq_expected rfl]
  simp only [Settings.flaggedOf, create, measuredOf_blind]
  rcases calibrated.front rfl id with none | ⟨enough, front⟩
  · have all : measuredOf true id (stream records) = intervals id (stream records) :=
      List.filter_eq_self.mpr fun interval member => not_isSuppressed_aware (none interval member)
    rw [all]
    refine ⟨rfl, (List.filter_eq_self.mpr fun interval member => ?_).symm⟩
    refine not_isSuppressed_aware (none interval ?_)
    exact List.mem_of_mem_drop (List.mem_of_mem_filter member)
  · have kept := fun interval member => not_isSuppressed_aware (front interval member)
    exact ⟨expected_filter _ kept enough, flagged_filter _ kept enough⟩

theorem CalibratedFirst.flagged_of_spansMarker
    (calibrated : CalibratedFirst (create calibrationSamples threshold true) records)
    {id : UInt32} {interval : Interval} (member : interval ∈ intervals id (stream records))
    (spans : interval.SpansMarker records)
    (long : threshold ((create calibrationSamples threshold false).learned records id) <
      interval.dt) :
    interval ∈ (create calibrationSamples threshold false).flaggedOf id (stream records) := by
  rw [learned_eq_expected rfl] at long
  simp only [Settings.flaggedOf, create, measuredOf_blind] at long ⊢
  rcases calibrated.front rfl id with none | ⟨_, front⟩
  · exact absurd spans (none interval member)
  · rw [← List.take_append_drop (create calibrationSamples threshold true).calibrate
      (intervals id (stream records))] at member
    rcases List.mem_append.mp member with early | late
    · exact absurd spans (front interval early)
    · exact List.mem_filter.mpr ⟨late, decide_eq_true long⟩

end

theorem awareness_removes_false_alarms (calibrationSamples : Nat) (threshold : UInt64 → UInt64)
    (records : List Frame)
    (calibrated : CalibratedFirst (create calibrationSamples threshold true) records) :
    (∀ id, (create calibrationSamples threshold true).learned records id =
      (create calibrationSamples threshold false).learned records id) ∧
    ∀ index,
      ((create calibrationSamples threshold true).Flags records index →
        (create calibrationSamples threshold false).Flags records index) ∧
      ((create calibrationSamples threshold false).Flags records index ∧
          ¬ (create calibrationSamples threshold true).Flags records index ↔
        ∃ id, ∃ interval ∈ intervals id (stream records), interval.closing.index = index ∧
          interval.SpansMarker records ∧
          threshold ((create calibrationSamples threshold false).learned records id) <
            interval.dt) := by
  refine ⟨fun id => (calibrated.aware_eq_blind id).1, fun index => ?_⟩
  simp only [Flags, @verdicts_iff (create calibrationSamples threshold true) rfl,
    @verdicts_iff (create calibrationSamples threshold false) rfl]
  constructor
  · rintro ⟨id, interval, member, closes⟩
    rw [(calibrated.aware_eq_blind id).2] at member
    exact ⟨id, interval, List.mem_of_mem_filter member, closes⟩
  · constructor
    · rintro ⟨⟨id, interval, member, closes⟩, unflagged⟩
      refine ⟨id, interval, mem_intervals_of_flagged member, closes, ?_, ?_⟩
      · by_contra spared
        refine unflagged ⟨id, interval, ?_, closes⟩
        rw [(calibrated.aware_eq_blind id).2]
        exact List.mem_filter.mpr ⟨member, not_isSuppressed_aware spared⟩
      · rw [learned_eq_expected rfl]
        exact of_decide_eq_true (List.mem_filter.mp member).2
    · rintro ⟨id, interval, member, closes, spans, long⟩
      refine ⟨⟨id, interval, calibrated.flagged_of_spansMarker member spans long, closes⟩, ?_⟩
      rintro ⟨other, again, flagged, alike⟩
      rw [(calibrated.aware_eq_blind other).2] at flagged
      rcases List.mem_filter.mp flagged with ⟨blindly, unsuppressed⟩
      rcases interval_of_closing member (mem_intervals_of_flagged blindly)
        (closes.trans alike.symm) with ⟨rfl, rfl⟩
      rw [(isSuppressed_aware records interval).mpr spans] at unsuppressed
      cases unsuppressed

/-! ## A marker in a long interval -/

def frameOfOne (time : UInt64) : Frame :=
  { Frame.zero with canId := 1, tIngestNs := time }

/-- A frame every ten, and then a loss of ten. -/
def markedPause : List Frame :=
  [frameOfOne 0, frameOfOne 10, frameOfOne 20, Wire.makeGap 3 10 .kConsumerOverrun 30,
    frameOfOne 120]

theorem calibratedFirst_markedPause :
    CalibratedFirst (create 2 (fun expected => 2 * expected) true) markedPause := by
  intro before marker after split gap quiet frame member notGap
  have first : before = [frameOfOne 0, frameOfOne 10, frameOfOne 20] := by
    rw [markedPause] at split
    rcases before with _ | ⟨_, _ | ⟨_, _ | ⟨_, _ | ⟨_, _⟩⟩⟩⟩
    all_goals
      simp only [List.nil_append, List.cons_append, List.cons.injEq] at split
    · rw [← split.1] at gap
      cases gap
    · rw [← split.2.1] at gap
      cases gap
    · rw [← split.2.2.1] at gap
      cases gap
    · rw [split.1, split.2.1, split.2.2.1]
    · have silent := quiet _ (.tail _ (.tail _ (.tail _ (.head _))))
      rw [← split.2.2.2.1] at silent
      cases silent
  have mine : frame.canId = 1 := by
    simp only [markedPause, List.mem_cons, List.not_mem_nil, or_false] at member
    rcases member with rfl | rfl | rfl | rfl | rfl
    · rfl
    · rfl
    · rfl
    · cases notGap
    · rfl
  rw [first, mine]
  exact ⟨_, rfl, by decide⟩

theorem awareness_markedPause :
    (create 2 (fun expected => 2 * expected) false).Flags markedPause 4 ∧
      ¬ (create 2 (fun expected => 2 * expected) true).Flags markedPause 4 := by
  refine ((awareness_removes_false_alarms 2 (fun expected => 2 * expected) markedPause
    calibratedFirst_markedPause).2 4).2.mpr
    ⟨1, { opening := { index := 2, time := 20 }, closing := { index := 4, time := 120 } },
      by decide, rfl, ?_, by decide⟩
  exact ⟨3, Wire.makeGap 3 10 .kConsumerOverrun 30, by decide, by decide, rfl, by decide⟩

end TelemetryGateway.CadenceMonitor
