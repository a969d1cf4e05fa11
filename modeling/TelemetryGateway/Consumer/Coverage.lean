import TelemetryGateway.Consumer.GapTracker
import TelemetryGateway.Foundation.Ranges

/-! # What the tracker accounts for

Each frame covers one sequence and each marker those it reports. The tracker
looks for a hole in front of a frame; a marker moves `next_` on without a look
at what lies before it. -/

namespace TelemetryGateway

/-! ## Covered ranges -/

inductive Coverage
  | frame
  | reported
  | absent
  deriving DecidableEq, Repr

namespace Coverage

def isFrame : Coverage → Bool
  | frame => true
  | _ => false

def isReported : Coverage → Bool
  | reported => true
  | _ => false

def isAbsent : Coverage → Bool
  | absent => true
  | _ => false

end Coverage

def Wire.covers (record : Frame) : Option (LabelledRange Coverage) :=
  if isEcho record then none
  else if isGap record then
    some { label := if gapReason record = .kConsumerAbsent then .absent else .reported
           start := record.seq.toNat
           stop := record.seq.toNat + (gapCount record).toNat }
  else
    some { label := .frame
           start := record.seq.toNat
           stop := record.seq.toNat + 1 }

namespace GapTracker

def reset (tracker : GapTracker) : GapTracker :=
  { tracker with have_ := false }

def totalLost (tracker : GapTracker) : UInt64 :=
  tracker.stats.reportedLost + tracker.stats.silentLost

/-! ## One record -/

structure Gains (before after : Stats) (frames reportedLost absentFrames silentLost : Nat) :
    Prop where
  frames : after.frames = before.frames + UInt64.ofNat frames
  reportedLost : after.reportedLost = before.reportedLost + UInt64.ofNat reportedLost
  absentFrames : after.absentFrames = before.absentFrames + UInt64.ofNat absentFrames
  silentLost : after.silentLost = before.silentLost + UInt64.ofNat silentLost

theorem add_nothing (number : UInt64) : number = number + UInt64.ofNat 0 :=
  (UInt64.add_zero _).symm

theorem add_given (number n : UInt64) : number + n = number + UInt64.ofNat n.toNat := by
  rw [UInt64.ofNat_toNat]

theorem Gains.nothing (stats : Stats) : Gains stats stats 0 0 0 0 :=
  ⟨add_nothing _, add_nothing _, add_nothing _, add_nothing _⟩

theorem Gains.trans {before middle after : Stats}
    {frames reportedLost absentFrames silentLost : Nat}
    {frames' reportedLost' absentFrames' silentLost' : Nat}
    (first : Gains before middle frames reportedLost absentFrames silentLost)
    (second : Gains middle after frames' reportedLost' absentFrames' silentLost') :
    Gains before after (frames + frames') (reportedLost + reportedLost')
      (absentFrames + absentFrames') (silentLost + silentLost') := by
  constructor
  · rw [second.frames, first.frames, UInt64.ofNat_add, UInt64.add_assoc]
  · rw [second.reportedLost, first.reportedLost, UInt64.ofNat_add, UInt64.add_assoc]
  · rw [second.absentFrames, first.absentFrames, UInt64.ofNat_add, UInt64.add_assoc]
  · rw [second.silentLost, first.silentLost, UInt64.ofNat_add, UInt64.add_assoc]

theorem gains_countMarker (stats : Stats) (reason : GapReason) (n : UInt64) :
    Gains stats (stats.countMarker reason n) 0 (if reason = .kConsumerAbsent then 0 else n.toNat)
      (if reason = .kConsumerAbsent then n.toNat else 0) 0 := by
  unfold Stats.countMarker
  split
  · rw [if_pos rfl, if_pos rfl]
    exact ⟨add_nothing _, add_nothing _, add_given _ _, add_nothing _⟩
  · rw [if_neg (by decide), if_neg (by decide)]
    exact ⟨add_nothing _, add_given _ _, add_nothing _, add_nothing _⟩
  · rename_i notAbsent _
    rw [if_neg notAbsent, if_neg notAbsent]
    exact ⟨add_nothing _, add_given _ _, add_nothing _, add_nothing _⟩

theorem observe_uncovered (tracker : GapTracker) {record : Frame}
    (uncovered : Wire.covers record = none) :
    Gains tracker.stats (tracker.observe record).1.stats 0 0 0 0 ∧
      (tracker.observe record).1.next = tracker.next ∧
      (tracker.observe record).1.have_ = tracker.have_ := by
  have echo : Wire.isEcho record = true := by
    unfold Wire.covers at uncovered
    split at uncovered
    · assumption
    · split at uncovered <;> cases uncovered
  unfold observe
  rw [if_pos echo]
  exact ⟨⟨add_nothing _, add_nothing _, add_nothing _, add_nothing _⟩, rfl, rfl⟩

/-- `next_` stands at the end of what the stream has covered so far. -/
structure StandsAt (tracker : GapTracker) (position : Nat) : Prop where
  next : tracker.next = UInt64.ofNat position
  started : tracker.have_ = true

theorem observe_covered (tracker : GapTracker) {record : Frame} {range : LabelledRange Coverage}
    (covered : Wire.covers record = some range) :
    (tracker.observe record).1.StandsAt range.stop := by
  unfold Wire.covers at covered
  unfold observe
  split at covered
  · cases covered
  · rename_i notEcho
    rw [if_neg notEcho]
    split at covered
    · rename_i gap
      cases covered
      rw [if_pos gap]
      refine ⟨?_, rfl⟩
      rw [UInt64.ofNat_add, UInt64.ofNat_toNat, UInt64.ofNat_toNat]
    · rename_i notGap
      cases covered
      rw [if_neg notGap]
      refine ⟨?_, rfl⟩
      rw [UInt64.ofNat_add, UInt64.ofNat_toNat]
      rfl

/-- The sequences of a record go to the counter of its label; only in front of a
frame is the tracker looking for a hole. -/
theorem gains_observe (tracker : GapTracker) {record : Frame} {range : LabelledRange Coverage}
    (covered : Wire.covers record = some range) {hole : Nat}
    (before : hole = if tracker.have_ = true ∧ tracker.next < record.seq then
      (record.seq - tracker.next).toNat else 0) :
    Gains tracker.stats (tracker.observe record).1.stats
      (if range.label.isFrame then range.length else 0)
      (if range.label.isReported then range.length else 0)
      (if range.label.isAbsent then range.length else 0)
      (if range.label.isFrame then hole else 0) := by
  unfold Wire.covers at covered
  unfold observe
  split at covered
  · cases covered
  · rename_i notEcho
    rw [if_neg notEcho]
    split at covered
    · rename_i gap
      cases covered
      rw [if_pos gap]
      have counted := gains_countMarker tracker.stats (Wire.gapReason record)
        (Wire.gapCount record)
      by_cases absent : Wire.gapReason record = .kConsumerAbsent
      · rw [if_pos absent, if_pos absent] at counted
        simpa [absent, LabelledRange.length, Coverage.isFrame, Coverage.isReported,
          Coverage.isAbsent] using counted
      · rw [if_neg absent, if_neg absent] at counted
        simpa [absent, LabelledRange.length, Coverage.isFrame, Coverage.isReported,
          Coverage.isAbsent] using counted
    · rename_i notGap
      cases covered
      rw [if_neg notGap]
      have one : record.seq.toNat + 1 - record.seq.toNat = 1 := Nat.add_sub_cancel_left ..
      simp only [Coverage.isFrame, Coverage.isReported, Coverage.isAbsent, LabelledRange.length,
        if_true, Bool.false_eq_true, if_false, one, before]
      split
      · exact ⟨rfl, add_nothing _, add_nothing _, add_given _ _⟩
      · exact ⟨rfl, add_nothing _, add_nothing _, add_nothing _⟩

/-! ## A whole stream -/

theorem start_lt_of_covers {record : Frame} {range : LabelledRange Coverage}
    (covered : Wire.covers record = some range) :
    range.start = record.seq.toNat ∧ range.start < 2 ^ 64 := by
  unfold Wire.covers at covered
  split at covered
  · cases covered
  · split at covered <;> cases covered <;> exact ⟨rfl, record.seq.toNat_lt⟩

/-- The tracker sees the hole in front of a frame when `next_` has not passed
the frame. -/
theorem StandsAt.hole {tracker : GapTracker} {position : Nat} (stands : tracker.StandsAt position)
    {record : Frame} (later : position ≤ record.seq.toNat) :
    record.seq.toNat - position = if tracker.have_ = true ∧ tracker.next < record.seq then
      (record.seq - tracker.next).toNat else 0 := by
  have small : position < 2 ^ 64 := Nat.lt_of_le_of_lt later record.seq.toNat_lt
  have number : tracker.next.toNat = position := by
    rw [stands.next]
    exact UInt64.toNat_ofNat_of_lt' small
  split
  · rename_i jump
    have less := UInt64.lt_iff_toNat_lt.mp jump.2
    rw [UInt64.toNat_sub_of_le _ _ (UInt64.le_of_lt jump.2), number]
  · rename_i noJump
    have notLess : ¬ tracker.next.toNat < record.seq.toNat := fun less =>
      noJump ⟨stands.started, UInt64.lt_iff_toNat_lt.mpr less⟩
    omega

theorem StandsAt.gains_observeAll {tracker : GapTracker} {position : Nat}
    (stands : tracker.StandsAt position) {records : List Frame}
    (ascending : LabelledRange.Ascending position (records.filterMap Wire.covers)) :
    Gains tracker.stats (tracker.observeAll records).stats
      (LabelledRange.covered Coverage.isFrame (records.filterMap Wire.covers))
      (LabelledRange.covered Coverage.isReported (records.filterMap Wire.covers))
      (LabelledRange.covered Coverage.isAbsent (records.filterMap Wire.covers))
      (LabelledRange.holes Coverage.isFrame position (records.filterMap Wire.covers)) := by
  induction records generalizing tracker position with
  | nil => exact .nothing _
  | cons record records induction =>
      rw [observeAll_cons]
      cases covered : Wire.covers record with
      | none =>
          rw [List.filterMap_cons_none covered] at ascending ⊢
          rcases tracker.observe_uncovered covered with ⟨nothing, next, started⟩
          have first : (tracker.observe record).1.StandsAt position :=
            ⟨next.trans stands.next, started.trans stands.started⟩
          simpa using nothing.trans (induction first ascending)
      | some range =>
          rw [List.filterMap_cons_some covered] at ascending ⊢
          rcases ascending with ⟨later, _, others⟩
          have start := (start_lt_of_covers covered).1
          have hole := stands.hole (start ▸ later)
          have first := tracker.gains_observe covered hole
          rw [← start] at first
          exact first.trans (induction (tracker.observe_covered covered) others)

theorem gains_from_reset (tracker : GapTracker) {records : List Frame}
    {first : LabelledRange Coverage} {rest : List (LabelledRange Coverage)}
    (ranges : records.filterMap Wire.covers = first :: rest)
    (ascending : LabelledRange.Ascending first.stop rest) :
    Gains tracker.stats (tracker.reset.observeAll records).stats
      (LabelledRange.covered Coverage.isFrame (first :: rest))
      (LabelledRange.covered Coverage.isReported (first :: rest))
      (LabelledRange.covered Coverage.isAbsent (first :: rest))
      (LabelledRange.holes Coverage.isFrame first.stop rest) := by
  suffices fresh : ∀ tracker : GapTracker, tracker.have_ = false →
      Gains tracker.stats (tracker.observeAll records).stats
        (LabelledRange.covered Coverage.isFrame (first :: rest))
        (LabelledRange.covered Coverage.isReported (first :: rest))
        (LabelledRange.covered Coverage.isAbsent (first :: rest))
        (LabelledRange.holes Coverage.isFrame first.stop rest) from fresh tracker.reset rfl
  induction records with
  | nil => cases ranges
  | cons record records induction =>
      intro tracker fresh
      rw [observeAll_cons]
      cases covered : Wire.covers record with
      | none =>
          rw [List.filterMap_cons_none covered] at ranges
          rcases tracker.observe_uncovered covered with ⟨nothing, _, started⟩
          simpa using nothing.trans (induction ranges _ (started.trans fresh))
      | some range =>
          rw [List.filterMap_cons_some covered] at ranges
          cases ranges
          have unstarted : (0 : Nat) = if tracker.have_ = true ∧ tracker.next < record.seq then
              (record.seq - tracker.next).toNat else 0 := by
            rw [if_neg]
            intro jump
            rw [fresh] at jump
            cases jump.1
          have head := tracker.gains_observe covered unstarted
          rw [ite_self] at head
          have tail := (tracker.observe_covered covered).gains_observeAll ascending
          simpa [LabelledRange.covered] using head.trans tail

theorem gains_of_uncovered (tracker : GapTracker) {records : List Frame}
    (ranges : records.filterMap Wire.covers = []) :
    Gains tracker.stats (tracker.reset.observeAll records).stats 0 0 0 0 := by
  change Gains tracker.reset.stats _ 0 0 0 0
  generalize tracker.reset = tracker
  induction records generalizing tracker with
  | nil => exact .nothing _
  | cons record records induction =>
      cases covered : Wire.covers record with
      | none =>
          rw [List.filterMap_cons_none covered] at ranges
          exact (tracker.observe_uncovered covered).1.trans (induction ranges _)
      | some range =>
          rw [List.filterMap_cons_some covered] at ranges
          cases ranges

/-! ## The balance -/

/-- Together the four counters have grown by what the stream spans: in the 64
bits they have, and as numbers unless that is every sequence there is. -/
def Accounted (before after : Stats) (span : Nat) : Prop :=
  (after.frames - before.frames) + (after.reportedLost - before.reportedLost) +
      (after.absentFrames - before.absentFrames) + (after.silentLost - before.silentLost) =
    UInt64.ofNat span ∧
  (span < 2 ^ 64 →
    (after.frames - before.frames).toNat + (after.reportedLost - before.reportedLost).toNat +
      (after.absentFrames - before.absentFrames).toNat +
      (after.silentLost - before.silentLost).toNat = span)

instance (before after : Stats) (span : Nat) : Decidable (Accounted before after span) :=
  inferInstanceAs (Decidable (_ ∧ _))

/-- Every counter has grown by its own share, so what is missing from the span
is what lies in front of the markers. -/
theorem Gains.accounted_iff {before after : Stats} {frames reported absent silent hidden : Nat}
    (gains : Gains before after frames reported absent silent) {span : Nat}
    (adds : frames + reported + absent + silent + hidden = span) (small : hidden < 2 ^ 64) :
    Accounted before after span ↔ hidden = 0 := by
  have cancel (number n : UInt64) : number + n - number = n := by
    rw [UInt64.add_comm, UInt64.add_sub_cancel]
  rw [Accounted, gains.frames, gains.reportedLost, gains.absentFrames, gains.silentLost,
    cancel, cancel, cancel, cancel, ← UInt64.ofNat_add, ← UInt64.ofNat_add, ← UInt64.ofNat_add]
  constructor
  · intro accounted
    have same := congrArg UInt64.toNat accounted.1
    rw [UInt64.toNat_ofNat', UInt64.toNat_ofNat'] at same
    omega
  · rintro rfl
    refine ⟨by rw [← adds, Nat.add_zero], fun below => ?_⟩
    simp only [UInt64.toNat_ofNat']
    omega

theorem covered_all (ranges : List (LabelledRange Coverage)) :
    LabelledRange.covered (fun _ => true) ranges =
      LabelledRange.covered Coverage.isFrame ranges +
        LabelledRange.covered Coverage.isReported ranges +
        LabelledRange.covered Coverage.isAbsent ranges := by
  have every : (fun _ : Coverage => true) = fun label =>
      (label.isFrame || label.isReported) || label.isAbsent := by
    funext label
    cases label <;> rfl
  rw [every, LabelledRange.covered_or _ _ _ (by intro label; cases label <;> decide),
    LabelledRange.covered_or _ _ _ (by intro label; cases label <;> decide)]

/-- The tracker accounts for every sequence between the first record and the
end of the last one exactly when no marker stands behind a hole. -/
theorem accounts_iff_no_hole_before_marker (tracker : GapTracker) (records : List Frame)
    (ascending : LabelledRange.Ascending 0 (records.filterMap Wire.covers)) :
    Accounted tracker.stats (tracker.reset.observeAll records).stats
        (LabelledRange.span (records.filterMap Wire.covers)) ↔
      (records.filterMap Wire.covers).IsChain fun left right =>
        right.label ≠ .frame → right.start = left.stop := by
  have starts : ∀ range ∈ records.filterMap Wire.covers, range.start < 2 ^ 64 := by
    intro range member
    rcases List.mem_filterMap.mp member with ⟨record, _, covered⟩
    exact (start_lt_of_covers covered).2
  have markers : (fun left right : LabelledRange Coverage =>
      right.label ≠ .frame → right.start = left.stop) =
      fun left right => (!right.label.isFrame) = true → right.start = left.stop := by
    funext left right
    cases right.label <;> simp [Coverage.isFrame]
  rw [markers]
  cases ranges : records.filterMap Wire.covers with
  | nil =>
      have nothing := tracker.gains_of_uncovered ranges
      rw [nothing.accounted_iff (show 0 + 0 + 0 + 0 + 0 = LabelledRange.span [] from rfl)
        (by decide)]
      simp
  | cons first rest =>
      rw [ranges] at ascending starts
      rcases ascending with ⟨_, forward, others⟩
      have gains := tracker.gains_from_reset ranges others
      have adds := others.covered_add_holes Coverage.isFrame
      have end_ := LabelledRange.reach_lt (List.cons_ne_nil first rest)
        ⟨Nat.zero_le _, forward, others⟩ starts
      rw [← others.holes_eq_zero_iff fun label => !label.isFrame]
      simp only [LabelledRange.reach, LabelledRange.covered, LabelledRange.length, if_true] at end_
      refine gains.accounted_iff ?_ ?_
      · rw [← covered_all]
        simp only [LabelledRange.covered, LabelledRange.span, LabelledRange.length, if_true]
        omega
      · omega

def frameAt (seq : UInt64) : Frame :=
  { Frame.zero with seq := seq }

/-- Sequence 0, an absence of 1 and 2, sequence 3, a hole at 4 and 5, and
sequence 6. -/
def holeBeforeFrame : List Frame :=
  [frameAt 0, Wire.makeGap 1 2 .kConsumerAbsent 0, frameAt 3, Wire.makeEcho 77 0, frameAt 6]

theorem accounts_holeBeforeFrame :
    Accounted ({} : GapTracker).stats (({} : GapTracker).reset.observeAll holeBeforeFrame).stats
      7 :=
  (accounts_iff_no_hole_before_marker {} holeBeforeFrame (by decide)).mpr (by decide)

/-- Sequence 0, a hole from 1 to 4, and the loss of 5 and 6 reported. -/
def holeBeforeMarker : List Frame :=
  [frameAt 0, Wire.makeGap 5 2 .kConsumerOverrun 0]

theorem hole_before_marker_uncounted :
    LabelledRange.Ascending 0 (holeBeforeMarker.filterMap Wire.covers) ∧
      LabelledRange.span (holeBeforeMarker.filterMap Wire.covers) = 7 ∧
      (({} : GapTracker).observeAll holeBeforeMarker).stats.silentLost = 0 ∧
      ¬ Accounted ({} : GapTracker).stats
        (({} : GapTracker).reset.observeAll holeBeforeMarker).stats 7 := by
  decide

end GapTracker

end TelemetryGateway
