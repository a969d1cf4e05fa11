import TelemetryGateway.Feed.RingFeed
import TelemetryGateway.Ring.Bystanders
import TelemetryGateway.Ring.QuietReading

/-! # A ring after its last frame

`read_batch` that comes back with nothing from a ring in which every ticket has
been published has read everything. Whether the ring is closed is asked later,
in a call of its own. -/

namespace TelemetryGateway.BroadcastRing

/-! ## One step, as a reader sees it -/

section

variable {geometry : Geometry} {Producer ReaderId : Type} [DecidableEq Producer]
  [DecidableEq ReaderId]

namespace State

theorem step_shown_own {state after : State geometry Producer ReaderId} {other id : ReaderId}
    (stepped : state.step (.reader other) = some after) :
    (after.readers id).shown = (state.readers id).shown ∨
      ((.reader other : Label Producer ReaderId) = .reader id ∧
        readNext state.core state.closed (state.readers id) = some (after.readers id)) := by
  rcases reader_touches stepped with ⟨reader, touches, moved⟩
  rw [touches.readers]
  by_cases own : id = other
  · subst own
    rw [Function.update_self]
    split at moved
    · exact .inl moved
    · exact .inr ⟨rfl, moved⟩
  · rw [Function.update_of_ne own]
    exact .inl rfl

/-- Outside its own calls a reader is changed by its own steps, and by what
happens inside a wait. -/
theorem step_shown {state after : State geometry Producer ReaderId}
    {label : Label Producer ReaderId} {id : ReaderId} (others : label.calls id = false)
    (stepped : state.step label = some after) :
    (after.readers id).shown = (state.readers id).shown ∨
      (label = .reader id ∧
        readNext state.core state.closed (state.readers id) = some (after.readers id)) := by
  cases step_cases stepped with
  | publish producer frame core taken => exact .inl rfl
  | publishBatch producer frames core taken => exact .inl rfl
  | advance producer spurious core advanced => exact .inl rfl
  | wakeReaders producer spurious woken =>
      rcases wakeReaders_cases woken with ⟨_, rfl⟩ | ⟨_, rfl⟩
      · exact .inl rfl
      · exact .inl (shown_wake _)
  | call other request called =>
      have apart : id ≠ other := fun same => by simp [Label.calls, same] at others
      rw [(call_touches called).readers, Function.update_of_ne apart]
      exact .inl rfl
  | read other moved => exact step_shown_own stepped
  | idle other moved => exact step_shown_own stepped
  | wakeup other timedOut woken =>
      unfold State.wakeup at woken
      split at woken <;> cases woken
      rename_i known blocked
      by_cases own : id = other
      · subst own
        rw [setPhase, setReader_self, Reader.shown, Reader.shown, blocked]
        exact .inl rfl
      · exact .inl (congrArg Reader.shown (Function.update_of_ne own ..))
  | close free => exact .inl rfl
  | closeNotify closing => exact .inl (shown_wake _)

theorem writePos_step {state after : State geometry Producer ReaderId}
    {label : Label Producer ReaderId} (stepped : state.step label = some after)
    (silent : label.caller? = none) : after.core.writePos = state.core.writePos := by
  by_cases reading : label.producer? = none
  · rw [step_core stepped reading]
  · cases step_cases stepped with
    | publish producer frame core taken => cases silent
    | publishBatch producer frames core taken => cases silent
    | advance producer spurious core advanced => exact Core.advance_writePos advanced
    | wakeReaders producer spurious woken =>
        rcases wakeReaders_cases woken with ⟨_, rfl⟩ | ⟨_, rfl⟩
        all_goals rfl
    | _ => exact absurd rfl reading

theorem closed_step {state after : State geometry Producer ReaderId}
    {label : Label Producer ReaderId} (stepped : state.step label = some after) :
    (label = .close ∧ after.closed = true) ∨ after.closed = state.closed := by
  cases step_cases stepped with
  | publish producer frame core taken => exact .inr rfl
  | publishBatch producer frames core taken => exact .inr rfl
  | advance producer spurious core advanced => exact .inr rfl
  | wakeReaders producer spurious woken =>
      rcases wakeReaders_cases woken with ⟨_, rfl⟩ | ⟨_, rfl⟩
      all_goals exact .inr rfl
  | call id request called => exact .inr (call_touches called).closed
  | read id moved =>
      rcases readStep_next moved with ⟨reader, _, touches⟩
      exact .inr touches.closed
  | idle id moved =>
      rcases reader_touches stepped with ⟨reader, touches, _⟩
      exact .inr touches.closed
  | wakeup id timedOut woken => exact .inr (wakeup_unnoticed woken id).closed
  | close free => exact .inl ⟨rfl, rfl⟩
  | closeNotify closing => exact .inr rfl

theorem Sound.quiet_step {state after : State geometry Producer ReaderId} (sound : state.Sound)
    {label : Label Producer ReaderId} (stepped : state.step label = some after)
    (silent : label.caller? = none) (quiet : state.core.Quiet) : after.core.Quiet := by
  intro pos issued
  rw [writePos_step stepped silent] at issued
  have complete := (sound.core.claims.complete pos).mp (quiet pos issued)
  exact ((sound.step stepped).core.claims.complete pos).mpr
    (Nat.le_trans complete ((sound.extends stepped).seq pos))

end State

end

/-! ## Everything behind the cursor -/

/-- Each position that the cursor has passed was read, or is overwritten. -/
def Reader.Accounted (core : Core geometry Producer) (reader : Reader) : Prop :=
  ∀ pos, reader.start ≤ pos → pos < reader.cursor.next →
    (∃ frame missed, .ok pos frame missed ∈ reader.log) ∨
      pos + geometry.capacity < core.writePos

namespace Reader

theorem Accounted.keep {before after : Core geometry Producer} {reader next : Reader}
    (accounted : reader.Accounted before) (writePos : before.writePos ≤ after.writePos)
    (start : next.start = reader.start) (cursor : next.cursor.next = reader.cursor.next)
    (log : reader.log ⊆ next.log) : next.Accounted after := by
  intro pos above below
  rw [start] at above
  rw [cursor] at below
  rcases accounted pos above below with ⟨frame, missed, member⟩ | lapped
  · exact .inl ⟨frame, missed, log member⟩
  · exact .inr (Nat.lt_of_lt_of_le lapped writePos)

theorem Accounted.returnFrame {core : Core geometry Producer} {reader : Reader}
    (accounted : reader.Accounted core) (call : ReadCall) (words : Fin kFrameWords → UInt64) :
    (reader.returnFrame call words).Accounted core := by
  intro pos above below
  have log : (reader.returnFrame call words).log =
      reader.log ++ [.ok reader.cursor.next (Frame.ofWords words) reader.cursor.missed] := rfl
  rw [log]
  rcases Nat.lt_succ_iff_lt_or_eq.mp below with inside | rfl
  · rcases accounted pos above inside with ⟨frame, missed, member⟩ | lapped
    · exact .inl ⟨frame, missed, List.mem_append_left _ member⟩
    · exact .inr lapped
  · exact .inl ⟨_, _, List.mem_append_right _ (List.mem_singleton.mpr rfl)⟩

theorem Accounted.lapTo {core : Core geometry Producer} {reader : Reader}
    (accounted : reader.Accounted core)
    (overtaken : reader.cursor.next + geometry.capacity < core.writePos) (call : ReadCall) :
    (reader.lapTo call (geometry.oldest core.writePos)).Accounted core := by
  rcases lapTo_ahead call overtaken with ⟨_, equal⟩
  rw [equal]
  intro pos above below
  by_cases inside : pos < reader.cursor.next
  · rcases accounted pos above inside with ⟨frame, missed, member⟩ | lapped
    · exact .inl ⟨frame, missed, List.mem_append_left _ member⟩
    · exact .inr lapped
  · right
    simp only [Geometry.oldest] at below
    split at below <;> omega

theorem Accounted.next {core : Core geometry Producer} (consistent : core.Consistent)
    {reader next : Reader} (sound : reader.Sound core) (accounted : reader.Accounted core)
    {closed : Bool} (moved : State.readNext core closed reader = some next) :
    next.Accounted core := by
  have same {phase : ReaderPhase} : ({ reader with phase := phase } : Reader).Accounted core :=
    accounted.keep (Nat.le_refl _) rfl rfl (List.Subset.refl _)
  unfold State.readNext at moved
  split at moved
  · rename_i call loading
    cases moved
    rcases loadSeq_cases consistent reader call with ⟨_, equal⟩ | ⟨_, _, equal⟩ | ⟨_, _, equal⟩
    · rw [equal]
      exact accounted.keep (Nat.le_refl _) rfl rfl (List.subset_append_left ..)
    · rw [equal]
      exact same
    · rw [equal]
      exact same
  · cases moved
    exact same
  · rename_i call s1 words reloading
    cases moved
    rcases sound.reloadSeq_cases consistent reloading with ⟨_, equal⟩ | ⟨_, equal⟩
    · rw [equal]
      exact same
    · rw [equal]
      exact accounted.returnFrame call _
  · cases moved
    exact same
  · rename_i call lapping
    cases moved
    have overtaken := sound.phase
    rw [lapping] at overtaken
    exact accounted.lapTo overtaken call
  · cases moved
    intro pos above below
    exact absurd above (Nat.not_le.mpr below)
  · cases moved
    exact same
  · cases moved

end Reader

theorem State.Sound.accounted_step [DecidableEq Producer] [DecidableEq ReaderId]
    {state after : State geometry Producer ReaderId} (sound : state.Sound)
    {label : Label Producer ReaderId} {id : ReaderId} (others : label.calls id = false)
    (stepped : state.step label = some after)
    (accounted : (state.readers id).Accounted state.core) :
    (after.readers id).Accounted after.core := by
  have writePos := (sound.extends stepped).writePos
  rcases step_shown others stepped with same | ⟨rfl, moved⟩
  · have start : (after.readers id).shown.start = (state.readers id).shown.start := by rw [same]
    have cursor : (after.readers id).shown.cursor = (state.readers id).shown.cursor := by
      rw [same]
    have log : (after.readers id).shown.log = (state.readers id).shown.log := by rw [same]
    exact accounted.keep writePos start (congrArg Cursor.next cursor)
      fun _ member => log ▸ member
  · rw [step_core stepped rfl]
    exact accounted.next sound.core (sound.readers id) moved

theorem State.Sound.inside_step [DecidableEq Producer] [DecidableEq ReaderId]
    {state after : State geometry Producer ReaderId} (sound : state.Sound)
    {label : Label Producer ReaderId} {id : ReaderId} (stepped : state.step label = some after)
    (inside : (state.readers id).cursor.next ≤ state.core.writePos) :
    (after.readers id).cursor.next ≤ after.core.writePos := by
  have within : geometry.oldest state.core.writePos ≤ state.core.writePos := by
    unfold Geometry.oldest
    split <;> omega
  rcases State.step_untouched stepped id with ⟨rfl, read⟩ | ⟨cursor, _⟩
  · rw [State.step_core stepped rfl]
    rcases State.readStep_cases read with ⟨call, _, rfl⟩ | ⟨_, _, _, _, _, rfl⟩ |
      ⟨call, s1, words, reloading, rfl⟩ | ⟨call, counting, _⟩ | ⟨call, lapping, rfl⟩ | ⟨_, rfl⟩
    · rw [State.setReader_self, Reader.loadSeq_cursor]
      exact inside
    · rw [State.setPhase, State.setReader_self]
      exact inside
    · rw [State.setReader_self]
      rcases (sound.readers id).reloadSeq_cases sound.core reloading with ⟨_, equal⟩ |
        ⟨complete, equal⟩
      · rw [equal]
        exact inside
      · rcases sound.core.carries_complete complete with ⟨producer, original, issued, _⟩
        have below := (List.getElem?_eq_some_iff.mp issued).1
        rw [sound.core.tickets.counted] at below
        rw [equal]
        exact below
    · have impossible := (sound.readers id).phase
      rw [counting] at impossible
      exact impossible.elim
    · have overtaken := (sound.readers id).phase
      rw [lapping] at overtaken
      rw [State.setReader_self, (Reader.lapTo_ahead call overtaken).2]
      exact within
    · rw [State.setReader_self]
      exact within
  · rw [cursor]
    exact Nat.le_trans inside (sound.extends stepped).writePos

/-! ## The end of the ring -/

/-- The reader has come back with nothing, or it is asking whether the ring is
closed, or it has been told so. -/
def ReaderPhase.decisive : ReaderPhase → Bool
  | .done (.readBatch [] _) => true
  | .testClosed => true
  | .done (.closed _) => true
  | _ => false

theorem ReaderPhase.eq_of_shown {phase next : ReaderPhase} (same : next.shown = phase.shown)
    (decisive : next.decisive = true) : next = phase := by
  have awake : next.shown = next := by
    refine ReaderPhase.shown_of_awake ?_ ?_
    · cases next <;> first | rfl | cases decisive
    · rintro woken rfl
      cases decisive
  rw [awake] at same
  rw [same] at decisive ⊢
  refine ReaderPhase.shown_of_awake ?_ ?_
  · cases waits : phase.waits with
    | false => rfl
    | true =>
        rw [ReaderPhase.shown_of_waits waits] at decisive
        cases decisive
  · rintro woken rfl
    cases decisive

theorem ReadCall.resume_frame (call : ReadCall) (cursor : Cursor) (frame : Frame) :
    (call.resume cursor .kOk (some frame)).decisive = false := by
  cases call with
  | tryRead => rfl
  | readBatch size out missedBefore =>
      simp only [ReadCall.resume]
      split
      · rfl
      · cases out <;> rfl

theorem Reader.decides_next {core : Core geometry Producer} (consistent : core.Consistent)
    {reader next : Reader} (sound : reader.Sound core) {closed : Bool}
    (moved : State.readNext core closed reader = some next)
    (decisive : next.phase.decisive = true) :
    next.cursor = reader.cursor ∧
      ((reader.phase = .testClosed ∧ next.phase = .done (.closed closed)) ∨
        (reader.cursor.next ∉ core.published ∧
          ∃ missed, next.phase = .done (.readBatch [] missed))) := by
  unfold State.readNext at moved
  split at moved
  · rename_i call loading
    cases moved
    rcases loadSeq_cases consistent reader call with ⟨missing, equal⟩ | ⟨_, _, equal⟩ |
      ⟨_, _, equal⟩
    · rw [equal] at decisive ⊢
      cases call with
      | tryRead => cases decisive
      | readBatch size out missedBefore =>
          cases out with
          | nil => exact ⟨rfl, .inr ⟨missing, _, rfl⟩⟩
          | cons front rest => cases decisive
    · rw [equal] at decisive
      cases decisive
    · rw [equal] at decisive
      cases decisive
  · cases moved
    dsimp only at decisive
    split at decisive <;> cases decisive
  · rename_i call s1 words reloading
    cases moved
    rcases sound.reloadSeq_cases consistent reloading with ⟨_, equal⟩ | ⟨_, equal⟩
    · rw [equal] at decisive
      cases decisive
    · rw [equal] at decisive
      cases (call.resume_frame _ _).symm.trans decisive
  · cases moved
    cases decisive
  · rename_i call lapping
    cases moved
    cases call <;> cases decisive
  · cases moved
    cases decisive
  · rename_i asking
    cases moved
    exact ⟨rfl, .inl ⟨asking, rfl⟩⟩
  · cases moved

theorem State.Sound.decides_step [DecidableEq Producer] [DecidableEq ReaderId]
    {state after : State geometry Producer ReaderId} (sound : state.Sound)
    {label : Label Producer ReaderId} {id : ReaderId} (others : label.calls id = false)
    (stepped : state.step label = some after)
    (decisive : (after.readers id).phase.decisive = true) :
    (after.readers id).cursor = (state.readers id).cursor ∧
      ((after.readers id).phase = (state.readers id).phase ∨
        ((state.readers id).phase = .testClosed ∧
          (after.readers id).phase = .done (.closed state.closed)) ∨
        (label = .reader id ∧ (state.readers id).cursor.next ∉ state.core.published ∧
          ∃ missed, (after.readers id).phase = .done (.readBatch [] missed))) := by
  rcases step_shown others stepped with same | ⟨rfl, moved⟩
  · have phase : (after.readers id).shown.phase = (state.readers id).shown.phase := by rw [same]
    have cursor : (after.readers id).shown.cursor = (state.readers id).shown.cursor := by
      rw [same]
    exact ⟨cursor, .inl (ReaderPhase.eq_of_shown phase decisive)⟩
  · rcases (state.readers id).decides_next sound.core (sound.readers id) moved decisive with
      ⟨cursor, answered | missing⟩
    · exact ⟨cursor, .inr (.inl answered)⟩
    · exact ⟨cursor, .inr (.inr ⟨rfl, missing⟩)⟩

theorem State.settled_step [DecidableEq Producer] [DecidableEq ReaderId]
    {state after : State geometry Producer ReaderId} {label : Label Producer ReaderId}
    {id : ReaderId} (settled : (state.readers id).phase.settled = true)
    (stepped : state.step label = some after) :
    (after.readers id).cursor = (state.readers id).cursor := by
  rcases step_untouched stepped id with ⟨_, read⟩ | ⟨cursor, _⟩
  · rw [readStep_settled settled] at read
    cases read
  · exact cursor

end TelemetryGateway.BroadcastRing
