import TelemetryGateway.Ring.Reading

/-! # What every run of the ring promises its readers -/

namespace TelemetryGateway.BroadcastRing

structure State.Sound (state : State geometry Producer ReaderId) : Prop where
  core : state.core.Consistent
  limit : state.core.writePos < Core.kTicketLimit
  consistentReads : state.inconsistentReads = 0
  readers : ∀ id, (state.readers id).Sound state.core

def Label.producer? : Label Producer ReaderId → Option Producer
  | .publish owner _ => some owner
  | .publishBatch owner _ => some owner
  | .producer owner _ => some owner
  | _ => none

/-- The producer that calls `publish` or `publish_batch`. -/
def Label.caller? : Label Producer ReaderId → Option Producer
  | .publish owner _ => some owner
  | .publishBatch owner _ => some owner
  | _ => none

namespace State

theorem empty_sound (start : ReaderId → Nat) :
    (State.empty start : State geometry Producer ReaderId).Sound := by
  refine ⟨Core.empty_consistent, Nat.two_pow_pos 63, rfl, ?_⟩
  intro id
  exact ⟨rfl, trivial, trivial, fun _ _ _ member => nomatch member⟩

/-! ## One step -/

theorem Sound.setCore {state : State geometry Producer ReaderId} (sound : state.Sound)
    {core : Core geometry Producer} (consistent : core.Consistent)
    (limit : core.writePos < Core.kTicketLimit) (extension : state.core.Extends core) :
    ({ state with core := core } : State geometry Producer ReaderId).Sound :=
  ⟨consistent, limit, sound.consistentReads, fun id => (sound.readers id).extend extension⟩

theorem wake_sound {core : Core geometry Producer} {reader : Reader}
    (sound : reader.Sound core) : (wake reader).Sound core := by
  unfold wake
  split
  · exact sound.setPhase _ trivial trivial
  · exact sound

theorem Sound.notifyAll {state : State geometry Producer ReaderId} (sound : state.Sound) :
    state.notifyAll.Sound :=
  ⟨sound.core, sound.limit, sound.consistentReads, fun id => wake_sound (sound.readers id)⟩

theorem Sound.returned_ok {state : State geometry Producer ReaderId} (sound : state.Sound)
    {id : ReaderId} {frame : Option Frame}
    (returned : (state.readers id).phase = .done (.tryRead .kOk frame)) :
    ∃ pos original missed, frame = some original ∧ (state.readers id).cursor.next = pos + 1 ∧
      .ok pos original missed ∈ (state.readers id).history := by
  have reader := sound.readers id
  have reports := reader.reports
  rw [returned] at reports
  rcases reports with ⟨event, last, status, same⟩
  rcases List.getLast?_eq_some_iff.mp last with ⟨earlier, log⟩
  cases event with
  | ok pos original missed =>
      have replayed := reader.replayed
      rw [log] at replayed
      rcases replay_concat.mp replayed with ⟨before, _, applied⟩
      rcases ReadEvent.apply_ok.mp applied with ⟨⟨rfl, _⟩, cursor⟩
      refine ⟨_, original, missed, same.symm, by rw [← cursor], ?_⟩
      rw [Reader.history, log]
      simp
  | empty pos => cases status
  | lapped first target => cases status

section

variable {geometry : Geometry} {Producer ReaderId : Type} [DecidableEq ReaderId]

@[simp] theorem setReader_self (state : State geometry Producer ReaderId) (id : ReaderId)
    (reader : Reader) : (state.setReader id reader).readers id = reader :=
  Function.update_self ..

theorem Sound.update {state after : State geometry Producer ReaderId} (sound : state.Sound)
    {id : ReaderId} {reader : Reader} (core : after.core = state.core)
    (counter : after.inconsistentReads = state.inconsistentReads)
    (readers : after.readers = Function.update state.readers id reader)
    (readerSound : reader.Sound state.core) : after.Sound := by
  refine ⟨by rw [core]; exact sound.core, by rw [core]; exact sound.limit,
    by rw [counter]; exact sound.consistentReads, ?_⟩
  intro other
  rw [readers, core]
  by_cases equal : other = id
  · subst equal
    rw [Function.update_self]
    exact readerSound
  · rw [Function.update_of_ne equal]
    exact sound.readers other

/-- A step of one reader that leaves it outside `try_read`, with its history
as it was and nothing of it to return. -/
structure MovesTo (state : State geometry Producer ReaderId) (id : ReaderId)
    (phase : ReaderPhase) (after : State geometry Producer ReaderId) : Prop where
  readers : after.readers =
    Function.update state.readers id { state.readers id with phase := phase }
  core : after.core = state.core
  counter : after.inconsistentReads = state.inconsistentReads
  outside : phase.midRead = false
  reports : ∀ log, phase.Reports log

theorem call_moves {state after : State geometry Producer ReaderId} {id : ReaderId}
    {request : Request} (called : state.call id request = some after) :
    ∃ phase, state.MovesTo id phase after := by
  rcases call_cases called with ⟨_, rfl⟩
  cases request with
  | readBatch size =>
      refine ⟨_, rfl, rfl, rfl, ?_, fun log => ?_⟩
      · simp only [Request.entry]
        split <;> rfl
      · simp only [Request.entry]
        split <;> exact List.nil_suffix
  | _ => exact ⟨_, rfl, rfl, rfl, rfl, fun _ => trivial⟩

theorem idleStep_moves {state after : State geometry Producer ReaderId} {id : ReaderId}
    (stepped : state.idleStep id = some after) :
    ∃ phase, state.MovesTo id phase after ∧ (state.readers id).phase.parked = true ∧
      phase.settled = true := by
  unfold State.idleStep at stepped
  cases phase : (state.readers id).phase <;> simp only [phase] at stepped
  case testClosed =>
      split at stepped <;> cases stepped
      exact ⟨_, ⟨rfl, rfl, rfl, rfl, fun _ => trivial⟩, rfl, rfl⟩
  case waitCheck known =>
      cases stepped
      refine ⟨_, ⟨rfl, rfl, rfl, ?_, fun log => ?_⟩, rfl, ?_⟩
      · split <;> rfl
      · split <;> trivial
      · split <;> rfl
  case waitRecheck known =>
      cases stepped
      refine ⟨_, ⟨rfl, rfl, rfl, ?_, fun log => ?_⟩, rfl, ?_⟩
      · split <;> rfl
      · split <;> trivial
      · split <;> rfl
  case waitLock known =>
      split at stepped <;> cases stepped
      exact ⟨_, ⟨rfl, rfl, rfl, rfl, fun _ => trivial⟩, rfl, rfl⟩
  case waitPredicate known timedOut =>
      cases stepped
      refine ⟨_, ⟨rfl, rfl, rfl, ?_, fun log => ?_⟩, rfl, ?_⟩
      · split
        · rfl
        · split <;> rfl
      · split
        · trivial
        · split <;> trivial
      · split
        · rfl
        · split <;> rfl
  case waitRelock known timedOut =>
      split at stepped <;> cases stepped
      exact ⟨_, ⟨rfl, rfl, rfl, rfl, fun _ => trivial⟩, rfl, rfl⟩
  all_goals
    cases stepped
    try exact ⟨_, ⟨rfl, rfl, rfl, rfl, fun _ => trivial⟩, rfl, rfl⟩

theorem wakeup_moves {state after : State geometry Producer ReaderId} {id : ReaderId}
    {timedOut : Bool} (stepped : state.wakeup id timedOut = some after) :
    ∃ phase, state.MovesTo id phase after := by
  unfold State.wakeup at stepped
  split at stepped
  · cases stepped
    exact ⟨_, rfl, rfl, rfl, rfl, fun _ => trivial⟩
  · cases stepped

theorem Sound.move {state after : State geometry Producer ReaderId} (sound : state.Sound)
    {id : ReaderId} {phase : ReaderPhase} (moves : state.MovesTo id phase after) :
    after.Sound :=
  sound.update moves.core moves.counter moves.readers
    ((sound.readers id).setPhase phase (ReaderPhase.sound_of_outside moves.outside _ _)
      (moves.reports _))

theorem readStep_cases {state after : State geometry Producer ReaderId} {id : ReaderId}
    (stepped : state.readStep id = some after) :
    (∃ call, (state.readers id).phase = .loadSeq call ∧
      after = state.setReader id ((state.readers id).loadSeq call
        (state.core.seqAt (state.readers id).cursor.next))) ∨
    (∃ call s1 index words, (state.readers id).phase = .loadWord call s1 index words ∧
      after = state.setPhase id
        (if more : index.val + 1 < kFrameWords then
            .loadWord call s1 ⟨index.val + 1, more⟩
              (Function.update words index
                (state.core.wordsAt (state.readers id).cursor.next index))
          else .reloadSeq call s1
            (Function.update words index
              (state.core.wordsAt (state.readers id).cursor.next index)))) ∨
    (∃ call s1 words, (state.readers id).phase = .reloadSeq call s1 words ∧
      after = state.setReader id ((state.readers id).reloadSeq call s1 words
        (state.core.seqAt (state.readers id).cursor.next))) ∨
    (∃ call, (state.readers id).phase = .countInconsistent call ∧
      after = { (state.setPhase id (.lap call)) with
        inconsistentReads := state.inconsistentReads + 1 }) ∨
    (∃ call, (state.readers id).phase = .lap call ∧
      after = state.setReader id ((state.readers id).lapTo call
        (geometry.oldest state.core.writePos))) ∨
    ((state.readers id).phase = .attach ∧
      after = state.setReader id { Reader.fresh (geometry.oldest state.core.writePos) with
        phase := .done .attached
        past := (state.readers id).history }) := by
  unfold readStep at stepped
  cases phase : (state.readers id).phase <;> simp only [phase] at stepped <;> cases stepped
  case loadSeq call => exact Or.inl ⟨call, rfl, rfl⟩
  case loadWord call s1 index words => exact Or.inr (Or.inl ⟨call, s1, index, words, rfl, rfl⟩)
  case reloadSeq call s1 words => exact Or.inr (Or.inr (Or.inl ⟨call, s1, words, rfl, rfl⟩))
  case countInconsistent call => exact Or.inr (Or.inr (Or.inr (Or.inl ⟨call, rfl, rfl⟩)))
  case lap call => exact Or.inr (Or.inr (Or.inr (Or.inr (Or.inl ⟨call, rfl, rfl⟩))))
  case attach => exact Or.inr (Or.inr (Or.inr (Or.inr (Or.inr ⟨rfl, rfl⟩))))

theorem readStep_reader {state after : State geometry Producer ReaderId} {id : ReaderId}
    (stepped : state.readStep id = some after) :
    ∃ reader, after.readers = Function.update state.readers id reader := by
  rcases readStep_cases stepped with ⟨_, _, rfl⟩ | ⟨_, _, _, _, _, rfl⟩ | ⟨_, _, _, _, rfl⟩ |
    ⟨_, _, rfl⟩ | ⟨_, _, rfl⟩ | ⟨_, rfl⟩
  all_goals exact ⟨_, rfl⟩

theorem Sound.readStep {state after : State geometry Producer ReaderId} (sound : state.Sound)
    {id : ReaderId} (stepped : state.readStep id = some after) : after.Sound := by
  have reader := sound.readers id
  rcases readStep_cases stepped with ⟨call, loading, rfl⟩ | ⟨call, s1, index, words, loading, rfl⟩ |
    ⟨call, s1, words, reloading, rfl⟩ | ⟨call, counting, _⟩ | ⟨call, lapping, rfl⟩ | ⟨_, rfl⟩
  · exact sound.update rfl rfl rfl (reader.loadSeq sound.core loading)
  · exact sound.update rfl rfl rfl (reader.loadWord loading)
  · exact sound.update rfl rfl rfl (reader.reloadSeq sound.core reloading)
  · have impossible := reader.phase
    rw [counting] at impossible
    exact impossible.elim
  · have overtaken := reader.phase
    rw [lapping] at overtaken
    exact sound.update rfl rfl rfl (reader.lapTo lapping overtaken)
  · refine sound.update rfl rfl rfl ⟨rfl, trivial, rfl, ?_⟩
    intro pos frame missed member
    rw [Reader.history, Reader.fresh, List.append_nil] at member
    exact reader.frames pos frame missed member

end

section

variable {geometry : Geometry} {Producer ReaderId : Type} [DecidableEq Producer]

theorem Sound.take {state : State geometry Producer ReaderId} (sound : state.Sound)
    {core : Core geometry Producer} {producer : Producer} {frames : List Frame}
    (taken : state.core.take producer frames = some core) :
    ({ state with core := core } : State geometry Producer ReaderId).Sound :=
  sound.setCore (sound.core.take taken) (Core.take_limit sound.limit taken)
    (Core.extends_take taken)

theorem Sound.wakeReaders {state after : State geometry Producer ReaderId} (sound : state.Sound)
    {producer : Producer} (stepped : state.wakeReaders producer = some after) :
    after.Sound := by
  rcases wakeReaders_cases stepped with ⟨loading, rfl⟩ | ⟨notifying, rfl⟩
  · refine sound.setCore (sound.core.movePhase ?_ ?_ ?_) sound.limit (.setProducer _ _ _)
    · rw [loading]
      split <;> rfl
    · rw [loading]
      rfl
    · split <;> rfl
  · refine sound.notifyAll.setCore (sound.core.movePhase ?_ ?_ rfl) sound.limit
      (.setProducer _ _ _)
    · rw [notifying]
      rfl
    · rw [notifying]
      rfl

end

section

variable {geometry : Geometry} {Producer ReaderId : Type} [DecidableEq Producer]
  [DecidableEq ReaderId]

theorem Sound.step {state after : State geometry Producer ReaderId} (sound : state.Sound)
    {label : Label Producer ReaderId} (stepped : state.step label = some after) :
    after.Sound := by
  cases step_cases stepped with
  | publish producer frame core taken => exact sound.take taken
  | publishBatch producer frames core taken => exact sound.take taken
  | advance producer spurious core advanced =>
      exact sound.setCore (sound.core.advance advanced)
        ((Core.advance_writePos advanced).symm ▸ sound.limit) (sound.core.extends_advance advanced)
  | wakeReaders producer spurious woken => exact sound.wakeReaders woken
  | call id request called =>
      rcases call_moves called with ⟨phase, moves⟩
      exact sound.move moves
  | read id moved => exact sound.readStep moved
  | idle id moved =>
      rcases idleStep_moves moved with ⟨phase, moves, _⟩
      exact sound.move moves
  | wakeup id timedOut woken =>
      rcases wakeup_moves woken with ⟨phase, moves⟩
      exact sound.move moves
  | close free => exact ⟨sound.core, sound.limit, sound.consistentReads, sound.readers⟩
  | closeNotify closing =>
      have woken := sound.notifyAll
      exact ⟨woken.core, woken.limit, woken.consistentReads, woken.readers⟩

theorem sound_of_reachable {state : State geometry Producer ReaderId}
    {guard : State geometry Producer ReaderId → Label Producer ReaderId → Prop}
    (reached : (system geometry Producer ReaderId).ReachableUnder guard state) :
    state.Sound := by
  refine reached.invariant State.Sound ?_ ?_
  · intro state initial
    rcases initial with ⟨start, rfl⟩
    exact empty_sound start
  · intro state label after _ _ sound stepped
    exact sound.step stepped

/-! ## Reads are exact -/

theorem reads_never_torn {state : State geometry Producer ReaderId}
    (reached : (system geometry Producer ReaderId).Reachable state) :
    (∀ left right leftTicket rightTicket,
      (state.core.producers left).writing = some leftTicket →
      (state.core.producers right).writing = some rightTicket →
      geometry.slot leftTicket.pos = geometry.slot rightTicket.pos → left = right) ∧
    (∀ id frame, (state.readers id).phase = .done (.tryRead .kOk frame) →
      ∃ pos original missed, frame = some original ∧ (state.readers id).cursor.next = pos + 1 ∧
        .ok pos original missed ∈ (state.readers id).history) ∧
    (∀ id out missed, (state.readers id).phase = .done (.readBatch out missed) →
      out <:+ (state.readers id).log.filterMap ReadEvent.frame?) ∧
    (∀ id pos frame missed, .ok pos frame missed ∈ (state.readers id).history →
      ∃ holder passed, state.core.issued[pos]? = some (holder, passed) ∧
        frame = { passed with seq := UInt64.ofNat pos }) ∧
    (∀ left right pos leftFrame rightFrame leftMissed rightMissed,
      .ok pos leftFrame leftMissed ∈ (state.readers left).history →
      .ok pos rightFrame rightMissed ∈ (state.readers right).history →
      leftFrame = rightFrame) ∧
    state.inconsistentReads = 0 := by
  have sound := sound_of_reachable reached
  have exactly (id : ReaderId) := (sound.readers id).frames
  refine ⟨?_, ?_, ?_, exactly, ?_, sound.consistentReads⟩
  · intro left right leftTicket rightTicket leftWrites rightWrites same
    exact sound.core.writer_unique leftWrites rightWrites same
  · intro id frame returned
    exact sound.returned_ok returned
  · intro id out missed returned
    have reports := (sound.readers id).reports
    rw [returned] at reports
    exact reports
  · intro left right pos leftFrame rightFrame leftMissed rightMissed leftRead rightRead
    exact (exactly left pos leftFrame leftMissed leftRead).unique
      (exactly right pos rightFrame rightMissed rightRead)

/-- One frame published and read back in the smallest ring. -/
def publishAndRead : List (Label Unit Unit) :=
  .publish () { Frame.zero with seq := 7, canId := 291 } ::
    (List.replicate 8 (.producer () false) ++
      .call () .tryRead :: List.replicate 7 (.reader ()))

theorem reads_never_torn_publishAndRead :
    ∃ state, (system Geometry.smallest Unit Unit).run (.empty fun _ => 0) publishAndRead =
        some state ∧
      (state.readers ()).phase =
        .done (.tryRead .kOk (some { Frame.zero with seq := 0, canId := 291 })) ∧
      state.inconsistentReads = 0 :=
  ⟨_, rfl, rfl,
    (reads_never_torn (.execute (.start ⟨fun _ => 0, rfl⟩) publishAndRead rfl)).2.2.2.2.2⟩

/-! ## Losses are counted exactly -/

/-- What one step of the ring does to a reader: it is the reader's own step
inside `try_read` or `attach`, or the phase at most changes, by a call of its
own or on its way through `wait_for_data` or `closed`. -/
theorem step_reader {state after : State geometry Producer ReaderId}
    {label : Label Producer ReaderId} (stepped : state.step label = some after) (id : ReaderId) :
    (label = .reader id ∧ state.readStep id = some after) ∨
      ∃ phase, after.readers id = { state.readers id with phase := phase } ∧
        (phase = (state.readers id).phase ∨ (∃ request, label = .call id request) ∨
          ((state.readers id).phase.parked = true ∧ phase.settled = true)) := by
  have same {reader : Reader} (equal : reader = state.readers id) :
      ∃ phase, reader = { state.readers id with phase := phase } ∧
        (phase = (state.readers id).phase ∨ (∃ request, label = .call id request) ∨
          ((state.readers id).phase.parked = true ∧ phase.settled = true)) :=
    ⟨_, equal, Or.inl rfl⟩
  have woken : ∃ phase, wake (state.readers id) = { state.readers id with phase := phase } ∧
      (phase = (state.readers id).phase ∨ (∃ request, label = .call id request) ∨
        ((state.readers id).phase.parked = true ∧ phase.settled = true)) := by
    unfold wake
    split
    · rename_i known blocked
      exact ⟨.waitRelock known false, rfl, Or.inr (Or.inr ⟨by rw [blocked]; rfl, rfl⟩)⟩
    · exact ⟨_, rfl, Or.inl rfl⟩
  cases step_cases stepped with
  | publish producer frame core taken => exact Or.inr (same rfl)
  | publishBatch producer frames core taken => exact Or.inr (same rfl)
  | advance producer spurious core advanced => exact Or.inr (same rfl)
  | wakeReaders producer spurious waking =>
      rcases wakeReaders_cases waking with ⟨_, rfl⟩ | ⟨_, rfl⟩
      · exact Or.inr (same rfl)
      · exact Or.inr woken
  | call other request called =>
      rcases call_moves called with ⟨phase, moves⟩
      rw [moves.readers]
      by_cases equal : id = other
      · subst equal
        rw [Function.update_self]
        exact Or.inr ⟨phase, rfl, Or.inr (Or.inl ⟨request, rfl⟩)⟩
      · rw [Function.update_of_ne equal]
        exact Or.inr (same rfl)
  | read other read =>
      by_cases equal : other = id
      · subst equal
        exact Or.inl ⟨rfl, read⟩
      · rcases readStep_reader read with ⟨reader, readers⟩
        rw [readers, Function.update_of_ne (Ne.symm equal)]
        exact Or.inr (same rfl)
  | idle other moved =>
      rcases idleStep_moves moved with ⟨phase, moves, passing⟩
      rw [moves.readers]
      by_cases equal : id = other
      · subst equal
        rw [Function.update_self]
        exact Or.inr ⟨phase, rfl, Or.inr (Or.inr passing)⟩
      · rw [Function.update_of_ne equal]
        exact Or.inr (same rfl)
  | wakeup other timedOut waking =>
      unfold State.wakeup at waking
      split at waking <;> cases waking
      rename_i known blocked
      by_cases equal : id = other
      · subst equal
        rw [setPhase, setReader_self]
        exact Or.inr ⟨.waitRelock known timedOut, rfl,
          Or.inr (Or.inr ⟨by rw [blocked]; rfl, rfl⟩)⟩
      · exact Or.inr (same (Function.update_of_ne equal ..))
  | close free => exact Or.inr (same rfl)
  | closeNotify closing => exact Or.inr woken

/-- Only a reader's own step inside `try_read` or `attach` touches its cursor
and its log. -/
theorem step_untouched {state after : State geometry Producer ReaderId}
    {label : Label Producer ReaderId} (stepped : state.step label = some after) (id : ReaderId) :
    (label = .reader id ∧ state.readStep id = some after) ∨
      ((after.readers id).cursor = (state.readers id).cursor ∧
        (after.readers id).log = (state.readers id).log) := by
  rcases step_reader stepped id with own | ⟨phase, equal, _⟩
  · exact Or.inl own
  · rw [equal]
    exact Or.inr ⟨rfl, rfl⟩

theorem step_core {state after : State geometry Producer ReaderId}
    {label : Label Producer ReaderId} (stepped : state.step label = some after)
    (reading : label.producer? = none) : after.core = state.core := by
  cases step_cases stepped with
  | publish producer frame core taken => cases reading
  | publishBatch producer frames core taken => cases reading
  | advance producer spurious core advanced => cases reading
  | wakeReaders producer spurious woken => cases reading
  | call id request called =>
      rcases call_moves called with ⟨phase, moves⟩
      exact moves.core
  | read id moved =>
      rcases readStep_cases moved with ⟨_, _, rfl⟩ | ⟨_, _, _, _, _, rfl⟩ | ⟨_, _, _, _, rfl⟩ |
        ⟨_, _, rfl⟩ | ⟨_, _, rfl⟩ | ⟨_, rfl⟩
      all_goals rfl
  | idle id moved =>
      rcases idleStep_moves moved with ⟨phase, moves, _⟩
      exact moves.core
  | wakeup id timedOut woken =>
      rcases wakeup_moves woken with ⟨phase, moves⟩
      exact moves.core
  | close free => rfl
  | closeNotify closing => rfl

theorem Sound.extends {state after : State geometry Producer ReaderId} (sound : state.Sound)
    {label : Label Producer ReaderId} (stepped : state.step label = some after) :
    state.core.Extends after.core := by
  by_cases reading : label.producer? = none
  · rw [step_core stepped reading]
    exact .ofSame rfl rfl rfl
  · cases step_cases stepped with
    | publish producer frame core taken => exact Core.extends_take taken
    | publishBatch producer frames core taken => exact Core.extends_take taken
    | advance producer spurious core advanced => exact sound.core.extends_advance advanced
    | wakeReaders producer spurious woken =>
        rcases wakeReaders_cases woken with ⟨_, rfl⟩ | ⟨_, rfl⟩
        all_goals exact .setProducer _ _ _
    | _ => exact absurd rfl reading

theorem step_idle {state after : State geometry Producer ReaderId}
    {label : Label Producer ReaderId} (stepped : state.step label = some after)
    {producer : Producer} (idle : state.core.producers producer = .idle)
    (quiet : label.caller? ≠ some producer) : after.core.producers producer = .idle := by
  have taken {core : Core geometry Producer} {owner : Producer} {frames : List Frame}
      (apart : owner ≠ producer) (took : state.core.take owner frames = some core) :
      core.producers producer = .idle := by
    unfold Core.take at took
    split at took
    · cases took
      exact idle
    · split at took <;> cases took
      exact (Core.setProducer_other _ _ (Ne.symm apart)).trans idle
    · cases took
  by_cases reading : label.producer? = none
  · rw [step_core stepped reading]
    exact idle
  · cases step_cases stepped with
    | publish owner frame core took => exact taken (fun same => quiet (congrArg some same)) took
    | publishBatch owner frames core took =>
        exact taken (fun same => quiet (congrArg some same)) took
    | advance owner spurious core advanced =>
        have apart : producer ≠ owner := by
          rintro rfl
          simp only [Core.advance, idle] at advanced
          cases advanced
        rcases Core.advance_producers advanced with ⟨phase, producers⟩
        dsimp only
        rw [producers, Function.update_of_ne apart]
        exact idle
    | wakeReaders owner spurious woken =>
        rcases wakeReaders_cases woken with ⟨waking, rfl⟩ | ⟨waking, rfl⟩
        all_goals
          have apart : producer ≠ owner := by
            rintro rfl
            cases waking.symm.trans idle
          exact (Core.setProducer_other _ _ apart).trans idle
    | _ => exact absurd rfl reading

/-- `try_read` answers `kEmpty` in the step of its first load, exactly when the
position has not been published at that instant. -/
theorem Sound.empty_iff {state after : State geometry Producer ReaderId} (sound : state.Sound)
    {label : Label Producer ReaderId} (stepped : state.step label = some after) (id : ReaderId) :
    (after.readers id).log =
        (state.readers id).log ++ [.empty (state.readers id).cursor.next] ↔
      label = .reader id ∧ (∃ call, (state.readers id).phase = .loadSeq call) ∧
        (state.readers id).cursor.next ∉ state.core.published := by
  constructor
  · intro answered
    rcases step_untouched stepped id with ⟨own, read⟩ | ⟨_, same⟩
    · refine ⟨own, ?_⟩
      rcases readStep_cases read with ⟨call, loading, rfl⟩ | ⟨_, _, _, _, _, rfl⟩ |
        ⟨call, s1, words, _, rfl⟩ | ⟨_, _, rfl⟩ | ⟨call, _, rfl⟩ | ⟨_, rfl⟩
      · refine ⟨⟨call, loading⟩, ?_⟩
        rw [setReader_self] at answered
        rcases Reader.loadSeq_cases sound.core (state.readers id) call with ⟨missing, _⟩ |
          ⟨_, _, equal⟩ | ⟨_, _, equal⟩
        · exact missing
        all_goals
          rw [equal] at answered
          simp at answered
      · rw [setPhase, setReader_self] at answered
        simp at answered
      · rw [setReader_self] at answered
        rcases (Reader.reloadSeq_effect (state.readers id) call s1 words _).2 with same | ⟨_, ok⟩
        · rw [same] at answered
          simp at answered
        · rw [ok] at answered
          simp at answered
      · change ((state.setReader id _).readers id).log = _ at answered
        rw [setReader_self] at answered
        simp at answered
      · rw [setReader_self] at answered
        simp [Reader.lapTo] at answered
      · rw [setReader_self] at answered
        simp [Reader.fresh] at answered
    · rw [same] at answered
      simp at answered
  · intro conditions
    rcases conditions with ⟨rfl, ⟨call, loading⟩, missing⟩
    have read : state.readStep id = some (state.setReader id ((state.readers id).loadSeq call
        (state.core.seqAt (state.readers id).cursor.next))) := by
      simp only [State.readStep, loading]
      rfl
    simp only [State.step, read] at stepped
    cases stepped
    rw [setReader_self]
    rcases Reader.loadSeq_cases sound.core (state.readers id) call with ⟨_, equal⟩ |
      ⟨published, _, _⟩ | ⟨published, _, _⟩
    · rw [equal]
      rfl
    · exact absurd published missing
    · exact absurd published missing

/-- A loss is counted only in `lap`, and only for positions whose overwriting
ticket is out. -/
theorem Sound.missed_cases {state after : State geometry Producer ReaderId}
    (sound : state.Sound) {label : Label Producer ReaderId}
    (stepped : state.step label = some after) {id : ReaderId}
    (grows : (state.readers id).cursor.missed < (after.readers id).cursor.missed) :
    (after.readers id).cursor.missed - (state.readers id).cursor.missed =
        (after.readers id).cursor.next - (state.readers id).cursor.next ∧
      ∀ pos, (state.readers id).cursor.next ≤ pos → pos < (after.readers id).cursor.next →
        pos + geometry.capacity < state.core.writePos := by
  rcases step_untouched stepped id with ⟨_, read⟩ | ⟨same, _⟩
  · rcases readStep_cases read with ⟨call, _, rfl⟩ | ⟨_, _, _, _, _, rfl⟩ |
      ⟨call, s1, words, _, rfl⟩ | ⟨call, counting, _⟩ | ⟨call, lapping, rfl⟩ | ⟨_, rfl⟩
    · rw [setReader_self, Reader.loadSeq_cursor] at grows
      exact absurd grows (Nat.lt_irrefl _)
    · rw [setPhase, setReader_self] at grows
      exact absurd grows (Nat.lt_irrefl _)
    · rw [setReader_self, (Reader.reloadSeq_effect _ _ _ _ _).1] at grows
      exact absurd grows (Nat.lt_irrefl _)
    · have impossible := (sound.readers id).phase
      rw [counting] at impossible
      exact impossible.elim
    · have overtaken := (sound.readers id).phase
      rw [lapping] at overtaken
      rcases Reader.lapTo_ahead call overtaken with ⟨ahead, equal⟩
      rw [setReader_self, equal]
      refine ⟨Nat.add_sub_cancel_left _ _, ?_⟩
      intro pos _ below
      simp only [Geometry.oldest] at below
      split at below <;> omega
    · rw [setReader_self] at grows
      exact absurd grows (Nat.not_lt_zero _)
  · rw [same] at grows
    exact absurd grows (Nat.lt_irrefl _)

theorem losses_counted_exactly {state : State geometry Producer ReaderId}
    (reached : (system geometry Producer ReaderId).Reachable state) :
    (∀ id, (state.readers id).cursor.next = (state.readers id).start +
        (state.readers id).log.countP ReadEvent.isOk + (state.readers id).cursor.missed ∧
      ((state.readers id).log.filterMap ReadEvent.frame?).Pairwise
        fun left right => left.seq < right.seq) ∧
    (∀ label after id, state.step label = some after →
      ((after.readers id).log =
          (state.readers id).log ++ [.empty (state.readers id).cursor.next] ↔
        label = .reader id ∧ (∃ call, (state.readers id).phase = .loadSeq call) ∧
          (state.readers id).cursor.next ∉ state.core.published)) ∧
    (∀ pos, pos ∉ state.core.published ↔ state.core.writePos ≤ pos ∨
      ∃ producer ticket, (state.core.producers producer).ticket = some ticket ∧
        ticket.Covers pos) ∧
    (∀ label after id, state.step label = some after →
      (state.readers id).cursor.missed < (after.readers id).cursor.missed →
      (after.readers id).cursor.missed - (state.readers id).cursor.missed =
          (after.readers id).cursor.next - (state.readers id).cursor.next ∧
        ∀ pos, (state.readers id).cursor.next ≤ pos → pos < (after.readers id).cursor.next →
          pos + geometry.capacity < state.core.writePos) ∧
    (∀ id call, (state.readers id).phase = .lap call →
      (state.readers id).cursor.next < geometry.oldest state.core.writePos) := by
  have sound := sound_of_reachable reached
  refine ⟨?_, ?_, sound.core.tickets.unpublished_iff, ?_, ?_⟩
  · intro id
    exact ⟨replay_accounts (sound.readers id).replayed,
      (sound.readers id).sequences_increase sound.core sound.limit⟩
  · intro label after id stepped
    exact sound.empty_iff stepped id
  · intro label after id stepped grows
    exact sound.missed_cases stepped grows
  · intro id call lapping
    have overtaken := (sound.readers id).phase
    rw [lapping] at overtaken
    exact (Reader.lapTo_ahead call overtaken).1

/-- Four frames published in a ring of two, then a reader from the beginning. -/
def publishAndLap : List (Label Unit Unit) :=
  .publishBatch () [Frame.zero, Frame.zero, Frame.zero, Frame.zero] ::
    (List.replicate 29 (.producer () false) ++
      .call () (.readBatch 1) :: List.replicate 9 (.reader ()))

theorem losses_counted_exactly_publishAndLap :
    ∃ state, (system Geometry.smallest Unit Unit).run (.empty fun _ => 0) publishAndLap =
        some state ∧
      (state.readers ()).cursor.missed = 2 ∧
      (state.readers ()).cursor.next = (state.readers ()).start +
        (state.readers ()).log.countP ReadEvent.isOk + (state.readers ()).cursor.missed :=
  ⟨_, rfl, rfl, ((losses_counted_exactly
    (.execute (.start ⟨fun _ => 0, rfl⟩) publishAndLap rfl)).1 ()).1⟩

end

end State

end TelemetryGateway.BroadcastRing
