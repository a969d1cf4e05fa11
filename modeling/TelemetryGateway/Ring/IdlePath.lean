import Mathlib.Data.Finset.Card
import TelemetryGateway.Ring.ReadSafety

/-! # Parking and waking

`wait_for_data` registers before it looks again, so a producer that saw no
waiter cannot have been missed. What remains open is the window between the
predicate of the condition wait and the block: `wake_readers` notifies without
the mutex that would close it. -/

namespace TelemetryGateway.BroadcastRing

namespace ReaderPhase

def registered : ReaderPhase → Bool
  | .waitRecheck _ => true
  | .waitLock _ => true
  | .waitPredicate _ _ => true
  | .waitBlock _ => true
  | .blocked _ => true
  | .waitRelock _ _ => true
  | .waitUnlock _ => true
  | .waitUnregister _ => true
  | _ => false

def sleepsOn : ReaderPhase → Option Nat
  | .waitBlock known => some known
  | .blocked known => some known
  | _ => none

theorem registered_of_sleepsOn {phase : ReaderPhase} {known : Nat}
    (sleeps : phase.sleepsOn = some known) : phase.registered = true := by
  cases phase <;> first | rfl | cases sleeps

theorem registered_of_resting {phase : ReaderPhase} (resting : phase.resting = true) :
    phase.registered = false := by
  cases phase <;> first | rfl | cases resting

end ReaderPhase

namespace State

/-- Nobody sleeps through a publish: a reader blocked on a position the writers
have passed is followed by a publish that has not finished `wake_readers`. -/
def NoLostWakeup (state : State geometry Producer ReaderId) : Prop :=
  ∀ id known, (state.readers id).phase = .blocked known → known < state.core.writePos →
    ∃ producer, state.core.producers producer ≠ .idle

/-- No producer notifies while a reader stands between its predicate and its
block with data already there. -/
def NotifyOutsideWindow (state : State geometry Producer ReaderId) :
    Label Producer ReaderId → Prop
  | .producer producer _ => state.core.producers producer = .notifyAll →
      ∀ id known, (state.readers id).phase = .waitBlock known → state.core.writePos ≤ known
  | _ => True

/-! ## The number of waiters -/

def Counted (state : State geometry Producer ReaderId) : Prop :=
  ∃ parked : Finset ReaderId, parked.card = state.waiters ∧
    ∀ id, id ∈ parked ↔ (state.readers id).phase.registered = true

theorem Counted.positive {state : State geometry Producer ReaderId} (counted : state.Counted)
    {id : ReaderId} (registered : (state.readers id).phase.registered = true) :
    0 < state.waiters := by
  rcases counted with ⟨parked, card, members⟩
  rw [← card]
  exact Finset.card_pos.mpr ⟨id, (members id).mpr registered⟩

theorem Counted.keep {state after : State geometry Producer ReaderId} (counted : state.Counted)
    (waiters : after.waiters = state.waiters)
    (phases : ∀ id, (after.readers id).phase.registered = (state.readers id).phase.registered) :
    after.Counted := by
  rcases counted with ⟨parked, card, members⟩
  refine ⟨parked, card.trans waiters.symm, ?_⟩
  intro id
  rw [members, phases]

theorem registered_wake (reader : Reader) :
    (wake reader).phase.registered = reader.phase.registered := by
  unfold wake
  split
  · rename_i known blocked
    rw [blocked]
    rfl
  · rfl

/-! ## Sleepers -/

/-- The invariant behind `NoLostWakeup`: it also holds of the readers that are
about to block. -/
def Watched (state : State geometry Producer ReaderId) : Prop :=
  ∀ id known, (state.readers id).phase.sleepsOn = some known → known < state.core.writePos →
    ∃ producer, state.core.producers producer ≠ .idle

theorem waitBlock_of_wake {reader : Reader} {known : Nat}
    (asleep : (wake reader).phase.sleepsOn = some known) : reader.phase = .waitBlock known := by
  unfold wake at asleep
  split at asleep
  · cases asleep
  · rename_i notBlocked
    cases phase : reader.phase with
    | waitBlock own =>
        rw [phase] at asleep
        cases asleep
        rfl
    | blocked own => exact absurd phase (notBlocked own)
    | _ =>
        rw [phase] at asleep
        cases asleep

theorem sleepsOn_wake {reader : Reader} {known : Nat}
    (asleep : (wake reader).phase.sleepsOn = some known) :
    reader.phase.sleepsOn = some known := by
  rw [waitBlock_of_wake asleep]
  rfl

section

variable {geometry : Geometry} {Producer ReaderId : Type} [DecidableEq ReaderId]

structure Parks (state : State geometry Producer ReaderId) (id : ReaderId)
    (reader : Reader) (after : State geometry Producer ReaderId) : Prop where
  readers : after.readers = Function.update state.readers id reader
  core : after.core = state.core
  waiters : after.waiters =
    if reader.phase.registered = (state.readers id).phase.registered then state.waiters
    else if reader.phase.registered then state.waiters + 1 else state.waiters - 1
  sleeps : ∀ known, reader.phase.sleepsOn = some known →
    (state.readers id).phase.sleepsOn = some known ∨ state.core.writePos ≤ known

theorem Parks.ofUnregistered {state after : State geometry Producer ReaderId} {id : ReaderId}
    {reader : Reader} (readers : after.readers = Function.update state.readers id reader)
    (core : after.core = state.core) (waiters : after.waiters = state.waiters)
    (before : (state.readers id).phase.registered = false)
    (now : reader.phase.registered = false) : state.Parks id reader after := by
  refine ⟨readers, core, by rw [waiters, before, now]; rfl, ?_⟩
  intro known asleep
  rw [ReaderPhase.registered_of_sleepsOn asleep] at now
  cases now

theorem idleStep_parks {state after : State geometry Producer ReaderId} {id : ReaderId}
    (stepped : state.idleStep id = some after) : ∃ reader, state.Parks id reader after := by
  unfold State.idleStep at stepped
  cases phase : (state.readers id).phase <;> simp only [phase] at stepped
  case testClosed =>
      split at stepped <;> cases stepped
      exact ⟨_, rfl, rfl, by rw [phase]; rfl, fun _ asleep => nomatch asleep⟩
  case waitCheck known =>
      cases stepped
      refine ⟨_, rfl, rfl, ?_, fun _ => ?_⟩
      · rw [phase]
        split <;> rfl
      · split <;> exact fun asleep => nomatch asleep
  case waitRegister known =>
      cases stepped
      exact ⟨_, rfl, rfl, by rw [phase]; rfl, fun _ asleep => nomatch asleep⟩
  case waitRecheck known =>
      cases stepped
      refine ⟨_, rfl, rfl, ?_, fun _ => ?_⟩
      · rw [phase]
        split <;> rfl
      · split <;> exact fun asleep => nomatch asleep
  case waitLock known =>
      split at stepped <;> cases stepped
      exact ⟨_, rfl, rfl, by rw [phase]; rfl, fun _ asleep => nomatch asleep⟩
  case waitPredicate known timedOut =>
      cases stepped
      refine ⟨_, rfl, rfl, ?_, fun _ asleep => ?_⟩
      · rw [phase]
        split
        · rfl
        · split <;> rfl
      · split at asleep
        · cases asleep
        · rename_i nothing
          split at asleep
          · cases asleep
          · cases asleep
            exact Or.inr (Nat.not_lt.mp fun there => nothing (Or.inl there))
  case waitBlock known =>
      cases stepped
      refine ⟨_, rfl, rfl, by rw [phase]; rfl, fun _ asleep => ?_⟩
      cases asleep
      exact Or.inl (by rw [phase]; rfl)
  case waitRelock known timedOut =>
      split at stepped <;> cases stepped
      exact ⟨_, rfl, rfl, by rw [phase]; rfl, fun _ asleep => nomatch asleep⟩
  case waitUnlock woken =>
      cases stepped
      exact ⟨_, rfl, rfl, by rw [phase]; rfl, fun _ asleep => nomatch asleep⟩
  case waitUnregister woken =>
      cases stepped
      exact ⟨_, rfl, rfl, by rw [phase]; rfl, fun _ asleep => nomatch asleep⟩
  all_goals cases stepped

theorem call_parks {state after : State geometry Producer ReaderId} {id : ReaderId}
    {request : Request} (called : state.call id request = some after) :
    ∃ reader, state.Parks id reader after := by
  rcases call_cases called with ⟨resting, rfl⟩
  have before := ReaderPhase.registered_of_resting resting
  cases request with
  | readBatch size =>
      refine ⟨_, .ofUnregistered rfl rfl rfl before ?_⟩
      simp only [Request.entry]
      split <;> rfl
  | _ => exact ⟨_, .ofUnregistered rfl rfl rfl before rfl⟩

theorem wakeup_parks {state after : State geometry Producer ReaderId} {id : ReaderId}
    {timedOut : Bool} (stepped : state.wakeup id timedOut = some after) :
    ∃ reader, state.Parks id reader after := by
  unfold State.wakeup at stepped
  split at stepped
  · rename_i phase
    cases stepped
    exact ⟨_, rfl, rfl, by rw [phase]; rfl, fun _ asleep => nomatch asleep⟩
  · cases stepped

theorem readStep_parks {state after : State geometry Producer ReaderId} {id : ReaderId}
    (stepped : state.readStep id = some after) : ∃ reader, state.Parks id reader after := by
  have resumed (call : ReadCall) (cursor : Cursor) (status : ReadStatus) (frame : Option Frame) :
      (call.resume cursor status frame).registered = false := by
    cases call with
    | tryRead => rfl
    | readBatch size out missedBefore =>
        cases status with
        | kOk =>
            simp only [ReadCall.resume]
            split <;> rfl
        | kEmpty => rfl
        | kLapped => rfl
  rcases readStep_cases stepped with ⟨call, phase, rfl⟩ | ⟨_, _, _, _, phase, rfl⟩ |
    ⟨_, _, _, phase, rfl⟩ | ⟨_, phase, rfl⟩ | ⟨_, phase, rfl⟩ | ⟨phase, rfl⟩
  all_goals refine ⟨_, .ofUnregistered rfl rfl rfl (by rw [phase]; rfl) ?_⟩
  · unfold Reader.loadSeq
    repeat' split
    all_goals first | rfl | exact resumed ..
  · split <;> rfl
  · unfold Reader.reloadSeq
    repeat' split
    all_goals first | rfl | exact resumed ..
  · rfl
  · simp only [Reader.lapTo]
    exact resumed ..
  · rfl

theorem Counted.park {state after : State geometry Producer ReaderId} (counted : state.Counted)
    {id : ReaderId} {reader : Reader} (parks : state.Parks id reader after) :
    after.Counted := by
  rcases counted with ⟨parked, card, members⟩
  have waiters := parks.waiters
  -- the set changes at one reader, as the counter does
  have others (set : Finset ReaderId) (same : ∀ other, other ≠ id → (other ∈ set ↔ other ∈ parked))
      (here : id ∈ set ↔ reader.phase.registered = true) :
      ∀ other, other ∈ set ↔ (after.readers other).phase.registered = true := by
    intro other
    rw [parks.readers]
    by_cases equal : other = id
    · subst equal
      rw [Function.update_self]
      exact here
    · rw [Function.update_of_ne equal, same other equal]
      exact members other
  cases now : reader.phase.registered with
  | true =>
      cases before : (state.readers id).phase.registered with
      | true =>
          rw [now, before] at waiters
          refine ⟨parked, by rw [waiters]; exact card, others parked (fun _ _ => Iff.rfl) ?_⟩
          rw [members id, before, now]
      | false =>
          have missing : id ∉ parked := by
            rw [members id, before]
            exact Bool.false_ne_true
          rw [now, before] at waiters
          refine ⟨insert id parked, ?_, others _ ?_ ?_⟩
          · rw [Finset.card_insert_of_notMem missing, card, waiters]
            rfl
          · intro other different
            simp [different]
          · simp [now]
  | false =>
      cases before : (state.readers id).phase.registered with
      | true =>
          rw [now, before] at waiters
          refine ⟨parked.erase id, ?_, others _ ?_ ?_⟩
          · rw [Finset.card_erase_of_mem ((members id).mpr before), card, waiters]
            rfl
          · intro other different
            simp [different]
          · simp [now]
      | false =>
          rw [now, before] at waiters
          refine ⟨parked, by rw [waiters]; exact card, others parked (fun _ _ => Iff.rfl) ?_⟩
          rw [members id, before, now]

theorem Watched.park {state after : State geometry Producer ReaderId} (watched : state.Watched)
    {id : ReaderId} {reader : Reader} (parks : state.Parks id reader after) :
    after.Watched := by
  intro other known asleep behind
  rw [parks.core] at behind ⊢
  rw [parks.readers] at asleep
  by_cases equal : other = id
  · subst equal
    rw [Function.update_self] at asleep
    rcases parks.sleeps known asleep with already | nothing
    · exact watched other known already behind
    · exact absurd behind (Nat.not_lt.mpr nothing)
  · rw [Function.update_of_ne equal] at asleep
    exact watched other known asleep behind

end

/-! ## One step -/

section

variable {geometry : Geometry} {Producer ReaderId : Type} [DecidableEq Producer]

theorem Watched.take {state : State geometry Producer ReaderId} (watched : state.Watched)
    {core : Core geometry Producer} {producer : Producer} {frames : List Frame}
    (taken : state.core.take producer frames = some core) :
    ({ state with core := core } : State geometry Producer ReaderId).Watched := by
  unfold Core.take at taken
  split at taken
  · cases taken
    exact watched
  · split at taken
    · cases taken
      refine fun _ _ _ _ => ⟨producer, ?_⟩
      change (state.core.setProducer producer _).producers producer ≠ _
      rw [Core.setProducer_self]
      exact fun impossible => nomatch impossible
    · cases taken
  · cases taken

/-- A producer that finds no waiter has none to wake; one that notifies wakes
whoever is blocked, and the guard leaves nobody else. -/
theorem Counted.wakeReaders_watched {state after : State geometry Producer ReaderId}
    (counted : state.Counted) {producer : Producer} {spurious : Bool}
    (outside : state.NotifyOutsideWindow (.producer producer spurious))
    (stepped : state.wakeReaders producer = some after) : after.Watched := by
  rcases wakeReaders_cases stepped with ⟨_, rfl⟩ | ⟨notifying, rfl⟩
  · intro id known asleep behind
    have positive := counted.positive (ReaderPhase.registered_of_sleepsOn asleep)
    refine ⟨producer, ?_⟩
    change (state.core.setProducer producer _).producers producer ≠ _
    rw [Core.setProducer_self, if_neg (by omega)]
    exact fun impossible => nomatch impossible
  · intro id known asleep behind
    have nothing := outside notifying id known (waitBlock_of_wake asleep)
    exact absurd behind (Nat.not_lt.mpr nothing)

end

section

variable {geometry : Geometry} {Producer ReaderId : Type} [DecidableEq Producer]
  [DecidableEq ReaderId]

theorem Counted.step {state after : State geometry Producer ReaderId} (counted : state.Counted)
    {label : Label Producer ReaderId} (stepped : state.step label = some after) :
    after.Counted := by
  cases step_cases stepped with
  | publish producer frame core taken => exact counted.keep rfl fun _ => rfl
  | publishBatch producer frames core taken => exact counted.keep rfl fun _ => rfl
  | advance producer spurious core advanced => exact counted.keep rfl fun _ => rfl
  | wakeReaders producer spurious woken =>
      rcases wakeReaders_cases woken with ⟨_, rfl⟩ | ⟨_, rfl⟩
      · exact counted.keep rfl fun _ => rfl
      · exact counted.keep rfl fun id => registered_wake (state.readers id)
  | call id request called =>
      rcases call_parks called with ⟨reader, parks⟩
      exact counted.park parks
  | read id moved =>
      rcases readStep_parks moved with ⟨reader, parks⟩
      exact counted.park parks
  | idle id moved =>
      rcases idleStep_parks moved with ⟨reader, parks⟩
      exact counted.park parks
  | wakeup id timedOut woken =>
      rcases wakeup_parks woken with ⟨reader, parks⟩
      exact counted.park parks
  | close free => exact counted.keep rfl fun _ => rfl
  | closeNotify closing => exact counted.keep rfl fun id => registered_wake (state.readers id)

theorem Watched.step {state after : State geometry Producer ReaderId} (counted : state.Counted)
    (watched : state.Watched) {label : Label Producer ReaderId}
    (outside : state.NotifyOutsideWindow label) (stepped : state.step label = some after) :
    after.Watched := by
  cases step_cases stepped with
  | publish producer frame core taken => exact watched.take taken
  | publishBatch producer frames core taken => exact watched.take taken
  | advance producer spurious core advanced =>
      exact fun _ _ _ _ => ⟨producer, Core.advance_busy advanced⟩
  | wakeReaders producer spurious woken => exact counted.wakeReaders_watched outside woken
  | call id request called =>
      rcases call_parks called with ⟨reader, parks⟩
      exact watched.park parks
  | read id moved =>
      rcases readStep_parks moved with ⟨reader, parks⟩
      exact watched.park parks
  | idle id moved =>
      rcases idleStep_parks moved with ⟨reader, parks⟩
      exact watched.park parks
  | wakeup id timedOut woken =>
      rcases wakeup_parks woken with ⟨reader, parks⟩
      exact watched.park parks
  | close free => exact watched
  | closeNotify closing =>
      intro id known asleep behind
      exact watched id known (sleepsOn_wake asleep) behind

/-! ## No wakeup is lost outside the window -/

theorem no_lost_wakeup_outside_window {state : State geometry Producer ReaderId}
    (reached : (system geometry Producer ReaderId).ReachableUnder NotifyOutsideWindow state) :
    state.NoLostWakeup := by
  have both : state.Counted ∧ state.Watched := by
    refine reached.invariant (fun state => state.Counted ∧ state.Watched) ?_ ?_
    · intro state initial
      rcases initial with ⟨start, rfl⟩
      exact ⟨⟨∅, rfl, fun id => by simp [State.empty, Reader.fresh, ReaderPhase.registered]⟩,
        fun _ _ asleep => nomatch asleep⟩
    · intro state label after _ outside holds stepped
      exact ⟨holds.1.step stepped, holds.2.step holds.1 outside stepped⟩
  intro id known blocked behind
  exact both.2 id known (by rw [blocked]; rfl) behind

/-- A reader goes to sleep, and then a frame is published. -/
def sleepThenPublish : List (Label Unit Unit) :=
  .call () (.waitForData 0) :: (List.replicate 6 (.reader ()) ++ [.publish () Frame.zero])

theorem no_lost_wakeup_sleepThenPublish :
    ∃ state, (system Geometry.smallest Unit Unit).run (.empty fun _ => 0) sleepThenPublish =
        some state ∧
      (state.readers ()).phase = .blocked 0 ∧ 0 < state.core.writePos ∧
      ∃ producer, state.core.producers producer ≠ .idle := by
  have final : ∃ state, (system Geometry.smallest Unit Unit).run (.empty fun _ => 0)
      sleepThenPublish = some state ∧ (state.readers ()).phase = .blocked 0 ∧
      state.core.writePos = 1 := ⟨_, rfl, rfl, rfl⟩
  rcases final with ⟨state, ran, blocked, writePos⟩
  have behind : 0 < state.core.writePos := by
    rw [writePos]
    decide
  have outside : ∀ label ∈ sleepThenPublish,
      ∀ state : State Geometry.smallest Unit Unit, state.NotifyOutsideWindow label := by
    intro label member state
    simp only [sleepThenPublish, List.replicate, List.cons_append, List.nil_append,
      List.mem_cons, List.not_mem_nil, or_false] at member
    rcases member with rfl | rfl | rfl | rfl | rfl | rfl | rfl | rfl <;> trivial
  have reached : (system Geometry.smallest Unit Unit).ReachableUnder NotifyOutsideWindow state :=
    .run (.start ⟨fun _ => 0, rfl⟩) sleepThenPublish
      (System.guarded_of_labels _ sleepThenPublish outside _) ran
  exact ⟨state, ran, blocked, behind, no_lost_wakeup_outside_window reached () 0 blocked behind⟩

/-- The losing schedule: the predicate is evaluated, then a whole publish runs,
notification included, and only then does the reader block. -/
def publishInWindow : List (Label Unit Unit) :=
  .call () (.waitForData 0) :: (List.replicate 5 (.reader ()) ++
    .publish () Frame.zero :: (List.replicate 9 (.producer () false) ++ [.reader ()]))

theorem wakeup_lost_in_window :
    ¬ ∀ state, (system Geometry.smallest Unit Unit).Reachable state → state.NoLostWakeup := by
  intro holds
  have final : ∃ state, (system Geometry.smallest Unit Unit).run (.empty fun _ => 0)
      publishInWindow = some state ∧ (state.readers ()).phase = .blocked 0 ∧
      state.core.writePos = 1 ∧ state.core.producers () = .idle := ⟨_, rfl, rfl, rfl, rfl⟩
  rcases final with ⟨state, ran, blocked, writePos, idle⟩
  rcases holds state (.execute (.start ⟨fun _ => 0, rfl⟩) publishInWindow ran) () 0 blocked
    (by rw [writePos]; decide) with ⟨producer, busy⟩
  exact busy idle

end

end State

end TelemetryGateway.BroadcastRing
