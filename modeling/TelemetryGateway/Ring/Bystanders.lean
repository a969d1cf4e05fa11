import TelemetryGateway.Ring.ReadSafety

/-! # What the other users of a ring can tell

Readers share the cells, the closed flag and the idle path. A reader writes no
cell; what it leaves on the idle path decides who is woken and when, but not
what is read after that. So the steps inside `wait_for_data` and `wake_readers`
are taken for nothing here, and the rest is compared. -/

namespace TelemetryGateway.BroadcastRing

def ReaderPhase.shown : ReaderPhase → ReaderPhase
  | .done (.waited _) => .done (.waited true)
  | phase => if phase.waits then .done (.waited true) else phase

def Reader.shown (reader : Reader) : Reader :=
  { reader with phase := reader.phase.shown }

/-- A producer inside `wake_readers` is taken for one that has returned. -/
def ProducerPhase.shown : ProducerPhase → ProducerPhase
  | .loadWaiters => .idle
  | .notifyAll => .idle
  | phase => phase

def Core.shown (core : Core geometry Producer) : Core geometry Producer :=
  { core with producers := fun producer => (core.producers producer).shown }

structure State.AlikeBut (id : ReaderId) (left right : State geometry Producer ReaderId) :
    Prop where
  core : left.core.shown = right.core.shown
  closed : left.closed = right.closed
  readers : ∀ other, other ≠ id → (left.readers other).shown = (right.readers other).shown

namespace State.AlikeBut

theorem refl (id : ReaderId) (state : State geometry Producer ReaderId) : state.AlikeBut id state :=
  ⟨rfl, rfl, fun _ _ => rfl⟩

theorem symm {id : ReaderId} {left right : State geometry Producer ReaderId}
    (alike : left.AlikeBut id right) : right.AlikeBut id left :=
  ⟨alike.core.symm, alike.closed.symm, fun other apart => (alike.readers other apart).symm⟩

theorem trans {id : ReaderId} {first second third : State geometry Producer ReaderId}
    (left : first.AlikeBut id second) (right : second.AlikeBut id third) :
    first.AlikeBut id third :=
  ⟨left.core.trans right.core, left.closed.trans right.closed,
    fun other apart => (left.readers other apart).trans (right.readers other apart)⟩

end State.AlikeBut

/-! ## Phases -/

theorem ReaderPhase.shown_of_waits {phase : ReaderPhase} (waits : phase.waits = true) :
    phase.shown = .done (.waited true) := by
  cases phase <;> first | rfl | cases waits

theorem ReaderPhase.shown_of_awake {phase : ReaderPhase} (awake : phase.waits = false)
    (running : ∀ woken, phase ≠ .done (.waited woken)) : phase.shown = phase := by
  cases phase with
  | done outcome =>
      cases outcome with
      | waited woken => exact absurd rfl (running woken)
      | _ => rfl
  | _ => first | rfl | cases awake

theorem shown_wake (reader : Reader) : (State.wake reader).shown = reader.shown := by
  unfold State.wake
  split
  · rename_i known blocked
    rw [Reader.shown, Reader.shown, blocked]
    rfl
  · rfl

namespace Core

theorem shown_producers (core : Core geometry Producer) {producer : Producer}
    {phase : ProducerPhase} (standing : core.producers producer = phase) :
    core.shown.producers producer = phase.shown :=
  congrArg ProducerPhase.shown standing

theorem shown_shown (core : Core geometry Producer) : core.shown.shown = core.shown := by
  have same : (fun producer => ((core.producers producer).shown).shown) =
      fun producer => (core.producers producer).shown := by
    funext producer
    cases core.producers producer <;> rfl
  rw [Core.shown, Core.shown]
  simp only [same]

section

variable {geometry : Geometry} {Producer : Type} [DecidableEq Producer]

theorem shown_setProducer (core : Core geometry Producer) (producer : Producer)
    (phase : ProducerPhase) :
    (core.setProducer producer phase).shown = core.shown.setProducer producer phase.shown := by
  have same : (fun other => (Function.update core.producers producer phase other).shown) =
      Function.update (fun other => (core.producers other).shown) producer phase.shown := by
    funext other
    by_cases here : other = producer
    · rw [here, Function.update_self, Function.update_self]
    · rw [Function.update_of_ne here, Function.update_of_ne here]
  rw [Core.shown, setProducer, setProducer]
  simp only [same]
  rfl

theorem shown_take {core after : Core geometry Producer} {producer : Producer}
    {frames : List Frame} (taken : core.take producer frames = some after) :
    core.shown.take producer frames = some after.shown := by
  unfold take at taken ⊢
  split at taken
  · rename_i idle
    cases taken
    rw [core.shown_producers idle]
    rfl
  · rename_i frame rest idle
    rw [core.shown_producers idle]
    split at taken <;> cases taken
    rename_i room
    have same := core.shown_setProducer producer (.claim ⟨core.writePos, frame, rest⟩)
    refine (if_pos room).trans ?_
    exact congrArg (fun next => some { next with
      writePos := core.writePos + (frame :: rest).length
      issued := core.issued ++ (frame :: rest).map fun frame => (producer, frame) }) same.symm
  · cases taken

theorem shown_change (core : Core geometry Producer) (producer : Producer)
    (phase : ProducerPhase) (cells : Fin geometry.capacity → Cell) (claimRetries : UInt64)
    (published : List Nat) :
    ({ core.shown.setProducer producer phase with
        cells := cells, claimRetries := claimRetries, published := published } :
      Core geometry Producer).shown =
    ({ core.setProducer producer phase with
        cells := cells, claimRetries := claimRetries, published := published } :
      Core geometry Producer).shown := by
  have changed : (core.shown.setProducer producer phase).shown =
      (core.setProducer producer phase).shown := by
    rw [shown_setProducer, shown_setProducer, shown_shown]
  exact congrArg (fun next : Core geometry Producer => { next with
    cells := cells, claimRetries := claimRetries, published := published }) changed

theorem shown_advance {core after : Core geometry Producer} {producer : Producer}
    {spurious : Bool} (advanced : core.advance producer spurious = some after) :
    (core.shown.advance producer spurious).map shown = some after.shown := by
  unfold advance at advanced ⊢
  cases phase : core.producers producer with
  | claim ticket =>
      rw [core.shown_producers phase]
      simp only [phase] at advanced
      simp only [ProducerPhase.shown]
      split at advanced <;> cases advanced
      · rename_i free
        refine (congrArg (Option.map shown) (if_pos free)).trans (congrArg some ?_)
        exact core.shown_change producer _ _ core.claimRetries core.published
      · rename_i taken
        refine (congrArg (Option.map shown) (if_neg taken)).trans (congrArg some ?_)
        exact core.shown_change producer _ core.cells core.claimRetries core.published
  | retry ticket =>
      rw [core.shown_producers phase]
      simp only [phase] at advanced
      cases advanced
      exact congrArg some (core.shown_change producer _ core.cells _ core.published)
  | store ticket index =>
      rw [core.shown_producers phase]
      simp only [phase] at advanced
      cases advanced
      exact congrArg some (core.shown_change producer _ _ core.claimRetries core.published)
  | publish ticket =>
      rw [core.shown_producers phase]
      simp only [phase] at advanced
      cases advanced
      exact congrArg some (core.shown_change producer _ _ core.claimRetries _)
  | _ =>
      simp only [phase] at advanced
      cases advanced

end

end Core

namespace State

theorem notifyAll_unnoticed (state : State geometry Producer ReaderId) (observer : ReaderId) :
    state.notifyAll.AlikeBut observer state :=
  ⟨rfl, rfl, fun other _ => shown_wake (state.readers other)⟩

theorem AlikeBut.take [DecidableEq Producer] {id : ReaderId}
    {left right : State geometry Producer ReaderId} (alike : left.AlikeBut id right)
    {producer : Producer} {frames : List Frame} {leftCore rightCore : Core geometry Producer}
    (leftTaken : left.core.take producer frames = some leftCore)
    (rightTaken : right.core.take producer frames = some rightCore) :
    ({ left with core := leftCore } : State geometry Producer ReaderId).AlikeBut id
      { right with core := rightCore } := by
  have same := Core.shown_take rightTaken
  rw [← alike.core, Core.shown_take leftTaken] at same
  exact ⟨Option.some.inj same, alike.closed, alike.readers⟩

section

variable {geometry : Geometry} {Producer ReaderId : Type} [DecidableEq ReaderId]

/-! ## Hidden steps -/

structure Touches (id : ReaderId) (reader : Reader)
    (state after : State geometry Producer ReaderId) : Prop where
  core : after.core = state.core
  closed : after.closed = state.closed
  readers : after.readers = Function.update state.readers id reader

theorem Touches.alike {id : ReaderId} {reader : Reader}
    {state after : State geometry Producer ReaderId} (touches : Touches id reader state after) :
    after.AlikeBut id state where
  core := congrArg Core.shown touches.core
  closed := touches.closed
  readers := by
    intro other apart
    rw [touches.readers, Function.update_of_ne apart]

theorem Touches.unnoticed {id : ReaderId} {reader : Reader}
    {state after : State geometry Producer ReaderId} (touches : Touches id reader state after)
    (same : reader.shown = (state.readers id).shown) (observer : ReaderId) :
    after.AlikeBut observer state where
  core := congrArg Core.shown touches.core
  closed := touches.closed
  readers := by
    intro other _
    rw [touches.readers]
    by_cases here : other = id
    · rw [here, Function.update_self, same]
    · rw [Function.update_of_ne here]

theorem setPhase_touches (state : State geometry Producer ReaderId) (id : ReaderId)
    (phase : ReaderPhase) :
    Touches id { state.readers id with phase := phase } state (state.setPhase id phase) :=
  ⟨rfl, rfl, rfl⟩

theorem idleStep_waits {state after : State geometry Producer ReaderId} {id : ReaderId}
    (stepped : state.idleStep id = some after) (waits : (state.readers id).phase.waits = true) :
    ∃ phase, Touches id { state.readers id with phase := phase } state after ∧
      phase.shown = .done (.waited true) := by
  unfold State.idleStep at stepped
  cases phase : (state.readers id).phase <;> simp only [phase] at stepped waits
  case waitCheck known =>
      cases stepped
      refine ⟨_, setPhase_touches .., ?_⟩
      split <;> rfl
  case waitRegister known =>
      cases stepped
      exact ⟨_, ⟨rfl, rfl, rfl⟩, rfl⟩
  case waitRecheck known =>
      cases stepped
      refine ⟨_, setPhase_touches .., ?_⟩
      split <;> rfl
  case waitLock known =>
      split at stepped <;> cases stepped
      exact ⟨_, ⟨rfl, rfl, rfl⟩, rfl⟩
  case waitPredicate known timedOut =>
      cases stepped
      refine ⟨_, setPhase_touches .., ?_⟩
      split
      · rfl
      · split <;> rfl
  case waitBlock known =>
      cases stepped
      exact ⟨_, ⟨rfl, rfl, rfl⟩, rfl⟩
  case blocked known => cases stepped
  case waitRelock known timedOut =>
      split at stepped <;> cases stepped
      exact ⟨_, ⟨rfl, rfl, rfl⟩, rfl⟩
  case waitUnlock woken =>
      cases stepped
      exact ⟨_, ⟨rfl, rfl, rfl⟩, rfl⟩
  case waitUnregister woken =>
      cases stepped
      exact ⟨_, ⟨rfl, rfl, rfl⟩, rfl⟩
  all_goals cases waits

/-- What a reader's own step outside `wait_for_data` makes of it. -/
def readNext (core : Core geometry Producer) (closed : Bool) (reader : Reader) : Option Reader :=
  match reader.phase with
  | .loadSeq call => some (reader.loadSeq call (core.seqAt reader.cursor.next))
  | .loadWord call s1 index words =>
      some { reader with
        phase := if more : index.val + 1 < kFrameWords then
            .loadWord call s1 ⟨index.val + 1, more⟩
              (Function.update words index (core.wordsAt reader.cursor.next index))
          else .reloadSeq call s1
            (Function.update words index (core.wordsAt reader.cursor.next index)) }
  | .reloadSeq call s1 words =>
      some (reader.reloadSeq call s1 words (core.seqAt reader.cursor.next))
  | .countInconsistent call => some { reader with phase := .lap call }
  | .lap call => some (reader.lapTo call (geometry.oldest core.writePos))
  | .attach =>
      some { Reader.fresh (geometry.oldest core.writePos) with
        phase := .done .attached
        past := reader.history }
  | .testClosed => some { reader with phase := .done (.closed closed) }
  | _ => none

theorem awake_of_next {core : Core geometry Producer} {closed : Bool} {reader next : Reader}
    (moved : readNext core closed reader = some next) : reader.phase.waits = false := by
  unfold readNext at moved
  cases phase : reader.phase <;> simp only [phase] at moved <;> first | rfl | cases moved

theorem readStep_next {state after : State geometry Producer ReaderId} {id : ReaderId}
    (stepped : state.readStep id = some after) :
    ∃ reader, readNext state.core state.closed (state.readers id) = some reader ∧
      Touches id reader state after := by
  unfold State.readStep at stepped
  unfold readNext
  cases phase : (state.readers id).phase <;> simp only [phase] at stepped <;> cases stepped <;>
    exact ⟨_, rfl, rfl, rfl, rfl⟩

theorem reader_touches [DecidableEq Producer] {state after : State geometry Producer ReaderId}
    {id : ReaderId} (stepped : state.step (.reader id) = some after) :
    ∃ reader, Touches id reader state after ∧
      (if (state.readers id).phase.waits then reader.shown = (state.readers id).shown
        else readNext state.core state.closed (state.readers id) = some reader) := by
  simp only [State.step] at stepped
  split at stepped
  · rename_i read
    cases stepped
    rcases readStep_next read with ⟨reader, next, touches⟩
    refine ⟨reader, touches, ?_⟩
    rw [awake_of_next next]
    exact next
  · cases waits : (state.readers id).phase.waits with
    | true =>
        rcases idleStep_waits stepped waits with ⟨phase, touches, same⟩
        refine ⟨_, touches, ?_⟩
        rw [if_pos rfl, Reader.shown, Reader.shown, ReaderPhase.shown_of_waits waits]
        simp only [same]
    | false =>
        unfold State.idleStep at stepped
        cases phase : (state.readers id).phase with
        | testClosed =>
            simp only [phase] at stepped
            split at stepped <;> cases stepped
            refine ⟨_, setPhase_touches .., ?_⟩
            simp only [readNext, phase, Bool.false_eq_true, if_false]
        | _ =>
            rw [phase] at waits
            simp only [phase] at stepped
            first | (cases stepped; done) | cases waits

theorem call_touches {state after : State geometry Producer ReaderId} {id : ReaderId}
    {request : Request} (called : state.call id request = some after) :
    Touches id { state.readers id with phase := request.entry (state.readers id).cursor.missed }
      state after := by
  rcases call_cases called with ⟨_, rfl⟩
  exact setPhase_touches ..

theorem wakeup_unnoticed {state after : State geometry Producer ReaderId} {id : ReaderId}
    {timedOut : Bool} (stepped : state.wakeup id timedOut = some after) (observer : ReaderId) :
    after.AlikeBut observer state := by
  unfold State.wakeup at stepped
  split at stepped <;> cases stepped
  rename_i known blocked
  refine (setPhase_touches ..).unnoticed ?_ observer
  rw [Reader.shown, Reader.shown, blocked]
  rfl

theorem closeNotify_unnoticed [DecidableEq Producer] {state after : State geometry Producer ReaderId}
    (stepped : state.step .closeNotify = some after) (observer : ReaderId) :
    after.AlikeBut observer state := by
  simp only [State.step] at stepped
  split at stepped <;> cases stepped
  have woken := state.notifyAll_unnoticed observer
  exact ⟨woken.core, woken.closed, woken.readers⟩

theorem close_unnoticed [DecidableEq Producer] {state after : State geometry Producer ReaderId}
    (stepped : state.step .close = some after) (already : state.closed = true)
    (observer : ReaderId) : after.AlikeBut observer state := by
  simp only [State.step] at stepped
  split at stepped <;> cases stepped
  exact ⟨rfl, already.symm, fun _ _ => rfl⟩

theorem wakeReaders_unnoticed [DecidableEq Producer] {state after : State geometry Producer ReaderId}
    {producer : Producer} {spurious : Bool} (published : (state.core.producers producer).ticket = none)
    (stepped : state.step (.producer producer spurious) = some after) (observer : ReaderId) :
    after.AlikeBut observer state := by
  have still : state.core.advance producer spurious = none := by
    unfold Core.advance
    cases phase : state.core.producers producer <;> rw [phase] at published <;>
      first | rfl | cases published
  have same {phase next : ProducerPhase} (standing : state.core.producers producer = phase)
      (waking : phase.shown = .idle) (woken : next.shown = .idle) :
      (state.core.setProducer producer next).shown = state.core.shown := by
    rw [Core.shown_setProducer, woken, ← waking, ← state.core.shown_producers standing]
    exact congrArg (fun producers => ({ state.core.shown with producers := producers } :
      Core geometry Producer)) (Function.update_eq_self ..)
  simp only [State.step, still, State.wakeReaders] at stepped
  split at stepped <;> cases stepped
  · rename_i loading
    refine ⟨same loading rfl ?_, rfl, fun _ _ => rfl⟩
    split <;> rfl
  · rename_i notifying
    exact ⟨same notifying rfl rfl, rfl, (state.notifyAll_unnoticed observer).readers⟩

/-! ## Shown steps -/

theorem AlikeBut.advance [DecidableEq Producer] {id : ReaderId}
    {left right leftAfter rightAfter : State geometry Producer ReaderId}
    (alike : left.AlikeBut id right) {producer : Producer} {spurious : Bool}
    (leftBusy : (left.core.producers producer).ticket.isSome = true)
    (rightBusy : (right.core.producers producer).ticket.isSome = true)
    (leftStep : left.step (.producer producer spurious) = some leftAfter)
    (rightStep : right.step (.producer producer spurious) = some rightAfter) :
    leftAfter.AlikeBut id rightAfter := by
  -- inside `write_at` the step is one of the core
  have core {state after : State geometry Producer ReaderId}
      (busy : (state.core.producers producer).ticket.isSome = true)
      (stepped : state.step (.producer producer spurious) = some after) :
      ∃ core, state.core.advance producer spurious = some core ∧
        after = { state with core := core } := by
    simp only [State.step] at stepped
    split at stepped
    · rename_i core advanced
      exact ⟨core, advanced, (Option.some.inj stepped).symm⟩
    · unfold State.wakeReaders at stepped
      split at stepped
      · rename_i phase
        rw [phase] at busy
        cases busy
      · rename_i phase
        rw [phase] at busy
        cases busy
      · cases stepped
  rcases core leftBusy leftStep with ⟨leftCore, leftMoved, rfl⟩
  rcases core rightBusy rightStep with ⟨rightCore, rightMoved, rfl⟩
  have same := Core.shown_advance rightMoved
  rw [← alike.core, Core.shown_advance leftMoved] at same
  exact ⟨Option.some.inj same, alike.closed, alike.readers⟩

theorem AlikeBut.touch {id other : ReaderId}
    {left right leftAfter rightAfter : State geometry Producer ReaderId}
    (alike : left.AlikeBut id right) {leftReader rightReader : Reader}
    (leftTouch : Touches other leftReader left leftAfter)
    (rightTouch : Touches other rightReader right rightAfter)
    (same : leftReader.shown = rightReader.shown) : leftAfter.AlikeBut id rightAfter where
  core := by rw [leftTouch.core, rightTouch.core, alike.core]
  closed := by rw [leftTouch.closed, rightTouch.closed, alike.closed]
  readers := by
    intro reader apart
    rw [leftTouch.readers, rightTouch.readers]
    by_cases here : reader = other
    · rw [here, Function.update_self, Function.update_self, same]
    · rw [Function.update_of_ne here, Function.update_of_ne here]
      exact alike.readers reader apart

theorem shown_of_next {core : Core geometry Producer} {closed : Bool} {reader next : Reader}
    (moved : readNext core closed reader = some next) : reader.shown = reader := by
  have phase : reader.phase.shown = reader.phase := by
    refine ReaderPhase.shown_of_awake (awake_of_next moved) ?_
    intro woken done
    simp only [readNext, done] at moved
    cases moved
  rw [Reader.shown, phase]

theorem AlikeBut.reader [DecidableEq Producer] {id other : ReaderId}
    {left right leftAfter rightAfter : State geometry Producer ReaderId}
    (alike : left.AlikeBut id right) (apart : other ≠ id)
    (leftAwake : (left.readers other).phase.waits = false)
    (rightAwake : (right.readers other).phase.waits = false)
    (leftStep : left.step (.reader other) = some leftAfter)
    (rightStep : right.step (.reader other) = some rightAfter) :
    leftAfter.AlikeBut id rightAfter := by
  rcases reader_touches leftStep with ⟨leftReader, leftTouch, leftNext⟩
  rcases reader_touches rightStep with ⟨rightReader, rightTouch, rightNext⟩
  rw [leftAwake] at leftNext
  rw [rightAwake] at rightNext
  have readers : left.readers other = right.readers other := by
    rw [← shown_of_next leftNext, ← shown_of_next rightNext]
    exact alike.readers other apart
  -- a reader looks at the cells, the write position and the closed flag
  have reads (core : Core geometry Producer) (closed : Bool) (reader : Reader) :
      readNext core closed reader = readNext core.shown closed reader := rfl
  have same : some leftReader = some rightReader := by
    rw [← leftNext, ← rightNext, readers, reads left.core, reads right.core, alike.core,
      alike.closed]
  cases same
  exact alike.touch leftTouch rightTouch rfl

theorem AlikeBut.call {id other : ReaderId}
    {left right leftAfter rightAfter : State geometry Producer ReaderId}
    (alike : left.AlikeBut id right) (apart : other ≠ id) {request : Request}
    (leftCall : left.call other request = some leftAfter)
    (rightCall : right.call other request = some rightAfter) :
    leftAfter.AlikeBut id rightAfter := by
  have shown := alike.readers other apart
  have missed : (left.readers other).cursor.missed = (right.readers other).cursor.missed :=
    congrArg (fun reader => reader.cursor.missed) shown
  refine alike.touch (call_touches leftCall) (call_touches rightCall) ?_
  rw [missed]
  exact congrArg (fun reader => ({ reader with
    phase := request.entry (right.readers other).cursor.missed } : Reader).shown) shown

theorem AlikeBut.close [DecidableEq Producer] {id : ReaderId}
    {left right leftAfter rightAfter : State geometry Producer ReaderId}
    (alike : left.AlikeBut id right) (leftStep : left.step .close = some leftAfter)
    (rightStep : right.step .close = some rightAfter) : leftAfter.AlikeBut id rightAfter := by
  simp only [State.step] at leftStep rightStep
  split at leftStep <;> cases leftStep
  split at rightStep <;> cases rightStep
  exact ⟨alike.core, rfl, alike.readers⟩

end

end State

end TelemetryGateway.BroadcastRing
