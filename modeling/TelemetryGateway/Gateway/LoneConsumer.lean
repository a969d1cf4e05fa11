import TelemetryGateway.Gateway.RingConsumer
import TelemetryGateway.Ring.LonePublish

/-! # A feed whose owner is left alone

Between two operations of the others, `pop_batch` of a ring feed runs from its
call to its return by the steps of its own thread, and by the wakeups of its
wait. Whatever these are, it returns what the ring holds from the cursor on. -/

namespace TelemetryGateway

namespace BroadcastRing

def ReaderPhase.locks : ReaderPhase → Bool
  | .waitPredicate _ _ => true
  | .waitBlock _ => true
  | .waitUnlock _ => true
  | _ => false

/-- Steps to the end of `wait_for_data`, when the next wakeup is that its time
is up. -/
def ReaderPhase.toWake : ReaderPhase → Nat
  | .waitCheck _ => 12
  | .waitRegister _ => 11
  | .waitRecheck _ => 10
  | .waitLock _ => 9
  | .waitRelock _ false => 9
  | .waitPredicate _ false => 8
  | .waitBlock _ => 7
  | .blocked _ => 6
  | .waitRelock _ true => 5
  | .waitPredicate _ true => 4
  | .waitUnlock _ => 3
  | .waitUnregister _ => 2
  | .testClosed => 1
  | _ => 0

def ReaderPhase.Waited (phase : ReaderPhase) : Prop :=
  phase.waits = true ∨ ∃ woken, phase = .done (.waited woken)

structure State.WaitStep [DecidableEq ReaderId] (me : ReaderId)
    (state after : State geometry Producer ReaderId) (phase : ReaderPhase) : Prop where
  core : after.core = state.core
  closed : after.closed = state.closed
  mutex : after.idleMutex = if phase.locks then some me else none
  reader : after.readers me = { state.readers me with phase := phase }

def State.MutexMine [DecidableEq ReaderId] (me : ReaderId)
    (state : State geometry Producer ReaderId) : Prop :=
  state.idleMutex = if (state.readers me).phase.locks then some me else none

section

variable {geometry : Geometry} {Producer ReaderId : Type} [DecidableEq ReaderId]

theorem State.WaitStep.mutexMine {me : ReaderId} {state after : State geometry Producer ReaderId}
    {phase : ReaderPhase} (moved : State.WaitStep me state after phase) : after.MutexMine me := by
  rw [MutexMine, moved.reader]
  exact moved.mutex

/-- Inside `wait_for_data` the thread moves on by itself, unless it is
blocked. -/
theorem State.waitStep {me : ReaderId} {state : State geometry Producer ReaderId}
    (mine : state.MutexMine me) (waits : (state.readers me).phase.waits = true)
    (awake : ∀ known, (state.readers me).phase ≠ .blocked known) :
    ∃ after phase, state.idleStep me = some after ∧ State.WaitStep me state after phase ∧
      phase.Waited ∧ phase.toWake < (state.readers me).phase.toWake := by
  unfold MutexMine at mine
  -- a step that only moves the phase, with the mutex as it should be there
  have moves {after : State geometry Producer ReaderId} {phase : ReaderPhase}
      (core : after.core = state.core) (closed : after.closed = state.closed)
      (mutex : after.idleMutex = if phase.locks then some me else none)
      (readers : after.readers = (state.setPhase me phase).readers) :
      State.WaitStep me state after phase :=
    ⟨core, closed, mutex, by rw [readers]; exact setReader_self ..⟩
  unfold State.idleStep
  cases stage : (state.readers me).phase with
  | waitCheck known =>
      rw [stage] at mine
      by_cases newer : known < state.core.writePos
      · refine ⟨_, .done (.waited true), rfl, moves rfl rfl mine ?_, Or.inr ⟨true, rfl⟩,
          (by decide : 0 < 12)⟩
        rw [if_pos newer]
      · refine ⟨_, .waitRegister known, rfl, moves rfl rfl mine ?_, Or.inl rfl,
          (by decide : 11 < 12)⟩
        rw [if_neg newer]
  | waitRegister known =>
      rw [stage] at mine
      exact ⟨_, .waitRecheck known, rfl, moves rfl rfl mine rfl, Or.inl rfl,
        (by decide : 10 < 11)⟩
  | waitRecheck known =>
      rw [stage] at mine
      by_cases newer : known < state.core.writePos
      · refine ⟨_, .waitUnregister true, rfl, moves rfl rfl mine ?_, Or.inl rfl,
          (by decide : 2 < 10)⟩
        rw [if_pos newer]
      · refine ⟨_, .waitLock known, rfl, moves rfl rfl mine ?_, Or.inl rfl, (by decide : 9 < 10)⟩
        rw [if_neg newer]
  | waitLock known =>
      rw [stage] at mine
      exact ⟨_, .waitPredicate known false, if_pos mine, moves rfl rfl rfl rfl, Or.inl rfl,
        (by decide : 8 < 9)⟩
  | waitPredicate known timedOut =>
      rw [stage] at mine
      by_cases answered : known < state.core.writePos ∨ state.closed = true
      · refine ⟨_, .waitUnlock true, rfl, moves rfl rfl mine ?_, Or.inl rfl, ?_⟩
        · rw [if_pos answered]
        · cases timedOut
          · exact (by decide : 3 < 8)
          · exact (by decide : 3 < 4)
      · cases timedOut with
        | true =>
            refine ⟨_, .waitUnlock false, rfl, moves rfl rfl mine ?_, Or.inl rfl,
              (by decide : 3 < 4)⟩
            rw [if_neg answered, if_pos rfl]
        | false =>
            refine ⟨_, .waitBlock known, rfl, moves rfl rfl mine ?_, Or.inl rfl,
              (by decide : 7 < 8)⟩
            rw [if_neg answered, if_neg Bool.false_ne_true]
  | waitBlock known =>
      exact ⟨_, .blocked known, rfl, moves rfl rfl rfl rfl, Or.inl rfl, (by decide : 6 < 7)⟩
  | blocked known => exact absurd stage (awake known)
  | waitRelock known timedOut =>
      rw [stage] at mine
      refine ⟨_, .waitPredicate known timedOut, if_pos mine, moves rfl rfl rfl rfl, Or.inl rfl, ?_⟩
      cases timedOut
      · exact (by decide : 8 < 9)
      · exact (by decide : 4 < 5)
  | waitUnlock woken =>
      exact ⟨_, .waitUnregister woken, rfl, moves rfl rfl rfl rfl, Or.inl rfl, (by decide : 2 < 3)⟩
  | waitUnregister woken =>
      rw [stage] at mine
      exact ⟨_, .done (.waited woken), rfl, moves rfl rfl mine rfl, Or.inr ⟨woken, rfl⟩,
        (by decide : 0 < 2)⟩
  | _ =>
      rw [stage] at waits
      cases waits

end

end BroadcastRing

namespace RingConsumer

open BroadcastRing (Cursor Core Reader)

def Label.own [DecidableEq ReaderId] (me : ReaderId) : Label Producer ReaderId → Bool
  | .ring (.reader id) => id = me
  | .ring (.wakeup id _) => id = me
  | .resume => true
  | _ => false

/-- Where a `pop_batch` stands that found the cursor at `begin`. -/
inductive Stage (core : Core geometry Producer) (begin : Cursor) (size : Nat) :
    RingFeed.Phase → Reader → Prop
  | reading (reads : phase = .firstRead size ∨ phase = .secondRead size)
      (fetching : reader.Fetching core begin size out) : Stage core begin size phase reader
  | read (reads : phase = .firstRead size ∨ phase = .secondRead size)
      (fetched : reader.Fetched core begin size out) : Stage core begin size phase reader
  | asking (same : reader.cursor = begin) (asks : reader.phase = .testClosed) :
      Stage core begin size (.testClosed size) reader
  | answered (same : reader.cursor = begin) (answer : reader.phase = .done (.closed false)) :
      Stage core begin size (.testClosed size) reader
  | waiting (same : reader.cursor = begin) (waited : reader.phase.Waited) :
      Stage core begin size (.wait size) reader

structure InPop [DecidableEq ReaderId] (me : ReaderId) (core : Core geometry Producer)
    (begin : Cursor) (size : Nat) (stats : RingFeed) (state : State geometry Producer ReaderId) :
    Prop where
  sound : state.ring.Sound
  cells : state.ring.core = core
  isOpen : state.ring.closed = false
  mine : state.ring.MutexMine me
  counted : state.feed = { stats with phase := state.feed.phase }
  stage : Stage core begin size state.feed.phase (state.ring.readers me)

/-- The call has returned the frames that could be read from `begin` on. -/
structure Popped (me : ReaderId) (core : Core geometry Producer) (begin : Cursor) (size : Nat)
    (stats : RingFeed) (state : State geometry Producer ReaderId) : Prop where
  sound : state.ring.Sound
  cells : state.ring.core = core
  isOpen : state.ring.closed = false
  free : state.ring.idleMutex = none
  resting : (state.ring.readers me).phase.resting = true
  cursor : (state.ring.readers me).cursor =
    core.cursorAfter begin (core.batchFrom begin.next size).length
  feed : state.feed = { stats.publishStats (state.ring.readers me).cursor
    (core.batchFrom begin.next size).length with phase := .idle }

/-- The thread runs by itself from one state to another; `frames` is what its
calls return on the way. -/
inductive Alone [DecidableEq Producer] [DecidableEq ReaderId] (me : ReaderId) :
    State geometry Producer ReaderId → List Frame → State geometry Producer ReaderId → Prop
  | start : Alone me state [] state
  | next : label.own me = true → state.step me label = some middle → Alone me middle frames after →
      Alone me state (deliver me [] state label ++ frames) after

/-- Steps to the return of `pop_batch`, at most, when the next wakeup is that
its time is up. -/
def State.toPop (me : ReaderId) (state : State geometry Producer ReaderId) : Nat :=
  let reader := state.ring.readers me
  let writePos := state.ring.core.writePos
  match state.feed.phase with
  | .firstRead _ => 3 * (10 * writePos + 40) + reader.toFetch writePos
  | .testClosed _ => 2 * (10 * writePos + 40) + reader.phase.toWake
  | .wait _ => 10 * writePos + 40 + reader.phase.toWake
  | .secondRead _ => reader.toFetch writePos
  | _ => 0

theorem fetching_start {core : Core geometry Producer} {begin : Cursor} {size : Nat}
    (positive : 0 < size) {reader : Reader} (same : reader.cursor = begin)
    {phase : BroadcastRing.ReaderPhase} {missedBefore : Nat}
    (entry : phase = .loadSeq (.readBatch size [] missedBefore)) :
    ({ reader with phase := phase } : Reader).Fetching core begin size [] := by
  subst entry
  exact ⟨⟨missedBefore, rfl⟩, positive, Or.inl ⟨rfl, same⟩, List.nil_prefix⟩

theorem settled_of_waits {phase : BroadcastRing.ReaderPhase} (waits : phase.waits = true) :
    phase.settled = true := by
  cases phase <;> first | rfl | cases waits

theorem locks_of_resting {phase : BroadcastRing.ReaderPhase} (resting : phase.resting = true) :
    phase.locks = false := by
  cases phase <;> first | rfl | cases resting

theorem locks_of_call {phase : BroadcastRing.ReaderPhase} {call : BroadcastRing.ReadCall}
    (calling : phase.call? = some call) : phase.locks = false := by
  cases phase <;> first | rfl | cases calling

theorem locks_of_fetching {core : Core geometry Producer} {begin : Cursor} {size : Nat}
    {reader : Reader} {out : List Frame}
    (fetching : reader.Fetching core begin size out) : reader.phase.locks = false := by
  rcases fetching.call with ⟨_, calling⟩
  exact locks_of_call calling

theorem locks_of_fetched {core : Core geometry Producer} {begin : Cursor} {size : Nat}
    {reader : Reader} {out : List Frame}
    (fetched : reader.Fetched core begin size out) : reader.phase.locks = false := by
  rcases fetched.phase with ⟨missed, done⟩
  rw [done]
  rfl

theorem InPop.popped [DecidableEq ReaderId] {me : ReaderId} {core : Core geometry Producer}
    {begin : Cursor} {size : Nat} {stats : RingFeed} {state : State geometry Producer ReaderId}
    (inPop : InPop me core begin size stats state) {out : List Frame}
    (fetched : (state.ring.readers me).Fetched core begin size out) :
    Popped me core begin size stats { state with
      feed := { state.feed.publishStats (state.ring.readers me).cursor out.length with
        phase := .idle } } := by
  rcases fetched.phase with ⟨missed, done⟩
  constructor
  case sound => exact inPop.sound
  case cells => exact inPop.cells
  case isOpen => exact inPop.isOpen
  case free =>
    have mine := inPop.mine
    rw [BroadcastRing.State.MutexMine, locks_of_fetched fetched] at mine
    exact mine
  case resting =>
    dsimp only
    rw [done]
    rfl
  case cursor =>
    rw [← fetched.frames]
    exact fetched.cursor
  case feed =>
    dsimp only
    rw [inPop.counted, ← fetched.frames]
    rfl

section

variable {geometry : BroadcastRing.Geometry} {Producer ReaderId : Type} [DecidableEq Producer]
  [DecidableEq ReaderId] {me : ReaderId} {core : Core geometry Producer} {begin : Cursor}
  {size : Nat} {stats : RingFeed} {state after : State geometry Producer ReaderId}

theorem InPop.fetch (inPop : InPop me core begin size stats state) (quiet : core.Quiet)
    (inside : begin.next ≤ core.writePos) {out : List Frame}
    (reads : state.feed.phase = .firstRead size ∨ state.feed.phase = .secondRead size)
    (fetching : (state.ring.readers me).Fetching core begin size out) :
    ∃ ring, state.ring.step (.reader me) = some ring ∧
      InPop me core begin size stats { state with ring := ring } ∧
      ({ state with ring := ring } : State geometry Producer ReaderId).toPop me <
        state.toPop me := by
  rcases inPop with ⟨sound, rfl, isOpen, mine, counted, _⟩
  rcases sound.fetch quiet inside fetching with ⟨reader, read, goes, closer⟩
  have stepped : state.ring.step (.reader me) = some (state.ring.setReader me reader) := by
    simp only [BroadcastRing.State.step, read]
  have moved : (state.ring.setReader me reader).readers me = reader :=
    BroadcastRing.State.setReader_self ..
  have free : state.ring.idleMutex = none := by
    rw [BroadcastRing.State.MutexMine, locks_of_fetching fetching] at mine
    exact mine
  refine ⟨_, stepped, ⟨sound.step stepped, rfl, isOpen, ?_, counted, ?_⟩, ?_⟩
  · have unlocked : reader.phase.locks = false := by
      rcases goes with ⟨out, still⟩ | ⟨out, finished⟩
      · exact locks_of_fetching still
      · exact locks_of_fetched finished
    rw [BroadcastRing.State.MutexMine]
    dsimp only
    rw [moved, unlocked]
    exact free
  · dsimp only
    rw [moved]
    rcases goes with ⟨out, still⟩ | ⟨out, finished⟩
    · exact .reading reads still
    · exact .read reads finished
  · unfold State.toPop
    dsimp only
    rw [moved]
    rcases reads with first | second
    · rw [first]
      exact Nat.add_lt_add_left closer _
    · rw [second]
      exact closer

theorem InPop.idle (inPop : InPop me core begin size stats state)
    (settled : (state.ring.readers me).phase.settled = true)
    {ring : BroadcastRing.State geometry Producer ReaderId} {phase : BroadcastRing.ReaderPhase}
    (idled : state.ring.idleStep me = some ring)
    (moved : BroadcastRing.State.WaitStep me state.ring ring phase)
    (stage : Stage core begin size state.feed.phase
      { state.ring.readers me with phase := phase }) :
    state.ring.step (.reader me) = some ring ∧
      InPop me core begin size stats { state with ring := ring } := by
  have stepped : state.ring.step (.reader me) = some ring := by
    simp only [BroadcastRing.State.step, BroadcastRing.State.readStep_settled settled, idled]
  refine ⟨stepped, inPop.sound.step stepped, moved.core.trans inPop.cells,
    moved.closed.trans inPop.isOpen, moved.mutexMine, inPop.counted, ?_⟩
  dsimp only
  rw [moved.reader]
  exact stage

theorem State.step_ring_own {label : BroadcastRing.Label Producer ReaderId}
    (others : label.calls me = false) :
    state.step me (.ring label) = (state.ring.step label).map fun ring =>
      { state with ring := ring } := by
  simp only [State.step, others, Bool.false_eq_true, if_false]

theorem reader_done {ring : BroadcastRing.State geometry Producer ReaderId}
    {outcome : BroadcastRing.Outcome} (done : (ring.readers me).phase = .done outcome) :
    ring.step (.reader me) = none := by
  simp only [BroadcastRing.State.step, BroadcastRing.State.readStep, BroadcastRing.State.idleStep,
    done]

theorem InPop.reader (inPop : InPop me core begin size stats state) (quiet : core.Quiet)
    (inside : begin.next ≤ core.writePos)
    (running : ∀ outcome, (state.ring.readers me).phase ≠ .done outcome)
    (awake : ∀ known, (state.ring.readers me).phase ≠ .blocked known) :
    ∃ ring, state.ring.step (.reader me) = some ring ∧
      InPop me core begin size stats { state with ring := ring } ∧
      ({ state with ring := ring } : State geometry Producer ReaderId).toPop me <
        state.toPop me := by
  have stage := inPop.stage
  generalize reads : state.feed.phase = feed at stage
  generalize held : state.ring.readers me = reader at stage
  cases stage with
  | reading place fetching =>
      rw [← reads] at place
      rw [← held] at fetching
      exact inPop.fetch quiet inside place fetching
  | read place fetched =>
      rcases fetched.phase with ⟨missed, done⟩
      rw [← held] at done
      exact absurd done (running _)
  | asking same asks =>
      rw [← held] at asks same
      have free : state.ring.idleMutex = none := by
        have mine := inPop.mine
        rw [BroadcastRing.State.MutexMine, asks] at mine
        exact mine
      have idled : state.ring.idleStep me = some (state.ring.setPhase me (.done (.closed false))) := by
        simp only [BroadcastRing.State.idleStep, asks, if_pos free, inPop.isOpen]
      have moved : BroadcastRing.State.WaitStep me state.ring
          (state.ring.setPhase me (.done (.closed false))) (.done (.closed false)) :=
        ⟨rfl, rfl, free, BroadcastRing.State.setReader_self ..⟩
      rcases inPop.idle (by rw [asks]; rfl) idled moved (by rw [reads]; exact .answered same rfl)
        with ⟨stepped, after⟩
      refine ⟨_, stepped, after, ?_⟩
      rw [State.toPop, State.toPop, reads]
      dsimp only
      rw [moved.core, moved.reader, asks]
      exact Nat.add_lt_add_left Nat.zero_lt_one _
  | answered same answer =>
      rw [← held] at answer
      exact absurd answer (running _)
  | waiting same waited =>
      rw [← held] at waited same
      rcases waited with waits | ⟨woken, done⟩
      · rcases BroadcastRing.State.waitStep inPop.mine waits awake with
          ⟨ring, phase, idled, moved, goesOn, closer⟩
        rcases inPop.idle (settled_of_waits waits) idled moved
          (by rw [reads]; exact .waiting same goesOn) with ⟨stepped, after⟩
        refine ⟨ring, stepped, after, ?_⟩
        rw [State.toPop, State.toPop, reads]
        dsimp only
        rw [moved.core, moved.reader]
        exact Nat.add_lt_add_left closer _
      · exact absurd done (running _)

theorem InPop.wakeup (inPop : InPop me core begin size stats state) {known : Nat}
    (blocked : (state.ring.readers me).phase = .blocked known) (timedOut : Bool) :
    ∃ ring, state.ring.step (.wakeup me timedOut) = some ring ∧
      InPop me core begin size stats { state with ring := ring } ∧
      (timedOut = true → ({ state with ring := ring } : State geometry Producer ReaderId).toPop me <
        state.toPop me) := by
  have stepped : state.ring.step (.wakeup me timedOut) =
      some (state.ring.setPhase me (.waitRelock known timedOut)) := by
    simp only [BroadcastRing.State.step, BroadcastRing.State.wakeup, blocked]
  have moved : (state.ring.setPhase me (.waitRelock known timedOut)).readers me =
      { state.ring.readers me with phase := .waitRelock known timedOut } :=
    BroadcastRing.State.setReader_self ..
  have stage := inPop.stage
  generalize reads : state.feed.phase = feed at stage
  generalize held : state.ring.readers me = reader at stage
  cases stage with
  | reading place fetching =>
      rcases fetching.call with ⟨_, calling⟩
      rw [← held, blocked] at calling
      cases calling
  | read place fetched =>
      rcases fetched.phase with ⟨_, done⟩
      rw [← held, blocked] at done
      cases done
  | asking same asks =>
      rw [← held, blocked] at asks
      cases asks
  | answered same answer =>
      rw [← held, blocked] at answer
      cases answer
  | waiting same waited =>
      rw [← held] at same
      refine ⟨_, stepped, ⟨inPop.sound.step stepped, inPop.cells, inPop.isOpen, ?_,
        inPop.counted, ?_⟩, ?_⟩
      · have mine := inPop.mine
        rw [BroadcastRing.State.MutexMine, blocked] at mine
        rw [BroadcastRing.State.MutexMine, moved]
        exact mine
      · dsimp only
        rw [moved, reads]
        exact .waiting same (Or.inl rfl)
      · rintro rfl
        rw [State.toPop, State.toPop, reads]
        dsimp only
        rw [moved, blocked]
        exact Nat.add_lt_add_left (by decide : 5 < 6) _

theorem InPop.call (inPop : InPop me core begin size stats state)
    (resting : (state.ring.readers me).phase.resting = true)
    (request : BroadcastRing.Request) {place : RingFeed.Phase}
    (unlocked : (request.entry (state.ring.readers me).cursor.missed).locks = false)
    (stage : Stage core begin size place { state.ring.readers me with
      phase := request.entry (state.ring.readers me).cursor.missed }) :
    ∃ after, state.call me request { state.feed with phase := place } = some after ∧
      InPop me core begin size stats after ∧ after.feed.phase = place ∧
      after.ring.core = state.ring.core ∧ after.ring.readers me = { state.ring.readers me with
        phase := request.entry (state.ring.readers me).cursor.missed } := by
  have called := BroadcastRing.State.call_resting resting request
  have stepped : state.ring.step (.call me request) = some _ := called
  have moved := BroadcastRing.State.setReader_self state.ring me { state.ring.readers me with
    phase := request.entry (state.ring.readers me).cursor.missed }
  have free : state.ring.idleMutex = none := by
    have mine := inPop.mine
    rw [BroadcastRing.State.MutexMine, locks_of_resting resting] at mine
    exact mine
  have whole : state.call me request { state.feed with phase := place } =
      some { ring := state.ring.setPhase me (request.entry (state.ring.readers me).cursor.missed)
             feed := { state.feed with phase := place } } := by
    rw [State.call, called]
    rfl
  refine ⟨_, whole, ⟨inPop.sound.step stepped, inPop.cells, inPop.isOpen, ?_, ?_, ?_⟩, rfl, rfl,
    moved⟩
  · rw [BroadcastRing.State.MutexMine]
    dsimp only
    rw [BroadcastRing.State.setPhase, moved, unlocked]
    exact free
  · dsimp only
    rw [inPop.counted]
  · dsimp only
    rw [BroadcastRing.State.setPhase, moved]
    exact stage

theorem State.step_resume {outcome : BroadcastRing.Outcome}
    (done : (state.ring.readers me).phase = .done outcome) {move : RingFeed.Move}
    (chosen : state.feed.resume (state.ring.readers me).cursor outcome = some move) :
    state.step me .resume = state.move me move ∧
      state.returned me = match move with
        | .answer event _ => event.frames
        | .call _ _ => [] := by
  have next : state.next me = some move := by
    rw [State.next, done]
    exact chosen
  rw [State.step, State.returned, next]
  exact ⟨rfl, by cases move <;> rfl⟩

theorem InPop.resume_call (inPop : InPop me core begin size stats state)
    {outcome : BroadcastRing.Outcome} (done : (state.ring.readers me).phase = .done outcome)
    {request : BroadcastRing.Request} {place : RingFeed.Phase}
    (chosen : state.feed.resume (state.ring.readers me).cursor outcome =
      some (.call request { state.feed with phase := place }))
    (unlocked : (request.entry (state.ring.readers me).cursor.missed).locks = false)
    (stage : Stage core begin size place { state.ring.readers me with
      phase := request.entry (state.ring.readers me).cursor.missed }) :
    ∃ after, state.step me .resume = some after ∧ InPop me core begin size stats after ∧
      state.returned me = [] ∧ after.feed.phase = place ∧
      after.ring.core = state.ring.core ∧ after.ring.readers me = { state.ring.readers me with
        phase := request.entry (state.ring.readers me).cursor.missed } := by
  have resting : (state.ring.readers me).phase.resting = true := by
    rw [done]
    rfl
  rcases State.step_resume done chosen with ⟨moves, nothing⟩
  rcases inPop.call resting request unlocked stage with ⟨after, called, next, rest⟩
  exact ⟨after, moves.trans called, next, nothing, rest⟩

/-- The first `read_batch` found nothing: `pop_batch` asks whether the ring is
closed. -/
theorem InPop.resume_empty (inPop : InPop me core begin size stats state)
    (inside : begin.next ≤ core.writePos) (positive : 0 < size)
    (fetched : (state.ring.readers me).Fetched core begin size [])
    (reads : state.feed.phase = .firstRead size) :
    ∃ after, state.step me .resume = some after ∧ InPop me core begin size stats after ∧
      state.returned me = [] ∧ after.toPop me < state.toPop me := by
  rcases fetched.phase with ⟨missed, done⟩
  have still := fetched.nothing (inPop.cells ▸ inPop.sound.core.tickets) positive inside
  have chosen : state.feed.resume (state.ring.readers me).cursor (.readBatch [] missed) =
      some (.call .closed { state.feed with phase := .testClosed size }) := by
    simp only [RingFeed.resume, reads, if_true]
  rcases inPop.resume_call done chosen rfl (.asking still rfl) with
    ⟨after, called, next, nothing, phase, cells, reader⟩
  refine ⟨after, called, next, nothing, ?_⟩
  rw [State.toPop, State.toPop, phase, reads]
  dsimp only
  rw [cells, reader]
  change _ + 1 < _
  omega

theorem InPop.resume_read (inPop : InPop me core begin size stats state) {out : List Frame}
    (fetched : (state.ring.readers me).Fetched core begin size out)
    (reads : state.feed.phase = .firstRead size ∧ out ≠ [] ∨
      state.feed.phase = .secondRead size) :
    ∃ after, state.step me .resume = some after ∧ Popped me core begin size stats after ∧
      state.returned me = core.batchFrom begin.next size := by
  rcases fetched.phase with ⟨missed, done⟩
  have chosen : state.feed.resume (state.ring.readers me).cursor (.readBatch out missed) =
      some (.answer (.pop out)
        { state.feed.publishStats (state.ring.readers me).cursor out.length with
          phase := .idle }) := by
    rcases reads with ⟨first, found⟩ | second
    · simp only [RingFeed.resume, first, if_neg found]
    · simp only [RingFeed.resume, second]
  rcases State.step_resume done chosen with ⟨moves, returns⟩
  exact ⟨_, moves, inPop.popped fetched, returns.trans fetched.frames⟩

theorem InPop.resume_open (inPop : InPop me core begin size stats state)
    (same : (state.ring.readers me).cursor = begin)
    (done : (state.ring.readers me).phase = .done (.closed false))
    (reads : state.feed.phase = .testClosed size) :
    ∃ after, state.step me .resume = some after ∧ InPop me core begin size stats after ∧
      state.returned me = [] ∧ after.toPop me < state.toPop me := by
  have chosen : state.feed.resume (state.ring.readers me).cursor (.closed false) =
      some (.call (.waitForData (state.ring.readers me).cursor.next)
        { state.feed with phase := .wait size }) := by
    simp only [RingFeed.resume, reads, Bool.false_eq_true, if_false]
  rcases inPop.resume_call done chosen rfl (.waiting same (Or.inl rfl)) with
    ⟨after, called, next, nothing, phase, cells, reader⟩
  refine ⟨after, called, next, nothing, ?_⟩
  rw [State.toPop, State.toPop, phase, reads]
  dsimp only
  rw [cells, reader, done]
  change _ + 12 < _ + 0
  omega

theorem InPop.resume_waited (inPop : InPop me core begin size stats state) (positive : 0 < size)
    (same : (state.ring.readers me).cursor = begin) {woken : Bool}
    (done : (state.ring.readers me).phase = .done (.waited woken))
    (reads : state.feed.phase = .wait size) :
    ∃ after, state.step me .resume = some after ∧ InPop me core begin size stats after ∧
      state.returned me = [] ∧ after.toPop me < state.toPop me := by
  have chosen : state.feed.resume (state.ring.readers me).cursor (.waited woken) =
      some (.call (.readBatch size) { state.feed with phase := .secondRead size }) := by
    simp only [RingFeed.resume, reads]
  have entry : (BroadcastRing.Request.readBatch size).entry
      (state.ring.readers me).cursor.missed =
      .loadSeq (.readBatch size [] (state.ring.readers me).cursor.missed) := if_pos positive
  rcases inPop.resume_call done chosen (by rw [entry]; rfl)
    (.reading (Or.inr rfl) (fetching_start positive same entry)) with
    ⟨after, called, next, nothing, phase, cells, reader⟩
  refine ⟨after, called, next, nothing, ?_⟩
  rw [State.toPop, State.toPop, phase, reads]
  dsimp only
  rw [cells, reader, done, entry, Reader.toFetch]
  change _ + 9 < _ + 0
  omega

/-- The feed goes on once the ring has answered: it calls the ring again, or it
returns. -/
theorem InPop.resume (inPop : InPop me core begin size stats state)
    (inside : begin.next ≤ core.writePos) (positive : 0 < size)
    {outcome : BroadcastRing.Outcome}
    (done : (state.ring.readers me).phase = .done outcome) :
    ∃ after, state.step me .resume = some after ∧
      ((InPop me core begin size stats after ∧ state.returned me = [] ∧
          after.toPop me < state.toPop me) ∨
        (Popped me core begin size stats after ∧
          state.returned me = core.batchFrom begin.next size)) := by
  have stage := inPop.stage
  generalize reads : state.feed.phase = feed at stage
  generalize held : state.ring.readers me = reader at stage
  cases stage with
  | reading place fetching =>
      rcases fetching.call with ⟨_, calling⟩
      rw [← held, done] at calling
      cases calling
  | asking same asks =>
      rw [← held, done] at asks
      cases asks
  | read place fetched =>
      rename_i out
      rw [← held] at fetched
      rw [← reads] at place
      by_cases again : state.feed.phase = .firstRead size ∧ out = []
      · rcases again with ⟨first, rfl⟩
        rcases inPop.resume_empty inside positive fetched first with ⟨after, moves, result⟩
        exact ⟨after, moves, Or.inl result⟩
      · have ends : state.feed.phase = .firstRead size ∧ out ≠ [] ∨
            state.feed.phase = .secondRead size :=
          place.imp_left fun first => ⟨first, fun empty => again ⟨first, empty⟩⟩
        rcases inPop.resume_read fetched ends with ⟨after, moves, result⟩
        exact ⟨after, moves, Or.inr result⟩
  | answered same answer =>
      rw [← held] at same answer
      rcases inPop.resume_open same answer reads with ⟨after, moves, result⟩
      exact ⟨after, moves, Or.inl result⟩
  | waiting same waited =>
      rw [← held] at same waited
      rcases waited with waits | ⟨woken, finished⟩
      · rw [done] at waits
        cases waits
      · rcases inPop.resume_waited positive same finished reads with ⟨after, moves, result⟩
        exact ⟨after, moves, Or.inl result⟩

/-! ## The whole call -/

theorem InPop.step (inPop : InPop me core begin size stats state) (quiet : core.Quiet)
    (inside : begin.next ≤ core.writePos) (positive : 0 < size) {label : Label Producer ReaderId}
    (own : label.own me = true) (stepped : state.step me label = some after) :
    (InPop me core begin size stats after ∧ deliver me [] state label = []) ∨
      (Popped me core begin size stats after ∧
        deliver me [] state label = core.batchFrom begin.next size) := by
  cases label with
  | ring label =>
      cases label with
      | reader id =>
          have same : id = me := of_decide_eq_true own
          subst same
          rw [State.step_ring_own rfl] at stepped
          rcases Option.map_eq_some_iff.mp stepped with ⟨ring, moved, rfl⟩
          have running (outcome : BroadcastRing.Outcome) :
              (state.ring.readers id).phase ≠ .done outcome := by
            intro done
            rw [reader_done done] at moved
            cases moved
          have awake (known : Nat) : (state.ring.readers id).phase ≠ .blocked known := by
            intro blocked
            simp only [BroadcastRing.State.step, BroadcastRing.State.readStep,
              BroadcastRing.State.idleStep, blocked] at moved
            cases moved
          rcases inPop.reader quiet inside running awake with ⟨other, same, next, _⟩
          rw [same] at moved
          cases moved
          exact Or.inl ⟨next, rfl⟩
      | wakeup id timedOut =>
          have same : id = me := of_decide_eq_true own
          subst same
          rw [State.step_ring_own rfl] at stepped
          rcases Option.map_eq_some_iff.mp stepped with ⟨ring, moved, rfl⟩
          cases phase : (state.ring.readers id).phase with
          | blocked known =>
              rcases inPop.wakeup phase timedOut with ⟨other, same, next, _⟩
              rw [same] at moved
              cases moved
              exact Or.inl ⟨next, rfl⟩
          | _ =>
              simp only [BroadcastRing.State.step, BroadcastRing.State.wakeup, phase] at moved
              cases moved
      | _ => cases own
  | resume =>
      cases phase : (state.ring.readers me).phase with
      | done outcome =>
          rcases inPop.resume inside positive phase with ⟨other, same, result⟩
          rw [same] at stepped
          cases stepped
          rcases result with ⟨next, nothing, _⟩ | ⟨popped, frames⟩
          · exact Or.inl ⟨next, nothing⟩
          · exact Or.inr ⟨popped, frames⟩
      | _ =>
          simp only [State.step, State.next, phase] at stepped
          cases stepped
  | _ => cases own

theorem InPop.goes_on (inPop : InPop me core begin size stats state) (quiet : core.Quiet)
    (inside : begin.next ≤ core.writePos) (positive : 0 < size) :
    ∃ label after, label.own me = true ∧ state.step me label = some after ∧
      ((InPop me core begin size stats after ∧ after.toPop me < state.toPop me) ∨
        Popped me core begin size stats after) := by
  have mine : decide (me = me) = true := decide_eq_true rfl
  by_cases blocked : ∃ known, (state.ring.readers me).phase = .blocked known
  · rcases blocked with ⟨known, blocked⟩
    rcases inPop.wakeup blocked true with ⟨ring, moved, next, closer⟩
    refine ⟨.ring (.wakeup me true), _, mine, ?_, Or.inl ⟨next, closer rfl⟩⟩
    rw [State.step_ring_own rfl, moved]
    rfl
  · by_cases done : ∃ outcome, (state.ring.readers me).phase = .done outcome
    · rcases done with ⟨outcome, done⟩
      rcases inPop.resume inside positive done with ⟨next, moved, result⟩
      refine ⟨.resume, next, rfl, moved, ?_⟩
      rcases result with ⟨still, _, closer⟩ | ⟨popped, _⟩
      · exact Or.inl ⟨still, closer⟩
      · exact Or.inr popped
    · rcases inPop.reader quiet inside (not_exists.mp done) (not_exists.mp blocked) with
        ⟨ring, moved, next, closer⟩
      refine ⟨.ring (.reader me), _, mine, ?_, Or.inl ⟨next, closer⟩⟩
      rw [State.step_ring_own rfl, moved]
      rfl

theorem Popped.rests (popped : Popped me core begin size stats state)
    {label : Label Producer ReaderId} (own : label.own me = true) : state.step me label = none := by
  have resting := popped.resting
  cases label with
  | ring label =>
      cases label with
      | reader id =>
          have same : id = me := of_decide_eq_true own
          subst same
          rw [State.step_ring_own rfl]
          cases phase : (state.ring.readers id).phase with
          | done outcome =>
              rw [reader_done phase]
              rfl
          | idle =>
              simp only [BroadcastRing.State.step, BroadcastRing.State.readStep,
                BroadcastRing.State.idleStep, phase]
              rfl
          | _ =>
              rw [phase] at resting
              cases resting
      | wakeup id timedOut =>
          have same : id = me := of_decide_eq_true own
          subst same
          rw [State.step_ring_own rfl]
          simp only [BroadcastRing.State.step, BroadcastRing.State.wakeup]
          split
          · rename_i blocked
            rw [blocked] at resting
            cases resting
          · rfl
      | _ => cases own
  | resume =>
      have idle : state.feed.phase = .idle := by rw [popped.feed]
      simp only [State.step, State.next]
      split
      · simp only [RingFeed.resume, idle, Option.bind_none]
      · rfl
  | _ => cases own

theorem Alone.popped {frames : List Frame} (alone : Alone me state frames after)
    (inPop : InPop me core begin size stats state) (quiet : core.Quiet)
    (inside : begin.next ≤ core.writePos) (positive : 0 < size)
    (returned : after.feed.phase = .idle) :
    Popped me core begin size stats after ∧ frames = core.batchFrom begin.next size := by
  induction alone with
  | start =>
      have stage := inPop.stage
      rw [returned] at stage
      cases stage with
      | reading place _ => rcases place with first | second <;> contradiction
      | read place _ => rcases place with first | second <;> contradiction
  | next own stepped rest induction =>
      rcases inPop.step quiet inside positive own stepped with ⟨next, nothing⟩ | ⟨popped, out⟩
      · rw [nothing]
        exact induction next returned
      · cases rest with
        | start => exact ⟨popped, (List.append_nil _).trans out⟩
        | next own stepped _ =>
            rw [popped.rests own] at stepped
            cases stepped

theorem InPop.returns (inPop : InPop me core begin size stats state) (quiet : core.Quiet)
    (inside : begin.next ≤ core.writePos) (positive : 0 < size) :
    ∃ frames after, Alone me state frames after ∧ after.feed.phase = .idle := by
  induction steps : state.toPop me using Nat.strong_induction_on generalizing state with
  | _ bound induction =>
      subst steps
      rcases inPop.goes_on quiet inside positive with
        ⟨label, middle, own, stepped, ⟨next, closer⟩ | popped⟩
      · rcases induction _ closer next rfl with ⟨frames, after, alone, returned⟩
        exact ⟨_, after, .next own stepped alone, returned⟩
      · exact ⟨_, middle, .next own stepped .start, by rw [popped.feed]⟩

end

end RingConsumer

end TelemetryGateway
