import TelemetryGateway.Feed.QueueWindow
import TelemetryGateway.Gateway.LoneConsumer

/-! # A feed on the ring, one operation after the other

With every batch published before the next call begins, the cursor of the feed
is a window over everything that was published. -/

namespace TelemetryGateway

namespace BroadcastRing

theorem State.Leaves.trans {first second third : State geometry Producer ReaderId}
    (left : first.Leaves second) (right : second.Leaves third) : first.Leaves third where
  closed := right.closed.trans left.closed
  idleMutex := right.idleMutex.trans left.idleMutex
  readers := by
    intro id resting
    have same := left.readers id resting
    rw [right.readers id (by rw [same]; exact resting), same]

theorem Core.stream_append {core after : Core geometry Producer} {producer : Producer}
    {batch : List BusFrame}
    (issued : after.issued = core.issued ++ (batch.map Subtype.val).map fun frame =>
      (producer, frame)) :
    after.stream = core.stream ++ FanOut.stamp (UInt64.ofNat core.stream.length) batch := by
  have size : core.stream.length = core.issued.length := List.length_mapIdx
  rw [stream, issued, List.mapIdx_append, size]
  refine congrArg (core.stream ++ ·) ?_
  apply List.ext_getElem?
  intro k
  rw [FanOut.stamp, List.getElem?_mapIdx, List.getElem?_mapIdx, List.getElem?_map,
    List.getElem?_map]
  cases batch[k]? with
  | none => rfl
  | some frame =>
      simp only [Option.map_some, ← UInt64.ofNat_add, Nat.add_comm k]

end BroadcastRing

namespace RingConsumer

open BroadcastRing (Core)

/-- The thread of a producer, left alone inside `publish_batch`. -/
inductive Publishes [DecidableEq Producer] [DecidableEq ReaderId] (me : ReaderId)
    (producer : Producer) : State geometry Producer ReaderId → State geometry Producer ReaderId →
      Prop
  | start : Publishes me producer state state
  | next : state.step me (.ring (.producer producer spurious)) = some middle →
      Publishes me producer middle after → Publishes me producer state after

def Ingests [DecidableEq Producer] [DecidableEq ReaderId] (me : ReaderId) (producer : Producer)
    (batch : List BusFrame) (state after : State geometry Producer ReaderId) : Prop :=
  ∃ called, state.step me (.ring (.publishBatch producer (batch.map Subtype.val))) = some called ∧
    Publishes me producer called after ∧ after.ring.core.producers producer = .idle

def Pops [DecidableEq Producer] [DecidableEq ReaderId] (me : ReaderId) (size : Nat)
    (state : State geometry Producer ReaderId) (frames : List Frame)
    (after : State geometry Producer ReaderId) : Prop :=
  ∃ called, state.step me (.pop size) = some called ∧ Alone me called frames after ∧
    after.feed.phase = .idle

/-- The ring is open, and neither a producer nor the feed is inside a call. -/
structure Quiescent (me : ReaderId) (state : State geometry Producer ReaderId) : Prop where
  idle : ∀ producer, state.ring.core.producers producer = .idle
  isOpen : state.ring.closed = false
  free : state.ring.idleMutex = none
  resting : (state.ring.readers me).phase.resting = true
  place : state.feed.phase = .idle

structure Settled (me : ReaderId) (state : State geometry Producer ReaderId) : Prop
    extends Quiescent me state where
  sound : state.ring.Sound
  inside : (state.ring.readers me).cursor.next ≤ state.ring.core.writePos

theorem Settled.quiet {me : ReaderId} {state : State geometry Producer ReaderId}
    (settled : Settled me state) : state.ring.core.Quiet :=
  settled.sound.core.tickets.quiet fun producer => by
    rw [settled.idle producer]
    rfl

/-- Between two operations nobody is inside a call, and the cursor of the feed
is where the window says. -/
structure Rest (me : ReaderId) (window : Window Frame) (state : State geometry Producer ReaderId) :
    Prop where
  sound : state.ring.Sound
  idle : ∀ producer, state.ring.core.producers producer = .idle
  isOpen : state.ring.closed = false
  free : state.ring.idleMutex = none
  resting : (state.ring.readers me).phase.resting = true
  stream : state.ring.core.stream = window.log
  cursor : (state.ring.readers me).cursor = { next := window.next, missed := window.missed }
  inside : window.next ≤ window.log.length
  place : state.feed.phase = .idle
  delivered : state.feed.delivered = UInt64.ofNat window.taken
  missed : state.feed.missed = UInt64.ofNat window.missed
  position : state.feed.position = UInt64.ofNat window.next

theorem Rest.writePos {me : ReaderId} {window : Window Frame}
    {state : State geometry Producer ReaderId} (rest : Rest me window state) :
    state.ring.core.writePos = window.log.length := by
  rw [← rest.sound.core.tickets.length_stream, rest.stream]

theorem Rest.settled {me : ReaderId} {window : Window Frame}
    {state : State geometry Producer ReaderId} (rest : Rest me window state) :
    Settled me state where
  idle := rest.idle
  isOpen := rest.isOpen
  free := rest.free
  resting := rest.resting
  place := rest.place
  sound := rest.sound
  inside := by
    rw [rest.cursor, rest.writePos]
    exact rest.inside

theorem Rest.batchFrom {me : ReaderId} {window : Window Frame}
    {state : State geometry Producer ReaderId} (rest : Rest me window state) (size : Nat) :
    state.ring.core.batchFrom window.next size = (window.pop geometry.capacity size).2 := by
  rw [Core.batchFrom, Core.readFrom, rest.stream, rest.writePos]
  rfl

theorem Rest.popped {me : ReaderId} {window : Window Frame}
    {state after : State geometry Producer ReaderId} (rest : Rest me window state) {size : Nat}
    (positive : 0 < size)
    (popped : Popped me state.ring.core { next := window.next, missed := window.missed } size
      state.feed after) :
    Rest me (window.pop geometry.capacity size).1 after := by
  rcases popped with ⟨sound, cells, isOpen, free, resting, cursor, feed⟩
  rw [cursor, rest.batchFrom] at feed
  rw [rest.batchFrom] at cursor
  have moved : state.ring.core.cursorAfter { next := window.next, missed := window.missed }
      (window.pop geometry.capacity size).2.length =
      { next := (window.pop geometry.capacity size).1.next
        missed := (window.pop geometry.capacity size).1.missed } := by
    by_cases nothing : (window.pop geometry.capacity size).2 = []
    · rw [Window.pop_nothing nothing, nothing]
      exact rest.sound.core.tickets.cursorAfter_nothing positive (rest.writePos ▸ rest.inside)
        ((rest.batchFrom size).trans nothing)
    · have begins : state.ring.core.readFrom window.next = window.front geometry.capacity := by
        rw [Core.readFrom, rest.writePos]
        rfl
      rw [Window.pop_found nothing, Core.cursorAfter, begins]
      rfl
  rw [moved] at cursor feed
  constructor
  case sound => exact sound
  case idle =>
    rw [cells]
    exact rest.idle
  case isOpen => exact isOpen
  case free => exact free
  case resting => exact resting
  case stream => rw [cells, rest.stream, Window.log_pop]
  case cursor => exact cursor
  case inside =>
    rw [Window.log_pop]
    exact Window.next_pop_le rest.inside
  case place => rw [feed]
  case delivered =>
    rw [feed, Window.taken_pop, UInt64.ofNat_add, ← rest.delivered]
    rfl
  case missed =>
    rw [feed]
    rfl
  case position =>
    rw [feed]
    rfl

theorem Settled.popped {me : ReaderId} {state after : State geometry Producer ReaderId}
    (settled : Settled me state) {size : Nat}
    (popped : Popped me state.ring.core (state.ring.readers me).cursor size state.feed after) :
    Settled me after where
  idle := by
    rw [popped.cells]
    exact settled.idle
  isOpen := popped.isOpen
  free := popped.free
  resting := popped.resting
  place := by rw [popped.feed]
  sound := popped.sound
  inside := by
    have within := Core.readFrom_le settled.inside
    rw [popped.cursor, popped.cells, Core.cursorAfter, Core.batchFrom, List.length_take,
      List.length_drop, settled.sound.core.tickets.length_stream]
    dsimp only
    omega

section

variable {geometry : BroadcastRing.Geometry} {Producer ReaderId : Type} [DecidableEq Producer]
  [DecidableEq ReaderId] {me : ReaderId} {window : Window Frame}
  {state after : State geometry Producer ReaderId}

theorem attach_rest (attached : State.empty.step me .attach = some state) :
    Rest me .opened state := by
  have sound := (State.step_ring (BroadcastRing.State.empty_sound _) attached).1
  rcases State.attach_cases attached with ⟨past, rfl⟩
  constructor
  case sound => exact sound
  case idle => exact fun _ => rfl
  case isOpen => rfl
  case free => rfl
  case resting =>
    dsimp only
    rw [BroadcastRing.State.setReader_self]
    rfl
  case stream => rfl
  case cursor =>
    dsimp only
    rw [BroadcastRing.State.setReader_self]
    rfl
  case inside => rfl
  case place => rfl
  case delivered => rfl
  case missed => rfl
  case position => rfl

/-! ## Ingest -/

/-- Inside a `publish_batch` that nobody disturbs: what it found is as it was,
but for the tickets it has taken. -/
structure Publishing (producer : Producer) (entries : List (Producer × Frame))
    (begin state : State geometry Producer ReaderId) : Prop where
  sound : state.ring.Sound
  lone : state.ring.core.Lone producer
  leaves : begin.ring.Leaves state.ring
  issued : state.ring.core.issued = begin.ring.core.issued ++ entries
  feed : state.feed = begin.feed

theorem Rest.publish (rest : Rest me window state) {producer : Producer} {frames : List Frame}
    (stepped : state.step me (.ring (.publishBatch producer frames)) = some after) :
    Publishing producer (frames.map fun frame => (producer, frame)) state after := by
  rw [State.step_ring_own rfl] at stepped
  rcases Option.map_eq_some_iff.mp stepped with ⟨ring, moved, rfl⟩
  have lone : state.ring.core.Lone producer := fun other _ => rest.idle other
  rcases BroadcastRing.State.publish_leaves lone moved with ⟨still, leaves⟩
  exact ⟨rest.sound.step moved, still, leaves, BroadcastRing.State.issued_step moved, rfl⟩

theorem Publishing.step {producer : Producer} {entries : List (Producer × Frame)}
    {begin : State geometry Producer ReaderId} (publishing : Publishing producer entries begin state)
    {spurious : Bool}
    (stepped : state.step me (.ring (.producer producer spurious)) = some after) :
    Publishing producer entries begin after := by
  rw [State.step_ring_own rfl] at stepped
  rcases Option.map_eq_some_iff.mp stepped with ⟨ring, moved, rfl⟩
  rcases BroadcastRing.State.producer_leaves publishing.lone moved with ⟨lone, leaves⟩
  have same := (BroadcastRing.State.issued_step moved).trans (List.append_nil _)
  exact ⟨publishing.sound.step moved, lone, publishing.leaves.trans leaves,
    same.trans publishing.issued, publishing.feed⟩

theorem Publishes.publishing {producer : Producer} {entries : List (Producer × Frame)}
    {begin : State geometry Producer ReaderId} (publishes : Publishes me producer state after)
    (publishing : Publishing producer entries begin state) :
    Publishing producer entries begin after := by
  induction publishes with
  | start => exact publishing
  | next stepped _ induction => exact induction (publishing.step stepped)

theorem Rest.ingest (rest : Rest me window state) {producer : Producer} {batch : List BusFrame}
    (ingests : Ingests me producer batch state after) :
    Rest me (window.push (FanOut.stamp (UInt64.ofNat window.log.length) batch)) after := by
  rcases ingests with ⟨called, stepped, publishes, returned⟩
  have publishing := publishes.publishing (rest.publish stepped)
  have reader := publishing.leaves.readers me rest.resting
  constructor
  case sound => exact publishing.sound
  case idle =>
    intro other
    by_cases own : other = producer
    · subst own
      exact returned
    · exact publishing.lone other own
  case isOpen => rw [publishing.leaves.closed, rest.isOpen]
  case free => rw [publishing.leaves.idleMutex, rest.free]
  case resting =>
    rw [reader]
    exact rest.resting
  case stream =>
    rw [Core.stream_append publishing.issued, rest.stream]
    rfl
  case cursor =>
    rw [reader]
    exact rest.cursor
  case inside =>
    change window.next ≤ (window.log ++ _).length
    rw [List.length_append]
    exact Nat.le_add_right_of_le rest.inside
  case place => rw [publishing.feed, rest.place]
  case delivered =>
    rw [publishing.feed]
    exact rest.delivered
  case missed =>
    rw [publishing.feed]
    exact rest.missed
  case position =>
    rw [publishing.feed]
    exact rest.position

theorem Publishing.finish {producer : Producer} {entries : List (Producer × Frame)}
    {begin : State geometry Producer ReaderId} (me : ReaderId)
    (publishing : Publishing producer entries begin state) :
    ∃ after, Publishes me producer state after ∧ after.ring.core.producers producer = .idle := by
  induction steps : (state.ring.core.producers producer).toFinish using Nat.strong_induction_on
    generalizing state with
  | _ bound induction =>
      subst steps
      by_cases idle : state.ring.core.producers producer = .idle
      · exact ⟨state, .start, idle⟩
      · rcases publishing.sound.publish_on publishing.lone idle with ⟨ring, moved, closer⟩
        have stepped : state.step me (.ring (.producer producer false)) =
            some { state with ring := ring } := by
          rw [State.step_ring_own rfl, moved]
          rfl
        rcases induction _ closer (publishing.step stepped) rfl with ⟨after, publishes, returned⟩
        exact ⟨after, .next stepped publishes, returned⟩

theorem Rest.ingests (rest : Rest me window state) (producer : Producer) (batch : List BusFrame)
    (room : window.log.length + batch.length < Core.kTicketLimit) :
    ∃ after, Ingests me producer batch state after := by
  have taken : ∃ core, state.ring.core.take producer (batch.map Subtype.val) = some core := by
    unfold Core.take
    rw [rest.idle producer]
    cases batch with
    | nil => exact ⟨_, rfl⟩
    | cons frame batch =>
        refine ⟨_, if_pos ?_⟩
        rw [rest.writePos, List.length_cons, List.length_map]
        exact room
  rcases taken with ⟨core, taken⟩
  have stepped : state.step me (.ring (.publishBatch producer (batch.map Subtype.val))) =
      some { state with ring := { state.ring with core := core } } := by
    rw [State.step_ring_own rfl, BroadcastRing.State.step, taken]
    rfl
  rcases (rest.publish stepped).finish me with ⟨after, publishes, returned⟩
  exact ⟨after, _, stepped, publishes, returned⟩

/-! ## Pop -/

theorem Settled.pop_called (settled : Settled me state) {size : Nat} (positive : 0 < size) :
    ∃ called, state.step me (.pop size) = some called ∧
      InPop me state.ring.core (state.ring.readers me).cursor size state.feed called := by
  have called := BroadcastRing.State.call_resting settled.resting (.readBatch size)
  have entry : (BroadcastRing.Request.readBatch size).entry (state.ring.readers me).cursor.missed =
      .loadSeq (.readBatch size [] (state.ring.readers me).cursor.missed) := if_pos positive
  rw [entry] at called
  have stepped : state.ring.step (.call me (.readBatch size)) = some _ := called
  refine ⟨{ ring := state.ring.setPhase me (.loadSeq (.readBatch size []
              (state.ring.readers me).cursor.missed))
            feed := { state.feed with phase := .firstRead size } }, ?_, ?_⟩
  · rw [State.step, if_pos settled.place, State.call, called]
    rfl
  · have reader := BroadcastRing.State.setReader_self state.ring me { state.ring.readers me with
      phase := .loadSeq (.readBatch size [] (state.ring.readers me).cursor.missed) }
    refine ⟨settled.sound.step stepped, rfl, settled.isOpen, ?_, rfl, ?_⟩
    · rw [BroadcastRing.State.MutexMine, BroadcastRing.State.setPhase, reader]
      exact settled.free
    · dsimp only
      rw [BroadcastRing.State.setPhase, reader]
      exact .reading (Or.inl rfl) (fetching_start positive rfl rfl)

/-- Whatever the thread did meanwhile, a `pop_batch` returns the oldest frames
that can be read. -/
theorem Settled.pop (settled : Settled me state) {size : Nat} (positive : 0 < size)
    {frames : List Frame} (pops : Pops me size state frames after) :
    frames = state.ring.core.batchFrom (state.ring.readers me).cursor.next size ∧
      Popped me state.ring.core (state.ring.readers me).cursor size state.feed after := by
  rcases pops with ⟨called, stepped, alone, returned⟩
  rcases settled.pop_called positive with ⟨other, same, inPop⟩
  rw [same] at stepped
  cases stepped
  rcases alone.popped inPop settled.quiet settled.inside positive returned with ⟨popped, frames⟩
  exact ⟨frames, popped⟩

theorem Settled.pops (settled : Settled me state) {size : Nat} (positive : 0 < size) :
    ∃ frames after, Pops me size state frames after := by
  rcases settled.pop_called positive with ⟨called, stepped, inPop⟩
  rcases inPop.returns settled.quiet settled.inside positive with ⟨frames, after, alone, returned⟩
  exact ⟨frames, after, called, stepped, alone, returned⟩

theorem Rest.pop (rest : Rest me window state) {size : Nat} (positive : 0 < size)
    {frames : List Frame} (pops : Pops me size state frames after) :
    frames = (window.pop geometry.capacity size).2 ∧
      Rest me (window.pop geometry.capacity size).1 after := by
  rcases rest.settled.pop positive pops with ⟨frames, popped⟩
  rw [rest.cursor] at frames popped
  exact ⟨frames.trans (rest.batchFrom size), rest.popped positive popped⟩

theorem Rest.pops (rest : Rest me window state) {size : Nat} (positive : 0 < size) :
    ∃ frames after, Pops me size state frames after :=
  rest.settled.pops positive

end

end RingConsumer

end TelemetryGateway
