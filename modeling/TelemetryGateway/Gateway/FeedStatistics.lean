import TelemetryGateway.Feed.RingClosing
import TelemetryGateway.Gateway.Interchangeable

/-! # What the statistics of a feed say

A queue counts under its mutex. A ring feed copies its cursor where `stats` can
see it when a `pop_batch` comes to its end, and takes the write position as it
is. -/

namespace TelemetryGateway

/-- The numbers are those of a feed that was to deliver `ingested` frames and of
which repeated pops would return what `drains` allows. The sum is taken in the 64
bits of the counters, and so it is exact up to `2 ^ 64` frames. -/
structure FeedStats.Describes (stats : FeedStats) (drains : List Frame → Prop) (ingested : Nat) :
    Prop where
  fits : stats.backlog ≤ stats.capacity
  returns : ∃ frames, drains frames
  backlog : ∀ frames, drains frames → frames.length = stats.backlog
  total : stats.delivered + stats.dropped + UInt64.ofNat stats.backlog = UInt64.ofNat ingested
  inRange : ingested < 2 ^ 64 →
    stats.delivered.toNat + stats.dropped.toNat + stats.backlog = ingested

theorem FeedStats.adds_up {stats : FeedStats} {delivered dropped ingested : Nat}
    (handedOut : stats.delivered = UInt64.ofNat delivered)
    (lost : stats.dropped = UInt64.ofNat dropped)
    (sum : delivered + dropped + stats.backlog = ingested) :
    stats.delivered + stats.dropped + UInt64.ofNat stats.backlog = UInt64.ofNat ingested ∧
      (ingested < 2 ^ 64 →
        stats.delivered.toNat + stats.dropped.toNat + stats.backlog = ingested) := by
  subst sum
  refine ⟨by rw [handedOut, lost, UInt64.ofNat_add, UInt64.ofNat_add], ?_⟩
  intro small
  have width : UInt64.size = 2 ^ 64 := rfl
  rw [handedOut, lost, UInt64.toNat_ofNat_of_lt' (by omega), UInt64.toNat_ofNat_of_lt' (by omega)]

theorem FeedStats.adds_up_iff {stats : FeedStats} {delivered dropped ingested : Nat}
    (handedOut : stats.delivered = UInt64.ofNat delivered)
    (lost : stats.dropped = UInt64.ofNat dropped) (fewDelivered : delivered < UInt64.size)
    (fewDropped : dropped < UInt64.size) (few : ingested < 2 ^ 64) :
    (stats.delivered + stats.dropped + UInt64.ofNat stats.backlog = UInt64.ofNat ingested ∧
        (ingested < 2 ^ 64 →
          stats.delivered.toNat + stats.dropped.toNat + stats.backlog = ingested)) ↔
      delivered + dropped + stats.backlog = ingested := by
  refine ⟨?_, FeedStats.adds_up handedOut lost⟩
  rintro ⟨_, inRange⟩
  have sum := inRange few
  rw [handedOut, lost, UInt64.toNat_ofNat_of_lt' fewDelivered,
    UInt64.toNat_ofNat_of_lt' fewDropped] at sum
  exact sum

/-! ## Topology A -/

namespace QueueFeed

/-- A queue after operations on it, and the number of frames they ingested. -/
inductive Reached (capacity : Nat) : FrameQueue → Nat → Prop
  | created : Reached capacity (BoundedQueue.create capacity) 0
  | ingest (frames : List Frame) : Reached capacity queue ingested →
      Reached capacity (queue.pushBatch frames).1 (ingested + frames.length)
  | pop (size : Nat) : Reached capacity queue ingested →
      Reached capacity (queue.popBatch size).1 ingested

/-- What is popped until a `pop_batch` returns nothing. -/
inductive Drains : FrameQueue → List Frame → Prop
  | nothing (queue : FrameQueue) (size : Nat) : 0 < size → (queue.popBatch size).2 = [] →
      Drains queue []
  | more (queue : FrameQueue) (size : Nat) : 0 < size → Drains (queue.popBatch size).1 rest →
      Drains queue ((queue.popBatch size).2 ++ rest)

theorem Drains.eq_contents {queue : FrameQueue} {frames : List Frame}
    (drains : Drains queue frames) : frames = queue.contents := by
  induction drains with
  | nothing queue size positive nothing =>
      rw [(queue.popBatch_spec size).1] at nothing
      rcases List.take_eq_nil_iff.mp nothing with none | empty
      · omega
      · exact empty.symm
  | more queue size positive _ induction =>
      rw [induction, (queue.popBatch_spec size).1, (queue.popBatch_spec size).2.1,
        List.take_append_drop]

theorem drains_contents (queue : FrameQueue) : Drains queue queue.contents := by
  have all : (queue.popBatch (queue.count + 1)).2 = queue.contents := by
    rw [(queue.popBatch_spec _).1, List.take_of_length_le]
    rw [queue.length_contents]
    exact Nat.le_succ _
  have rest : (queue.popBatch (queue.count + 1)).1.contents = [] := by
    rw [(queue.popBatch_spec _).2.1, List.drop_eq_nil_of_le]
    rw [queue.length_contents]
    exact Nat.le_succ _
  have empty : ((queue.popBatch (queue.count + 1)).1.popBatch 1).2 = [] := by
    rw [(BoundedQueue.popBatch_spec _ _).1, rest, List.take_nil]
  have drained := Drains.more queue _ (Nat.succ_pos queue.count) (.nothing _ 1 Nat.one_pos empty)
  rw [all, List.append_nil] at drained
  exact drained

/-- `taken` is the number of frames handed out. -/
structure Counts (queue : FrameQueue) (taken ingested : Nat) : Prop where
  isOpen : queue.closed = false
  popped : queue.popped = UInt64.ofNat taken
  balanced : taken + queue.losses + queue.count = ingested

theorem Reached.counts {capacity ingested : Nat} {queue : FrameQueue}
    (reached : Reached capacity queue ingested) : ∃ taken, Counts queue taken ingested := by
  induction reached with
  | created => exact ⟨0, rfl, rfl, rfl⟩
  | @ingest queue ingested frames _ induction =>
      rcases induction with ⟨taken, counts⟩
      rcases BoundedQueue.pushBatch_open counts.isOpen frames with ⟨contents, losses, isOpen⟩
      have popped := (BoundedQueue.pushBatch_counts counts.isOpen frames).2.2.1
      have count := congrArg List.length contents
      rw [BoundedQueue.length_contents, length_rtake, List.length_append,
        BoundedQueue.length_contents] at count
      have balanced := counts.balanced
      exact ⟨taken, isOpen, popped.trans counts.popped, by omega⟩
  | @pop queue ingested size _ induction =>
      rcases induction with ⟨taken, counts⟩
      rcases queue.popBatch_spec size with ⟨_, rest, losses, closed⟩
      have count := congrArg List.length rest
      rw [BoundedQueue.length_contents, List.length_drop, BoundedQueue.length_contents] at count
      have balanced := counts.balanced
      refine ⟨taken + min size queue.count, closed.trans counts.isOpen, ?_, by omega⟩
      rw [(queue.popBatch_counts size).1, counts.popped, UInt64.ofNat_add]

theorem Reached.describes {capacity ingested : Nat} {queue : FrameQueue}
    (reached : Reached capacity queue ingested) :
    (stats queue).Describes (Drains queue) ingested := by
  rcases reached.counts with ⟨taken, counts⟩
  have handedOut : (stats queue).delivered = UInt64.ofNat taken := counts.popped
  have sums := FeedStats.adds_up handedOut queue.counted counts.balanced
  refine ⟨queue.fits, ⟨_, drains_contents queue⟩, ?_, sums.1, sums.2⟩
  intro frames drains
  rw [drains.eq_contents]
  exact queue.length_contents

end QueueFeed

/-! ## Topology B -/

def RingFeed.Phase.outside : RingFeed.Phase → Bool
  | .idle => true
  | .closed => true
  | _ => false

namespace RingConsumer

open BroadcastRing (Core)

section

variable (geometry : BroadcastRing.Geometry) (Producer ReaderId : Type) [DecidableEq Producer]
  [DecidableEq ReaderId]

/-- Runs of a ring and the owner of a feed, which may be constructed anew at any
moment. -/
def system (me : ReaderId) :
    System (State geometry Producer ReaderId) (Label Producer ReaderId) where
  initial := fun state => state = .empty
  step := State.step me

end

/-- What the feed has delivered, and whether one of its `pop_batch` calls has
returned, since it was constructed. -/
structure FeedLedger where
  delivered : List Frame := []
  popped : Bool := false

def State.popReturns (me : ReaderId) (state : State geometry Producer ReaderId) : Bool :=
  match state.next me with
  | some (.answer (.pop _) _) => true
  | _ => false

def FeedLedger.note (me : ReaderId) (ledger : FeedLedger)
    (state : State geometry Producer ReaderId) (label : Label Producer ReaderId)
    (_ : State geometry Producer ReaderId) : FeedLedger where
  delivered := deliver me ledger.delivered state label
  popped :=
    match label with
    | .attach => false
    | .resume => ledger.popped || state.popReturns me
    | _ => ledger.popped

section

variable {geometry : BroadcastRing.Geometry} {Producer ReaderId : Type} {me : ReaderId}
  {state after : State geometry Producer ReaderId} (ledger : FeedLedger)

theorem FeedLedger.note_pop {out : List Frame} {feed : RingFeed}
    (found : state.next me = some (.answer (.pop out) feed)) :
    ledger.note me state .resume after =
      { delivered := ledger.delivered ++ out, popped := true } := by
  simp [note, deliver, State.returned, State.popReturns, found, Egress.Event.frames]

theorem FeedLedger.note_closed {answer : Bool} {feed : RingFeed}
    (found : state.next me = some (.answer (.closed answer) feed)) :
    ledger.note me state .resume after = ledger := by
  simp [note, deliver, State.returned, State.popReturns, found, Egress.Event.frames]

theorem FeedLedger.note_call {request : BroadcastRing.Request} {feed : RingFeed}
    (found : state.next me = some (.call request feed)) :
    ledger.note me state .resume after = ledger := by
  simp [note, deliver, State.returned, State.popReturns, found]

end

/-! ### What can be popped -/

/-- What is popped until a `pop_batch` returns nothing, with nobody else
running. -/
inductive Drains [DecidableEq Producer] [DecidableEq ReaderId] (me : ReaderId) :
    State geometry Producer ReaderId → List Frame → Prop
  | nothing (size : Nat) : 0 < size → Pops me size state [] after → Drains me state []
  | more (size : Nat) : 0 < size → Pops me size state frames middle → Drains me middle rest →
      Drains me state (frames ++ rest)

def State.readable (me : ReaderId) (state : State geometry Producer ReaderId) : Nat :=
  state.ring.core.writePos - state.ring.core.readFrom (state.ring.readers me).cursor.next

section

variable {geometry : BroadcastRing.Geometry} {Producer ReaderId : Type} [DecidableEq Producer]
  [DecidableEq ReaderId] {me : ReaderId} {state after : State geometry Producer ReaderId}

theorem Settled.readable_popped (settled : Settled me state) {size : Nat} (positive : 0 < size)
    {frames : List Frame} (pops : Pops me size state frames after) :
    Settled me after ∧ frames.length = min size (state.readable me) ∧
      after.readable me = state.readable me - frames.length := by
  rcases settled.pop positive pops with ⟨rfl, popped⟩
  have within := Core.readFrom_le settled.inside
  have size : (state.ring.core.batchFrom (state.ring.readers me).cursor.next size).length =
      min size (state.readable me) := by
    rw [Core.batchFrom, List.length_take, List.length_drop,
      settled.sound.core.tickets.length_stream]
    rfl
  refine ⟨settled.popped popped, size, ?_⟩
  rw [size, State.readable, popped.cells, popped.cursor, Core.cursorAfter, size]
  dsimp only
  unfold State.readable Core.readFrom at *
  omega

theorem Drains.length_eq {frames : List Frame} (drains : Drains me state frames)
    (settled : Settled me state) : frames.length = state.readable me := by
  induction drains with
  | nothing size positive pops =>
      have length := (settled.readable_popped positive pops).2.1
      rw [List.length_nil] at length ⊢
      omega
  | more size positive pops _ induction =>
      rcases settled.readable_popped positive pops with ⟨still, length, left⟩
      rw [List.length_append, induction still, left]
      omega

theorem Settled.drains (settled : Settled me state) : ∃ frames, Drains me state frames := by
  have positive : 0 < state.readable me + 1 := Nat.succ_pos _
  rcases settled.pops positive with ⟨frames, middle, pops⟩
  rcases settled.readable_popped positive pops with ⟨still, length, left⟩
  rcases still.pops Nat.one_pos with ⟨rest, after, last⟩
  have none := (still.readable_popped Nat.one_pos last).2.1
  have empty : rest = [] := List.eq_nil_of_length_eq_zero (by omega)
  subst empty
  exact ⟨_, .more _ positive pops (.nothing 1 Nat.one_pos last)⟩

end

/-! ### What is copied -/

theorem resume_counts {feed : RingFeed} {cursor : BroadcastRing.Cursor}
    {outcome : BroadcastRing.Outcome} {move : RingFeed.Move}
    (resumed : feed.resume cursor outcome = some move) :
    (∃ out, move = .answer (.pop out)
      { feed.publishStats cursor out.length with phase := .idle }) ∨
    (outcome = .closed true ∧ move = .answer (.pop []) { feed with phase := .idle }) ∨
    (∃ answer, feed.phase.outside = true ∧
      move = .answer (.closed answer) { feed with phase := .idle }) ∨
    (∃ request phase, phase.outside = false ∧ move = .call request { feed with phase := phase }) := by
  unfold RingFeed.resume at resumed
  split at resumed
  · split at resumed <;> cases resumed
    · exact .inr (.inr (.inr ⟨_, _, rfl, rfl⟩))
    · exact .inl ⟨_, rfl⟩
  · split at resumed <;> cases resumed
    · rename_i closed
      subst closed
      exact .inr (.inl ⟨rfl, rfl⟩)
    · exact .inr (.inr (.inr ⟨_, _, rfl, rfl⟩))
  · cases resumed
    exact .inr (.inr (.inr ⟨_, _, rfl, rfl⟩))
  · cases resumed
    exact .inl ⟨_, rfl⟩
  · rename_i asking
    cases resumed
    exact .inr (.inr (.inl ⟨_, by rw [asking]; rfl, rfl⟩))
  · cases resumed

theorem phase_of_call [DecidableEq ReaderId] {me : ReaderId}
    {ring next : BroadcastRing.State geometry Producer ReaderId} {request : BroadcastRing.Request}
    (called : ring.call me request = some next) (answer : Bool) :
    (next.readers me).phase ≠ .done (.closed answer) := by
  rcases BroadcastRing.State.call_cases called with ⟨_, rfl⟩
  rw [BroadcastRing.State.setPhase, BroadcastRing.State.setReader_self]
  cases request with
  | readBatch size =>
      simp only [BroadcastRing.Request.entry]
      split <;> simp
  | _ => simp [BroadcastRing.Request.entry]

/-- While the ring is open the copies are those of the cursor once a `pop_batch`
has returned; before that they are zero, wherever the cursor began. -/
structure Mirrors (me : ReaderId) (state : State geometry Producer ReaderId)
    (ledger : FeedLedger) : Prop where
  sound : state.ring.Sound
  inside : (state.ring.readers me).cursor.next ≤ state.ring.core.writePos
  delivers : state.Delivers me ledger.delivered
  counted : state.feed.delivered = UInt64.ofNat ledger.delivered.length
  answer : (state.ring.readers me).phase = .done (.closed true) → state.ring.closed = true
  current : state.ring.closed = false → state.feed.phase.outside = true → ledger.popped = true →
    state.feed.missed = UInt64.ofNat (state.ring.readers me).cursor.missed ∧
      state.feed.position = UInt64.ofNat (state.ring.readers me).cursor.next
  untouched : ledger.popped = false → state.feed.missed = 0 ∧ state.feed.position = 0 ∧
    (state.feed.phase.outside = true → (state.ring.readers me).log = [])

theorem empty_mirrors (me : ReaderId) :
    Mirrors me (State.empty : State geometry Producer ReaderId) {} where
  sound := BroadcastRing.State.empty_sound _
  inside := Nat.le_refl 0
  delivers := empty_delivers me
  counted := rfl
  answer := by
    intro impossible
    cases impossible
  current := by
    intro _ _ impossible
    cases impossible
  untouched := fun _ => ⟨rfl, rfl, fun _ => rfl⟩

theorem Mirrors.settled {me : ReaderId} {state : State geometry Producer ReaderId}
    {ledger : FeedLedger} (mirrors : Mirrors me state ledger)
    (outside : state.feed.phase.outside = true) :
    (state.ring.readers me).phase.settled = true := by
  have notReading : state.feed.phase.reading = false := by
    cases phase : state.feed.phase <;> first | rfl | (rw [phase] at outside; cases outside)
  exact (mirrors.delivers.handed_over notReading).1

theorem Mirrors.next_eq {me : ReaderId} {state : State geometry Producer ReaderId}
    {ledger : FeedLedger} (mirrors : Mirrors me state ledger) (quiescent : Quiescent me state) :
    (state.ring.readers me).cursor.next = (state.ring.readers me).start +
      ledger.delivered.length + (state.ring.readers me).cursor.missed := by
  have handed := (mirrors.delivers.handed_over (by rw [quiescent.place]; rfl)).2
  have accounted := BroadcastRing.replay_accounts (mirrors.sound.readers me).replayed
  have taken : (state.ring.readers me).log.countP BroadcastRing.ReadEvent.isOk =
      (state.ring.readers me).takenFrames.length := by
    rw [BroadcastRing.Reader.takenFrames_eq, List.length_filterMap_eq_countP]
    apply List.countP_congr
    intro event _
    cases event <;> rfl
  rw [accounted, taken, handed]

section

variable {geometry : BroadcastRing.Geometry} {Producer ReaderId : Type} [DecidableEq Producer]
  [DecidableEq ReaderId] {me : ReaderId} {state after : State geometry Producer ReaderId}
  {ledger : FeedLedger}

theorem Mirrors.ring (mirrors : Mirrors me state ledger)
    {label : BroadcastRing.Label Producer ReaderId}
    (stepped : state.step me (.ring label) = some after) :
    Mirrors me after (ledger.note me state (.ring label) after) := by
  have delivers := mirrors.delivers.step stepped
  simp only [State.step] at stepped
  split at stepped
  · cases stepped
  · rename_i calls
    have others : label.calls me = false := Bool.not_eq_true _ ▸ calls
    rcases Option.map_eq_some_iff.mp stepped with ⟨ring, moved, rfl⟩
    have still (outside : state.feed.phase.outside = true) :
        (ring.readers me).cursor = (state.ring.readers me).cursor ∧
          (ring.readers me).log = (state.ring.readers me).log := by
      rcases BroadcastRing.State.step_untouched moved me with ⟨_, read⟩ | same
      · rw [BroadcastRing.State.readStep_settled (mirrors.settled outside)] at read
        cases read
      · exact same
    have closes (closed : state.ring.closed = true) : ring.closed = true := by
      rcases BroadcastRing.State.closed_step moved with ⟨_, now⟩ | same
      · exact now
      · exact same.trans closed
    constructor
    case sound => exact mirrors.sound.step moved
    case inside => exact mirrors.sound.inside_step moved mirrors.inside
    case delivers => exact delivers
    case counted => exact mirrors.counted
    case answer =>
      intro answered
      apply closes
      rcases mirrors.sound.decides_step others moved (by rw [answered]; rfl) with
        ⟨_, same | ⟨_, asked⟩ | ⟨_, _, _, read⟩⟩
      · exact mirrors.answer (same.symm.trans answered)
      · rw [answered] at asked
        injection asked with asked
        injection asked with asked
        exact asked.symm
      · rw [answered] at read
        cases read
    case current =>
      intro isOpen outside popped
      have before : state.ring.closed = false := by
        cases closed : state.ring.closed with
        | false => rfl
        | true => exact (closes closed).symm.trans isOpen
      dsimp only at outside popped ⊢
      rw [(still outside).1]
      exact mirrors.current before outside popped
    case untouched =>
      intro unpopped
      rcases mirrors.untouched unpopped with ⟨missed, position, fresh⟩
      refine ⟨missed, position, ?_⟩
      intro outside
      dsimp only at outside ⊢
      rw [(still outside).2]
      exact fresh outside

theorem Mirrors.call (mirrors : Mirrors me state ledger) {request : BroadcastRing.Request}
    {phase : RingFeed.Phase} (enters : phase.outside = true → state.feed.phase.outside = true)
    (delivers : after.Delivers me ledger.delivered)
    (called : state.call me request { state.feed with phase := phase } = some after) :
    Mirrors me after ledger := by
  rcases Option.map_eq_some_iff.mp called with ⟨ring, moved, rfl⟩
  have stepped : state.ring.step (.call me request) = some ring := moved
  rcases BroadcastRing.State.call_out moved with ⟨place, reader, _⟩
  have closed : ring.closed = state.ring.closed := by
    rcases BroadcastRing.State.closed_step stepped with ⟨impossible, _⟩ | same
    · cases impossible
    · exact same
  constructor
  case sound => exact mirrors.sound.step stepped
  case inside => exact mirrors.sound.inside_step stepped mirrors.inside
  case delivers => exact delivers
  case counted => exact mirrors.counted
  case answer => exact fun answered => absurd answered (phase_of_call moved true)
  case current =>
    intro isOpen outside popped
    dsimp only at isOpen outside ⊢
    rw [reader]
    exact mirrors.current (closed ▸ isOpen) (enters outside) popped
  case untouched =>
    intro unpopped
    rcases mirrors.untouched unpopped with ⟨missed, position, fresh⟩
    refine ⟨missed, position, ?_⟩
    intro outside
    dsimp only at outside ⊢
    rw [reader]
    exact fresh (enters outside)

theorem Mirrors.attach (mirrors : Mirrors me state ledger)
    (stepped : state.step me .attach = some after) :
    Mirrors me after (ledger.note me state .attach after) := by
  have delivers := mirrors.delivers.step stepped
  have sound := (State.step_ring mirrors.sound stepped).1
  simp only [State.step] at stepped
  split at stepped
  · rcases State.attach_cases stepped with ⟨past, rfl⟩
    constructor
    case sound => exact sound
    case inside =>
      dsimp only
      rw [BroadcastRing.State.setReader_self]
      change geometry.oldest state.ring.core.writePos ≤ state.ring.core.writePos
      unfold BroadcastRing.Geometry.oldest
      split <;> omega
    case delivers => exact delivers
    case counted => rfl
    case answer =>
      dsimp only
      rw [BroadcastRing.State.setReader_self]
      intro impossible
      cases impossible
    case current =>
      intro _ _ impossible
      cases impossible
    case untouched =>
      intro _
      refine ⟨rfl, rfl, fun _ => ?_⟩
      dsimp only
      rw [BroadcastRing.State.setReader_self]
      rfl
  · cases stepped

theorem Mirrors.resume (mirrors : Mirrors me state ledger)
    (stepped : state.step me .resume = some after) :
    Mirrors me after (ledger.note me state .resume after) := by
  have delivers : after.Delivers me (ledger.note me state .resume after).delivered :=
    mirrors.delivers.step stepped
  rcases Option.bind_eq_some_iff.mp stepped with ⟨move, found, moved⟩
  have chosen := found
  unfold State.next at chosen
  split at chosen
  case h_2 => cases chosen
  rename_i outcome done
  rcases resume_counts chosen with ⟨out, rfl⟩ | ⟨rfl, rfl⟩ | ⟨answer, outside, rfl⟩ |
    ⟨request, phase, inside, rfl⟩
  · -- both reads end with `publish_stats`
    cases moved
    rw [ledger.note_pop found] at delivers ⊢
    constructor
    case sound => exact mirrors.sound
    case inside => exact mirrors.inside
    case delivers => exact delivers
    case counted =>
      rw [List.length_append, UInt64.ofNat_add, ← mirrors.counted]
      rfl
    case answer => exact mirrors.answer
    case current => exact fun _ _ _ => ⟨rfl, rfl⟩
    case untouched =>
      intro impossible
      cases impossible
  · -- the ring was closed, and nothing is copied
    cases moved
    have closed := mirrors.answer done
    rw [ledger.note_pop found, List.append_nil] at delivers ⊢
    constructor
    case sound => exact mirrors.sound
    case inside => exact mirrors.inside
    case delivers => exact delivers
    case counted => exact mirrors.counted
    case answer => exact mirrors.answer
    case current => exact fun isOpen => absurd (closed.symm.trans isOpen) (by decide)
    case untouched =>
      intro impossible
      cases impossible
  · cases moved
    rw [ledger.note_closed found] at delivers ⊢
    constructor
    case sound => exact mirrors.sound
    case inside => exact mirrors.inside
    case delivers => exact delivers
    case counted => exact mirrors.counted
    case answer => exact mirrors.answer
    case current => exact fun isOpen _ => mirrors.current isOpen outside
    case untouched =>
      intro unpopped
      rcases mirrors.untouched unpopped with ⟨missed, position, fresh⟩
      exact ⟨missed, position, fun _ => fresh outside⟩
  · rw [ledger.note_call found] at delivers ⊢
    exact mirrors.call (fun leaves => absurd (inside.symm.trans leaves) (by decide)) delivers moved

theorem Mirrors.step (mirrors : Mirrors me state ledger) {label : Label Producer ReaderId}
    (stepped : state.step me label = some after) :
    Mirrors me after (ledger.note me state label after) := by
  cases label with
  | ring label => exact mirrors.ring stepped
  | attach => exact mirrors.attach stepped
  | pop size =>
      have delivers := mirrors.delivers.step stepped
      simp only [State.step] at stepped
      split at stepped
      · refine mirrors.call ?_ delivers stepped
        intro impossible
        cases impossible
      · cases stepped
  | closed =>
      have delivers := mirrors.delivers.step stepped
      simp only [State.step] at stepped
      split at stepped
      · rename_i idle
        exact mirrors.call (fun _ => by rw [idle]; rfl) delivers stepped
      · cases stepped
  | resume => exact mirrors.resume stepped

theorem mirrors_of_reachable {run : State geometry Producer ReaderId × FeedLedger}
    (reached : ((system geometry Producer ReaderId me).observed {} (FeedLedger.note me)).Reachable
      run) : Mirrors me run.1 run.2 := by
  apply reached.invariant (fun run => Mirrors me run.1 run.2)
  · intro run initial
    rcases run with ⟨state, ledger⟩
    rcases initial with ⟨rfl, rfl⟩
    exact empty_mirrors me
  · intro run label after _ _ mirrors stepped
    rcases Option.map_eq_some_iff.mp stepped with ⟨state, moved, rfl⟩
    exact mirrors.step moved

/-! ### The statistics -/

theorem Settled.describes_iff (settled : Settled me state) (stats : FeedStats) (ingested : Nat) :
    stats.Describes (Drains me state) ingested ↔
      stats.backlog ≤ stats.capacity ∧ stats.backlog = state.readable me ∧
        stats.delivered + stats.dropped + UInt64.ofNat stats.backlog = UInt64.ofNat ingested ∧
        (ingested < 2 ^ 64 →
          stats.delivered.toNat + stats.dropped.toNat + stats.backlog = ingested) := by
  constructor
  · rintro ⟨fits, ⟨frames, drains⟩, backlog, total, inRange⟩
    exact ⟨fits, (backlog frames drains).symm.trans (drains.length_eq settled), total, inRange⟩
  · rintro ⟨fits, backlog, total, inRange⟩
    exact ⟨fits, settled.drains, fun frames drains =>
      (drains.length_eq settled).trans backlog.symm, total, inRange⟩

/-- The copies tell where the cursor is, and the ring has not come round to it. -/
def State.Told (me : ReaderId) (state : State geometry Producer ReaderId) (ledger : FeedLedger) :
    Prop :=
  ((state.ring.readers me).start = 0 ∨ ledger.popped = true) ∧
    state.ring.core.writePos ≤ (state.ring.readers me).cursor.next + geometry.capacity

theorem Mirrors.describes_iff (mirrors : Mirrors me state ledger)
    (quiescent : Quiescent me state) :
    (state.feed.stats state.ring).Describes (Drains me state)
        (state.ring.core.issued.length - (state.ring.readers me).start) ↔
      state.Told me ledger := by
  have settled : Settled me state := ⟨quiescent, mirrors.sound, mirrors.inside⟩
  have inside := mirrors.inside
  have next := mirrors.next_eq quiescent
  have outside : state.feed.phase.outside = true := by
    rw [quiescent.place]
    rfl
  have limit : state.ring.core.writePos < 2 ^ 63 := mirrors.sound.limit
  have width : UInt64.size = 2 ^ 64 := rfl
  have backlog := state.feed.backlog_stats mirrors.sound
  rw [settled.describes_iff, mirrors.sound.core.tickets.counted, State.readable, Core.readFrom,
    State.Told]
  cases popped : ledger.popped with
  | true =>
      rcases mirrors.current quiescent.isOpen outside popped with ⟨missed, position⟩
      rw [position, UInt64.toNat_ofNat_of_lt' (by omega)] at backlog
      rw [FeedStats.adds_up_iff mirrors.counted missed (by omega) (by omega) (by omega), backlog]
      simp only [or_true, true_and]
      change _ ≤ geometry.capacity ∧ _ ↔ _
      omega
  | false =>
      rcases mirrors.untouched popped with ⟨missed, position, fresh⟩
      have replayed := (mirrors.sound.readers me).replayed
      rw [fresh outside] at replayed
      have cursor := Option.some.inj replayed
      rw [← cursor] at inside next ⊢
      dsimp only at inside next ⊢
      rw [position] at backlog
      change _ = state.ring.core.writePos - 0 at backlog
      have none : (state.feed.stats state.ring).dropped = UInt64.ofNat 0 := missed
      rw [FeedStats.adds_up_iff mirrors.counted none (by omega) (by omega) (by omega), backlog]
      simp only [Bool.false_eq_true, or_false]
      change _ ≤ geometry.capacity ∧ _ ↔ _
      omega

/-- The statistics of a queue always describe it. Those of a ring feed do at
exactly the quiescent points at which the copies tell where the cursor is and the
ring has not come round to it since; the ring gives out fewer than `2 ^ 63`
tickets, as everywhere. -/
theorem feeds_describe_iff (me : ReaderId) :
    (∀ capacity queue ingested, QueueFeed.Reached capacity queue ingested →
      (QueueFeed.stats queue).Describes (QueueFeed.Drains queue) ingested) ∧
    (∀ (state : State geometry Producer ReaderId) ledger,
      ((system geometry Producer ReaderId me).observed {} (FeedLedger.note me)).Reachable
        (state, ledger) →
      Quiescent me state →
      ((state.feed.stats state.ring).Describes (Drains me state)
          (state.ring.core.issued.length - (state.ring.readers me).start) ↔
        state.Told me ledger)) :=
  ⟨fun _ _ _ reached => reached.describes, fun _ _ reached quiescent =>
    (mirrors_of_reachable reached).describes_iff quiescent⟩

end

def lateAttach : List (Label Unit Unit) :=
  .ring (.publishBatch () [Frame.zero, Frame.zero, Frame.zero]) ::
    (List.replicate 22 (.ring (.producer () false)) ++ [.attach])

/-- It pops the two frames that are left. -/
def lateAttachAndPop : List (Label Unit Unit) :=
  lateAttach ++ .pop 8 :: (List.replicate 15 (.ring (.reader ())) ++ [.resume])

theorem feeds_describe_iff_lateAttachAndPop :
    ∃ state ledger, ((system .smallest Unit Unit ()).observed {} (FeedLedger.note ())).run
        (.empty, {}) lateAttachAndPop = some (state, ledger) ∧
      state.feed.stats state.ring = ⟨2, 0, 0, 2⟩ ∧
      (state.feed.stats state.ring).Describes (Drains () state)
        (state.ring.core.issued.length - (state.ring.readers ()).start) := by
  have begun : ((system .smallest Unit Unit ()).observed {} (FeedLedger.note ())).Reachable
      (.empty, {}) := .start ⟨rfl, rfl⟩
  have ran : ((system .smallest Unit Unit ()).observed {} (FeedLedger.note ())).run
      (.empty, {}) lateAttachAndPop = some _ := rfl
  refine ⟨_, _, ran, rfl, ((feeds_describe_iff ()).2 _ _ (begun.execute lateAttachAndPop ran)
    ⟨fun _ => rfl, rfl, rfl, rfl, rfl⟩).mpr ⟨.inr rfl, ?_⟩⟩
  decide

/-- Before its first pop the feed reports three frames in a ring of two. -/
theorem backlog_past_capacity :
    ¬ ∀ (state : State .smallest Unit Unit) ledger,
      ((system .smallest Unit Unit ()).observed {} (FeedLedger.note ())).Reachable
        (state, ledger) →
      Quiescent () state →
      (state.feed.stats state.ring).Describes (Drains () state)
        (state.ring.core.issued.length - (state.ring.readers ()).start) := by
  intro holds
  have begun : ((system .smallest Unit Unit ()).observed {} (FeedLedger.note ())).Reachable
      (.empty, {}) := .start ⟨rfl, rfl⟩
  have ran : ((system .smallest Unit Unit ()).observed {} (FeedLedger.note ())).run
      (.empty, {}) lateAttach = some _ := rfl
  have described := holds _ _ (begun.execute lateAttach ran) ⟨fun _ => rfl, rfl, rfl, rfl, rfl⟩
  exact absurd described.fits (by decide)

end RingConsumer

end TelemetryGateway
