import TelemetryGateway.Gateway.RingTopology

/-! # A feed on the ring

Whoever calls it, a feed hands out what its reader takes and nothing else. Here
its owner asks for batches of any size at any time, and the other users of the
ring move between any two steps. -/

namespace TelemetryGateway.RingConsumer

structure State (geometry : BroadcastRing.Geometry) (Producer ReaderId : Type) where
  ring : BroadcastRing.State geometry Producer ReaderId
  feed : RingFeed

inductive Label (Producer ReaderId : Type)
  /-- a producer, a reader inside a call of the ring, or `close` -/
  | ring (label : BroadcastRing.Label Producer ReaderId)
  /-- a feed is constructed -/
  | attach
  | pop (size : Nat)
  | closed
  /-- the feed goes on with what the ring returned -/
  | resume

def State.empty : State geometry Producer ReaderId where
  ring := BroadcastRing.State.empty fun _ => 0
  feed := {}

section

variable {geometry : BroadcastRing.Geometry} {Producer ReaderId : Type} [DecidableEq Producer]
  [DecidableEq ReaderId]

namespace State

def call (me : ReaderId) (state : State geometry Producer ReaderId)
    (request : BroadcastRing.Request) (feed : RingFeed) :
    Option (State geometry Producer ReaderId) :=
  (state.ring.call me request).map fun ring => { ring := ring, feed := feed }

def attach (me : ReaderId) (state : State geometry Producer ReaderId) :
    Option (State geometry Producer ReaderId) :=
  ((state.ring.call me .attach).bind fun ring => ring.readStep me).map fun ring =>
    { ring := ring, feed := {} }

def next (me : ReaderId) (state : State geometry Producer ReaderId) : Option RingFeed.Move :=
  match (state.ring.readers me).phase with
  | .done outcome => state.feed.resume (state.ring.readers me).cursor outcome
  | _ => none

def move (me : ReaderId) (state : State geometry Producer ReaderId) :
    RingFeed.Move → Option (State geometry Producer ReaderId)
  | .call request feed => state.call me request feed
  | .answer _ feed => some { state with feed := feed }

def step (me : ReaderId) (state : State geometry Producer ReaderId) :
    Label Producer ReaderId → Option (State geometry Producer ReaderId)
  | .ring label =>
      if label.calls me then none
      else (state.ring.step label).map fun ring => { state with ring := ring }
  | .attach => if state.feed.phase = .idle then state.attach me else none
  | .pop size =>
      if state.feed.phase = .idle then
        state.call me (.readBatch size) { state.feed with phase := .firstRead size }
      else none
  | .closed =>
      if state.feed.phase = .idle then
        state.call me .closed { state.feed with phase := .closed }
      else none
  | .resume => (state.next me).bind (state.move me)

end State

end

/-! ## What the feed has delivered -/

/-- The frames a step returns to the owner of the feed. -/
def State.returned (me : ReaderId) (state : State geometry Producer ReaderId) : List Frame :=
  match state.next me with
  | some (.answer event _) => event.frames
  | _ => []

/-- The frames the feed has returned since it was constructed. -/
def deliver (me : ReaderId) (delivered : List Frame) (before : State geometry Producer ReaderId) :
    Label Producer ReaderId → List Frame
  | .attach => []
  | .resume => delivered ++ before.returned me
  | _ => delivered

/-- The reader of the feed has taken what was delivered and what is in hand. -/
def State.Delivers (me : ReaderId) (state : State geometry Producer ReaderId)
    (delivered : List Frame) : Prop :=
  ∃ out, RingTopology.State.Holding state.feed.phase (state.ring.readers me).phase out ∧
    (state.ring.readers me).takenFrames = delivered ++ out

theorem empty_delivers (me : ReaderId) :
    (State.empty : State geometry Producer ReaderId).Delivers me [] :=
  ⟨[], .rest rfl rfl, rfl⟩

theorem State.attach_cases [DecidableEq ReaderId] {me : ReaderId}
    {state after : State geometry Producer ReaderId} (attached : state.attach me = some after) :
    ∃ past, after = {
      ring := (state.ring.setPhase me .attach).setReader me
        { BroadcastRing.Reader.fresh (geometry.oldest state.ring.core.writePos) with
          phase := .done .attached
          past := past }
      feed := {} } := by
  rcases Option.map_eq_some_iff.mp attached with ⟨ring, stepped, rfl⟩
  rcases Option.bind_eq_some_iff.mp stepped with ⟨called, calling, read⟩
  rcases BroadcastRing.State.call_cases calling with ⟨_, rfl⟩
  have phase : ((state.ring.setPhase me .attach).readers me).phase = .attach := by
    rw [BroadcastRing.State.setPhase, BroadcastRing.State.setReader_self]
  simp only [BroadcastRing.Request.entry, BroadcastRing.State.readStep, phase,
    Option.some.injEq] at read
  subst read
  exact ⟨_, rfl⟩

namespace State.Delivers

theorem ring [DecidableEq Producer] [DecidableEq ReaderId] {me : ReaderId}
    {state : State geometry Producer ReaderId} {delivered : List Frame}
    (delivers : state.Delivers me delivered) {label : BroadcastRing.Label Producer ReaderId}
    (others : label.calls me = false) {ring : BroadcastRing.State geometry Producer ReaderId}
    (stepped : state.ring.step label = some ring) :
    ({ state with ring := ring } : State geometry Producer ReaderId).Delivers me delivered := by
  rcases delivers with ⟨out, holding, taken⟩
  rcases holding.ring others stepped with ⟨same, held⟩ | ⟨frame, _, _, grown, held⟩
  · refine ⟨out, held, ?_⟩
    rw [BroadcastRing.Reader.takenFrames, same]
    exact taken
  · refine ⟨out ++ [frame], held, ?_⟩
    rw [BroadcastRing.Reader.takenFrames, grown, List.map_append, ← List.append_assoc, ← taken]
    rfl

theorem handed_over {me : ReaderId} {state : State geometry Producer ReaderId}
    {delivered : List Frame} (delivers : state.Delivers me delivered)
    (notReading : state.feed.phase.reading = false) :
    (state.ring.readers me).phase.settled = true ∧
      (state.ring.readers me).takenFrames = delivered := by
  rcases delivers with ⟨out, holding, taken⟩
  rw [RingTopology.State.Holding, notReading] at holding
  rcases holding with ⟨settled, rfl⟩
  rw [List.append_nil] at taken
  exact ⟨settled, taken⟩

theorem call [DecidableEq ReaderId] {me : ReaderId} {state after : State geometry Producer ReaderId}
    {delivered : List Frame} (taken : (state.ring.readers me).takenFrames = delivered)
    {request : BroadcastRing.Request} {feed : RingFeed}
    (makes : feed.phase.Makes request)
    (called : state.call me request feed = some after) : after.Delivers me delivered := by
  rcases Option.map_eq_some_iff.mp called with ⟨ring, moved, rfl⟩
  rcases RingTopology.State.Holding.call makes moved with ⟨holding, same⟩
  refine ⟨[], holding, ?_⟩
  rw [List.append_nil]
  exact same.trans taken

theorem attach [DecidableEq ReaderId] {me : ReaderId} {state after : State geometry Producer ReaderId}
    (attached : state.attach me = some after) : after.Delivers me [] := by
  rcases attach_cases attached with ⟨past, rfl⟩
  refine ⟨[], ?_, ?_⟩
  · dsimp only
    rw [BroadcastRing.State.setReader_self]
    exact .rest rfl rfl
  · dsimp only
    rw [BroadcastRing.State.setReader_self]
    rfl

theorem resume [DecidableEq ReaderId] {me : ReaderId}
    {state after : State geometry Producer ReaderId}
    {delivered : List Frame} (delivers : state.Delivers me delivered)
    (resumed : (state.next me).bind (state.move me) = some after) :
    after.Delivers me (delivered ++ state.returned me) := by
  rcases Option.bind_eq_some_iff.mp resumed with ⟨move, chosen, moved⟩
  rw [State.returned, chosen]
  unfold State.next at chosen
  split at chosen
  · rename_i outcome done
    have settled : (state.ring.readers me).phase.settled = true := by
      rw [done]
      rfl
    rcases RingFeed.resume_cases chosen with ⟨out, missed, feed, reading, rfl, notReading, rfl⟩ |
      ⟨event, feed, before, nothing, notReading, rfl⟩ |
      ⟨missed, feed, reading, rfl, notReading, rfl⟩ | ⟨known, feed, before, notReading, rfl⟩ |
      ⟨size, feed, before, reading, rfl⟩
    · cases moved
      rcases delivers with ⟨held, holding, taken⟩
      rw [RingTopology.State.Holding, reading, done] at holding
      cases holding
      exact ⟨[], .rest notReading settled, taken.trans (List.append_nil _).symm⟩
    · cases moved
      dsimp only
      rw [nothing, List.append_nil]
      exact ⟨[], .rest notReading settled,
        (delivers.handed_over before).2.trans (List.append_nil _).symm⟩
    · rcases delivers with ⟨held, holding, taken⟩
      rw [RingTopology.State.Holding, reading, done] at holding
      cases holding
      dsimp only
      rw [List.append_nil] at taken ⊢
      exact call taken notReading moved
    · dsimp only
      rw [List.append_nil]
      exact call (delivers.handed_over before).2 notReading moved
    · dsimp only
      rw [List.append_nil]
      exact call (delivers.handed_over before).2 reading moved
  · cases chosen

theorem step [DecidableEq Producer] [DecidableEq ReaderId] {me : ReaderId}
    {state after : State geometry Producer ReaderId}
    {delivered : List Frame} (delivers : state.Delivers me delivered)
    {label : Label Producer ReaderId} (stepped : state.step me label = some after) :
    after.Delivers me (deliver me delivered state label) := by
  cases label with
  | ring label =>
      simp only [State.step] at stepped
      split at stepped
      · cases stepped
      · rename_i others
        rcases Option.map_eq_some_iff.mp stepped with ⟨ring, moved, rfl⟩
        exact delivers.ring (Bool.not_eq_true _ ▸ others) moved
  | attach =>
      simp only [State.step] at stepped
      split at stepped
      · exact attach stepped
      · cases stepped
  | pop size =>
      simp only [State.step] at stepped
      split at stepped
      · rename_i idle
        exact call (delivers.handed_over (by rw [idle]; rfl)).2 rfl stepped
      · cases stepped
  | closed =>
      simp only [State.step] at stepped
      split at stepped
      · rename_i idle
        exact call (delivers.handed_over (by rw [idle]; rfl)).2 rfl stepped
      · cases stepped
  | resume => exact delivers.resume stepped

end State.Delivers

/-! ## What the ring sees -/

def Label.issues : Label Producer ReaderId → List (Producer × Frame)
  | .ring label => label.issues
  | _ => []

/-- The producer that calls `publish` or `publish_batch`. -/
def Label.caller? : Label Producer ReaderId → Option Producer
  | .ring label => label.caller?
  | _ => none

namespace State

theorem call_ring [DecidableEq Producer] [DecidableEq ReaderId] {me : ReaderId}
    {state after : State geometry Producer ReaderId} {request : BroadcastRing.Request}
    {feed : RingFeed} (called : state.call me request feed = some after) :
    after.ring.core = state.ring.core ∧ (state.ring.Sound → after.ring.Sound) := by
  rcases Option.map_eq_some_iff.mp called with ⟨ring, moved, rfl⟩
  have stepped : state.ring.step (.call me request) = some ring := moved
  exact ⟨BroadcastRing.State.step_core stepped rfl, fun sound => sound.step stepped⟩

theorem attach_ring [DecidableEq Producer] [DecidableEq ReaderId] {me : ReaderId}
    {state after : State geometry Producer ReaderId} (attached : state.attach me = some after) :
    after.ring.core = state.ring.core ∧ (state.ring.Sound → after.ring.Sound) := by
  rcases Option.map_eq_some_iff.mp attached with ⟨ring, moved, rfl⟩
  rcases Option.bind_eq_some_iff.mp moved with ⟨called, calling, read⟩
  have call : state.ring.step (.call me .attach) = some called := calling
  have load : called.step (.reader me) = some ring := by
    simp only [BroadcastRing.State.step, read]
  refine ⟨?_, fun sound => (sound.step call).step load⟩
  exact (BroadcastRing.State.step_core load rfl).trans (BroadcastRing.State.step_core call rfl)

theorem step_own [DecidableEq Producer] [DecidableEq ReaderId] {me : ReaderId}
    {state after : State geometry Producer ReaderId} {label : Label Producer ReaderId}
    (own : ∀ other, label ≠ .ring other) (stepped : state.step me label = some after) :
    after.ring.core = state.ring.core ∧ (state.ring.Sound → after.ring.Sound) := by
  cases label with
  | ring label => exact absurd rfl (own label)
  | attach =>
      simp only [State.step] at stepped
      split at stepped
      · exact attach_ring stepped
      · cases stepped
  | pop size =>
      simp only [State.step] at stepped
      split at stepped
      · exact call_ring stepped
      · cases stepped
  | closed =>
      simp only [State.step] at stepped
      split at stepped
      · exact call_ring stepped
      · cases stepped
  | resume =>
      rcases Option.bind_eq_some_iff.mp stepped with ⟨move, _, moved⟩
      cases move with
      | call request feed => exact call_ring moved
      | answer event feed =>
          cases moved
          exact ⟨rfl, id⟩

theorem step_other [DecidableEq Producer] [DecidableEq ReaderId] {me : ReaderId}
    {state after : State geometry Producer ReaderId}
    {label : BroadcastRing.Label Producer ReaderId}
    (stepped : state.step me (.ring label) = some after) :
    state.ring.step label = some after.ring := by
  simp only [State.step] at stepped
  split at stepped
  · cases stepped
  · rcases Option.map_eq_some_iff.mp stepped with ⟨ring, moved, rfl⟩
    exact moved

/-- Every step of the feed is made of steps of the ring, and only the producers
take tickets. -/
theorem step_ring [DecidableEq Producer] [DecidableEq ReaderId] {me : ReaderId}
    {state after : State geometry Producer ReaderId} (sound : state.ring.Sound)
    {label : Label Producer ReaderId} (stepped : state.step me label = some after) :
    after.ring.Sound ∧ after.ring.core.issued = state.ring.core.issued ++ label.issues := by
  cases label with
  | ring label =>
      have moved := step_other stepped
      exact ⟨sound.step moved, BroadcastRing.State.issued_step moved⟩
  | _ =>
      rcases step_own (fun _ impossible => by cases impossible) stepped with ⟨core, keeps⟩
      rw [core]
      exact ⟨keeps sound, (List.append_nil _).symm⟩

theorem step_idle [DecidableEq Producer] [DecidableEq ReaderId] {me : ReaderId}
    {state after : State geometry Producer ReaderId} {label : Label Producer ReaderId}
    (stepped : state.step me label = some after) {producer : Producer}
    (idle : state.ring.core.producers producer = .idle)
    (quiet : label.caller? ≠ some producer) : after.ring.core.producers producer = .idle := by
  cases label with
  | ring label => exact BroadcastRing.State.step_idle (step_other stepped) idle quiet
  | _ =>
      rw [(step_own (fun _ impossible => by cases impossible) stepped).1]
      exact idle

end State

end TelemetryGateway.RingConsumer
