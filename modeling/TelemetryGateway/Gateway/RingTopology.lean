import TelemetryGateway.Egress.Continuity
import TelemetryGateway.Feed.RingFeed

/-! # An egress thread behind a ring

The producers and the other readers of the ring move between any two steps of
the thread, also while it is inside `read_batch`. -/

namespace TelemetryGateway.RingTopology

structure State (geometry : BroadcastRing.Geometry) (Producer ReaderId : Type) where
  ring : BroadcastRing.State geometry Producer ReaderId
  feed : RingFeed
  egress : Egress.State

inductive Label (Producer ReaderId : Type)
  /-- a producer, a reader inside a call of the ring, or `close` -/
  | ring (label : BroadcastRing.Label Producer ReaderId)
  /-- the thread calls `pop_batch` -/
  | pop
  /-- the thread calls `closed` -/
  | closed
  /-- the feed goes on with what the ring returned -/
  | resume
  | egress (event : Egress.Event)

section

variable {geometry : BroadcastRing.Geometry} {Producer ReaderId : Type} [DecidableEq Producer]
  [DecidableEq ReaderId]

namespace State

def call (me : ReaderId) (state : State geometry Producer ReaderId)
    (request : BroadcastRing.Request) (feed : RingFeed) :
    Option (State geometry Producer ReaderId) :=
  (state.ring.call me request).map fun ring => { state with ring := ring, feed := feed }

def move (me : ReaderId) (state : State geometry Producer ReaderId) :
    RingFeed.Move → Option (State geometry Producer ReaderId)
  | .call request feed => state.call me request feed
  | .answer event feed =>
      (state.egress.step event).map fun egress => { state with egress := egress, feed := feed }

def step (me : ReaderId) (state : State geometry Producer ReaderId) :
    Label Producer ReaderId → Option (State geometry Producer ReaderId)
  | .ring label =>
      if label.calls me = true ∨ ¬ label.Bus then none
      else (state.ring.step label).map fun ring => { state with ring := ring }
  | .pop =>
      match state.feed.phase, state.egress.requested with
      | .idle, some size =>
          state.call me (.readBatch size) { state.feed with phase := .firstRead size }
      | _, _ => none
  | .closed =>
      if state.feed.phase = .idle ∧ state.egress.phase = .testClosed then
        state.call me .closed { state.feed with phase := .closed }
      else none
  | .resume =>
      match (state.ring.readers me).phase with
      | .done outcome =>
          (state.feed.resume (state.ring.readers me).cursor outcome).bind (state.move me)
      | _ => none
  | .egress event =>
      if event.fromFeed then none
      else (state.egress.step event).map fun egress => { state with egress := egress }

end State

/-- The thread of a consumer whose feed was attached at any moment of the life
of a ring that carries bus frames. -/
def system (geometry : BroadcastRing.Geometry) (Producer : Type) {ReaderId : Type}
    [DecidableEq Producer] [DecidableEq ReaderId] (me : ReaderId) (tuning : Tuning) :
    System (State geometry Producer ReaderId) (Label Producer ReaderId) where
  initial := fun state => ∃ listenFd stopFd egress,
    Egress.create tuning (.ok listenFd) (.ok stopFd) = .ok egress ∧
    (BroadcastRing.system geometry Producer ReaderId).ReachableUnder (fun _ label => label.Bus)
      state.ring ∧
    (state.ring.readers me).phase = .done .attached ∧ state.feed = {} ∧
    state.egress = .initial egress
  step := State.step me

end

namespace State

inductive Step [DecidableEq Producer] [DecidableEq ReaderId] (me : ReaderId)
    (state : State geometry Producer ReaderId) :
    Label Producer ReaderId → State geometry Producer ReaderId → Prop
  | ring (label : BroadcastRing.Label Producer ReaderId)
      (next : BroadcastRing.State geometry Producer ReaderId) (others : label.calls me = false)
      (bus : label.Bus) (moved : state.ring.step label = some next) :
      Step me state (.ring label) { state with ring := next }
  | firstRead (size : Nat) (idle : state.feed.phase = .idle)
      (requested : state.egress.requested = some size)
      (called : state.call me (.readBatch size) { state.feed with phase := .firstRead size } =
        some after) : Step me state .pop after
  | askClosed (idle : state.feed.phase = .idle) (testing : state.egress.phase = .testClosed)
      (called : state.call me .closed { state.feed with phase := .closed } = some after) :
      Step me state .closed after
  | testClosed (size missed : Nat) (reading : state.feed.phase = .firstRead size)
      (done : (state.ring.readers me).phase = .done (.readBatch [] missed))
      (called : state.call me .closed { state.feed with phase := .testClosed size } =
        some after) : Step me state .resume after
  | wait (size known : Nat) (asking : state.feed.phase = .testClosed size)
      (called : state.call me (.waitForData known) { state.feed with phase := .wait size } =
        some after) : Step me state .resume after
  | secondRead (size : Nat) (waiting : state.feed.phase = .wait size)
      (called : state.call me (.readBatch size) { state.feed with phase := .secondRead size } =
        some after) : Step me state .resume after
  | handOver (out : List Frame) (missed : Nat) (reading : state.feed.phase.reading = true)
      (done : (state.ring.readers me).phase = .done (.readBatch out missed)) (feed : RingFeed)
      (idle : feed.phase = .idle) (next : Egress.State)
      (popped : state.egress.step (.pop out) = some next) :
      Step me state .resume { state with egress := next, feed := feed }
  | giveUp (size : Nat) (asking : state.feed.phase = .testClosed size)
      (done : (state.ring.readers me).phase = .done (.closed true)) (next : Egress.State)
      (popped : state.egress.step (.pop []) = some next) :
      Step me state .resume
        { state with egress := next, feed := { state.feed with phase := .idle } }
  | answer (closed : Bool) (asking : state.feed.phase = .closed)
      (done : (state.ring.readers me).phase = .done (.closed closed)) (next : Egress.State)
      (answered : state.egress.step (.closed closed) = some next) :
      Step me state .resume
        { state with egress := next, feed := { state.feed with phase := .idle } }
  | egress (event : Egress.Event) (next : Egress.State) (own : event.fromFeed = false)
      (moved : state.egress.step event = some next) :
      Step me state (.egress event) { state with egress := next }

theorem step_cases [DecidableEq Producer] [DecidableEq ReaderId] {me : ReaderId}
    {state after : State geometry Producer ReaderId} {label : Label Producer ReaderId}
    (stepped : state.step me label = some after) : state.Step me label after := by
  cases label with
  | ring label =>
      simp only [State.step] at stepped
      split at stepped
      · cases stepped
      · rename_i allowed
        rcases Option.map_eq_some_iff.mp stepped with ⟨ring, moved, rfl⟩
        rcases not_or.mp allowed with ⟨others, bus⟩
        exact .ring label ring (Bool.not_eq_true _ ▸ others) (Decidable.not_not.mp bus) moved
  | pop =>
      simp only [State.step] at stepped
      split at stepped
      · rename_i size idle requested
        exact .firstRead size idle requested stepped
      · cases stepped
  | closed =>
      simp only [State.step] at stepped
      split at stepped
      · rename_i idle
        exact .askClosed idle.1 idle.2 stepped
      · cases stepped
  | resume =>
      simp only [State.step] at stepped
      split at stepped
      · rename_i outcome done
        rcases Option.bind_eq_some_iff.mp stepped with ⟨move, resumed, moved⟩
        unfold RingFeed.resume at resumed
        split at resumed
        · rename_i size out missed reading
          split at resumed <;> cases resumed
          · rename_i empty
            subst empty
            exact .testClosed size missed reading done moved
          · rcases Option.map_eq_some_iff.mp moved with ⟨egress, popped, rfl⟩
            exact .handOver out missed (by rw [reading]; rfl) done _ rfl egress popped
        · rename_i size answer asking
          split at resumed <;> cases resumed
          · rename_i yes
            subst yes
            rcases Option.map_eq_some_iff.mp moved with ⟨egress, popped, rfl⟩
            exact .giveUp size asking done egress popped
          · exact .wait size _ asking moved
        · rename_i size woken waiting
          cases resumed
          exact .secondRead size waiting moved
        · rename_i size out missed reading
          cases resumed
          rcases Option.map_eq_some_iff.mp moved with ⟨egress, popped, rfl⟩
          exact .handOver out missed (by rw [reading]; rfl) done _ rfl egress popped
        · rename_i answer asking
          cases resumed
          rcases Option.map_eq_some_iff.mp moved with ⟨egress, answered, rfl⟩
          exact .answer answer asking done egress answered
        · cases resumed
      · cases stepped
  | egress event =>
      simp only [State.step] at stepped
      split at stepped
      · cases stepped
      · rename_i own
        rcases Option.map_eq_some_iff.mp stepped with ⟨egress, moved, rfl⟩
        exact .egress event egress (Bool.not_eq_true _ ▸ own) moved

/-- A frame is taken into a batch that already holds one only while the cursor
has missed nothing since the last one. -/
def BatchesWhole (me : ReaderId) (state : State geometry Producer ReaderId) :
    Label Producer ReaderId → Prop
  | .ring (.reader id) => id = me → ∀ reload ∈ (state.ring.readers id).phase.reloading,
      state.ring.core.seqAt (state.ring.readers id).cursor.next = reload.2 →
      state.egress.phase.batch ++ reload.1 ≠ [] →
      (state.ring.readers id).missedAtLast = some (state.ring.readers id).cursor.missed
  | _ => True

instance [DecidableEq ReaderId] (me : ReaderId) (state : State geometry Producer ReaderId)
    (label : Label Producer ReaderId) : Decidable (state.BatchesWhole me label) :=
  match label with
  | .ring (.reader _) => inferInstanceAs (Decidable (_ = _ → ∀ reload ∈ _, _ → _ → _))
  | .ring (.publish _ _) => .isTrue trivial
  | .ring (.publishBatch _ _) => .isTrue trivial
  | .ring (.producer _ _) => .isTrue trivial
  | .ring (.call _ _) => .isTrue trivial
  | .ring (.wakeup _ _) => .isTrue trivial
  | .ring .close => .isTrue trivial
  | .ring .closeNotify => .isTrue trivial
  | .pop => .isTrue trivial
  | .closed => .isTrue trivial
  | .resume => .isTrue trivial
  | .egress _ => .isTrue trivial

/-! ## The ring continues every batch -/

/-- What the feed holds while its reader is inside `read_batch`; otherwise the
reader takes nothing. -/
def Holding (phase : RingFeed.Phase) (reader : BroadcastRing.ReaderPhase)
    (out : List Frame) : Prop :=
  if phase.reading then reader.out? = some out else reader.settled = true ∧ out = []

theorem Holding.rest {phase : RingFeed.Phase} (notReading : phase.reading = false)
    {reader : BroadcastRing.ReaderPhase} (settled : reader.settled = true) :
    Holding phase reader [] := by
  rw [Holding, notReading]
  exact ⟨settled, rfl⟩

theorem Holding.read {phase : RingFeed.Phase} (reading : phase.reading = true)
    {reader : BroadcastRing.ReaderPhase} {out : List Frame} (running : reader.out? = some out) :
    Holding phase reader out := by
  rw [Holding, reading]
  exact running

theorem Holding.call [DecidableEq ReaderId]
    {ring after : BroadcastRing.State geometry Producer ReaderId} {me : ReaderId}
    {request : BroadcastRing.Request} {phase : RingFeed.Phase} (makes : phase.Makes request)
    (called : ring.call me request = some after) :
    Holding phase (after.readers me).phase [] ∧
      (after.readers me).takenFrames = (ring.readers me).takenFrames := by
  rcases BroadcastRing.State.call_out called with ⟨entered, reader, outcome⟩
  rw [reader]
  refine ⟨?_, rfl⟩
  cases request with
  | readBatch size => exact .read makes outcome
  | closed => exact .rest makes outcome
  | waitForData known => exact .rest makes outcome
  | tryRead => exact makes.elim
  | attach => exact makes.elim

structure Feeding (tuning : Tuning) (me : ReaderId) (state : State geometry Producer ReaderId) :
    Prop where
  reached : (Egress.system tuning).ReachableUnder Egress.State.ContiguousFeed state.egress
  sound : state.ring.Sound
  carries : state.ring.CarriesBus
  holding : ∃ out, Holding state.feed.phase (state.ring.readers me).phase out ∧
    (state.ring.readers me).takenFrames = state.egress.history.popped ++ out ∧
    Wire.Consecutive (state.egress.phase.batch ++ out)

theorem Feeding.continues {tuning : Tuning} {me : ReaderId}
    {state : State geometry Producer ReaderId} (feeding : state.Feeding tuning me)
    {out : List Frame}
    (taken : (state.ring.readers me).takenFrames = state.egress.history.popped ++ out)
    (consecutive : Wire.Consecutive (state.egress.phase.batch ++ out)) :
    state.egress.Continues out := by
  refine ⟨?_, taken ▸ feeding.sound.taken_increasing me, consecutive⟩
  intro frame member
  have found : frame ∈ (state.ring.readers me).takenFrames := by
    rw [taken]
    exact List.mem_append_right _ member
  exact feeding.sound.taken_ordinary feeding.carries found

theorem Feeding.answer {tuning : Tuning} {me : ReaderId}
    {state : State geometry Producer ReaderId} (feeding : state.Feeding tuning me)
    {event : Egress.Event} {egress : Egress.State} {feed : RingFeed}
    (taken : (state.ring.readers me).takenFrames =
      state.egress.history.popped ++ event.frames)
    (consecutive : Wire.Consecutive (state.egress.phase.batch ++ event.frames))
    (settled : (state.ring.readers me).phase.settled = true)
    (notReading : feed.phase.reading = false)
    (stepped : state.egress.step event = some egress) :
    ({ state with egress := egress, feed := feed } :
      State geometry Producer ReaderId).Feeding tuning me := by
  have contiguous : state.egress.ContiguousFeed event := by
    cases event with
    | pop frames => exact feeding.continues taken consecutive
    | _ => trivial
  have reached := feeding.reached.next contiguous stepped
  refine ⟨reached, feeding.sound, feeding.carries, [], .rest notReading settled, ?_, ?_⟩
  · rw [List.append_nil, Egress.State.popped_step stepped]
    exact taken
  · rw [List.append_nil]
    exact (Egress.State.continuing_of_reachable reached).numbered.consecutive

theorem Feeding.handed_over {tuning : Tuning} {me : ReaderId}
    {state : State geometry Producer ReaderId} (feeding : state.Feeding tuning me)
    (notReading : state.feed.phase.reading = false) :
    (state.ring.readers me).phase.settled = true ∧
      (state.ring.readers me).takenFrames = state.egress.history.popped := by
  rcases feeding.holding with ⟨out, holding, taken, _⟩
  rw [Holding, notReading] at holding
  rcases holding with ⟨settled, rfl⟩
  rw [List.append_nil] at taken
  exact ⟨settled, taken⟩

theorem Feeding.returned {tuning : Tuning} {me : ReaderId}
    {state : State geometry Producer ReaderId} (feeding : state.Feeding tuning me)
    (reading : state.feed.phase.reading = true) {out : List Frame} {missed : Nat}
    (done : (state.ring.readers me).phase = .done (.readBatch out missed)) :
    (state.ring.readers me).takenFrames = state.egress.history.popped ++ out ∧
      Wire.Consecutive (state.egress.phase.batch ++ out) := by
  rcases feeding.holding with ⟨held, holding, taken, consecutive⟩
  rw [Holding, reading, done] at holding
  cases holding
  exact ⟨taken, consecutive⟩

theorem Feeding.answer_nothing {tuning : Tuning} {me : ReaderId}
    {state : State geometry Producer ReaderId} (feeding : state.Feeding tuning me)
    (notReading : state.feed.phase.reading = false) {event : Egress.Event}
    (nothing : event.frames = []) {egress : Egress.State}
    (stepped : state.egress.step event = some egress) :
    ({ state with egress := egress, feed := { state.feed with phase := .idle } } :
      State geometry Producer ReaderId).Feeding tuning me := by
  rcases feeding.handed_over notReading with ⟨settled, taken⟩
  refine feeding.answer ?_ ?_ settled rfl stepped
  · rw [nothing, List.append_nil]
    exact taken
  · rw [nothing, List.append_nil]
    exact (Egress.State.continuing_of_reachable feeding.reached).numbered.consecutive

theorem Feeding.moveEgress {tuning : Tuning} {me : ReaderId}
    {state : State geometry Producer ReaderId} (feeding : state.Feeding tuning me)
    {event : Egress.Event} {egress : Egress.State} (notPop : ∀ frames, event ≠ .pop frames)
    (stepped : state.egress.step event = some egress) :
    ({ state with egress := egress } : State geometry Producer ReaderId).Feeding tuning me := by
  rcases feeding.holding with ⟨out, holding, taken, consecutive⟩
  refine ⟨feeding.reached.next (.of_not_pop notPop) stepped, feeding.sound, feeding.carries, out,
    holding, ?_, ?_⟩
  · dsimp only
    rw [Egress.State.popped_step stepped, Egress.Event.frames_of_not_pop notPop, List.append_nil]
    exact taken
  · rcases Egress.State.batch_step notPop stepped with same | none
    · dsimp only
      rw [same]
      exact consecutive
    · dsimp only
      rw [none]
      exact (List.isChain_append.mp consecutive).2.1

theorem Feeding.take {tuning : Tuning} {me : ReaderId}
    {state : State geometry Producer ReaderId} (feeding : state.Feeding tuning me)
    {out : List Frame}
    (taken : (state.ring.readers me).takenFrames = state.egress.history.popped ++ out)
    (consecutive : Wire.Consecutive (state.egress.phase.batch ++ out)) {frame : Frame}
    (position : frame.seq.toNat = (state.ring.readers me).cursor.next)
    (whole : state.egress.phase.batch ++ out ≠ [] →
      (state.ring.readers me).missedAtLast = some (state.ring.readers me).cursor.missed) :
    Wire.Consecutive (state.egress.phase.batch ++ (out ++ [frame])) := by
  rw [← List.append_assoc]
  refine List.isChain_append.mpr ⟨consecutive, List.isChain_singleton _, ?_⟩
  intro last isLast next isNext
  rw [List.head?_singleton, Option.mem_some_iff] at isNext
  subst isNext
  have filled : state.egress.phase.batch ++ out ≠ [] := by
    intro empty
    rw [empty] at isLast
    cases isLast
  rcases Option.map_eq_some_iff.mp (whole filled) with ⟨⟨pos, latest, missed⟩, read, same⟩
  -- the last frame in hand is the last one the reader took
  have final : (state.ring.readers me).takenFrames.getLast? = some last := by
    rcases (Egress.State.continuing_of_reachable feeding.reached).numbered.noted with
      ⟨noted, popped, _⟩
    rw [taken, popped, List.append_assoc, List.getLast?_append, Option.mem_def.mp isLast]
    rfl
  rw [BroadcastRing.Reader.takenFrames, List.getLast?_map, read] at final
  cases final
  have moved := BroadcastRing.replay_last (feeding.sound.readers me).replayed read
  have seq := (feeding.sound.taken_position (List.mem_of_getLast? read)).1
  change missed = _ at same
  rw [position, seq]
  omega

end State

section

variable {geometry : BroadcastRing.Geometry} {Producer ReaderId : Type} [DecidableEq Producer]
  [DecidableEq ReaderId]

namespace State

theorem Feeding.call {tuning : Tuning} {me : ReaderId}
    {state after : State geometry Producer ReaderId} (feeding : state.Feeding tuning me)
    (taken : (state.ring.readers me).takenFrames = state.egress.history.popped)
    {request : BroadcastRing.Request} {feed : RingFeed}
    (makes : feed.phase.Makes request)
    (called : state.call me request feed = some after) : after.Feeding tuning me := by
  rcases Option.map_eq_some_iff.mp called with ⟨ring, moved, rfl⟩
  have stepped : state.ring.step (.call me request) = some ring := moved
  rcases Holding.call makes moved with ⟨holding, same⟩
  have bus : (BroadcastRing.Label.call me request : BroadcastRing.Label Producer ReaderId).Bus :=
    fun _ member => nomatch member
  refine ⟨feeding.reached, feeding.sound.step stepped, feeding.carries.step bus stepped, [],
    holding, ?_, ?_⟩
  · rw [List.append_nil]
    exact same.trans taken
  · rw [List.append_nil]
    exact (Egress.State.continuing_of_reachable feeding.reached).numbered.consecutive

/-- What a step of the ring means for the frames in hand: one more is taken, or
they stay as they are. -/
theorem Holding.ring {ring after : BroadcastRing.State geometry Producer ReaderId} {me : ReaderId}
    {phase : RingFeed.Phase} {out : List Frame}
    (holding : Holding phase (ring.readers me).phase out)
    {label : BroadcastRing.Label Producer ReaderId} (others : label.calls me = false)
    (stepped : ring.step label = some after) :
    ((after.readers me).taken = (ring.readers me).taken ∧
      Holding phase (after.readers me).phase out) ∨
    (∃ frame, label = .reader me ∧
      (ring.readers me).phase.reloading =
        some (out, ring.core.seqAt (ring.readers me).cursor.next) ∧
      (after.readers me).taken = (ring.readers me).taken ++
        [((ring.readers me).cursor.next, frame, (ring.readers me).cursor.missed)] ∧
      Holding phase (after.readers me).phase (out ++ [frame])) := by
  rcases BroadcastRing.State.step_reader stepped me with ⟨own, read⟩ | ⟨moved, reader, why⟩
  · unfold Holding at holding
    split at holding
    · rename_i reading
      rcases BroadcastRing.State.readStep_out read holding with ⟨same, running⟩ |
        ⟨frame, reloading, grown, running⟩
      · exact Or.inl ⟨same, .read reading running⟩
      · exact Or.inr ⟨frame, own, reloading, grown, .read reading running⟩
    · rw [BroadcastRing.State.readStep_settled holding.1] at read
      cases read
  · rw [reader]
    refine Or.inl ⟨rfl, ?_⟩
    rcases why with same | ⟨request, calling⟩ | ⟨parked, settled⟩
    · dsimp only
      rw [same]
      exact holding
    · subst calling
      simp [BroadcastRing.Label.calls] at others
    · unfold Holding at holding
      split at holding
      · rw [BroadcastRing.ReaderPhase.out_of_parked parked] at holding
        cases holding
      · rename_i notReading
        rw [holding.2]
        exact .rest (Bool.not_eq_true _ ▸ notReading) settled

theorem Feeding.ring {tuning : Tuning} {me : ReaderId}
    {state : State geometry Producer ReaderId} (feeding : state.Feeding tuning me)
    {label : BroadcastRing.Label Producer ReaderId} (whole : state.BatchesWhole me (.ring label))
    (others : label.calls me = false) (bus : label.Bus)
    {ring : BroadcastRing.State geometry Producer ReaderId}
    (stepped : state.ring.step label = some ring) :
    ({ state with ring := ring } : State geometry Producer ReaderId).Feeding tuning me := by
  have sound := feeding.sound.step stepped
  have carries := feeding.carries.step bus stepped
  rcases feeding.holding with ⟨out, holding, taken, consecutive⟩
  rcases holding.ring others stepped with ⟨same, held⟩ | ⟨frame, own, reloading, grown, held⟩
  · refine ⟨feeding.reached, sound, carries, out, held, ?_, consecutive⟩
    rw [BroadcastRing.Reader.takenFrames, same]
    exact taken
  · subst own
    have found : ((state.ring.readers me).cursor.next, frame,
        (state.ring.readers me).cursor.missed) ∈ (ring.readers me).taken := by
      rw [grown]
      exact List.mem_append_right _ (List.mem_singleton.mpr rfl)
    have position := (sound.taken_position found).1
    refine ⟨feeding.reached, sound, carries, out ++ [frame], held, ?_,
      feeding.take taken consecutive position (whole rfl _ reloading rfl)⟩
    rw [BroadcastRing.Reader.takenFrames, grown, List.map_append, ← List.append_assoc, ← taken]
    rfl

theorem Feeding.step {tuning : Tuning} {me : ReaderId}
    {state after : State geometry Producer ReaderId} (feeding : state.Feeding tuning me)
    {label : Label Producer ReaderId} (whole : state.BatchesWhole me label)
    (stepped : state.step me label = some after) : after.Feeding tuning me := by
  cases step_cases stepped with
  | ring label next others bus moved => exact feeding.ring whole others bus moved
  | firstRead size idle requested called =>
      exact feeding.call (feeding.handed_over (by rw [idle]; rfl)).2 rfl called
  | askClosed idle testing called =>
      exact feeding.call (feeding.handed_over (by rw [idle]; rfl)).2 rfl called
  | testClosed size missed reading done called =>
      have taken := (feeding.returned (by rw [reading]; rfl) done).1
      rw [List.append_nil] at taken
      exact feeding.call taken rfl called
  | wait size known asking called =>
      exact feeding.call (feeding.handed_over (by rw [asking]; rfl)).2 rfl called
  | secondRead size waiting called =>
      exact feeding.call (feeding.handed_over (by rw [waiting]; rfl)).2 rfl called
  | handOver out missed reading done feed idle next popped =>
      rcases feeding.returned reading done with ⟨taken, joined⟩
      refine feeding.answer ?_ ?_ (by rw [done]; rfl) (by rw [idle]; rfl) popped
      · exact taken
      · exact joined
  | giveUp size asking done next popped =>
      exact feeding.answer_nothing (by rw [asking]; rfl) rfl popped
  | answer closed asking done next answered =>
      exact feeding.answer_nothing (by rw [asking]; rfl) rfl answered
  | egress event next own moved =>
      refine feeding.moveEgress ?_ moved
      rintro frames rfl
      cases own

theorem feeding_of_reachable {tuning : Tuning} {me : ReaderId}
    {state : State geometry Producer ReaderId}
    (reached : (system geometry Producer me tuning).ReachableUnder (BatchesWhole me) state) :
    state.Feeding tuning me := by
  refine reached.invariant (Feeding tuning me) ?_ ?_
  · intro state initial
    rcases initial with ⟨listenFd, stopFd, egress, created, ring, attached, feed, thread⟩
    have sound := BroadcastRing.State.sound_of_reachable ring
    have log := (sound.readers me).log_of_attached attached
    refine ⟨.start ⟨listenFd, stopFd, egress, created, thread⟩, sound,
      BroadcastRing.State.carriesBus_of_reachable ring, [], .rest ?_ ?_, ?_, ?_⟩
    · rw [feed]
      rfl
    · rw [attached]
      rfl
    · rw [BroadcastRing.Reader.takenFrames, BroadcastRing.Reader.taken, log, thread]
      rfl
    · rw [thread]
      exact List.IsChain.nil
  · intro state label after _ whole feeding stepped
    exact feeding.step whole stepped

end State

end

end TelemetryGateway.RingTopology
