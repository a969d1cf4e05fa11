import TelemetryGateway.Egress.Willing
import TelemetryGateway.Feed.RingClosing
import TelemetryGateway.Gateway.RingConsumer

/-! # Stopping an egress thread behind a ring

`stop` closes the ring once the ingest has finished. The thread leaves when
`read_batch` came back with nothing and the ring is closed afterwards; between
the two the producers may have moved. -/

namespace TelemetryGateway.RingTopology.Shutdown

def requested : RingFeed.Phase → Option Nat
  | .firstRead size => some size
  | .testClosed size => some size
  | .wait size => some size
  | .secondRead size => some size
  | _ => none

structure Engaged (feed : RingFeed.Phase) (egress : Egress.State) : Prop where
  popping : ∀ size, requested feed = some size → egress.requested = some size
  testing : feed = .closed → egress.phase = .testClosed

theorem Engaged.idle (egress : Egress.State) : Engaged .idle egress :=
  ⟨nofun, nofun⟩

theorem Engaged.pop {feed : RingFeed.Phase} {egress : Egress.State} {size : Nat}
    (asked : requested feed = some size) (popping : egress.requested = some size) :
    Engaged feed egress := by
  refine ⟨fun other same => ?_, ?_⟩
  · rw [popping, ← asked, same]
  · rintro rfl
    cases asked

theorem Engaged.test {egress : Egress.State} (testing : egress.phase = .testClosed) :
    Engaged .closed egress :=
  ⟨nofun, fun _ => testing⟩

theorem Engaged.awaits {feed : RingFeed.Phase} {egress : Egress.State}
    (engaged : Engaged feed egress) (busy : feed ≠ .idle) : egress.phase.awaits = true := by
  have popping {size : Nat} (asked : egress.requested = some size) :
      egress.phase.awaits = true := by
    unfold Egress.State.requested at asked
    split at asked
    · rename_i popping
      rw [popping]
      rfl
    · rename_i popping
      rw [popping]
      rfl
    · cases asked
  cases feed with
  | idle => exact absurd rfl busy
  | firstRead size => exact popping (engaged.popping size rfl)
  | testClosed size => exact popping (engaged.popping size rfl)
  | wait size => exact popping (engaged.popping size rfl)
  | secondRead size => exact popping (engaged.popping size rfl)
  | closed =>
      rw [engaged.testing rfl]
      rfl

theorem Engaged.idle_of_returned {feed : RingFeed.Phase} {egress : Egress.State}
    (engaged : Engaged feed egress) (returned : egress.phase = .returned) : feed = .idle := by
  by_contra busy
  have awaits := engaged.awaits busy
  rw [returned] at awaits
  cases awaits

theorem Engaged.move {feed : RingFeed.Phase} {egress next : Egress.State}
    (engaged : Engaged feed egress) {event : Egress.Event} (own : event.fromFeed = false)
    (stepped : egress.step event = some next) : Engaged feed next := by
  by_cases idle : feed = .idle
  · rw [idle]
    exact .idle next
  · rcases Egress.State.step_awaits (engaged.awaits idle) own stepped with ⟨_, rfl⟩
    exact ⟨engaged.popping, engaged.testing⟩

/-! ## The frames on their way -/

/-- What the ring has given out has been popped, but for what is in hand, and
the connection has been given what was popped. -/
structure Passing (tuning : Tuning) (me : ReaderId) (state : State geometry Producer ReaderId) :
    Prop where
  reached : (Egress.system tuning).Reachable state.egress
  forwarding : state.egress.Forwarding
  sound : state.ring.Sound
  carries : state.ring.CarriesBus
  accounted : (state.ring.readers me).Accounted state.ring.core
  delivers : RingConsumer.State.Delivers me ⟨state.ring, state.feed⟩ state.egress.history.popped
  engaged : Engaged state.feed.phase state.egress

theorem Passing.answer {tuning : Tuning} {me : ReaderId}
    {state : State geometry Producer ReaderId} (passing : Passing tuning me state)
    {event : Egress.Event} (willing : event.willing = true)
    (taken : (state.ring.readers me).takenFrames = state.egress.history.popped ++ event.frames)
    (settled : (state.ring.readers me).phase.settled = true) {feed : RingFeed}
    (idle : feed.phase = .idle) {next : Egress.State}
    (stepped : state.egress.step event = some next) :
    Passing tuning me { state with egress := next, feed := feed } := by
  have framed := Egress.State.framed_of_reachable passing.reached
  have bus : ∀ frame ∈ event.frames, Wire.isControl frame = false := by
    intro frame member
    have found : frame ∈ (state.ring.readers me).takenFrames := by
      rw [taken]
      exact List.mem_append_right _ member
    exact (passing.sound.taken_ordinary passing.carries found).1
  refine ⟨.next passing.reached trivial stepped, passing.forwarding.step framed willing bus stepped,
    passing.sound, passing.carries, passing.accounted, ⟨[], .rest ?_ settled, ?_⟩, ?_⟩
  · dsimp only
    rw [idle]
    rfl
  · rw [List.append_nil, Egress.State.popped_step stepped]
    exact taken
  · dsimp only
    rw [idle]
    exact .idle next

theorem Passing.moveEgress {tuning : Tuning} {me : ReaderId}
    {state : State geometry Producer ReaderId} (passing : Passing tuning me state)
    {event : Egress.Event} (willing : event.willing = true) (own : event.fromFeed = false)
    {next : Egress.State} (stepped : state.egress.step event = some next) :
    Passing tuning me { state with egress := next } := by
  have framed := Egress.State.framed_of_reachable passing.reached
  have notPop : ∀ frames, event ≠ .pop frames := by
    rintro frames rfl
    cases own
  have nothing := Egress.Event.frames_of_not_pop notPop
  have popped := Egress.State.popped_step stepped
  rw [nothing, List.append_nil] at popped
  refine ⟨.next passing.reached trivial stepped, ?_, passing.sound, passing.carries,
    passing.accounted, ?_, passing.engaged.move own stepped⟩
  · refine passing.forwarding.step framed willing ?_ stepped
    rw [nothing]
    exact fun _ member => nomatch member
  · dsimp only
    rw [popped]
    exact passing.delivers

section

variable {geometry : BroadcastRing.Geometry} {Producer ReaderId : Type} [DecidableEq Producer]
  [DecidableEq ReaderId]

theorem Passing.call {tuning : Tuning} {me : ReaderId}
    {state after : State geometry Producer ReaderId} (passing : Passing tuning me state)
    (taken : (state.ring.readers me).takenFrames = state.egress.history.popped)
    {request : BroadcastRing.Request} {feed : RingFeed}
    (makes : feed.phase.Makes request)
    (engaged : Engaged feed.phase state.egress)
    (called : state.call me request feed = some after) : Passing tuning me after := by
  rcases Option.map_eq_some_iff.mp called with ⟨ring, moved, rfl⟩
  have stepped : state.ring.step (.call me request) = some ring := moved
  have bus : (BroadcastRing.Label.call me request : BroadcastRing.Label Producer ReaderId).Bus :=
    fun _ member => nomatch member
  have touches := BroadcastRing.State.call_touches moved
  have reader : ring.readers me = { state.ring.readers me with
      phase := request.entry (state.ring.readers me).cursor.missed } := by
    rw [touches.readers, Function.update_self]
  have calls : RingConsumer.State.call me ⟨state.ring, state.feed⟩ request feed =
      some ⟨ring, feed⟩ := by
    rw [RingConsumer.State.call, moved]
    rfl
  refine ⟨passing.reached, passing.forwarding, passing.sound.step stepped,
    passing.carries.step bus stepped, ?_, RingConsumer.State.Delivers.call taken makes calls,
    engaged⟩
  dsimp only
  rw [reader, touches.core]
  exact passing.accounted

theorem Passing.ring {tuning : Tuning} {me : ReaderId}
    {state : State geometry Producer ReaderId} (passing : Passing tuning me state)
    {label : BroadcastRing.Label Producer ReaderId} (others : label.calls me = false)
    (bus : label.Bus) {ring : BroadcastRing.State geometry Producer ReaderId}
    (stepped : state.ring.step label = some ring) :
    Passing tuning me { state with ring := ring } :=
  ⟨passing.reached, passing.forwarding, passing.sound.step stepped,
    passing.carries.step bus stepped, passing.sound.accounted_step others stepped passing.accounted,
    passing.delivers.ring others stepped, passing.engaged⟩

/-- The client stays and takes everything, and the ring is closed when the
ingest has finished. -/
def Orderly (state : State geometry Producer ReaderId) : Label Producer ReaderId → Prop
  | .ring .close => state.ring.core.Quiet
  | .ring label => label.caller? ≠ none → state.ring.closed = false
  | .egress event => event.willing = true
  | _ => True

instance (state : State geometry Producer ReaderId) (label : Label Producer ReaderId) :
    Decidable (Orderly state label) :=
  match label with
  | .ring .close =>
      inferInstanceAs (Decidable (∀ pos, pos < state.ring.core.writePos → pos ∈ _))
  | .ring (.publish _ _) => inferInstanceAs (Decidable (_ ≠ none → _))
  | .ring (.publishBatch _ _) => inferInstanceAs (Decidable (_ ≠ none → _))
  | .ring (.producer _ _) => inferInstanceAs (Decidable (_ ≠ none → _))
  | .ring (.call _ _) => inferInstanceAs (Decidable (_ ≠ none → _))
  | .ring (.reader _) => inferInstanceAs (Decidable (_ ≠ none → _))
  | .ring (.wakeup _ _) => inferInstanceAs (Decidable (_ ≠ none → _))
  | .ring .closeNotify => inferInstanceAs (Decidable (_ ≠ none → _))
  | .pop => .isTrue trivial
  | .closed => .isTrue trivial
  | .resume => .isTrue trivial
  | .egress _ => inferInstanceAs (Decidable (_ = _))

theorem Passing.step {tuning : Tuning} {me : ReaderId}
    {state after : State geometry Producer ReaderId} (passing : Passing tuning me state)
    {label : Label Producer ReaderId} (orderly : Orderly state label)
    (stepped : state.step me label = some after) : Passing tuning me after := by
  have handedOver (notReading : state.feed.phase.reading = false) :
      (state.ring.readers me).phase.settled = true ∧
        (state.ring.readers me).takenFrames = state.egress.history.popped :=
    passing.delivers.handed_over notReading
  have returned {out : List Frame} {missed : Nat} (reading : state.feed.phase.reading = true)
      (done : (state.ring.readers me).phase = .done (.readBatch out missed)) :
      (state.ring.readers me).takenFrames = state.egress.history.popped ++ out := by
    rcases passing.delivers with ⟨held, holding, taken⟩
    rw [State.Holding, reading, done] at holding
    cases holding
    exact taken
  cases State.step_cases stepped with
  | ring label next others bus moved => exact passing.ring others bus moved
  | firstRead size idle requested called =>
      exact passing.call (handedOver (by rw [idle]; rfl)).2 rfl (.pop rfl requested) called
  | askClosed idle testing called =>
      exact passing.call (handedOver (by rw [idle]; rfl)).2 rfl (.test testing) called
  | testClosed size missed reading done called =>
      have taken := returned (by rw [reading]; rfl) done
      rw [List.append_nil] at taken
      have asked := passing.engaged.popping size (by rw [reading]; rfl)
      exact passing.call taken rfl (.pop rfl asked) called
  | wait size known asking called =>
      have asked := passing.engaged.popping size (by rw [asking]; rfl)
      exact passing.call (handedOver (by rw [asking]; rfl)).2 rfl (.pop rfl asked) called
  | secondRead size waiting called =>
      have asked := passing.engaged.popping size (by rw [waiting]; rfl)
      exact passing.call (handedOver (by rw [waiting]; rfl)).2 rfl (.pop rfl asked) called
  | handOver out missed reading done feed idle next popped =>
      refine passing.answer rfl ?_ (by rw [done]; rfl) idle popped
      exact returned reading done
  | giveUp size asking done next popped =>
      rcases handedOver (by rw [asking]; rfl) with ⟨settled, taken⟩
      exact passing.answer rfl (taken.trans (List.append_nil _).symm) settled rfl popped
  | answer closed asking done next answered =>
      rcases handedOver (by rw [asking]; rfl) with ⟨settled, taken⟩
      exact passing.answer rfl (taken.trans (List.append_nil _).symm) settled rfl answered
  | egress event next own moved => exact passing.moveEgress orderly own moved

end

/-! ## The end of the run -/

def pops : Egress.Phase → Bool
  | .pop => true
  | _ => false

def tests : Egress.Phase → Bool
  | .testClosed => true
  | _ => false

def foundNothing : BroadcastRing.ReaderPhase → Bool
  | .done (.readBatch [] _) => true
  | _ => false

def undenied : BroadcastRing.ReaderPhase → Bool
  | .testClosed => true
  | .done (.closed true) => true
  | _ => false

/-- The thread has found nothing, and whether the ring is closed decides what it
does next. -/
def leaves (egress : Egress.Phase) (reader : BroadcastRing.ReaderPhase) : RingFeed.Phase → Bool
  | .idle => tests egress
  | .firstRead _ => pops egress && foundNothing reader
  | .testClosed _ => pops egress && undenied reader
  | .wait _ => false
  | .secondRead _ => pops egress && foundNothing reader
  | .closed => undenied reader

def leaving (me : ReaderId) (state : State geometry Producer ReaderId) : Bool :=
  leaves state.egress.phase (state.ring.readers me).phase state.feed.phase

def Exhausted (me : ReaderId) (state : State geometry Producer ReaderId) : Prop :=
  state.ring.core.writePos ≤ (state.ring.readers me).cursor.next

/-- The ring is not closed with frames ahead of the reader while the thread is
between a read that found nothing and its question whether the ring is closed. -/
def Unraced (me : ReaderId) (state : State geometry Producer ReaderId) :
    Label Producer ReaderId → Prop
  | .ring .close => leaving me state = true → Exhausted me state
  | _ => True

instance (me : ReaderId) (state : State geometry Producer ReaderId)
    (label : Label Producer ReaderId) : Decidable (Unraced me state label) :=
  match label with
  | .ring .close => inferInstanceAs (Decidable (_ → _ ≤ _))
  | .ring (.publish _ _) => .isTrue trivial
  | .ring (.publishBatch _ _) => .isTrue trivial
  | .ring (.producer _ _) => .isTrue trivial
  | .ring (.call _ _) => .isTrue trivial
  | .ring (.reader _) => .isTrue trivial
  | .ring (.wakeup _ _) => .isTrue trivial
  | .ring .closeNotify => .isTrue trivial
  | .pop => .isTrue trivial
  | .closed => .isTrue trivial
  | .resume => .isTrue trivial
  | .egress _ => .isTrue trivial

structure Draining (tuning : Tuning) (me : ReaderId) (state : State geometry Producer ReaderId) :
    Prop where
  passing : Passing tuning me state
  quiet : state.ring.closed = true → state.ring.core.Quiet
  told : (state.ring.readers me).phase = .done (.closed true) → state.ring.closed = true
  testing : leaving me state = true → state.ring.closed = true → Exhausted me state
  returned : state.egress.phase = .returned → state.egress.egress.clientFd ≠ none →
    state.ring.closed = true ∧ Exhausted me state

theorem tests_iff {phase : Egress.Phase} : tests phase = true ↔ phase = .testClosed := by
  cases phase <;> simp [tests]

theorem pops_iff {phase : Egress.Phase} : pops phase = true ↔ phase = .pop := by
  cases phase <;> simp [pops]

theorem leaves_idle {egress : Egress.Phase} {reader : BroadcastRing.ReaderPhase} :
    leaves egress reader .idle = true ↔ egress = .testClosed :=
  tests_iff

theorem leaves_reading {egress : Egress.Phase} {reader : BroadcastRing.ReaderPhase}
    {feed : RingFeed.Phase} (reading : feed.reading = true) :
    leaves egress reader feed = true ↔ egress = .pop ∧ foundNothing reader = true := by
  rw [← pops_iff, ← Bool.and_eq_true_iff]
  cases feed with
  | firstRead size => rfl
  | secondRead size => rfl
  | _ => cases reading

theorem leaves_answered {egress : Egress.Phase} {feed : RingFeed.Phase} {answer : Bool}
    (left : leaves egress (.done (.closed answer)) feed = true) :
    leaves egress .testClosed feed = true := by
  cases feed with
  | idle => exact left
  | firstRead size => simp [leaves, foundNothing] at left
  | testClosed size => exact Bool.and_eq_true_iff.mpr ⟨(Bool.and_eq_true_iff.mp left).1, rfl⟩
  | wait size => cases left
  | secondRead size => simp [leaves, foundNothing] at left
  | closed => rfl

theorem decisive_of_leaves {egress : Egress.Phase} {reader : BroadcastRing.ReaderPhase}
    {feed : RingFeed.Phase} (left : leaves egress reader feed = true) (busy : feed ≠ .idle) :
    reader.decisive = true := by
  have nothing (found : foundNothing reader = true) : reader.decisive = true := by
    unfold foundNothing at found
    split at found
    · rfl
    · cases found
  have asked (undenied : undenied reader = true) : reader.decisive = true := by
    unfold Shutdown.undenied at undenied
    split at undenied
    · rfl
    · rfl
    · cases undenied
  cases feed with
  | idle => exact absurd rfl busy
  | firstRead size => exact nothing (Bool.and_eq_true_iff.mp left).2
  | testClosed size => exact asked (Bool.and_eq_true_iff.mp left).2
  | wait size => cases left
  | secondRead size => exact nothing (Bool.and_eq_true_iff.mp left).2
  | closed => exact asked left

theorem Orderly.silent {state : State geometry Producer ReaderId}
    {label : BroadcastRing.Label Producer ReaderId} (orderly : Orderly state (.ring label))
    (closed : state.ring.closed = true) : label.caller? = none := by
  have busy (isOpen : state.ring.closed = false) : label.caller? = none := by
    rw [closed] at isOpen
    cases isOpen
  cases label with
  | publish producer frame => exact busy (orderly nofun)
  | publishBatch producer frames => exact busy (orderly nofun)
  | _ => rfl

theorem Draining.moveEgress {tuning : Tuning} {me : ReaderId}
    {state : State geometry Producer ReaderId} (draining : Draining tuning me state)
    {event : Egress.Event} {egress : Egress.State} {feed : RingFeed}
    (passing : Passing tuning me { state with egress := egress, feed := feed })
    (stepped : state.egress.step event = some egress)
    (stays : leaving me { state with egress := egress, feed := feed } = true →
      leaving me state = true)
    (closing : event = .closed true → leaving me state = true ∧ state.ring.closed = true) :
    Draining tuning me { state with egress := egress, feed := feed } := by
  refine ⟨passing, draining.quiet, draining.told, ?_, ?_⟩
  · intro left closed
    exact draining.testing (stays left) closed
  · intro returned client
    rcases Egress.State.step_returned stepped returned client with ⟨_, before, had⟩ | ⟨asked, _⟩
    · exact draining.returned before had
    · rcases closing asked with ⟨left, closed⟩
      exact ⟨closed, draining.testing left closed⟩

theorem leaving_answer {me : ReaderId} {state : State geometry Producer ReaderId}
    {event : Egress.Event} {egress : Egress.State} {feed : RingFeed} (idle : feed.phase = .idle)
    (stepped : state.egress.step event = some egress) (fromFeed : event.fromFeed = true)
    (left : leaving me { state with egress := egress, feed := feed } = true) :
    event = .pop [] ∧ state.egress.phase = .pop := by
  unfold leaving at left
  dsimp only at left
  rw [idle, leaves_idle] at left
  rcases Egress.State.step_testClosed stepped left with ⟨rfl, _⟩ | empty
  · cases fromFeed
  · exact empty

theorem leaving_egress {tuning : Tuning} {me : ReaderId}
    {state : State geometry Producer ReaderId} (passing : Passing tuning me state)
    {event : Egress.Event} {egress : Egress.State} (own : event.fromFeed = false)
    (stepped : state.egress.step event = some egress)
    (left : leaving me { state with egress := egress } = true) : leaving me state = true := by
  unfold leaving at left ⊢
  by_cases idle : state.feed.phase = .idle
  · dsimp only at left
    rw [idle, leaves_idle] at left ⊢
    rcases Egress.State.step_testClosed stepped left with ⟨_, before⟩ | ⟨rfl, _⟩
    · exact before
    · cases own
  · rcases Egress.State.step_awaits (passing.engaged.awaits idle) own stepped with ⟨_, rfl⟩
    exact left

theorem Draining.call [DecidableEq ReaderId] {tuning : Tuning} {me : ReaderId}
    {state after : State geometry Producer ReaderId} (draining : Draining tuning me state)
    (passing : Passing tuning me after) {request : BroadcastRing.Request} {feed : RingFeed}
    (stays : leaves state.egress.phase
      (request.entry (state.ring.readers me).cursor.missed) feed.phase = true →
        leaving me state = true)
    (called : state.call me request feed = some after) : Draining tuning me after := by
  rcases Option.map_eq_some_iff.mp called with ⟨ring, moved, rfl⟩
  have touches := BroadcastRing.State.call_touches moved
  have reader : ring.readers me = { state.ring.readers me with
      phase := request.entry (state.ring.readers me).cursor.missed } := by
    rw [touches.readers, Function.update_self]
  have exhausted (before : Exhausted me state) :
      Exhausted me { state with ring := ring, feed := feed } := by
    unfold Exhausted at before ⊢
    dsimp only
    rw [touches.core, reader]
    exact before
  refine ⟨passing, ?_, ?_, ?_, ?_⟩
  · dsimp only
    rw [touches.closed, touches.core]
    exact draining.quiet
  · intro answered
    dsimp only at answered
    rw [reader] at answered
    dsimp only at answered
    cases request with
    | readBatch size =>
        simp only [BroadcastRing.Request.entry] at answered
        split at answered <;> cases answered
    | _ => cases answered
  · intro left closed
    unfold leaving at left
    dsimp only at left closed
    rw [reader] at left
    rw [touches.closed] at closed
    exact exhausted (draining.testing (stays left) closed)
  · intro returned client
    rcases draining.returned returned client with ⟨closed, before⟩
    exact ⟨touches.closed.trans closed, exhausted before⟩

section

variable {geometry : BroadcastRing.Geometry} {Producer ReaderId : Type} [DecidableEq Producer]
  [DecidableEq ReaderId]

/-- A step of the ring while the thread is leaving: it was leaving already, or
its reader has just found nothing. The reader does not move. -/
theorem leaving_ring {tuning : Tuning} {me : ReaderId}
    {state : State geometry Producer ReaderId} (passing : Passing tuning me state)
    {label : BroadcastRing.Label Producer ReaderId} (others : label.calls me = false)
    {ring : BroadcastRing.State geometry Producer ReaderId}
    (stepped : state.ring.step label = some ring)
    (left : leaving me { state with ring := ring } = true) :
    (ring.readers me).cursor = (state.ring.readers me).cursor ∧
      (leaving me state = true ∨ (label = .reader me ∧
        (state.ring.readers me).cursor.next ∉ state.ring.core.published)) := by
  unfold leaving at left ⊢
  by_cases idle : state.feed.phase = .idle
  · have settled := (passing.delivers.handed_over (by dsimp only; rw [idle]; rfl)).1
    dsimp only at left
    rw [idle, leaves_idle] at left
    rw [idle, leaves_idle]
    exact ⟨BroadcastRing.State.settled_step settled stepped, .inl left⟩
  · have decisive := decisive_of_leaves left idle
    rcases passing.sound.decides_step others stepped decisive with
      ⟨cursor, same | ⟨asking, answered⟩ | ⟨own, missing, _⟩⟩
    · dsimp only at left
      rw [same] at left
      exact ⟨cursor, .inl left⟩
    · dsimp only at left
      rw [answered] at left
      rw [asking]
      exact ⟨cursor, .inl (leaves_answered left)⟩
    · exact ⟨cursor, .inr ⟨own, missing⟩⟩

theorem Draining.ring {tuning : Tuning} {me : ReaderId}
    {state : State geometry Producer ReaderId} (draining : Draining tuning me state)
    {label : BroadcastRing.Label Producer ReaderId} (orderly : Orderly state (.ring label))
    (unraced : Unraced me state (.ring label)) (others : label.calls me = false)
    (bus : label.Bus) {ring : BroadcastRing.State geometry Producer ReaderId}
    (stepped : state.ring.step label = some ring) :
    Draining tuning me { state with ring := ring } := by
  have passing := draining.passing
  have closes := BroadcastRing.State.closed_step stepped
  have silent (closed : ring.closed = true) : label.caller? = none := by
    rcases closes with ⟨rfl, _⟩ | unchanged
    · rfl
    · exact orderly.silent (unchanged.symm.trans closed)
  have exhausted (closed : ring.closed = true)
      (cursor : (ring.readers me).cursor = (state.ring.readers me).cursor)
      (before : Exhausted me state) : Exhausted me { state with ring := ring } := by
    unfold Exhausted at before ⊢
    dsimp only
    rw [BroadcastRing.State.writePos_step stepped (silent closed), cursor]
    exact before
  refine ⟨passing.ring others bus stepped, ?_, ?_, ?_, ?_⟩
  · intro closed
    rcases closes with ⟨rfl, _⟩ | unchanged
    · dsimp only
      rw [BroadcastRing.State.step_core stepped rfl]
      exact orderly
    · exact passing.sound.quiet_step stepped (silent closed)
        (draining.quiet (unchanged.symm.trans closed))
  · intro answered
    dsimp only at answered ⊢
    rcases closes with ⟨_, closed⟩ | unchanged
    · exact closed
    · rw [unchanged]
      rcases (passing.sound.decides_step others stepped (by rw [answered]; rfl)).2 with
        same | ⟨_, phase⟩ | ⟨_, _, missed, phase⟩
      · exact draining.told (same.symm.trans answered)
      · rw [answered] at phase
        injection phase with outcome
        injection outcome with closed
        exact closed.symm
      · cases answered.symm.trans phase
  · intro left closed
    rcases leaving_ring passing others stepped left with ⟨cursor, before | ⟨rfl, missing⟩⟩
    · refine exhausted closed cursor ?_
      rcases closes with ⟨rfl, _⟩ | unchanged
      · exact unraced before
      · exact draining.testing before (unchanged.symm.trans closed)
    · refine exhausted closed cursor (Nat.not_lt.mp fun issued => missing ?_)
      rcases closes with ⟨impossible, _⟩ | unchanged
      · cases impossible
      · exact draining.quiet (unchanged.symm.trans closed) _ issued
  · intro returned client
    rcases draining.returned returned client with ⟨closed, before⟩
    have stays : ring.closed = true := by
      rcases closes with ⟨_, closed⟩ | unchanged
      · exact closed
      · exact unchanged.trans closed
    have idle := passing.engaged.idle_of_returned returned
    have settled := (passing.delivers.handed_over (by dsimp only; rw [idle]; rfl)).1
    exact ⟨stays, exhausted stays (BroadcastRing.State.settled_step settled stepped) before⟩

theorem Draining.step {tuning : Tuning} {me : ReaderId}
    {state after : State geometry Producer ReaderId} (draining : Draining tuning me state)
    {label : Label Producer ReaderId} (orderly : Orderly state label)
    (unraced : Unraced me state label) (stepped : state.step me label = some after) :
    Draining tuning me after := by
  have passing := draining.passing.step orderly stepped
  have asked := draining.passing.engaged.popping
  -- the thread asks for a frame at least, so the read is not over at once
  have starts {size : Nat} {feed : RingFeed.Phase} (reading : feed.reading = true)
      (requested : state.egress.requested = some size)
      (left : leaves state.egress.phase ((BroadcastRing.Request.readBatch size).entry
        (state.ring.readers me).cursor.missed) feed = true) : leaving me state = true := by
    rcases (leaves_reading reading).mp left with ⟨popping, nothing⟩
    rw [Egress.State.requested, popping, Option.some.injEq] at requested
    have room := Egress.State.requests_something draining.passing.reached
    rw [requested] at room
    rw [BroadcastRing.Request.entry, if_pos room] at nothing
    cases nothing
  cases State.step_cases stepped with
  | ring label next others bus moved => exact draining.ring orderly unraced others bus moved
  | firstRead size idle requested called =>
      exact draining.call passing (starts rfl requested) called
  | askClosed idle testing called =>
      refine draining.call passing (fun _ => ?_) called
      rw [leaving, idle]
      exact leaves_idle.mpr testing
  | testClosed size missed reading done called =>
      refine draining.call passing (fun left => ?_) called
      have popping := pops_iff.mp (Bool.and_eq_true_iff.mp left).1
      rw [leaving, reading, leaves_reading rfl, done]
      exact ⟨popping, rfl⟩
  | wait size known asking called => exact draining.call passing (fun left => by cases left) called
  | secondRead size waiting called =>
      exact draining.call passing (starts rfl (asked size (by rw [waiting]; rfl))) called
  | handOver out missed reading done feed idle next popped =>
      refine draining.moveEgress passing popped (fun left => ?_) ?_
      · rcases leaving_answer idle popped rfl left with ⟨empty, popping⟩
        rw [leaving, leaves_reading reading, done, Egress.Event.pop.inj empty]
        exact ⟨popping, rfl⟩
      · intro impossible
        cases impossible
  | giveUp size asking done next popped =>
      refine draining.moveEgress passing popped (fun left => ?_) ?_
      · have popping := (leaving_answer rfl popped rfl left).2
        rw [leaving, asking, done, popping]
        rfl
      · intro impossible
        cases impossible
  | answer closed asking done next answered =>
      refine draining.moveEgress passing answered (fun left => ?_) ?_
      · cases (leaving_answer rfl answered rfl left).1
      · intro yes
        rw [Egress.Event.closed.inj yes] at done
        rw [leaving, asking, done]
        exact ⟨rfl, draining.told done⟩
  | egress event next own moved =>
      refine draining.moveEgress passing moved (leaving_egress draining.passing own moved) ?_
      rintro rfl
      cases own

def system (geometry : BroadcastRing.Geometry) (Producer : Type) {ReaderId : Type}
    [DecidableEq Producer] [DecidableEq ReaderId] (me : ReaderId) (tuning : Tuning) :
    System (State geometry Producer ReaderId) (Label Producer ReaderId) where
  initial := fun state =>
    (RingTopology.system geometry Producer me tuning).initial state ∧ state.ring.closed = false
  step := State.step me

theorem initial_passing {tuning : Tuning} {me : ReaderId}
    {state : State geometry Producer ReaderId}
    (initial : (RingTopology.system geometry Producer me tuning).initial state) :
    Passing tuning me state := by
  rcases initial with ⟨listenFd, stopFd, egress, created, ring, attached, feed, thread⟩
  have sound := BroadcastRing.State.sound_of_reachable ring
  have log := (sound.readers me).log_of_attached attached
  have cursor := (sound.readers me).replayed
  rw [log] at cursor
  refine ⟨.start ⟨listenFd, stopFd, egress, created, thread⟩, ?_, sound,
    BroadcastRing.State.carriesBus_of_reachable ring, ?_, ⟨[], .rest ?_ ?_, ?_⟩, ?_⟩
  · rw [thread]
    exact Egress.State.initial_forwarding egress
  · intro pos above below
    rw [← Option.some.inj cursor] at below
    exact absurd above (Nat.not_le.mpr below)
  · rw [feed]
    rfl
  · rw [attached]
    rfl
  · rw [BroadcastRing.Reader.takenFrames, BroadcastRing.Reader.taken, log, thread]
    rfl
  · rw [feed]
    exact .idle _

theorem draining_of_reachable {tuning : Tuning} {me : ReaderId}
    {state : State geometry Producer ReaderId}
    (reached : (system geometry Producer me tuning).ReachableUnder
      (fun state label => Orderly state label ∧ Unraced me state label) state) :
    Draining tuning me state := by
  refine reached.invariant (Draining tuning me) ?_ ?_
  · rintro state ⟨initial, isOpen⟩
    have passing := initial_passing initial
    rcases initial with ⟨listenFd, stopFd, egress, created, ring, attached, feed, thread⟩
    have opens {property : Prop} (closed : state.ring.closed = true) : property := by
      rw [isOpen] at closed
      cases closed
    refine ⟨passing, opens, ?_, fun _ => opens, ?_⟩
    · intro answered
      cases attached.symm.trans answered
    · intro returned
      rw [thread] at returned
      cases returned
  · intro state label after _ ⟨orderly, unraced⟩ draining stepped
    exact draining.step orderly unraced stepped

end

/-- Every frame published since the feed was attached that no later frame has
overwritten is among those popped, in the order of the ring, and those have been
sent. -/
structure Drained (me : ReaderId) (state : State geometry Producer ReaderId) : Prop where
  complete : ∀ pos frame, (state.ring.readers me).start ≤ pos →
    state.ring.core.stream[pos]? = some frame →
    frame ∈ state.egress.history.popped ∨ pos + geometry.capacity < state.ring.core.writePos
  ordered : Wire.Increasing state.egress.history.popped
  sent : state.egress.Sent

theorem Draining.drained {tuning : Tuning} {me : ReaderId}
    {state : State geometry Producer ReaderId} (draining : Draining tuning me state)
    (returned : state.egress.phase = .returned) (client : state.egress.egress.clientFd ≠ none) :
    Drained me state := by
  have passing := draining.passing
  have framed := Egress.State.framed_of_reachable passing.reached
  have popped := (passing.delivers.handed_over (by
    dsimp only
    rw [passing.engaged.idle_of_returned returned]
    rfl)).2
  dsimp only at popped
  refine ⟨?_, popped ▸ passing.sound.taken_increasing me, passing.forwarding.sent framed returned⟩
  intro pos frame since carried
  have issued := (List.getElem?_eq_some_iff.mp carried).1
  rw [passing.sound.core.tickets.length_stream] at issued
  have passed := Nat.lt_of_lt_of_le issued (draining.returned returned client).2
  rcases passing.accounted pos since passed with ⟨read, missed, member⟩ | lapped
  · have same := (passing.sound.readers me).frames pos read missed
      (List.mem_append_right _ member)
    rw [BroadcastRing.Core.carries_iff, carried] at same
    cases same
    rw [← popped, BroadcastRing.Reader.takenFrames_eq]
    exact .inl (List.mem_filterMap.mpr ⟨_, member, rfl⟩)
  · exact .inr lapped

end TelemetryGateway.RingTopology.Shutdown
