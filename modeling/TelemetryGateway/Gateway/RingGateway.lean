import TelemetryGateway.Foundation.Unwinding
import TelemetryGateway.Gateway.RingTopology
import TelemetryGateway.Ring.Bystanders

/-! # A gateway of topology B

The producers share one ring with every consumer's feed; each consumer has its
own cursor and its own egress thread. -/

namespace TelemetryGateway

namespace BroadcastRing

deriving instance DecidableEq for Request, Label

end BroadcastRing

namespace RingTopology

deriving instance DecidableEq for Label

end RingTopology

def BroadcastRing.Label.ingests : BroadcastRing.Label Producer ReaderId → Bool
  | .publish _ _ => true
  | .publishBatch _ _ => true
  | .producer _ _ => true
  | _ => false

/-- Whether the label is a step of that consumer, or of somebody who closes its
feed. -/
def RingTopology.Label.own [DecidableEq ReaderId] (id : ReaderId) :
    RingTopology.Label Producer ReaderId → Bool
  | .ring (.reader reader) => reader = id
  | .ring (.wakeup reader _) => reader = id
  | .ring .close => true
  | .ring .closeNotify => true
  | .ring _ => false
  | .pop => true
  | .closed => true
  | .resume => true
  | .egress _ => true

namespace RingGateway

structure State (geometry : BroadcastRing.Geometry) (Producer ReaderId : Type) where
  ring : BroadcastRing.State geometry Producer ReaderId
  feeds : ReaderId → RingFeed
  egresses : ReaderId → Egress.State

inductive Label (Producer ReaderId : Type)
  | ingest (label : BroadcastRing.Label Producer ReaderId)
  | consumer (id : ReaderId) (label : RingTopology.Label Producer ReaderId)
  deriving DecidableEq

namespace State

def consumer (state : State geometry Producer ReaderId) (id : ReaderId) :
    RingTopology.State geometry Producer ReaderId where
  ring := state.ring
  feed := state.feeds id
  egress := state.egresses id

def setConsumer [DecidableEq ReaderId] (state : State geometry Producer ReaderId) (id : ReaderId)
    (consumer : RingTopology.State geometry Producer ReaderId) :
    State geometry Producer ReaderId where
  ring := consumer.ring
  feeds := Function.update state.feeds id consumer.feed
  egresses := Function.update state.egresses id consumer.egress

def step [DecidableEq Producer] [DecidableEq ReaderId] (state : State geometry Producer ReaderId) :
    Label Producer ReaderId → Option (State geometry Producer ReaderId)
  | .ingest label =>
      if label.ingests = true ∧ label.Bus then
        (state.ring.step label).map fun ring => { state with ring := ring }
      else none
  | .consumer id label =>
      if label.own id then ((state.consumer id).step id label).map (state.setConsumer id)
      else none

def answers (state : State geometry Producer ReaderId) :
    Label Producer ReaderId → List (ReaderId × Egress.Event)
  | .consumer id .resume =>
      match (state.ring.readers id).phase with
      | .done outcome =>
          match (state.feeds id).resume (state.ring.readers id).cursor outcome with
          | some (.answer event _) => [(id, event)]
          | _ => []
      | _ => []
  | _ => []

end State

/-- Feeds that were attached at any moments of the life of a ring, and an egress
thread about to start behind each. -/
def system (geometry : BroadcastRing.Geometry) (Producer ReaderId : Type) [DecidableEq Producer]
    [DecidableEq ReaderId] (tuning : ReaderId → Tuning) :
    System (State geometry Producer ReaderId) (Label Producer ReaderId) where
  initial := fun state =>
    (BroadcastRing.system geometry Producer ReaderId).ReachableUnder (fun _ label => label.Bus)
      state.ring ∧
    ∀ id, (state.ring.readers id).phase = .done .attached ∧ state.feeds id = {} ∧
      ∃ listenFd stopFd egress,
        Egress.create (tuning id) (.ok listenFd) (.ok stopFd) = .ok egress ∧
          state.egresses id = .initial egress
  step := State.step

/-! ## Everybody but one consumer -/

section

variable {geometry : BroadcastRing.Geometry} {Producer ReaderId : Type} [DecidableEq Producer]
  [DecidableEq ReaderId]

def Label.of (id : ReaderId) : Label Producer ReaderId → Bool
  | .ingest _ => false
  | .consumer other _ => other = id

def State.shows (state : State geometry Producer ReaderId) (id : ReaderId) :
    RingTopology.Label Producer ReaderId → Bool
  | .ring (.reader _) => !(state.ring.readers id).phase.waits
  | .ring (.wakeup _ _) => false
  | .ring .closeNotify => false
  | _ => true

/-- What is compared: the calls, the writes and the reads of everybody else. The
steps inside `wait_for_data` and `wake_readers` are not. -/
def shownBut (id : ReaderId) (state : State geometry Producer ReaderId) :
    Label Producer ReaderId → Bool
  | .ingest (.producer producer _) => (state.ring.core.producers producer).ticket.isSome
  | .ingest _ => true
  | .consumer other label => if other = id then false else state.shows other label

def answersBut (id : ReaderId) (state : State geometry Producer ReaderId)
    (label : Label Producer ReaderId) : List (ReaderId × Egress.Event) :=
  if label.of id then [] else state.answers label

/-- The consumer, its cursor and what its feed reports are the same. -/
def SameBut (id : ReaderId) (left right : State geometry Producer ReaderId) : Prop :=
  ∀ other, other ≠ id → left.feeds other = right.feeds other ∧
    left.egresses other = right.egresses other ∧
    (left.ring.readers other).cursor = (right.ring.readers other).cursor ∧
    left.ring.closed = right.ring.closed

/-- The feed of that consumer is closed only when the ring is closed already. -/
def SparesRing (id : ReaderId) (state : State geometry Producer ReaderId) :
    Label Producer ReaderId → Prop
  | .consumer other (.ring .close) => other = id → state.ring.closed = true
  | _ => True

end

structure Alike (id : ReaderId) (left right : State geometry Producer ReaderId) : Prop where
  ring : left.ring.AlikeBut id right.ring
  feeds : ∀ other, other ≠ id → left.feeds other = right.feeds other
  egresses : ∀ other, other ≠ id → left.egresses other = right.egresses other

namespace Alike

theorem refl (id : ReaderId) (state : State geometry Producer ReaderId) : Alike id state state :=
  ⟨.refl id state.ring, fun _ _ => rfl, fun _ _ => rfl⟩

theorem symm {id : ReaderId} {left right : State geometry Producer ReaderId}
    (alike : Alike id left right) : Alike id right left :=
  ⟨alike.ring.symm, fun other apart => (alike.feeds other apart).symm,
    fun other apart => (alike.egresses other apart).symm⟩

theorem trans {id : ReaderId} {first second third : State geometry Producer ReaderId}
    (left : Alike id first second) (right : Alike id second third) : Alike id first third :=
  ⟨left.ring.trans right.ring,
    fun other apart => (left.feeds other apart).trans (right.feeds other apart),
    fun other apart => (left.egresses other apart).trans (right.egresses other apart)⟩

end Alike

theorem alike_consumer [DecidableEq ReaderId] {state : State geometry Producer ReaderId}
    {id other : ReaderId}
    {moved : RingTopology.State geometry Producer ReaderId}
    (ring : moved.ring.AlikeBut id state.ring)
    (same : other ≠ id → moved.feed = state.feeds other ∧ moved.egress = state.egresses other) :
    Alike id (state.setConsumer other moved) state := by
  refine ⟨ring, ?_, ?_⟩
  · intro reader apart
    by_cases here : reader = other
    · subst here
      exact (Function.update_self ..).trans (same apart).1
    · exact Function.update_of_ne here ..
  · intro reader apart
    by_cases here : reader = other
    · subst here
      exact (Function.update_self ..).trans (same apart).2
    · exact Function.update_of_ne here ..

theorem resume_alike {left right : BroadcastRing.Outcome}
    (same : (BroadcastRing.ReaderPhase.done left).shown =
      (BroadcastRing.ReaderPhase.done right).shown) (feed : RingFeed)
    (cursor : BroadcastRing.Cursor) : feed.resume cursor left = feed.resume cursor right := by
  cases left <;> cases right <;> cases same
  case waited.waited.refl => cases phase : feed.phase <;> simp only [RingFeed.resume, phase]
  all_goals rfl

theorem resume_consumer {id other : ReaderId} (apart : other ≠ id)
    {left right : State geometry Producer ReaderId} (alike : Alike id left right)
    {leftOutcome rightOutcome : BroadcastRing.Outcome}
    (leftDone : (left.ring.readers other).phase = .done leftOutcome)
    (rightDone : (right.ring.readers other).phase = .done rightOutcome) :
    (left.feeds other).resume (left.ring.readers other).cursor leftOutcome =
      (right.feeds other).resume (right.ring.readers other).cursor rightOutcome := by
  have readers := alike.ring.readers other apart
  have cursor : (left.ring.readers other).cursor = (right.ring.readers other).cursor :=
    congrArg (fun reader => reader.cursor) readers
  have outcome : (BroadcastRing.ReaderPhase.done leftOutcome).shown =
      (BroadcastRing.ReaderPhase.done rightOutcome).shown := by
    rw [← leftDone, ← rightDone]
    exact congrArg BroadcastRing.Reader.phase readers
  rw [alike.feeds other apart, cursor]
  exact resume_alike outcome _ _

theorem answersBut_hidden [DecidableEq ReaderId] {id : ReaderId}
    {state : State geometry Producer ReaderId}
    {label : Label Producer ReaderId} (hidden : shownBut id state label = false) :
    answersBut id state label = [] := by
  cases label with
  | ingest label => rfl
  | consumer other label =>
      by_cases here : other = id
      · exact if_pos (decide_eq_true here)
      · rw [shownBut, if_neg here] at hidden
        have others : (Label.consumer other label).of id = false := decide_eq_false here
        rw [answersBut, others, if_neg Bool.false_ne_true]
        cases label with
        | resume => cases hidden
        | _ => rfl

theorem others_of_shown [DecidableEq ReaderId] {id : ReaderId}
    {state : State geometry Producer ReaderId}
    {label : Label Producer ReaderId} (shown : shownBut id state label = true) :
    label.of id = false := by
  cases label with
  | ingest label => rfl
  | consumer other label =>
      refine decide_eq_false fun here => ?_
      rw [shownBut, if_pos here] at shown
      cases shown

section

variable {geometry : BroadcastRing.Geometry} {Producer ReaderId : Type} [DecidableEq Producer]
  [DecidableEq ReaderId]

theorem consumer_step {state after : State geometry Producer ReaderId} {id : ReaderId}
    {label : RingTopology.Label Producer ReaderId}
    (stepped : state.step (.consumer id label) = some after) :
    label.own id = true ∧ ∃ moved, (state.consumer id).step id label = some moved ∧
      after = state.setConsumer id moved := by
  simp only [State.step] at stepped
  split at stepped
  · rename_i own
    rcases Option.map_eq_some_iff.mp stepped with ⟨moved, inner, rfl⟩
    exact ⟨own, moved, inner, rfl⟩
  · cases stepped

/-! ## Hidden steps -/

/-- What a consumer's own step does to the ring the others cannot tell, unless
it closes it. -/
theorem own_unnoticed {state after : RingTopology.State geometry Producer ReaderId} {id : ReaderId}
    {label : RingTopology.Label Producer ReaderId} (own : label.own id = true)
    (spares : label = .ring .close → state.ring.closed = true)
    (stepped : state.step id label = some after) : after.ring.AlikeBut id state.ring := by
  have called {request : BroadcastRing.Request} {feed : RingFeed}
      (call : state.call id request feed = some after) : after.ring.AlikeBut id state.ring := by
    rcases Option.map_eq_some_iff.mp call with ⟨ring, moved, rfl⟩
    exact (BroadcastRing.State.call_touches moved).alike
  cases RingTopology.State.step_cases stepped with
  | ring label ring others bus moved =>
      cases label with
      | reader reader =>
          have here : reader = id := of_decide_eq_true own
          subst here
          rcases BroadcastRing.State.reader_touches moved with ⟨_, touches, _⟩
          exact touches.alike
      | wakeup reader timedOut => exact BroadcastRing.State.wakeup_unnoticed moved id
      | close => exact BroadcastRing.State.close_unnoticed moved (spares rfl) id
      | closeNotify => exact BroadcastRing.State.closeNotify_unnoticed moved id
      | _ => cases own
  | firstRead size idle requested call => exact called call
  | askClosed idle testing call => exact called call
  | testClosed size missed reading done call => exact called call
  | wait size known asking call => exact called call
  | secondRead size waiting call => exact called call
  | handOver out missed reading done feed idle next popped => exact .refl id state.ring
  | giveUp size asking done next popped => exact .refl id state.ring
  | answer closed asking done next answered => exact .refl id state.ring
  | egress event next fromFeed moved => exact .refl id state.ring

theorem other_unnoticed {state : State geometry Producer ReaderId} (id : ReaderId) {other : ReaderId}
    {label : RingTopology.Label Producer ReaderId}
    {moved : RingTopology.State geometry Producer ReaderId} (own : label.own other = true)
    (hidden : state.shows other label = false)
    (stepped : (state.consumer other).step other label = some moved) :
    moved.ring.AlikeBut id state.ring ∧ moved.feed = state.feeds other ∧
      moved.egress = state.egresses other := by
  cases label with
  | ring label =>
      simp only [RingTopology.State.step] at stepped
      split at stepped
      · cases stepped
      · rcases Option.map_eq_some_iff.mp stepped with ⟨ring, moved, rfl⟩
        refine ⟨?_, rfl, rfl⟩
        cases label with
        | reader reader =>
            have here : reader = other := of_decide_eq_true own
            subst here
            rcases BroadcastRing.State.reader_touches moved with ⟨_, touches, same⟩
            have waits : ((state.consumer reader).ring.readers reader).phase.waits = true := by
              rw [State.shows, Bool.not_eq_false'] at hidden
              exact hidden
            rw [if_pos waits] at same
            exact touches.unnoticed same id
        | wakeup reader timedOut => exact BroadcastRing.State.wakeup_unnoticed moved id
        | closeNotify => exact BroadcastRing.State.closeNotify_unnoticed moved id
        | _ => cases hidden
  | _ => cases hidden

/-! ## Shown steps -/

theorem shown_alike {id other : ReaderId} (apart : other ≠ id)
    {left right : State geometry Producer ReaderId} (alike : Alike id left right)
    {label : RingTopology.Label Producer ReaderId} (own : label.own other = true)
    (leftShown : left.shows other label = true) (rightShown : right.shows other label = true)
    {leftMoved rightMoved : RingTopology.State geometry Producer ReaderId}
    (leftStep : (left.consumer other).step other label = some leftMoved)
    (rightStep : (right.consumer other).step other label = some rightMoved) :
    leftMoved.ring.AlikeBut id rightMoved.ring ∧ leftMoved.feed = rightMoved.feed ∧
      leftMoved.egress = rightMoved.egress := by
  have feeds : (left.consumer other).feed = (right.consumer other).feed :=
    alike.feeds other apart
  have egresses : (left.consumer other).egress = (right.consumer other).egress :=
    alike.egresses other apart
  have called {request : BroadcastRing.Request} {feed : RingFeed}
      (leftCall : (left.consumer other).call other request feed = some leftMoved)
      (rightCall : (right.consumer other).call other request feed = some rightMoved) :
      leftMoved.ring.AlikeBut id rightMoved.ring ∧ leftMoved.feed = rightMoved.feed ∧
        leftMoved.egress = rightMoved.egress := by
    rcases Option.map_eq_some_iff.mp leftCall with ⟨leftRing, leftCalled, rfl⟩
    rcases Option.map_eq_some_iff.mp rightCall with ⟨rightRing, rightCalled, rfl⟩
    exact ⟨alike.ring.call apart leftCalled rightCalled, rfl, egresses⟩
  cases label with
  | ring label =>
      simp only [RingTopology.State.step] at leftStep rightStep
      split at leftStep
      · cases leftStep
      · rename_i allowed
        rw [if_neg allowed] at rightStep
        rcases Option.map_eq_some_iff.mp leftStep with ⟨leftRing, leftRan, rfl⟩
        rcases Option.map_eq_some_iff.mp rightStep with ⟨rightRing, rightRan, rfl⟩
        refine ⟨?_, feeds, egresses⟩
        cases label with
        | reader reader =>
            have here : reader = other := of_decide_eq_true own
            subst here
            rw [State.shows, Bool.not_eq_true'] at leftShown rightShown
            exact alike.ring.reader apart leftShown rightShown leftRan rightRan
        | close => exact alike.ring.close leftRan rightRan
        | wakeup reader timedOut => cases leftShown
        | closeNotify => cases leftShown
        | _ => cases own
  | pop =>
      simp only [RingTopology.State.step, feeds, egresses] at leftStep rightStep
      split at leftStep
      · rename_i idle requested
        simp only [idle, requested] at rightStep
        exact called leftStep rightStep
      · cases leftStep
  | closed =>
      simp only [RingTopology.State.step, feeds, egresses] at leftStep rightStep
      split at leftStep
      · rename_i idle
        rw [if_pos idle] at rightStep
        exact called leftStep rightStep
      · cases leftStep
  | resume =>
      simp only [RingTopology.State.step] at leftStep rightStep
      split at leftStep
      · rename_i leftOutcome leftDone
        split at rightStep
        · rename_i rightOutcome rightDone
          have same := resume_consumer apart alike leftDone rightDone
          rcases Option.bind_eq_some_iff.mp leftStep with ⟨move, chosen, leftMove⟩
          rcases Option.bind_eq_some_iff.mp rightStep with ⟨other, alsoChosen, rightMove⟩
          have equal : some move = some other := chosen.symm.trans (same.trans alsoChosen)
          cases equal
          cases move with
          | call request feed => exact called leftMove rightMove
          | answer event feed =>
              simp only [RingTopology.State.move, egresses] at leftMove rightMove
              rcases Option.map_eq_some_iff.mp leftMove with ⟨leftEgress, leftRan, rfl⟩
              rcases Option.map_eq_some_iff.mp rightMove with ⟨rightEgress, rightRan, rfl⟩
              rw [leftRan] at rightRan
              cases rightRan
              exact ⟨alike.ring, rfl, rfl⟩
        · cases rightStep
      · cases leftStep
  | egress event =>
      simp only [RingTopology.State.step, egresses] at leftStep rightStep
      split at leftStep
      · cases leftStep
      · rename_i outside
        rw [if_neg outside] at rightStep
        rcases Option.map_eq_some_iff.mp leftStep with ⟨leftEgress, leftRan, rfl⟩
        rcases Option.map_eq_some_iff.mp rightStep with ⟨rightEgress, rightRan, rfl⟩
        rw [leftRan] at rightRan
        cases rightRan
        exact ⟨alike.ring, feeds, rfl⟩

theorem Alike.consumer {id other : ReaderId} (apart : other ≠ id)
    {left right leftAfter rightAfter : State geometry Producer ReaderId}
    (alike : Alike id left right) {label : RingTopology.Label Producer ReaderId}
    (leftShown : left.shows other label = true) (rightShown : right.shows other label = true)
    (leftStep : left.step (.consumer other label) = some leftAfter)
    (rightStep : right.step (.consumer other label) = some rightAfter) :
    Alike id leftAfter rightAfter := by
  rcases consumer_step leftStep with ⟨own, leftMoved, leftRan, rfl⟩
  rcases consumer_step rightStep with ⟨_, rightMoved, rightRan, rfl⟩
  rcases shown_alike apart alike own leftShown rightShown leftRan rightRan with
    ⟨ring, feed, egress⟩
  exact ⟨ring, System.update_agree alike.feeds fun _ => feed,
    System.update_agree alike.egresses fun _ => egress⟩

theorem Alike.ingest {id : ReaderId}
    {left right leftAfter rightAfter : State geometry Producer ReaderId}
    (alike : Alike id left right) {label : BroadcastRing.Label Producer ReaderId}
    (leftShown : shownBut id left (.ingest label) = true)
    (rightShown : shownBut id right (.ingest label) = true)
    (leftStep : left.step (.ingest label) = some leftAfter)
    (rightStep : right.step (.ingest label) = some rightAfter) : Alike id leftAfter rightAfter := by
  simp only [State.step] at leftStep rightStep
  split at leftStep
  · rename_i allowed
    rw [if_pos allowed] at rightStep
    rcases Option.map_eq_some_iff.mp leftStep with ⟨leftRing, leftRan, rfl⟩
    rcases Option.map_eq_some_iff.mp rightStep with ⟨rightRing, rightRan, rfl⟩
    refine ⟨?_, alike.feeds, alike.egresses⟩
    cases label with
    | publish producer frame =>
        rcases Option.map_eq_some_iff.mp leftRan with ⟨_, leftTaken, rfl⟩
        rcases Option.map_eq_some_iff.mp rightRan with ⟨_, rightTaken, rfl⟩
        exact alike.ring.take leftTaken rightTaken
    | publishBatch producer frames =>
        rcases Option.map_eq_some_iff.mp leftRan with ⟨_, leftTaken, rfl⟩
        rcases Option.map_eq_some_iff.mp rightRan with ⟨_, rightTaken, rfl⟩
        exact alike.ring.take leftTaken rightTaken
    | producer producer spurious =>
        exact alike.ring.advance leftShown rightShown leftRan rightRan
    | _ => cases allowed.1
  · cases leftStep

theorem Alike.answers {id : ReaderId}
    {left right leftAfter rightAfter : State geometry Producer ReaderId}
    (alike : Alike id left right) {label : Label Producer ReaderId} (others : label.of id = false)
    (leftStep : left.step label = some leftAfter) (rightStep : right.step label = some rightAfter) :
    left.answers label = right.answers label := by
  cases label with
  | ingest label => rfl
  | consumer other label =>
      have apart : other ≠ id := of_decide_eq_false others
      cases label with
      | resume =>
          -- the step could not happen unless the ring had answered
          have done {state after : State geometry Producer ReaderId}
              (stepped : state.step (.consumer other .resume) = some after) :
              ∃ outcome, (state.ring.readers other).phase = .done outcome := by
            rcases consumer_step stepped with ⟨_, moved, ran, _⟩
            simp only [RingTopology.State.step] at ran
            split at ran
            · rename_i outcome done
              exact ⟨outcome, done⟩
            · cases ran
          rcases done leftStep with ⟨leftOutcome, leftDone⟩
          rcases done rightStep with ⟨rightOutcome, rightDone⟩
          simp only [State.answers, leftDone, rightDone,
            resume_consumer apart alike leftDone rightDone]
      | _ => rfl

theorem Alike.hidden {id : ReaderId} {left right after : State geometry Producer ReaderId}
    {label : Label Producer ReaderId} (spares : SparesRing id left label)
    (hidden : shownBut id left label = false) (stepped : left.step label = some after)
    (alike : Alike id left right) : Alike id after right := by
  refine Alike.trans ?_ alike
  cases label with
  | ingest label =>
      simp only [State.step] at stepped
      split at stepped
      · rename_i allowed
        rcases Option.map_eq_some_iff.mp stepped with ⟨ring, ran, rfl⟩
        cases label with
        | producer producer spurious =>
            have published : (left.ring.core.producers producer).ticket = none :=
              Option.isNone_iff_eq_none.mp (Option.isSome_eq_false_iff.mp hidden)
            exact ⟨BroadcastRing.State.wakeReaders_unnoticed published ran id, fun _ _ => rfl,
              fun _ _ => rfl⟩
        | _ => cases hidden
      · cases stepped
  | consumer other label =>
      rcases consumer_step stepped with ⟨own, moved, ran, rfl⟩
      by_cases here : other = id
      · subst here
        refine alike_consumer (own_unnoticed own ?_ ran) fun apart => absurd rfl apart
        rintro rfl
        exact spares rfl
      · rw [shownBut, if_neg here] at hidden
        rcases other_unnoticed id own hidden ran with ⟨ring, feed, egress⟩
        exact alike_consumer ring fun _ => ⟨feed, egress⟩

theorem unwinds (tuning : ReaderId → Tuning) (id : ReaderId) :
    (system geometry Producer ReaderId tuning).Unwinds (SparesRing id) (shownBut id)
      (answersBut id) (Alike id) where
  symm := Alike.symm
  hidden := by
    intro left right label after spares hidden stepped alike
    exact ⟨.hidden spares hidden stepped alike, answersBut_hidden hidden⟩
  shown := by
    intro left right label leftAfter rightAfter _ _ leftShown rightShown leftStep rightStep alike
    have others := others_of_shown leftShown
    constructor
    · cases label with
      | ingest label => exact alike.ingest leftShown rightShown leftStep rightStep
      | consumer other label =>
          have apart : other ≠ id := of_decide_eq_false others
          rw [shownBut, if_neg apart] at leftShown rightShown
          exact alike.consumer apart leftShown rightShown leftStep rightStep
    · rw [answersBut, answersBut, others]
      exact alike.answers others leftStep rightStep

/-- In topology B nothing a consumer does or suffers reaches another, as long as
its feed is not closed before the ring. -/
theorem isolates (tuning : ReaderId → Tuning) (id : ReaderId) :
    (system geometry Producer ReaderId tuning).Isolates (SparesRing id) (shownBut id)
      (answersBut id) (SameBut id) := by
  refine (unwinds tuning id).isolates (Alike.refl id) ?_
  intro left right alike other apart
  exact ⟨alike.feeds other apart, alike.egresses other apart,
    congrArg (fun reader => reader.cursor) (alike.ring.readers other apart), alike.ring.closed⟩

end

end RingGateway

end TelemetryGateway
