import TelemetryGateway.Gateway.Holes
import TelemetryGateway.Gateway.QueueGateway
import TelemetryGateway.Gateway.RingGateway

/-! # Consumers are isolated from each other

In topology A each consumer owns its queue. In topology B they share the ring,
and with it the flag that `RingFeed::close` sets for one of them. -/

namespace TelemetryGateway

/-- Whatever one consumer does or suffers, the others are given the same answers
and end the same. In topology B this takes that its feed is not closed while the
ring is open. -/
theorem consumers_isolated_while_ring_spared {sinks : Nat} (queueTuning : Fin sinks → Tuning)
    (sink : Fin sinks) (geometry : BroadcastRing.Geometry) (Producer : Type) {ReaderId : Type}
    [DecidableEq Producer] [DecidableEq ReaderId] (ringTuning : ReaderId → Tuning)
    (id : ReaderId) :
    (QueueGateway.system sinks queueTuning).Isolates (fun _ _ => True)
      (QueueGateway.shownBut sink) (QueueGateway.answersBut sink) (QueueGateway.SameBut sink) ∧
    (RingGateway.system geometry Producer ReaderId ringTuning).Isolates
      (RingGateway.SparesRing id) (RingGateway.shownBut id) (RingGateway.answersBut id)
      (RingGateway.SameBut id) :=
  ⟨QueueGateway.isolates queueTuning sink, RingGateway.isolates ringTuning id⟩

/-! ## Two consumers behind queues -/

namespace QueueGateway

def pair : State 2 where
  fanOut := .create fun _ => 2
  egresses := fun _ => .initial { tuning := {} }
  lossesAtPop := fun _ => 0

theorem pair_initial : (system 2 fun _ => {}).initial pair :=
  ⟨_, rfl, fun _ => ⟨3, 4, _, rfl, rfl, rfl⟩⟩

def ofConsumer (sink : Fin 2) (steps : List (QueueTopology.Label 2)) : List (Label 2) :=
  steps.map (.consumer sink)

def stopped : Fin 2 := ⟨0, Nat.zero_lt_two⟩

def served : Fin 2 := ⟨1, Nat.one_lt_two⟩

def ingestOne : List (Label 2) :=
  [.ingest (.drain [blank]), .ingest .push, .ingest .push, .ingest .push]

/-- The first consumer takes its frame and is stopped before the second takes
its own. -/
def stopFirst : List (Label 2) :=
  ofConsumer stopped (connect.map .egress) ++ ingestOne ++ ofConsumer stopped [.pop] ++
    ofConsumer served (connect.map .egress) ++
    ofConsumer stopped [.egress .stop, .fanOut (.close stopped)] ++ ofConsumer served [.pop]

def leaveFirst : List (Label 2) :=
  ingestOne ++ ofConsumer served (connect.map .egress ++ [.pop])

end QueueGateway

/-! ## Two consumers on a ring -/

namespace RingGateway

def pair : State BroadcastRing.Geometry.smallest Unit Bool where
  ring := { BroadcastRing.State.empty fun _ => 0 with
    readers := fun _ => { BroadcastRing.Reader.fresh 0 with phase := .done .attached } }
  feeds := fun _ => {}
  egresses := fun _ => .initial { tuning := {} }

theorem pair_initial :
    (system BroadcastRing.Geometry.smallest Unit Bool fun _ => {}).initial pair := by
  have fresh : (BroadcastRing.system BroadcastRing.Geometry.smallest Unit Bool).ReachableUnder
      (fun _ label => label.Bus) (.empty fun _ => 0) := .start ⟨_, rfl⟩
  have ran : (BroadcastRing.system BroadcastRing.Geometry.smallest Unit Bool).run
      (.empty fun _ => 0) [.call false .attach, .reader false, .call true .attach, .reader true] =
      some pair.ring := by
    have attached (readers : Bool → BroadcastRing.Reader)
        (both : ∀ id, readers id = pair.ring.readers id) :
        some { pair.ring with readers := readers } = some pair.ring := by
      rw [funext both]
    refine attached _ fun id => ?_
    cases id <;> rfl
  refine ⟨.run fresh _ ?_ ran, fun _ => ⟨rfl, rfl, 3, 4, _, rfl, rfl⟩⟩
  refine System.guarded_of_labels _ _ ?_ _
  intro label member _
  revert label
  decide

def ofConsumer (id : Bool) (steps : List (RingTopology.Label Unit Bool)) : List (Label Unit Bool) :=
  steps.map (.consumer id)

def reads (id : Bool) (count : Nat) : List (RingTopology.Label Unit Bool) :=
  List.replicate count (.ring (.reader id))

/-- A `pop_batch` on an empty ring: it waits until its time is up. -/
def idlePop (id : Bool) : List (RingTopology.Label Unit Bool) :=
  [.pop] ++ reads id 1 ++ [.resume] ++ reads id 1 ++ [.resume] ++ reads id 6 ++
    [.ring (.wakeup id true)] ++ reads id 4 ++ [.resume] ++ reads id 1 ++ [.resume]

/-- `Egress::stop`. -/
def stop : List (RingTopology.Label Unit Bool) :=
  [.egress .stop, .ring .close]

/-- One consumer is stopped while the other asks whether its feed is closed. -/
def stopOther : List (Label Unit Bool) :=
  ofConsumer false (connect.map .egress ++ idlePop false ++ [.closed]) ++ ofConsumer true stop ++
    ofConsumer false (reads false 1 ++ [.resume])

def leaveOther : List (Label Unit Bool) :=
  ofConsumer false (connect.map .egress ++ idlePop false ++ [.closed]) ++
    ofConsumer false (reads false 1 ++ [.resume])

def ingestOne (steps : Nat) : List (Label Unit Bool) :=
  .ingest (.publishBatch () [Frame.zero]) :: List.replicate steps (.ingest (.producer () false))

/-- One consumer is blocked when a frame arrives, the other comes to read it. -/
def blockOther : List (Label Unit Bool) :=
  ofConsumer true (connect.map .egress ++ (idlePop true).take 11) ++ ingestOne 9 ++
    ofConsumer false (connect.map .egress ++ [.pop] ++ reads false 8 ++ [.resume])

def withoutOther : List (Label Unit Bool) :=
  ingestOne 8 ++ ofConsumer false (connect.map .egress ++ [.pop] ++ reads false 8 ++ [.resume])

theorem sparesRing_of_ne {id : ReaderId} {label : Label Producer ReaderId}
    (notClose : label ≠ .consumer id (.ring .close)) (state : State geometry Producer ReaderId) :
    SparesRing id state label := by
  unfold SparesRing
  split
  · intro same
    subst same
    exact absurd rfl notClose
  · trivial

end RingGateway

/-- A consumer that is stopped, in topology A, and one that waits on the idle
path, in topology B: the other one gets its frame either way. -/
theorem consumers_isolated_stopFirst_blockOther :
    (∃ left right,
      (QueueGateway.system 2 fun _ => {}).run QueueGateway.pair
        QueueGateway.stopFirst = some left ∧
      (QueueGateway.system 2 fun _ => {}).run QueueGateway.pair
        QueueGateway.leaveFirst = some right ∧
      (left.egresses QueueGateway.served).history.popped.length = 1 ∧
      QueueGateway.SameBut QueueGateway.stopped left right) ∧
    (∃ left right,
      (RingGateway.system BroadcastRing.Geometry.smallest Unit Bool fun _ => {}).run
        RingGateway.pair RingGateway.blockOther = some left ∧
      (RingGateway.system BroadcastRing.Geometry.smallest Unit Bool fun _ => {}).run
        RingGateway.pair RingGateway.withoutOther = some right ∧
      (left.egresses false).history.popped.length = 1 ∧ RingGateway.SameBut true left right) := by
  have guarded (schedule : List (RingGateway.Label Unit Bool))
      (spares : ∀ label ∈ schedule, label ≠ .consumer true (.ring .close)) :
      (RingGateway.system BroadcastRing.Geometry.smallest Unit Bool fun _ => {}).Guarded
        (RingGateway.SparesRing true) RingGateway.pair schedule :=
    System.guarded_of_labels _ _
      (fun label member state => RingGateway.sparesRing_of_ne (spares label member) state) _
  have unguarded (schedule : List (QueueGateway.Label 2)) :
      (QueueGateway.system 2 fun _ => {}).Guarded (fun _ _ => True) QueueGateway.pair schedule :=
    System.guarded_of_labels _ _ (fun _ _ _ => trivial) _
  rcases consumers_isolated_while_ring_spared (fun _ => {}) QueueGateway.stopped
    BroadcastRing.Geometry.smallest Unit (fun _ : Bool => {}) true with ⟨behindQueues, onRing⟩
  constructor
  · have first : ((QueueGateway.system 2 fun _ => {}).run QueueGateway.pair
        QueueGateway.stopFirst).map
        (fun state => (state.egresses QueueGateway.served).history.popped.length) = some 1 := by
      decide +kernel
    have second : ((QueueGateway.system 2 fun _ => {}).run QueueGateway.pair
        QueueGateway.leaveFirst).isSome = true := by
      decide +kernel
    rcases Option.map_eq_some_iff.mp first with ⟨left, leftRun, popped⟩
    rcases Option.isSome_iff_exists.mp second with ⟨right, rightRun⟩
    have same := behindQueues QueueGateway.pair _ _ left right QueueGateway.pair_initial
      (unguarded _) (unguarded _) leftRun rightRun (by decide +kernel)
    exact ⟨left, right, leftRun, rightRun, popped, same.2⟩
  · have first : ((RingGateway.system BroadcastRing.Geometry.smallest Unit Bool fun _ => {}).run
        RingGateway.pair RingGateway.blockOther).map
        (fun state => (state.egresses false).history.popped.length) = some 1 := by
      decide +kernel
    have second : ((RingGateway.system BroadcastRing.Geometry.smallest Unit Bool fun _ => {}).run
        RingGateway.pair RingGateway.withoutOther).isSome = true := by
      decide +kernel
    rcases Option.map_eq_some_iff.mp first with ⟨left, leftRun, popped⟩
    rcases Option.isSome_iff_exists.mp second with ⟨right, rightRun⟩
    have same := onRing RingGateway.pair _ _ left right RingGateway.pair_initial
      (guarded _ (by decide)) (guarded _ (by decide)) leftRun rightRun (by decide +kernel)
    exact ⟨left, right, leftRun, rightRun, popped, same.2⟩

namespace RingGateway

/-- The stopped consumer takes the other down with it: its egress thread finds
the ring closed and returns. -/
theorem stopping_one_ends_another :
    (∃ left right,
      (system BroadcastRing.Geometry.smallest Unit Bool fun _ => {}).run pair stopOther =
        some left ∧
      (system BroadcastRing.Geometry.smallest Unit Bool fun _ => {}).run pair leaveOther =
        some right ∧
      (left.egresses false).phase = .returned ∧ (right.egresses false).phase = .waitForClient) ∧
    ¬ (system BroadcastRing.Geometry.smallest Unit Bool fun _ => {}).Isolates (fun _ _ => True)
      (shownBut true) (answersBut true) (SameBut true) := by
  have stopped : ((system BroadcastRing.Geometry.smallest Unit Bool fun _ => {}).run pair
      stopOther).map (fun state => (state.egresses false).phase) = some .returned := by
    decide +kernel
  have left : ((system BroadcastRing.Geometry.smallest Unit Bool fun _ => {}).run pair
      leaveOther).map (fun state => (state.egresses false).phase) = some .waitForClient := by
    decide +kernel
  rcases Option.map_eq_some_iff.mp stopped with ⟨first, firstRun, firstPhase⟩
  rcases Option.map_eq_some_iff.mp left with ⟨second, secondRun, secondPhase⟩
  refine ⟨⟨first, second, firstRun, secondRun, firstPhase, secondPhase⟩, ?_⟩
  intro isolates
  have unguarded (schedule : List (Label Unit Bool)) :
      (system BroadcastRing.Geometry.smallest Unit Bool fun _ => {}).Guarded (fun _ _ => True) pair
        schedule := System.guarded_of_labels _ _ (fun _ _ _ => trivial) _
  have same := isolates pair stopOther leaveOther first second pair_initial (unguarded _)
    (unguarded _) firstRun secondRun (by decide +kernel)
  have egresses := (same.2 false Bool.false_ne_true).2.1
  rw [egresses, secondPhase] at firstPhase
  cases firstPhase

end RingGateway

end TelemetryGateway
