import TelemetryGateway.Gateway.QueueTopology
import TelemetryGateway.Gateway.RingTopology

/-! # Holes on a connection

A hole in front of a batch is announced. A hole inside a batch is not: the
queue may overflow between two pops of `coalesce`, and the ring may lap a reader
in the middle of `read_batch`. -/

namespace TelemetryGateway

/-- In both topologies, as long as nothing is lost inside a batch, every hole
on every connection is announced. -/
theorem holes_announced_while_batches_whole (tuning : Tuning) :
    (∀ (sinks : Nat) (sink : Fin sinks) (state : QueueTopology.State sinks),
      (QueueTopology.system sink tuning).ReachableUnder
        (QueueTopology.State.BatchesWhole sink) state → state.egress.HolesAnnounced) ∧
    (∀ (geometry : BroadcastRing.Geometry) (Producer ReaderId : Type) [DecidableEq Producer]
      [DecidableEq ReaderId] (me : ReaderId)
      (state : RingTopology.State geometry Producer ReaderId),
      (RingTopology.system geometry Producer me tuning).ReachableUnder
        (RingTopology.State.BatchesWhole me) state → state.egress.HolesAnnounced) := by
  constructor
  · intro sinks sink state reached
    have feeding := QueueTopology.State.feeding_of_reachable reached
    exact (Egress.State.continuing_of_reachable feeding.reached).announced
  · intro geometry Producer ReaderId _ _ me state reached
    have feeding := RingTopology.State.feeding_of_reachable reached
    exact (Egress.State.continuing_of_reachable feeding.reached).announced

/-! ## Runs of both topologies

A consumer is connected, and four frames are ingested: the first one, and then
three more into a buffer of two. -/

/-- A client is there and the thread is about to call `pop_batch`. -/
def connect : List Egress.Event :=
  [.poll (.answered true), .accept (some 5), .proceed, .peer false, .recv [], .clock 0]

/-- A batch that is not waited for, sent in one piece of that many bytes, and
the thread is about to call `pop_batch` again. -/
def sendBatch (bytes : Nat) : List Egress.Event :=
  [.clock 0, .clock 0, .clock 0, .proceed, .send (.sent bytes), .proceed, .proceed, .proceed,
    .proceed, .peer false, .recv [], .clock 0]

def ingestQueue (count : Nat) : List (QueueTopology.Label 1) :=
  [.fanOut (.drain (List.replicate count blank)), .fanOut .push, .fanOut .push]

def ingestRing (count : Nat) : List (RingTopology.Label Unit Unit) :=
  .ring (.publishBatch () (List.replicate count Frame.zero)) ::
    List.replicate (7 * count + 1) (.ring (.producer () false))

def readerSteps (count : Nat) : List (RingTopology.Label Unit Unit) :=
  List.replicate count (.ring (.reader ()))

def attached : RingTopology.State BroadcastRing.Geometry.smallest Unit Unit where
  ring := (BroadcastRing.State.empty fun _ => 0).setPhase () (.done .attached)
  feed := {}
  egress := .initial { tuning := {} }

theorem attached_initial :
    (RingTopology.system BroadcastRing.Geometry.smallest Unit () {}).initial attached := by
  have fresh : (BroadcastRing.system BroadcastRing.Geometry.smallest Unit Unit).ReachableUnder
      (fun _ label => label.Bus) (.empty fun _ => 0) := .start ⟨_, rfl⟩
  refine ⟨3, 4, _, rfl, .run fresh [.call () .attach, .reader ()] ?_ rfl, rfl, rfl, rfl⟩
  refine System.guarded_of_labels _ _ ?_ _
  intro label member _
  revert label
  decide

/-! ## Lost between two batches -/

def overflowBetweenBatches : List (QueueTopology.Label 1) :=
  connect.map .egress ++ ingestQueue 1 ++ [.pop] ++ (sendBatch 56).map .egress ++ ingestQueue 3 ++
    [.pop] ++ (sendBatch 136).map .egress

def lapBetweenBatches : List (RingTopology.Label Unit Unit) :=
  connect.map .egress ++ ingestRing 1 ++ [.pop] ++ readerSteps 8 ++ [.resume] ++
    (sendBatch 56).map .egress ++ ingestRing 3 ++ [.pop] ++ readerSteps 17 ++ [.resume] ++
    (sendBatch 136).map .egress

theorem holes_announced_lossBetweenBatches :
    (∃ state, (QueueTopology.system 0 {}).run (.initial (fun _ => 2) { tuning := {} })
        overflowBetweenBatches = some state ∧
      state.egress.history.current.items = [.data 0, .gap 1 1, .data 2, .data 3] ∧
      state.egress.HolesAnnounced) ∧
    (∃ state, (RingTopology.system _ Unit () {}).run attached lapBetweenBatches = some state ∧
      state.egress.history.current.items = [.data 0, .gap 1 1, .data 2, .data 3] ∧
      state.egress.HolesAnnounced) := by
  constructor
  · have final : ((QueueTopology.system 0 {}).runUnder (QueueTopology.State.BatchesWhole 0)
        (.initial (fun _ => 2) { tuning := {} }) overflowBetweenBatches).map
        (fun state => state.egress.history.current.items) =
        some [.data 0, .gap 1 1, .data 2, .data 3] := by
      decide +kernel
    rcases Option.map_eq_some_iff.mp final with ⟨state, ran, items⟩
    have reached : (QueueTopology.system (0 : Fin 1) {}).ReachableUnder
        (QueueTopology.State.BatchesWhole 0) state :=
      .runUnder (.start ⟨_, 3, 4, _, rfl, rfl⟩) _ ran
    exact ⟨state, System.run_of_runUnder ran, items,
      (holes_announced_while_batches_whole {}).1 1 0 state reached⟩
  · have final : ((RingTopology.system _ Unit () {}).runUnder
        (RingTopology.State.BatchesWhole ()) attached lapBetweenBatches).map
        (fun state => state.egress.history.current.items) =
        some [.data 0, .gap 1 1, .data 2, .data 3] := by
      decide +kernel
    rcases Option.map_eq_some_iff.mp final with ⟨state, ran, items⟩
    have reached := System.ReachableUnder.runUnder (.start attached_initial) _ ran
    exact ⟨state, System.run_of_runUnder ran, items,
      (holes_announced_while_batches_whole {}).2 _ Unit Unit () state reached⟩

/-! ## Lost inside a batch -/

/-- The queue overflows while the thread lingers for more frames. -/
def overflowInsideBatch : List (QueueTopology.Label 1) :=
  connect.map .egress ++ ingestQueue 1 ++ [.pop, .egress (.clock 0), .egress (.clock 0)] ++
    ingestQueue 3 ++ [.pop, .egress (.clock 100000)] ++ (sendBatch 136).tail.map .egress

def lapInsideBatch : List (RingTopology.Label Unit Unit) :=
  connect.map .egress ++ ingestRing 1 ++ [.pop] ++ readerSteps 7 ++ ingestRing 3 ++
    readerSteps 17 ++ [.resume] ++ (sendBatch 136).map .egress

theorem not_announced {state : Egress.State}
    (items : state.history.current.items = [.data 0, .data 2, .data 3]) :
    ¬ state.HolesAnnounced := by
  intro announced
  have holds := (announced state.history.current (List.mem_append_right _
    (List.mem_singleton.mpr rfl)) _ (List.prefix_refl _)).1
  change Announced state.history.current.items at holds
  rw [items] at holds
  rcases holds [] 0 [] 2 [.data 3] rfl (fun _ member => nomatch member) with ⟨_, next⟩ |
    ⟨count, marked, _⟩
  · cases next
  · cases marked

theorem hole_inside_batch_unannounced :
    (∃ state, (QueueTopology.system (0 : Fin 1) { lingerUs := 100 }).Reachable state ∧
      state.egress.history.past = [] ∧ state.egress.history.current.written.length = 136 ∧
      state.egress.history.current.items = [.data 0, .data 2, .data 3] ∧
      ¬ state.egress.HolesAnnounced) ∧
    (∃ state, (RingTopology.system BroadcastRing.Geometry.smallest Unit () {}).Reachable state ∧
      state.egress.history.past = [] ∧ state.egress.history.current.written.length = 136 ∧
      state.egress.history.current.items = [.data 0, .data 2, .data 3] ∧
      ¬ state.egress.HolesAnnounced) := by
  constructor
  · have final : ((QueueTopology.system 0 { lingerUs := 100 }).run
        (.initial (fun _ => 2) { tuning := { lingerUs := 100 } }) overflowInsideBatch).map
        (fun state => (state.egress.history.past, state.egress.history.current.written.length,
          state.egress.history.current.items)) =
        some ([], 136, [.data 0, .data 2, .data 3]) := by
      decide +kernel
    rcases Option.map_eq_some_iff.mp final with ⟨state, ran, facts⟩
    simp only [Prod.mk.injEq] at facts
    exact ⟨state, .execute (.start ⟨_, 3, 4, _, rfl, rfl⟩) _ ran, facts.1, facts.2.1, facts.2.2,
      not_announced facts.2.2⟩
  · have final : ((RingTopology.system _ Unit () {}).run attached lapInsideBatch).map
        (fun state => (state.egress.history.past, state.egress.history.current.written.length,
          state.egress.history.current.items)) =
        some ([], 136, [.data 0, .data 2, .data 3]) := by
      decide +kernel
    rcases Option.map_eq_some_iff.mp final with ⟨state, ran, facts⟩
    simp only [Prod.mk.injEq] at facts
    exact ⟨state, .execute (.start attached_initial) _ ran, facts.1, facts.2.1, facts.2.2,
      not_announced facts.2.2⟩

end TelemetryGateway
