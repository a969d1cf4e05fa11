import TelemetryGateway.Gateway.Holes
import TelemetryGateway.Gateway.QueueShutdown
import TelemetryGateway.Gateway.RingShutdown

/-! # What a stopped egress thread has sent

The thread returns after an empty pop and a positive answer of `closed`, which
are two calls. A last batch and the close that fall between them are answered by
the return of the thread. -/

namespace TelemetryGateway

/-- In both topologies, as long as the feed is not closed with frames in it
between an empty pop and the question that follows, the thread returns with
everything sent. -/
theorem shutdown_drains_unless_raced (tuning : Tuning) :
    (∀ (sinks : Nat) (sink : Fin sinks)
      (state : QueueTopology.State sinks × QueueTopology.Shutdown.Ledger),
      (QueueTopology.Shutdown.observed sink tuning).ReachableUnder
        (fun state label => QueueTopology.Shutdown.Orderly sink state.1 label ∧
          QueueTopology.Shutdown.Unraced sink state.1 label) state →
      state.1.egress.phase = .returned → state.1.egress.egress.clientFd ≠ none →
      QueueTopology.Shutdown.Drained state.1 state.2) ∧
    (∀ (geometry : BroadcastRing.Geometry) (Producer ReaderId : Type) [DecidableEq Producer]
      [DecidableEq ReaderId] (me : ReaderId)
      (state : RingTopology.State geometry Producer ReaderId),
      (RingTopology.Shutdown.system geometry Producer me tuning).ReachableUnder
        (fun state label => RingTopology.Shutdown.Orderly state label ∧
          RingTopology.Shutdown.Unraced me state label) state →
      state.egress.phase = .returned → state.egress.egress.clientFd ≠ none →
      RingTopology.Shutdown.Drained me state) := by
  constructor
  · intro sinks sink state reached returned client
    exact (QueueTopology.Shutdown.draining_of_reachable reached).drained returned client
  · intro geometry Producer ReaderId _ _ me state reached returned client
    exact (RingTopology.Shutdown.draining_of_reachable reached).drained returned client

/-! ## Runs of both topologies

A client is there, one frame is ingested, and the thread is stopped. -/

theorem queue_initial : (QueueTopology.Shutdown.observed (0 : Fin 1) {}).initial
    (.initial (fun _ => 2) { tuning := {} }, .fresh) :=
  ⟨⟨_, 3, 4, _, rfl, rfl⟩, rfl⟩

theorem attached_open : (RingTopology.Shutdown.system _ Unit () {}).initial attached :=
  ⟨attached_initial, rfl⟩

def sendAndStopQueue : List (QueueTopology.Label 1) :=
  connect.map .egress ++ ingestQueue 1 ++ [.pop] ++ (sendBatch 56).map .egress ++
    [.egress .stop, .fanOut (.close ⟨0, Nat.one_pos⟩), .pop, .closed]

def sendAndStopRing : List (RingTopology.Label Unit Unit) :=
  connect.map .egress ++ ingestRing 1 ++ [.pop] ++ readerSteps 8 ++ [.resume] ++
    (sendBatch 56).map .egress ++ [.egress .stop, .ring .close, .ring .closeNotify, .pop] ++
    readerSteps 1 ++ [.resume] ++ readerSteps 1 ++ [.resume, .closed] ++ readerSteps 1 ++ [.resume]

theorem shutdown_drains_sendAndStop :
    (∃ state, (QueueTopology.Shutdown.observed 0 {}).run
        (.initial (fun _ => 2) { tuning := {} }, .fresh) sendAndStopQueue = some state ∧
      state.2.accepted.length = 1 ∧ QueueTopology.Shutdown.Drained state.1 state.2) ∧
    (∃ state, (RingTopology.Shutdown.system _ Unit () {}).run attached sendAndStopRing =
        some state ∧
      state.ring.core.stream.length = 1 ∧ RingTopology.Shutdown.Drained () state) := by
  constructor
  · have final : ((QueueTopology.Shutdown.observed 0 {}).runUnder
        (fun state label => QueueTopology.Shutdown.Orderly 0 state.1 label ∧
          QueueTopology.Shutdown.Unraced 0 state.1 label)
        (.initial (fun _ => 2) { tuning := {} }, .fresh) sendAndStopQueue).map
        (fun state => (state.1.egress.phase, state.1.egress.egress.clientFd,
          state.2.accepted.length)) = some (.returned, some 5, 1) := by
      decide +kernel
    rcases Option.map_eq_some_iff.mp final with ⟨state, ran, facts⟩
    rcases Prod.mk.inj facts with ⟨returned, rest⟩
    rcases Prod.mk.inj rest with ⟨client, accepted⟩
    have reached := System.ReachableUnder.runUnder (.start queue_initial) _ ran
    exact ⟨state, System.run_of_runUnder ran, accepted,
      (shutdown_drains_unless_raced {}).1 1 0 state reached returned (by rw [client]; nofun)⟩
  · have final : ((RingTopology.Shutdown.system _ Unit () {}).runUnder
        (fun state label => RingTopology.Shutdown.Orderly state label ∧
          RingTopology.Shutdown.Unraced () state label) attached sendAndStopRing).map
        (fun state => (state.egress.phase, state.egress.egress.clientFd,
          state.ring.core.stream.length)) = some (.returned, some 5, 1) := by
      decide +kernel
    rcases Option.map_eq_some_iff.mp final with ⟨state, ran, facts⟩
    rcases Prod.mk.inj facts with ⟨returned, rest⟩
    rcases Prod.mk.inj rest with ⟨client, published⟩
    have reached := System.ReachableUnder.runUnder (.start attached_open) _ ran
    exact ⟨state, System.run_of_runUnder ran, published,
      (shutdown_drains_unless_raced {}).2 _ Unit Unit () state reached returned
        (by rw [client]; nofun)⟩

def stopBehindPopQueue : List (QueueTopology.Label 1) :=
  connect.map .egress ++ [.pop] ++ ingestQueue 1 ++
    [.egress .stop, .fanOut (.close ⟨0, Nat.one_pos⟩), .closed]

def stopBehindPopRing : List (RingTopology.Label Unit Unit) :=
  connect.map .egress ++ [.pop] ++ readerSteps 1 ++ ingestRing 1 ++
    [.egress .stop, .ring .close, .ring .closeNotify, .resume] ++ readerSteps 1 ++
    [.resume, .closed] ++ readerSteps 1 ++ [.resume]

theorem last_frame_stranded :
    (∃ state, (QueueTopology.Shutdown.observed (0 : Fin 1) {}).ReachableUnder
        (fun state label => QueueTopology.Shutdown.Orderly 0 state.1 label) state ∧
      state.1.egress.phase = .returned ∧ state.1.egress.egress.clientFd = some 5 ∧
      state.2.gone = [] ∧ ¬ QueueTopology.Shutdown.Drained state.1 state.2) ∧
    (∃ state : RingTopology.State BroadcastRing.Geometry.smallest Unit Unit,
      (RingTopology.Shutdown.system _ Unit () {}).ReachableUnder
        RingTopology.Shutdown.Orderly state ∧
      state.egress.phase = .returned ∧ state.egress.egress.clientFd = some 5 ∧
      state.egress.history.popped = [] ∧ ¬ RingTopology.Shutdown.Drained () state) := by
  constructor
  · have final : ((QueueTopology.Shutdown.observed 0 {}).runUnder
        (fun state label => QueueTopology.Shutdown.Orderly 0 state.1 label)
        (.initial (fun _ => 2) { tuning := {} }, .fresh) stopBehindPopQueue).map
        (fun state => (state.1.egress.phase, state.1.egress.egress.clientFd,
          state.2.gone.length, state.2.accepted.length)) = some (.returned, some 5, 0, 1) := by
      decide +kernel
    rcases Option.map_eq_some_iff.mp final with ⟨state, ran, facts⟩
    rcases Prod.mk.inj facts with ⟨returned, rest⟩
    rcases Prod.mk.inj rest with ⟨client, counts⟩
    rcases Prod.mk.inj counts with ⟨gone, accepted⟩
    have reached := System.ReachableUnder.runUnder (.start queue_initial) _ ran
    refine ⟨state, reached, returned, client, List.eq_nil_of_length_eq_zero gone, ?_⟩
    intro drained
    have lengths := congrArg List.length drained.complete
    rw [List.length_map, gone, accepted] at lengths
    cases lengths
  · have final : ((RingTopology.Shutdown.system _ Unit () {}).runUnder
        RingTopology.Shutdown.Orderly attached stopBehindPopRing).map
        (fun state => (state.egress.phase, state.egress.egress.clientFd,
          state.egress.history.popped.length, (state.ring.readers ()).start,
          state.ring.core.stream.length, state.ring.core.writePos)) =
        some (.returned, some 5, 0, 0, 1, 1) := by
      decide +kernel
    rcases Option.map_eq_some_iff.mp final with ⟨state, ran, facts⟩
    rcases Prod.mk.inj facts with ⟨returned, rest⟩
    rcases Prod.mk.inj rest with ⟨client, counts⟩
    rcases Prod.mk.inj counts with ⟨popped, ring⟩
    rcases Prod.mk.inj ring with ⟨start, issued⟩
    rcases Prod.mk.inj issued with ⟨length, writePos⟩
    have nothing := List.eq_nil_of_length_eq_zero popped
    have reached := System.ReachableUnder.runUnder (.start attached_open) _ ran
    refine ⟨state, reached, returned, client, nothing, ?_⟩
    intro drained
    have inside : 0 < state.ring.core.stream.length := by rw [length]; exact Nat.one_pos
    rcases drained.complete 0 _ (Nat.le_of_eq start) (List.getElem?_eq_getElem inside) with
      found | overwritten
    · rw [nothing] at found
      cases found
    · rw [writePos] at overwritten
      cases overwritten with
      | step impossible => cases impossible

end TelemetryGateway
