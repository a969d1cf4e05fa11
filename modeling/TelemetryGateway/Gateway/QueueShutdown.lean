import TelemetryGateway.Egress.Willing
import TelemetryGateway.Feed.Overwrites
import TelemetryGateway.Gateway.QueueTopology

/-! # Stopping an egress thread behind a queue

`stop` closes the queue once the ingest has finished. The thread leaves when a
pop was empty and the queue is closed afterwards. What the queue still holds
then is lost: nobody pops it any more. -/

namespace TelemetryGateway.QueueTopology.Shutdown

inductive Fate
  | overwritten
  | handedOut
  deriving DecidableEq

/-- What the queue has accepted, and what became of the frames that have left
it, in the order they left. -/
structure Ledger where
  accepted : List Frame
  gone : List (Fate × Frame)

namespace Ledger

def fresh : Ledger where
  accepted := []
  gone := []

def handedOut (ledger : Ledger) : List Frame :=
  (ledger.gone.filter fun entry => entry.1 = .handedOut).map Prod.snd

/-- The frames a step of the fan-out thread puts into the queue. A closed queue
accepts none. -/
def accepts (sink : Fin sinks) (state : FanOut.State sinks) : FanOut.Label sinks → List Frame
  | .push =>
      match state.phase with
      | .push produced next =>
          if next = sink.val ∧ (state.queues sink).closed = false then produced else []
      | .poll => []
  | _ => []

def note (sink : Fin sinks) (ledger : Ledger) (before : State sinks) :
    Label sinks → State sinks → Ledger
  | .fanOut label, after =>
      { accepted := ledger.accepted ++ accepts sink before.fanOut label
        gone := ledger.gone ++ (before.fanOut.overwritten sink after.fanOut).map fun frame =>
          (.overwritten, frame) }
  | .pop, _ =>
      match before.egress.requested with
      | some size =>
          { ledger with
            gone := ledger.gone ++ ((before.fanOut.queues sink).popBatch size).2.map fun frame =>
              (.handedOut, frame) }
      | none => ledger
  | _, _ => ledger

end Ledger

def observed (sink : Fin sinks) (tuning : Tuning) :
    System (State sinks × Ledger) (Label sinks) :=
  (system sink tuning).observed Ledger.fresh (Ledger.note sink)

/-! ## The line through the queue -/

theorem accepts_line {state after : FanOut.State sinks} {sink : Fin sinks}
    {label : FanOut.Label sinks} (others : label.pops sink = false)
    (stepped : state.step label = some after) :
    state.overwritten sink after ++ (after.queues sink).contents =
        (state.queues sink).contents ++ Ledger.accepts sink state label := by
  have untouched {next : FanOut.State sinks} (same : next.queues sink = state.queues sink) :
      state.overwritten sink next ++ (next.queues sink).contents =
        (state.queues sink).contents := by
    rw [FanOut.State.overwritten, same, Nat.sub_self, List.take_zero]
    rfl
  cases FanOut.State.step_cases stepped with
  | drain batch polling => exact (untouched rfl).trans (List.append_nil _).symm
  | push produced next pushing =>
      have accepts : Ledger.accepts sink state .push =
          if next = sink.val ∧ (state.queues sink).closed = false then produced else [] := by
        simp only [Ledger.accepts, pushing]
      rw [accepts]
      by_cases own : next = sink.val
      · subst own
        have queue : (state.push produced sink.val).queues sink =
            ((state.queues sink).pushBatch produced).1 := by
          rw [FanOut.State.push, dif_pos sink.isLt]
          exact Function.update_self ..
        cases isClosed : (state.queues sink).closed with
        | true =>
            have refuses : ¬ (sink.val = sink.val ∧ true = false) := by
              rintro ⟨_, isOpen⟩
              cases isOpen
            rw [if_neg refuses, List.append_nil]
            apply untouched
            rw [queue, BoundedQueue.pushBatch_closed isClosed]
        | false =>
            rw [if_pos ⟨rfl, rfl⟩, FanOut.State.overwritten, queue, pushing]
            exact (BoundedQueue.pushBatch_splits isClosed produced).1
      · rw [if_neg (fun both => own both.1), List.append_nil]
        apply untouched
        unfold FanOut.State.push
        split
        · have apart : sink ≠ ⟨next, ‹_›⟩ := fun same => own (congrArg Fin.val same).symm
          exact Function.update_of_ne apart ..
        · rfl
  | pop other size =>
      have apart : sink ≠ other := fun same => by simp [FanOut.Label.pops, same] at others
      exact (untouched (Function.update_of_ne apart ..)).trans (List.append_nil _).symm
  | close other =>
      refine Eq.trans ?_ (List.append_nil _).symm
      by_cases own : sink = other
      · subst own
        have queue : (state.setQueue sink (state.queues sink).close).queues sink =
            (state.queues sink).close := Function.update_self ..
        rw [FanOut.State.overwritten, queue, BoundedQueue.close, Nat.sub_self, List.take_zero]
        rfl
      · exact untouched (Function.update_of_ne own ..)

/-- The frames of the queue stand between those that have left it and those
still to come. -/
structure Queued (sink : Fin sinks) (state : State sinks) (ledger : Ledger) : Prop where
  line : ledger.gone.map Prod.snd ++ (state.fanOut.queues sink).contents = ledger.accepted
  popped : ledger.handedOut = state.egress.history.popped
  bus : ∀ frame ∈ (state.fanOut.queues sink).contents, Wire.isControl frame = false
  stamped : state.fanOut.Stamped

theorem Queued.fanOut {sink : Fin sinks} {state : State sinks} {ledger : Ledger}
    (queued : Queued sink state ledger) {label : FanOut.Label sinks} {next : FanOut.State sinks}
    (others : label.pops sink = false) (moved : state.fanOut.step label = some next) :
    Queued sink { state with fanOut := next }
      (ledger.note sink state (.fanOut label) { state with fanOut := next }) := by
  have line := accepts_line others moved
  refine ⟨?_, ?_, ?_, queued.stamped.step moved⟩
  · change (ledger.gone ++ _).map Prod.snd ++ (next.queues sink).contents = _
    rw [List.map_append, List.map_map, List.append_assoc]
    change ledger.gone.map Prod.snd ++
      ((state.fanOut.overwritten sink next).map id ++ (next.queues sink).contents) = _
    rw [List.map_id, line, ← List.append_assoc, queued.line]
    rfl
  · rw [← queued.popped]
    change ((ledger.gone ++ _).filter _).map Prod.snd = _
    rw [List.filter_append, List.filter_map]
    simp [Ledger.handedOut, Function.comp_def]
  · intro frame member
    have found : frame ∈ (state.fanOut.queues sink).contents ++
        Ledger.accepts sink state.fanOut label := by
      rw [← line]
      exact List.mem_append_right _ member
    rcases List.mem_append.mp found with old | new
    · exact queued.bus frame old
    · cases label with
      | push =>
          simp only [Ledger.accepts] at new
          split at new
          · rename_i produced position pushing
            split at new
            · exact (queued.stamped produced position pushing).2 frame new
            · cases new
          · cases new
      | _ => cases new

theorem Queued.pop {sink : Fin sinks} {state after : State sinks} {ledger : Ledger}
    (queued : Queued sink state ledger) {size : Nat}
    (requested : state.egress.requested = some size)
    (popped : state.pop sink size = some after) :
    Queued sink after (ledger.note sink state .pop after) := by
  rcases Option.map_eq_some_iff.mp popped with ⟨egress, taken, rfl⟩
  rcases (state.fanOut.queues sink).popBatch_spec size with ⟨frames, rest, _, _⟩
  have history := Egress.State.popped_step taken
  have queue : (state.fanOut.setQueue sink ((state.fanOut.queues sink).popBatch size).1).queues
      sink = ((state.fanOut.queues sink).popBatch size).1 := Function.update_self ..
  have noted : ledger.note sink state .pop
      { fanOut := state.fanOut.setQueue sink ((state.fanOut.queues sink).popBatch size).1
        egress := egress
        lossesAtPop := if ((state.fanOut.queues sink).popBatch size).2 = [] then
          state.lossesAtPop else ((state.fanOut.queues sink).popBatch size).1.losses } =
      { ledger with
        gone := ledger.gone ++ ((state.fanOut.queues sink).popBatch size).2.map fun frame =>
          (.handedOut, frame) } := by
    simp only [Ledger.note, requested]
  rw [noted]
  refine ⟨?_, ?_, ?_, queued.stamped⟩
  · dsimp only
    rw [queue, rest, List.map_append, List.map_map, List.append_assoc]
    change ledger.gone.map Prod.snd ++ (((state.fanOut.queues sink).popBatch size).2.map id ++
      (state.fanOut.queues sink).contents.drop size) = _
    rw [List.map_id, frames, List.take_append_drop, queued.line]
  · dsimp only
    rw [history, ← queued.popped, Egress.Event.frames]
    unfold Ledger.handedOut
    rw [List.filter_append, List.filter_map, List.map_append]
    simp [Function.comp_def]
  · dsimp only
    rw [queue, rest]
    intro frame member
    exact queued.bus frame (List.mem_of_mem_drop member)

/-! ## The end of the run -/

/-- The client stays and takes everything, and the queue is closed when the
ingest has finished. -/
def Orderly (sink : Fin sinks) (state : State sinks) : Label sinks → Prop
  | .fanOut (.drain _) => (state.fanOut.queues sink).closed = false
  | .fanOut (.close other) => other = sink → state.fanOut.phase = .poll
  | .egress event => event.willing = true
  | _ => True

/-- The queue is not closed with frames in it while the thread is between an
empty pop and its question whether the queue is closed. -/
def Unraced (sink : Fin sinks) (state : State sinks) : Label sinks → Prop
  | .fanOut (.close other) => other = sink → state.egress.phase = .testClosed →
      (state.fanOut.queues sink).contents = []
  | _ => True

instance (phase : FanOut.Phase) : Decidable (phase = .poll) :=
  match phase with
  | .poll => .isTrue rfl
  | .push _ _ => .isFalse nofun

instance (sink : Fin sinks) (state : State sinks) (label : Label sinks) :
    Decidable (Orderly sink state label) :=
  match label with
  | .fanOut (.drain _) => inferInstanceAs (Decidable (_ = _))
  | .fanOut (.close _) => inferInstanceAs (Decidable (_ → _))
  | .fanOut .push => .isTrue trivial
  | .fanOut (.pop _ _) => .isTrue trivial
  | .pop => .isTrue trivial
  | .closed => .isTrue trivial
  | .egress _ => inferInstanceAs (Decidable (_ = _))

instance (sink : Fin sinks) (state : State sinks) (label : Label sinks) :
    Decidable (Unraced sink state label) :=
  match label with
  | .fanOut (.close _) => inferInstanceAs (Decidable (_ → _ → _))
  | .fanOut (.drain _) => .isTrue trivial
  | .fanOut .push => .isTrue trivial
  | .fanOut (.pop _ _) => .isTrue trivial
  | .pop => .isTrue trivial
  | .closed => .isTrue trivial
  | .egress _ => .isTrue trivial

structure Draining (tuning : Tuning) (sink : Fin sinks) (state : State sinks) (ledger : Ledger) :
    Prop where
  reached : (Egress.system tuning).Reachable state.egress
  forwarding : state.egress.Forwarding
  queued : Queued sink state ledger
  testing : state.egress.phase = .testClosed → (state.fanOut.queues sink).closed = true →
    (state.fanOut.queues sink).contents = []
  returned : state.egress.phase = .returned → state.egress.egress.clientFd ≠ none →
    (state.fanOut.queues sink).closed = true ∧ (state.fanOut.queues sink).contents = []

theorem closed_step {state after : FanOut.State sinks} {sink : Fin sinks}
    {label : FanOut.Label sinks} (others : label.pops sink = false)
    (stepped : state.step label = some after) (isClosed : (state.queues sink).closed = true) :
    (after.queues sink).closed = true ∧
      (after.queues sink).contents = (state.queues sink).contents := by
  cases FanOut.State.step_sink others stepped with
  | same queue _ =>
      rw [queue]
      exact ⟨isClosed, rfl⟩
  | close queue _ =>
      rw [queue]
      exact ⟨rfl, rfl⟩
  | push produced pushing queue _ =>
      rw [queue, BoundedQueue.pushBatch_closed isClosed]
      exact ⟨isClosed, rfl⟩

theorem closes_step {state after : FanOut.State sinks} {sink : Fin sinks}
    {label : FanOut.Label sinks} (stepped : state.step label = some after)
    (isOpen : (state.queues sink).closed = false) (closes : (after.queues sink).closed = true) :
    label = .close sink ∧ after.queues sink = (state.queues sink).close := by
  have stays {next : FanOut.State sinks} (same : (next.queues sink).closed = false)
      (closed : (next.queues sink).closed = true) :
      label = .close sink ∧ next.queues sink = (state.queues sink).close := by
    rw [same] at closed
    cases closed
  have updated {other : Fin sinks} {queue : FrameQueue}
      (same : queue.closed = (state.queues other).closed) :
      ((state.setQueue other queue).queues sink).closed = false := by
    change (Function.update state.queues other queue sink).closed = false
    by_cases own : sink = other
    · subst own
      rw [Function.update_self, same]
      exact isOpen
    · rw [Function.update_of_ne own]
      exact isOpen
  cases FanOut.State.step_cases stepped with
  | drain batch polling => exact stays isOpen closes
  | push produced next pushing =>
      refine stays ?_ closes
      unfold FanOut.State.push
      split
      · exact updated (BoundedQueue.closed_pushBatch _ _)
      · exact isOpen
  | pop other size =>
      exact stays (updated ((state.queues other).popBatch_spec size).2.2.2) closes
  | close other =>
      by_cases own : sink = other
      · subst own
        exact ⟨rfl, Function.update_self ..⟩
      · have same : (state.setQueue other (state.queues other).close).queues sink =
            state.queues sink := Function.update_of_ne own ..
        rw [same, isOpen] at closes
        cases closes

theorem Draining.fanOut {tuning : Tuning} {sink : Fin sinks} {state : State sinks}
    {ledger : Ledger} (draining : Draining tuning sink state ledger) {label : FanOut.Label sinks}
    (unraced : Unraced sink state (.fanOut label)) {next : FanOut.State sinks}
    (others : label.pops sink = false) (moved : state.fanOut.step label = some next) :
    Draining tuning sink { state with fanOut := next }
      (ledger.note sink state (.fanOut label) { state with fanOut := next }) := by
  refine ⟨draining.reached, draining.forwarding, draining.queued.fanOut others moved, ?_, ?_⟩
  · intro testing closed
    cases isClosed : (state.fanOut.queues sink).closed with
    | true =>
        rw [(closed_step others moved isClosed).2]
        exact draining.testing testing isClosed
    | false =>
        rcases closes_step moved isClosed closed with ⟨rfl, queue⟩
        dsimp only
        rw [queue]
        exact unraced rfl testing
  · intro returned client
    rcases draining.returned returned client with ⟨isClosed, empty⟩
    have kept := closed_step others moved isClosed
    exact ⟨kept.1, kept.2.trans empty⟩

theorem Draining.pop {tuning : Tuning} {sink : Fin sinks} {state after : State sinks}
    {ledger : Ledger} (draining : Draining tuning sink state ledger) {size : Nat}
    (requested : state.egress.requested = some size)
    (popped : state.pop sink size = some after) :
    Draining tuning sink after (ledger.note sink state .pop after) := by
  have queued := draining.queued.pop requested popped
  rcases Option.map_eq_some_iff.mp popped with ⟨egress, taken, rfl⟩
  rcases (state.fanOut.queues sink).popBatch_spec size with ⟨frames, rest, _, _⟩
  have queue : (state.fanOut.setQueue sink ((state.fanOut.queues sink).popBatch size).1).queues
      sink = ((state.fanOut.queues sink).popBatch size).1 := Function.update_self ..
  have framed := Egress.State.framed_of_reachable draining.reached
  have bus : ∀ frame ∈ (Egress.Event.pop ((state.fanOut.queues sink).popBatch size).2).frames,
      Wire.isControl frame = false := by
    intro frame member
    rw [Egress.Event.frames, frames] at member
    exact draining.queued.bus frame (List.mem_of_mem_take member)
  refine ⟨.next draining.reached trivial taken, draining.forwarding.step framed rfl bus taken,
    queued, ?_, ?_⟩
  · intro testing _
    dsimp only
    rw [queue, rest]
    rcases Egress.State.step_testClosed taken testing with ⟨impossible, _⟩ | ⟨empty, popping⟩
    · cases impossible
    · -- a buffer with room came back empty
      have room : 0 < size := by
        rw [Egress.State.requested, popping, Option.some.injEq] at requested
        rw [← requested]
        exact Egress.State.requests_something draining.reached
      have nothing := Egress.Event.pop.inj empty
      rw [frames, List.take_eq_nil_iff] at nothing
      rcases nothing with none | none
      · omega
      · rw [none, List.drop_nil]
  · intro returned client
    rcases Egress.State.step_returned taken returned client with ⟨impossible, _⟩ | ⟨impossible, _⟩
    · cases impossible
    · cases impossible

theorem Draining.moveEgress {tuning : Tuning} {sink : Fin sinks} {state : State sinks}
    {ledger : Ledger} (draining : Draining tuning sink state ledger) {event : Egress.Event}
    {egress : Egress.State} (willing : event.willing = true)
    (notPop : ∀ frames, event ≠ .pop frames)
    (answer : event = .closed true → (state.fanOut.queues sink).closed = true)
    (moved : state.egress.step event = some egress) :
    Draining tuning sink { state with egress := egress } ledger := by
  have framed := Egress.State.framed_of_reachable draining.reached
  have nothing := Egress.Event.frames_of_not_pop notPop
  have popped : egress.history.popped = state.egress.history.popped := by
    rw [Egress.State.popped_step moved, nothing, List.append_nil]
  refine ⟨.next draining.reached trivial moved, ?_, ?_, ?_, ?_⟩
  · refine draining.forwarding.step framed willing ?_ moved
    rw [nothing]
    exact fun _ member => nomatch member
  · exact ⟨draining.queued.line, draining.queued.popped.trans popped.symm, draining.queued.bus,
      draining.queued.stamped⟩
  · intro testing
    rcases Egress.State.step_testClosed moved testing with ⟨_, before⟩ | ⟨popping, _⟩
    · exact draining.testing before
    · exact absurd popping (notPop [])
  · intro returned client
    rcases Egress.State.step_returned moved returned client with ⟨_, before, had⟩ | ⟨asked, before⟩
    · exact draining.returned before had
    · have isClosed := answer asked
      exact ⟨isClosed, draining.testing before isClosed⟩

theorem Draining.step {tuning : Tuning} {sink : Fin sinks} {state after : State sinks}
    {ledger : Ledger} (draining : Draining tuning sink state ledger) {label : Label sinks}
    (orderly : Orderly sink state label) (unraced : Unraced sink state label)
    (stepped : state.step sink label = some after) :
    Draining tuning sink after (ledger.note sink state label after) := by
  cases State.step_cases stepped with
  | fanOut label next others moved => exact draining.fanOut unraced others moved
  | pop size requested popped => exact draining.pop requested popped
  | closed answer next answered =>
      rcases Option.map_eq_some_iff.mp stepped with ⟨egress, asked, same⟩
      rw [← same]
      have notPop : ∀ frames, Egress.Event.closed (state.fanOut.queues sink).closed ≠
          .pop frames := nofun
      exact draining.moveEgress rfl notPop (fun yes => Egress.Event.closed.inj yes) asked
  | egress event next own moved =>
      refine draining.moveEgress orderly own ?_ moved
      intro asked
      subst asked
      cases stepped

theorem draining_of_reachable {tuning : Tuning} {sink : Fin sinks} {state : State sinks × Ledger}
    (reached : (observed sink tuning).ReachableUnder
      (fun state label => Orderly sink state.1 label ∧ Unraced sink state.1 label) state) :
    Draining tuning sink state.1 state.2 := by
  refine reached.invariant (fun state => Draining tuning sink state.1 state.2) ?_ ?_
  · rintro ⟨state, ledger⟩ ⟨initial, fresh⟩
    rcases initial with ⟨capacity, listenFd, stopFd, egress, created, rfl⟩
    cases fresh
    refine ⟨.start ⟨listenFd, stopFd, egress, created, rfl⟩,
      Egress.State.initial_forwarding egress, ⟨rfl, rfl, ?_, ?_⟩, ?_, nofun⟩
    · exact fun _ member => nomatch member
    · exact fun _ _ impossible => nomatch impossible
    · exact fun impossible => nomatch impossible
  · rintro ⟨state, ledger⟩ label ⟨after, noted⟩ _ ⟨orderly, unraced⟩ draining stepped
    rcases Option.map_eq_some_iff.mp stepped with ⟨next, moved, same⟩
    cases same
    exact draining.step orderly unraced moved

/-- Every frame that the queue accepted was overwritten or popped, and what was
popped has been sent, in the same order. -/
structure Drained (state : State sinks) (ledger : Ledger) : Prop where
  complete : ledger.gone.map Prod.snd = ledger.accepted
  popped : ledger.handedOut = state.egress.history.popped
  sent : state.egress.Sent

theorem Draining.drained {tuning : Tuning} {sink : Fin sinks} {state : State sinks}
    {ledger : Ledger} (draining : Draining tuning sink state ledger)
    (returned : state.egress.phase = .returned) (client : state.egress.egress.clientFd ≠ none) :
    Drained state ledger := by
  have framed := Egress.State.framed_of_reachable draining.reached
  have line := draining.queued.line
  rw [(draining.returned returned client).2, List.append_nil] at line
  exact ⟨line, draining.queued.popped, draining.forwarding.sent framed returned⟩

end TelemetryGateway.QueueTopology.Shutdown
