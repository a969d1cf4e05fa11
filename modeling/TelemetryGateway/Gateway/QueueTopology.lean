import TelemetryGateway.Egress.Continuity
import TelemetryGateway.Feed.FanOut

/-! # An egress thread behind a queue

`QueueFeed` forwards to its own queue, which the fan-out thread fills. The two
threads and the other consumers move in any order. -/

namespace TelemetryGateway.QueueTopology

/-- `lossesAtPop` is history: what the queue had dropped when it last handed out
frames. -/
structure State (sinks : Nat) where
  fanOut : FanOut.State sinks
  egress : Egress.State
  lossesAtPop : Nat

inductive Label (sinks : Nat)
  /-- the fan-out thread, another consumer, or `close` -/
  | fanOut (label : FanOut.Label sinks)
  /-- the thread calls `pop_batch` -/
  | pop
  /-- the thread calls `closed` -/
  | closed
  | egress (event : Egress.Event)

namespace State

def initial (capacity : Fin sinks → Nat) (egress : Egress) : State sinks where
  fanOut := .create capacity
  egress := .initial egress
  lossesAtPop := 0

def pop (state : State sinks) (sink : Fin sinks) (size : Nat) : Option (State sinks) :=
  let result := (state.fanOut.queues sink).popBatch size
  (state.egress.step (.pop result.2)).map fun egress =>
    { fanOut := state.fanOut.setQueue sink result.1
      egress := egress
      lossesAtPop := if result.2 = [] then state.lossesAtPop else result.1.losses }

def step (sink : Fin sinks) (state : State sinks) : Label sinks → Option (State sinks)
  | .fanOut label =>
      if label.pops sink then none
      else (state.fanOut.step label).map fun fanOut => { state with fanOut := fanOut }
  | .pop => state.egress.requested.bind fun size => state.pop sink size
  | .closed =>
      (state.egress.step (.closed (state.fanOut.queues sink).closed)).map fun egress =>
        { state with egress := egress }
  | .egress event =>
      if event.fromFeed then none
      else (state.egress.step event).map fun egress => { state with egress := egress }

end State

def system (sink : Fin sinks) (tuning : Tuning) : System (State sinks) (Label sinks) where
  initial := fun state => ∃ capacity listenFd stopFd egress,
    Egress.create tuning (.ok listenFd) (.ok stopFd) = .ok egress ∧
      state = .initial capacity egress
  step := State.step sink

namespace State

inductive Step (sink : Fin sinks) (state : State sinks) : Label sinks → State sinks → Prop
  | fanOut (label : FanOut.Label sinks) (next : FanOut.State sinks)
      (others : label.pops sink = false) (moved : state.fanOut.step label = some next) :
      Step sink state (.fanOut label) { state with fanOut := next }
  | pop (size : Nat) (requested : state.egress.requested = some size)
      (popped : state.pop sink size = some after) : Step sink state .pop after
  | closed (answer : Bool) (next : Egress.State)
      (answered : state.egress.step (.closed answer) = some next) :
      Step sink state .closed { state with egress := next }
  | egress (event : Egress.Event) (next : Egress.State) (own : ∀ frames, event ≠ .pop frames)
      (moved : state.egress.step event = some next) :
      Step sink state (.egress event) { state with egress := next }

theorem step_cases {sink : Fin sinks} {state after : State sinks} {label : Label sinks}
    (stepped : state.step sink label = some after) : state.Step sink label after := by
  cases label with
  | fanOut label =>
      simp only [State.step] at stepped
      split at stepped
      · cases stepped
      · rename_i others
        rcases Option.map_eq_some_iff.mp stepped with ⟨fanOut, moved, rfl⟩
        exact .fanOut label fanOut (Bool.not_eq_true _ ▸ others) moved
  | pop =>
      rcases Option.bind_eq_some_iff.mp stepped with ⟨size, requested, popped⟩
      exact .pop size requested popped
  | closed =>
      rcases Option.map_eq_some_iff.mp stepped with ⟨egress, answered, rfl⟩
      exact .closed _ egress answered
  | egress event =>
      simp only [State.step] at stepped
      split at stepped
      · cases stepped
      · rename_i own
        rcases Option.map_eq_some_iff.mp stepped with ⟨egress, moved, rfl⟩
        refine .egress event egress ?_ moved
        intro frames popping
        rw [popping] at own
        exact own rfl

/-- Nothing is dropped between the pops of one batch, and the sequence counter
stays below its limit. -/
def BatchesWhole (sink : Fin sinks) (state : State sinks) : Label sinks → Prop
  | .pop => state.egress.phase.batch ≠ [] → (state.fanOut.queues sink).count ≠ 0 →
      (state.fanOut.queues sink).losses = state.lossesAtPop
  | .fanOut (.drain batch) => state.fanOut.nextSeq.toNat + batch.length < 2 ^ 64
  | _ => True

instance (sink : Fin sinks) (state : State sinks) (label : Label sinks) :
    Decidable (state.BatchesWhole sink label) :=
  match label with
  | .pop => inferInstanceAs (Decidable (_ → _ → _))
  | .fanOut (.drain _) => inferInstanceAs (Decidable (_ < _))
  | .fanOut .push => .isTrue trivial
  | .fanOut (.pop _ _) => .isTrue trivial
  | .fanOut (.close _) => .isTrue trivial
  | .closed => .isTrue trivial
  | .egress _ => .isTrue trivial

/-! ## The queue continues every batch -/

/-- The window of the queue begins behind what was handed out and what was
dropped, and behind the last frame handed out as far as nothing was dropped
since. -/
structure Feeding (tuning : Tuning) (sink : Fin sinks) (state : State sinks) : Prop where
  reached : (Egress.system tuning).ReachableUnder Egress.State.ContiguousFeed state.egress
  window : ∃ start, state.fanOut.Holds sink start ∧
    (∀ last, state.egress.history.popped.getLast? = some last →
      start + state.lossesAtPop = last.seq.toNat + 1 + (state.fanOut.queues sink).losses) ∧
    start = (state.fanOut.queues sink).losses + state.egress.history.popped.length
  counted : state.lossesAtPop ≤ (state.fanOut.queues sink).losses

theorem Feeding.continues {tuning : Tuning} {sink : Fin sinks} {state : State sinks}
    (feeding : state.Feeding tuning sink) (whole : state.BatchesWhole sink .pop) {start : Nat}
    (holds : state.fanOut.Holds sink start)
    (latest : ∀ last, state.egress.history.popped.getLast? = some last →
      start + state.lossesAtPop = last.seq.toNat + 1 + (state.fanOut.queues sink).losses)
    (size : Nat) :
    state.egress.Continues ((state.fanOut.queues sink).popBatch size).2 := by
  have numbered := (Egress.State.continuing_of_reachable feeding.reached).numbered
  have counted := feeding.counted
  have taken := ((state.fanOut.queues sink).popBatch_spec size).1
  have frames := (holds.pop size).1
  refine ⟨frames.ordinary, numbered.ordered.append frames.increasing ?_, ?_⟩
  · intro last isLast frame member
    have position := latest last isLast
    have lower := frames.start_le member
    omega
  · refine List.isChain_append.mpr ⟨numbered.consecutive, frames.consecutive, ?_⟩
    intro last isLast front isFront
    have filled : state.egress.phase.batch ≠ [] := by
      intro empty
      rw [empty] at isLast
      cases isLast
    have nonempty : (state.fanOut.queues sink).count ≠ 0 := by
      intro empty
      have none : (state.fanOut.queues sink).contents = [] :=
        List.eq_nil_of_length_eq_zero ((BoundedQueue.length_contents _).trans empty)
      rw [taken, none, List.take_nil] at isFront
      cases isFront
    rcases numbered.noted with ⟨noted, popped, _⟩
    have position := latest last (by
      rw [popped, List.getLast?_append, Option.mem_def.mp isLast]
      rfl)
    have first := frames.first isFront
    rw [whole filled nonempty] at position
    omega

theorem Feeding.pop {tuning : Tuning} {sink : Fin sinks} {state after : State sinks}
    (feeding : state.Feeding tuning sink) (whole : state.BatchesWhole sink .pop) {size : Nat}
    (stepped : state.pop sink size = some after) : after.Feeding tuning sink := by
  rcases feeding.window with ⟨start, holds, latest, gone⟩
  have continues := feeding.continues whole holds latest size
  rcases holds.pop size with ⟨numbered, moved⟩
  have dropped := ((state.fanOut.queues sink).popBatch_spec size).2.2.1
  rcases Option.map_eq_some_iff.mp stepped with ⟨egress, popped, rfl⟩
  have queue : (state.fanOut.setQueue sink ((state.fanOut.queues sink).popBatch size).1).queues
      sink = ((state.fanOut.queues sink).popBatch size).1 := Function.update_self ..
  have history := Egress.State.popped_step popped
  have contiguous : state.egress.ContiguousFeed
      (.pop ((state.fanOut.queues sink).popBatch size).2) := continues
  refine ⟨.next feeding.reached contiguous popped, ⟨_, moved, ?_, ?_⟩, ?_⟩
  · intro last isLast
    dsimp only at isLast ⊢
    rw [history, Egress.Event.frames, List.getLast?_append] at isLast
    rw [queue, dropped]
    split
    · rename_i empty
      rw [empty] at isLast ⊢
      exact latest last isLast
    · rename_i filled
      rcases Option.isSome_iff_exists.mp (List.getLast?_isSome.mpr filled) with ⟨final, isFinal⟩
      rw [isFinal] at isLast
      cases isLast
      have position := numbered.last isFinal
      omega
  · dsimp only
    rw [history, Egress.Event.frames, List.length_append, queue, dropped]
    omega
  · dsimp only
    rw [queue, dropped]
    split
    · exact feeding.counted
    · exact Nat.le_refl _

theorem Feeding.moveEgress {tuning : Tuning} {sink : Fin sinks} {state : State sinks}
    (feeding : state.Feeding tuning sink) {event : Egress.Event} {egress : Egress.State}
    (notPop : ∀ frames, event ≠ .pop frames) (stepped : state.egress.step event = some egress) :
    ({ state with egress := egress } : State sinks).Feeding tuning sink := by
  refine ⟨.next feeding.reached (.of_not_pop notPop) stepped, ?_, feeding.counted⟩
  dsimp only
  rw [Egress.State.popped_step stepped, Egress.Event.frames_of_not_pop notPop, List.append_nil]
  exact feeding.window

theorem Feeding.step {tuning : Tuning} {sink : Fin sinks} {state after : State sinks}
    (feeding : state.Feeding tuning sink) {label : Label sinks}
    (whole : state.BatchesWhole sink label) (stepped : state.step sink label = some after) :
    after.Feeding tuning sink := by
  cases step_cases stepped with
  | fanOut label next others moved =>
      rcases feeding.window with ⟨start, holds, latest, gone⟩
      have room : ∀ batch, label = .drain batch →
          state.fanOut.nextSeq.toNat + batch.length < 2 ^ 64 := by
        intro batch draining
        subst draining
        exact whole
      rcases holds.step others room moved with ⟨lost, held, dropped⟩
      refine ⟨feeding.reached, ⟨start + lost, held, ?_, ?_⟩, ?_⟩
      · intro last isLast
        have position := latest last isLast
        dsimp only
        omega
      · dsimp only
        omega
      · have counted := feeding.counted
        dsimp only
        omega
  | pop size requested popped => exact feeding.pop whole popped
  | closed answer next answered =>
      refine feeding.moveEgress ?_ answered
      exact fun _ impossible => nomatch impossible
  | egress event next own moved => exact feeding.moveEgress own moved

theorem feeding_of_reachable {tuning : Tuning} {sink : Fin sinks} {state : State sinks}
    (reached : (system sink tuning).ReachableUnder (BatchesWhole sink) state) :
    state.Feeding tuning sink := by
  refine reached.invariant (Feeding tuning sink) ?_ ?_
  · intro state initial
    rcases initial with ⟨capacity, listenFd, stopFd, egress, created, rfl⟩
    exact ⟨.start ⟨listenFd, stopFd, egress, created, rfl⟩,
      ⟨0, FanOut.State.create_holds capacity sink, fun _ impossible => (nomatch impossible),
        rfl⟩, Nat.zero_le _⟩
  · intro state label after _ whole feeding stepped
    exact feeding.step whole stepped

theorem reachable_egress {tuning : Tuning} {sink : Fin sinks} {guard} {state : State sinks}
    (reached : (system sink tuning).ReachableUnder guard state) :
    (Egress.system tuning).Reachable state.egress := by
  refine reached.invariant (fun state => (Egress.system tuning).Reachable state.egress) ?_ ?_
  · intro state initial
    rcases initial with ⟨capacity, listenFd, stopFd, egress, created, rfl⟩
    exact .start ⟨listenFd, stopFd, egress, created, rfl⟩
  · intro state label after _ _ before stepped
    cases step_cases stepped with
    | fanOut label next others moved => exact before
    | pop size requested popped =>
        rcases Option.map_eq_some_iff.mp popped with ⟨egress, taken, rfl⟩
        exact .next before trivial taken
    | closed answer next answered => exact .next before trivial answered
    | egress event next own moved => exact .next before trivial moved

end State

end TelemetryGateway.QueueTopology
