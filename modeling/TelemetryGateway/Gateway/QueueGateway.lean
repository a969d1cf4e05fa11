import TelemetryGateway.Foundation.Unwinding
import TelemetryGateway.Gateway.QueueTopology

/-! # A gateway of topology A

One fan-out thread, and for every sink a consumer with its own queue, its own
feed and its own egress thread. -/

namespace TelemetryGateway

namespace FanOut

deriving instance DecidableEq for Label

end FanOut

namespace QueueTopology

deriving instance DecidableEq for Label

end QueueTopology

def FanOut.Label.ingests : FanOut.Label sinks → Bool
  | .drain _ => true
  | .push => true
  | _ => false

/-- Whether the label is a step of the consumer that reads `sink`, or of
somebody who closes its feed. -/
def QueueTopology.Label.own (sink : Fin sinks) : QueueTopology.Label sinks → Bool
  | .fanOut (.close other) => other = sink
  | .fanOut _ => false
  | .pop => true
  | .closed => true
  | .egress _ => true

def QueueTopology.ownStep (queue : FrameQueue) (egress : Egress.State) (lossesAtPop : Nat) :
    QueueTopology.Label sinks → Option (FrameQueue × Egress.State × Nat)
  | .fanOut _ => some (queue.close, egress, lossesAtPop)
  | .pop =>
      egress.requested.bind fun size =>
        (egress.step (.pop (queue.popBatch size).2)).map fun next =>
          ((queue.popBatch size).1, next,
            if (queue.popBatch size).2 = [] then lossesAtPop else (queue.popBatch size).1.losses)
  | .closed => (egress.step (.closed queue.closed)).map fun next => (queue, next, lossesAtPop)
  | .egress event =>
      if event.fromFeed then none
      else (egress.step event).map fun next => (queue, next, lossesAtPop)

theorem QueueTopology.step_own {sink : Fin sinks} {state : QueueTopology.State sinks}
    {label : QueueTopology.Label sinks} (own : label.own sink = true) :
    state.step sink label =
      (ownStep (state.fanOut.queues sink) state.egress state.lossesAtPop label).map fun next =>
        { fanOut := state.fanOut.setQueue sink next.1
          egress := next.2.1
          lossesAtPop := next.2.2 } := by
  have same : state.fanOut.setQueue sink (state.fanOut.queues sink) = state.fanOut := by
    rw [FanOut.State.setQueue, Function.update_eq_self]
  cases label with
  | fanOut label =>
      cases label with
      | close other =>
          have here : other = sink := of_decide_eq_true own
          subst here
          rfl
      | _ => cases own
  | pop =>
      cases requested : state.egress.requested with
      | none => simp only [State.step, ownStep, requested, Option.bind_none, Option.map_none]
      | some size =>
          simp only [State.step, ownStep, requested, Option.bind_some, State.pop, Option.map_map]
          rfl
  | closed =>
      simp only [State.step, ownStep, Option.map_map]
      congr 1
      funext egress
      simp only [Function.comp_apply, same]
  | egress event =>
      simp only [State.step, ownStep]
      split
      · rfl
      · rw [Option.map_map]
        congr 1
        funext egress
        simp only [Function.comp_apply, same]

namespace QueueGateway

structure State (sinks : Nat) where
  fanOut : FanOut.State sinks
  egresses : Fin sinks → Egress.State
  lossesAtPop : Fin sinks → Nat

inductive Label (sinks : Nat)
  | ingest (label : FanOut.Label sinks)
  | consumer (sink : Fin sinks) (label : QueueTopology.Label sinks)
  deriving DecidableEq

namespace State

def consumer (state : State sinks) (sink : Fin sinks) : QueueTopology.State sinks where
  fanOut := state.fanOut
  egress := state.egresses sink
  lossesAtPop := state.lossesAtPop sink

def setConsumer (state : State sinks) (sink : Fin sinks) (consumer : QueueTopology.State sinks) :
    State sinks where
  fanOut := consumer.fanOut
  egresses := Function.update state.egresses sink consumer.egress
  lossesAtPop := Function.update state.lossesAtPop sink consumer.lossesAtPop

def step (state : State sinks) : Label sinks → Option (State sinks)
  | .ingest label =>
      if label.ingests then
        (state.fanOut.step label).map fun fanOut => { state with fanOut := fanOut }
      else none
  | .consumer sink label =>
      if label.own sink then
        ((state.consumer sink).step sink label).map (state.setConsumer sink)
      else none

def answers (state : State sinks) : Label sinks → List (Fin sinks × Egress.Event)
  | .consumer sink .pop =>
      (state.egresses sink).requested.toList.map fun size =>
        (sink, .pop ((state.fanOut.queues sink).popBatch size).2)
  | .consumer sink .closed => [(sink, .closed (state.fanOut.queues sink).closed)]
  | _ => []

end State

def system (sinks : Nat) (tuning : Fin sinks → Tuning) : System (State sinks) (Label sinks) where
  initial := fun state => ∃ capacity, state.fanOut = .create capacity ∧
    ∀ sink, ∃ listenFd stopFd egress,
      Egress.create (tuning sink) (.ok listenFd) (.ok stopFd) = .ok egress ∧
        state.egresses sink = .initial egress ∧ state.lossesAtPop sink = 0
  step := State.step

/-! ## Everybody but one consumer -/

def Label.of (sink : Fin sinks) : Label sinks → Bool
  | .ingest _ => false
  | .consumer other _ => other = sink

def shownBut (sink : Fin sinks) (_ : State sinks) (label : Label sinks) : Bool :=
  !label.of sink

def answersBut (sink : Fin sinks) (state : State sinks) (label : Label sinks) :
    List (Fin sinks × Egress.Event) :=
  if label.of sink then [] else state.answers label

/-- The consumer and its queue, with all its counters, are the same. -/
def SameBut (sink : Fin sinks) (left right : State sinks) : Prop :=
  ∀ other, other ≠ sink → left.fanOut.queues other = right.fanOut.queues other ∧
    left.egresses other = right.egresses other

structure Alike (sink : Fin sinks) (left right : State sinks) : Prop where
  nextSeq : left.fanOut.nextSeq = right.fanOut.nextSeq
  phase : left.fanOut.phase = right.fanOut.phase
  queues : ∀ other, other ≠ sink → left.fanOut.queues other = right.fanOut.queues other
  egresses : ∀ other, other ≠ sink → left.egresses other = right.egresses other
  dropped : ∀ other, other ≠ sink → left.lossesAtPop other = right.lossesAtPop other

theorem Alike.refl (sink : Fin sinks) (state : State sinks) : Alike sink state state :=
  ⟨rfl, rfl, fun _ _ => rfl, fun _ _ => rfl, fun _ _ => rfl⟩

theorem Alike.symm {sink : Fin sinks} {left right : State sinks} (alike : Alike sink left right) :
    Alike sink right left :=
  ⟨alike.nextSeq.symm, alike.phase.symm, fun other apart => (alike.queues other apart).symm,
    fun other apart => (alike.egresses other apart).symm,
    fun other apart => (alike.dropped other apart).symm⟩

theorem Alike.trans {sink : Fin sinks} {first second third : State sinks}
    (left : Alike sink first second) (right : Alike sink second third) : Alike sink first third :=
  ⟨left.nextSeq.trans right.nextSeq, left.phase.trans right.phase,
    fun other apart => (left.queues other apart).trans (right.queues other apart),
    fun other apart => (left.egresses other apart).trans (right.egresses other apart),
    fun other apart => (left.dropped other apart).trans (right.dropped other apart)⟩

/-! ## One step -/

theorem consumer_step {state after : State sinks} {sink : Fin sinks}
    {label : QueueTopology.Label sinks} (stepped : state.step (.consumer sink label) = some after) :
    ∃ queue egress dropped,
      QueueTopology.ownStep (state.fanOut.queues sink) (state.egresses sink)
        (state.lossesAtPop sink) label = some (queue, egress, dropped) ∧
      after = state.setConsumer sink
        { fanOut := state.fanOut.setQueue sink queue, egress := egress, lossesAtPop := dropped } := by
  simp only [State.step] at stepped
  split at stepped
  · rename_i own
    rw [QueueTopology.step_own own, Option.map_map] at stepped
    rcases Option.map_eq_some_iff.mp stepped with ⟨⟨queue, egress, dropped⟩, moved, rfl⟩
    exact ⟨queue, egress, dropped, moved, rfl⟩
  · cases stepped

theorem alike_consumer (state : State sinks) (sink : Fin sinks) (queue : FrameQueue)
    (egress : Egress.State) (dropped : Nat) :
    Alike sink (state.setConsumer sink
      { fanOut := state.fanOut.setQueue sink queue, egress := egress, lossesAtPop := dropped })
      state where
  nextSeq := rfl
  phase := rfl
  queues := fun _ apart => Function.update_of_ne apart ..
  egresses := fun _ apart => Function.update_of_ne apart ..
  dropped := fun _ apart => Function.update_of_ne apart ..

theorem Alike.consumer {sink other : Fin sinks} (apart : other ≠ sink)
    {left right leftAfter rightAfter : State sinks} (alike : Alike sink left right)
    {label : QueueTopology.Label sinks}
    (leftStep : left.step (.consumer other label) = some leftAfter)
    (rightStep : right.step (.consumer other label) = some rightAfter) :
    Alike sink leftAfter rightAfter := by
  rcases consumer_step leftStep with ⟨queue, egress, dropped, moved, rfl⟩
  rcases consumer_step rightStep with ⟨_, _, _, same, rfl⟩
  rw [← alike.queues other apart, ← alike.egresses other apart, ← alike.dropped other apart,
    moved] at same
  cases same
  exact ⟨alike.nextSeq, alike.phase, System.update_agree alike.queues fun _ => rfl,
    System.update_agree alike.egresses fun _ => rfl, System.update_agree alike.dropped fun _ => rfl⟩

theorem Alike.ingest {sink : Fin sinks} {left right leftAfter rightAfter : State sinks}
    (alike : Alike sink left right) {label : FanOut.Label sinks}
    (leftStep : left.step (.ingest label) = some leftAfter)
    (rightStep : right.step (.ingest label) = some rightAfter) :
    Alike sink leftAfter rightAfter := by
  simp only [State.step] at leftStep rightStep
  split at leftStep
  · rename_i thread
    rw [if_pos thread] at rightStep
    rcases Option.map_eq_some_iff.mp leftStep with ⟨_, leftMoved, rfl⟩
    rcases Option.map_eq_some_iff.mp rightStep with ⟨_, rightMoved, rfl⟩
    cases label with
    | drain batch =>
        simp only [FanOut.State.step, ← alike.phase] at leftMoved rightMoved
        split at leftMoved
        · rename_i polling
          simp only [polling] at rightMoved
          split at leftMoved <;> cases leftMoved
          rename_i room
          rw [if_pos room] at rightMoved
          cases rightMoved
          unfold FanOut.State.drain
          rw [← alike.nextSeq]
          exact ⟨rfl, rfl, alike.queues, alike.egresses, alike.dropped⟩
        · cases leftMoved
    | push =>
        simp only [FanOut.State.step, ← alike.phase] at leftMoved rightMoved
        split at leftMoved <;> cases leftMoved
        rename_i produced next pushing
        simp only [pushing, Option.some.injEq] at rightMoved
        subst rightMoved
        unfold FanOut.State.push
        split
        · rename_i inside
          refine ⟨alike.nextSeq, rfl, System.update_agree alike.queues ?_, alike.egresses,
            alike.dropped⟩
          intro apart
          rw [alike.queues _ apart]
        · exact ⟨alike.nextSeq, rfl, alike.queues, alike.egresses, alike.dropped⟩
    | pop other size => cases thread
    | close other => cases thread
  · cases leftStep

theorem Alike.answers {sink : Fin sinks} {left right : State sinks}
    (alike : Alike sink left right) {label : Label sinks} (others : label.of sink = false) :
    left.answers label = right.answers label := by
  cases label with
  | ingest label => rfl
  | consumer other label =>
      have apart : other ≠ sink := of_decide_eq_false others
      cases label with
      | pop => simp only [State.answers, alike.queues other apart, alike.egresses other apart]
      | closed => simp only [State.answers, alike.queues other apart]
      | fanOut label => rfl
      | egress event => rfl

theorem unwinds (tuning : Fin sinks → Tuning) (sink : Fin sinks) :
    (system sinks tuning).Unwinds (fun _ _ => True) (shownBut sink) (answersBut sink)
      (Alike sink) where
  symm := Alike.symm
  hidden := by
    intro left right label after _ isHidden stepped alike
    have own : label.of sink = true := by
      rw [shownBut, Bool.not_eq_false'] at isHidden
      exact isHidden
    cases label with
    | ingest label => cases own
    | consumer other label =>
        have same : other = sink := of_decide_eq_true own
        subst same
        rcases consumer_step stepped with ⟨queue, egress, dropped, _, rfl⟩
        exact ⟨(alike_consumer left other queue egress dropped).trans alike, if_pos own⟩
  shown := by
    intro left right label leftAfter rightAfter _ _ isShown _ leftStep rightStep alike
    have others : label.of sink = false := by
      rw [shownBut, Bool.not_eq_true'] at isShown
      exact isShown
    constructor
    · cases label with
      | ingest label => exact alike.ingest leftStep rightStep
      | consumer other label =>
          exact alike.consumer (of_decide_eq_false others) leftStep rightStep
    · rw [answersBut, answersBut, others]
      exact alike.answers others

theorem isolates (tuning : Fin sinks → Tuning) (sink : Fin sinks) :
    (system sinks tuning).Isolates (fun _ _ => True) (shownBut sink) (answersBut sink)
      (SameBut sink) :=
  (unwinds tuning sink).isolates (Alike.refl sink) fun alike other apart =>
    ⟨alike.queues other apart, alike.egresses other apart⟩

end QueueGateway

end TelemetryGateway
