import TelemetryGateway.Feed.FanOutShutdown
import TelemetryGateway.Gateway.RingIngest
import TelemetryGateway.Ring.QuietReading

/-! # Stopping the ingest of either topology

With the ring, each source has its own thread, and all of them see the one stop
descriptor. The sources are the queues that they are for the fan-out thread. -/

namespace TelemetryGateway.RingIngest.Shutdown

structure State (geometry : BroadcastRing.Geometry) (sources : Nat) (ReaderId : Type) where
  ingest : RingIngest.State geometry sources ReaderId
  ledger : Ledger sources
  /-- what the sources hold that has not been drained -/
  backlog : Fin sources → List BusFrame
  /-- the stop descriptor is readable -/
  stopped : Bool

inductive Label (sources : Nat) (ReaderId : Type)
  | arrive (source : Fin sources) (frames : List BusFrame)
  | stop
  | thread (label : RingIngest.Label sources ReaderId)

namespace State

def empty : State geometry sources ReaderId where
  ingest := .empty
  ledger := .fresh
  backlog := fun _ => []
  stopped := false

/-- The answers that the sources and the stop descriptor give. A call of `poll`
that neither fails nor finds anything times out. -/
def permits (state : State geometry sources ReaderId) : RingIngest.Label sources ReaderId → Bool
  | .poll source (.ready readable stop) =>
      readable == !(state.backlog source).isEmpty && (stop == state.stopped && (readable || stop))
  | .poll source .timedOut => !state.stopped && (state.backlog source).isEmpty
  | .drain source batch => batch == (state.backlog source).take kDrainBatch
  | _ => true

/-- What a step leaves in the sources. -/
def drained (state : State geometry sources ReaderId) :
    RingIngest.Label sources ReaderId → Fin sources → List BusFrame
  | .drain source _ =>
      Function.update state.backlog source ((state.backlog source).drop kDrainBatch)
  | _ => state.backlog

def step [DecidableEq ReaderId] (me : ReaderId) (state : State geometry sources ReaderId) :
    Label sources ReaderId → Option (State geometry sources ReaderId)
  | .arrive source frames =>
      if state.stopped then none
      else some { state with
        backlog := Function.update state.backlog source (state.backlog source ++ frames) }
  | .stop => some { state with stopped := true }
  | .thread label =>
      if state.permits label then
        (state.ingest.step me label).map fun after =>
          { state with
            ingest := after
            ledger := state.ledger.note me state.ingest label after
            backlog := state.drained label }
      else none

end State

def system [DecidableEq ReaderId] (geometry : BroadcastRing.Geometry) (sources : Nat)
    (me : ReaderId) : System (State geometry sources ReaderId) (Label sources ReaderId) where
  initial := fun state => state = .empty
  step := State.step me

/-! ## What a thread still drains -/

/-- How often a thread drains its source before it returns, when `stop` is
called now. -/
def drainsLeft : Place → Nat
  | .poll => 1
  | .drain stop => 1 + if stop then 0 else 1
  | .publish _ stop => if stop then 0 else 1
  | .publishing _ stop => if stop then 0 else 1
  | .returned => 0

theorem drainsLeft_turn (stop : Bool) : drainsLeft (.turn stop) = if stop then 0 else 1 := by
  cases stop <;> rfl

/-- What has been drained of a source, together with what the remaining drains
take of it. -/
def State.promised (state : State geometry sources ReaderId) (source : Fin sources) :
    List BusFrame :=
  state.ledger.drained source ++
    (state.backlog source).take (kDrainBatch * drainsLeft (state.ingest.places source))

theorem State.promised_move {state after : State geometry sources ReaderId} {current : Fin sources}
    {place : Place} (places : after.ingest.places = Function.update state.ingest.places current place)
    (drained : after.ledger.drained = state.ledger.drained) (backlog : after.backlog = state.backlog)
    (same : state.backlog current ≠ [] → drainsLeft place = drainsLeft (state.ingest.places current))
    (source : Fin sources) : after.promised source = state.promised source := by
  unfold State.promised
  rw [places, drained, backlog]
  by_cases own : source = current
  · subst own
    rw [Function.update_self]
    by_cases holds : state.backlog source = []
    · rw [holds, List.take_nil, List.take_nil]
    · rw [same holds]
  · rw [Function.update_of_ne own]

theorem State.promised_drain {state after : State geometry sources ReaderId} {current : Fin sources}
    {place : Place} {stop : Bool} {batch : List BusFrame}
    (draining : state.ingest.places current = .drain stop)
    (places : after.ingest.places = Function.update state.ingest.places current place)
    (ledger : after.ledger = state.ledger.noteDrain current batch)
    (backlog : after.backlog = state.drained (.drain current batch))
    (first : batch = (state.backlog current).take kDrainBatch)
    (left : drainsLeft place = if stop then 0 else 1) (source : Fin sources) :
    after.promised source = state.promised source := by
  unfold State.promised
  rw [places, ledger, backlog, Ledger.noteDrain, State.drained]
  dsimp only
  by_cases own : source = current
  · subst own
    rw [Function.update_self, Function.update_self, Function.update_self, draining, drainsLeft,
      left, Nat.mul_add, Nat.mul_one, List.take_add, ← first, List.append_assoc]
  · rw [Function.update_of_ne own, Function.update_of_ne own, Function.update_of_ne own]

theorem State.promised_poll {state : State geometry sources ReaderId} {current : Fin sources}
    (polling : state.ingest.places current = .poll) (stopped : state.stopped = true)
    {answer : PollAnswer} (permitted : state.permits (.poll current answer) = true)
    (source : Fin sources) :
    State.promised { state with ingest := state.ingest.poll current answer } source =
      state.promised source := by
  cases answer with
  | interrupted => rfl
  | failed => rfl
  | timedOut => rfl
  | ready readable stop =>
      simp only [State.permits, Bool.and_eq_true, beq_iff_eq, stopped] at permitted
      rcases permitted with ⟨answers, stopping, _⟩
      apply State.promised_move
      · rfl
      · rfl
      · rfl
      · intro holds
        have found : readable = true := by
          rw [answers]
          simpa using holds
        rw [polling, found, stopping]
        rfl

theorem State.promised_step [DecidableEq ReaderId] {me : ReaderId}
    {state after : State geometry sources ReaderId}
    {label : Label sources ReaderId} (stopped : state.stopped = true)
    (stepped : state.step me label = some after) (source : Fin sources) :
    after.promised source = state.promised source := by
  cases label with
  | arrive source frames =>
      simp only [State.step, stopped] at stepped
      cases stepped
  | stop =>
      cases stepped
      rfl
  | thread label =>
      simp only [State.step] at stepped
      split at stepped
      · rename_i permitted
        rcases Option.map_eq_some_iff.mp stepped with ⟨ingest, moved, rfl⟩
        cases RingIngest.State.step_cases moved with
        | poll current answer polling => exact State.promised_poll polling stopped permitted source
        | drainNothing current stop draining =>
            have first : [] = (state.backlog current).take kDrainBatch := by
              simpa [State.permits] using permitted
            exact State.promised_drain draining rfl rfl rfl first (drainsLeft_turn stop) source
        | drain current batch stop draining =>
            have first : batch = (state.backlog current).take kDrainBatch := by
              simpa [State.permits] using permitted
            exact State.promised_drain draining rfl rfl rfl first rfl source
        | publish current batch stop publishing next published =>
            apply State.promised_move
            · rfl
            · rfl
            · rfl
            · intro _
              rw [publishing]
              rfl
        | count current size stop publishing idle =>
            apply State.promised_move
            · rfl
            · rfl
            · rfl
            · intro _
              rw [publishing]
              exact drainsLeft_turn stop
        | consumer label others next moved => rfl
      · cases stepped

/-! ## Between the calls of `publish_batch` -/

/-- A thread that is not inside `publish_batch` leaves the ring alone. -/
def Standing (ingest : RingIngest.State geometry sources ReaderId) : Prop :=
  ∀ source, ingest.consumer.ring.core.producers source = .idle ∨
    ∃ count stop, ingest.places source = .publishing count stop

theorem Standing.move {ingest after : RingIngest.State geometry sources ReaderId}
    (standing : Standing ingest) {current : Fin sources} {place : Place}
    (places : after.places = Function.update ingest.places current place)
    (consumer : after.consumer = ingest.consumer)
    (idle : ingest.consumer.ring.core.producers current = .idle) : Standing after := by
  intro source
  rw [places, consumer]
  by_cases own : source = current
  · subst own
    exact .inl idle
  · rw [Function.update_of_ne own]
    exact standing source

theorem Standing.idle {ingest : RingIngest.State geometry sources ReaderId}
    (standing : Standing ingest) {source : Fin sources}
    (outside : ∀ count stop, ingest.places source ≠ .publishing count stop) :
    ingest.consumer.ring.core.producers source = .idle := by
  rcases standing source with idle | ⟨count, stop, publishing⟩
  · exact idle
  · exact absurd publishing (outside count stop)

theorem Standing.step [DecidableEq ReaderId] {me : ReaderId}
    {ingest after : RingIngest.State geometry sources ReaderId}
    (standing : Standing ingest) {label : RingIngest.Label sources ReaderId}
    (stepped : ingest.step me label = some after) : Standing after := by
  cases RingIngest.State.step_cases stepped with
  | poll current answer polling =>
      cases answer with
      | interrupted => exact standing
      | failed => exact standing
      | timedOut => exact standing
      | ready readable stop =>
          refine standing.move rfl rfl (standing.idle ?_)
          rw [polling]
          nofun
  | drainNothing current stop draining =>
      refine standing.move rfl rfl (standing.idle ?_)
      rw [draining]
      nofun
  | drain current batch stop draining =>
      refine standing.move rfl rfl (standing.idle ?_)
      rw [draining]
      nofun
  | publish current batch stop publishing next published =>
      intro source
      by_cases own : source = current
      · subst own
        exact .inr ⟨batch.length, stop, Function.update_self ..⟩
      · rcases standing source with idle | other
        · refine .inl (RingConsumer.State.step_idle published idle ?_)
          exact fun same => own (Option.some.inj same).symm
        · refine .inr ?_
          change ∃ count stop, Function.update ingest.places current _ source = _
          rw [Function.update_of_ne own]
          exact other
  | count current size stop publishing idle => exact standing.move rfl rfl idle
  | consumer label others next moved =>
      intro source
      rcases standing source with idle | publishing
      · refine .inl (RingConsumer.State.step_idle moved idle ?_)
        cases label with
        | ring label => cases label <;> first | (cases others; done) | nofun
        | _ => nofun
      · exact .inr publishing

/-! ## The last turns -/

structure Running (me : ReaderId) (state : State geometry sources ReaderId) : Prop where
  sound : Sound me state.ingest state.ledger
  standing : Standing state.ingest

theorem Running.step [DecidableEq ReaderId] {me : ReaderId}
    {state after : State geometry sources ReaderId} (running : Running me state)
    {label : Label sources ReaderId} (stepped : state.step me label = some after) :
    Running me after ∧ (state.stopped = true → after.stopped = true) := by
  cases label with
  | arrive source frames =>
      simp only [State.step] at stepped
      split at stepped <;> cases stepped
      exact ⟨⟨running.sound, running.standing⟩, id⟩
  | stop =>
      cases stepped
      exact ⟨⟨running.sound, running.standing⟩, fun _ => rfl⟩
  | thread label =>
      simp only [State.step] at stepped
      split at stepped
      · rcases Option.map_eq_some_iff.mp stepped with ⟨ingest, moved, rfl⟩
        exact ⟨⟨running.sound.step moved, running.standing.step moved⟩, id⟩
      · cases stepped

structure Stopping (me : ReaderId) (promised : Fin sources → List BusFrame)
    (state : State geometry sources ReaderId) : Prop where
  running : Running me state
  stopped : state.stopped = true
  kept : ∀ source, state.promised source = promised source

theorem Stopping.step [DecidableEq ReaderId] {me : ReaderId}
    {promised : Fin sources → List BusFrame} {state after : State geometry sources ReaderId}
    (stopping : Stopping me promised state) {label : Label sources ReaderId}
    (stepped : state.step me label = some after) : Stopping me promised after := by
  have ⟨running, stopped⟩ := stopping.running.step stepped
  refine ⟨running, stopped stopping.stopped, ?_⟩
  intro source
  rw [State.promised_step stopping.stopped stepped source]
  exact stopping.kept source

end TelemetryGateway.RingIngest.Shutdown

namespace TelemetryGateway

namespace FanOut.Shutdown

def waiting (size : Nat) : State 1 1 :=
  { State.create 1 fun _ => 2 with backlog := fun _ => List.replicate size blank }

end FanOut.Shutdown

namespace RingIngest.Shutdown

def publishing : List (Label 1 Unit) :=
  [.thread (.poll ⟨0, Nat.one_pos⟩ (.ready true true)), .thread (.drain ⟨0, Nat.one_pos⟩ [blank]),
    .thread (.publish ⟨0, Nat.one_pos⟩)] ++
  List.replicate 8 (.thread (.consumer (.ring (.producer ⟨0, Nat.one_pos⟩ false)))) ++
  [.thread (.count ⟨0, Nat.one_pos⟩)]

end RingIngest.Shutdown

end TelemetryGateway
