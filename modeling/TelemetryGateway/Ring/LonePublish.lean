import TelemetryGateway.Ring.Progress
import TelemetryGateway.Ring.QuietReading

/-! # One producer at a time

A producer that nobody disturbs comes to the end of its batch, and leaves
everything but the cells alone. -/

namespace TelemetryGateway.BroadcastRing

/-- Steps to the end of `publish_batch`, when no exchange fails. -/
def ProducerPhase.toFinish : ProducerPhase → Nat
  | .idle => 0
  | .retry ticket => 7 * ticket.rest.length + 10
  | .claim ticket => 7 * ticket.rest.length + 9
  | .store ticket index => 7 * ticket.rest.length + (8 - index.val)
  | .publish ticket => 7 * ticket.rest.length + 3
  | .loadWaiters => 2
  | .notifyAll => 1

namespace Core

def Lone (core : Core geometry Producer) (producer : Producer) : Prop :=
  ∀ other, other ≠ producer → core.producers other = .idle

section

variable {geometry : Geometry} {Producer : Type} [DecidableEq Producer]

theorem Lone.set {core after : Core geometry Producer} {producer : Producer}
    (lone : core.Lone producer) {phase : ProducerPhase}
    (producers : after.producers = Function.update core.producers producer phase) :
    after.Lone producer := by
  intro other apart
  rw [producers, Function.update_of_ne apart]
  exact lone other apart

theorem Lone.smallest {core : Core geometry Producer} {producer : Producer}
    (lone : core.Lone producer) (tickets : core.Tickets) {ticket : Ticket}
    (held : (core.producers producer).ticket = some ticket) :
    IsLeast core.outstanding ticket.pos := by
  refine ⟨⟨tickets.covers_lt held ticket.covers_pos,
    tickets.unpublished producer ticket held ticket.pos ticket.covers_pos⟩, ?_⟩
  rintro pos ⟨issued, missing⟩
  rcases tickets.outstanding pos issued missing with ⟨other, otherTicket, otherHeld, covers⟩
  by_cases same : other = producer
  · subst same
    rw [held] at otherHeld
    cases otherHeld
    exact covers.1
  · rw [lone other same] at otherHeld
    cases otherHeld

theorem advance_lone {core after : Core geometry Producer} {producer : Producer} {spurious : Bool}
    (lone : core.Lone producer) (advanced : core.advance producer spurious = some after) :
    after.Lone producer := by
  rcases advance_producers advanced with ⟨phase, producers⟩
  exact lone.set producers

theorem Lone.advance {core : Core geometry Producer} {producer : Producer}
    (lone : core.Lone producer) (consistent : core.Consistent) {ticket : Ticket}
    (held : (core.producers producer).ticket = some ticket) :
    ∃ after, core.advance producer false = some after ∧
      (after.producers producer).toFinish < (core.producers producer).toFinish := by
  have smallest := lone.smallest consistent.tickets held
  unfold Core.advance
  cases phase : core.producers producer with
  | claim own =>
      rw [phase] at held
      cases held
      have free : core.seqAt ticket.pos = geometry.expected ticket.pos :=
        consistent.expected_of_smallest smallest
          (consistent.unclaimed (by rw [phase]; rfl) (by rw [phase]; rfl))
      refine ⟨_, if_pos ⟨free, rfl⟩, ?_⟩
      rw [setProducer_self]
      simp only [ProducerPhase.toFinish]
      omega
  | retry own =>
      refine ⟨_, rfl, ?_⟩
      change ((core.setProducer producer (.claim own)).producers producer).toFinish < _
      rw [setProducer_self]
      simp only [ProducerPhase.toFinish]
      omega
  | store own index =>
      have bounded : index.val < 5 := index.isLt
      refine ⟨_, rfl, ?_⟩
      rw [setProducer_self]
      split <;> simp only [ProducerPhase.toFinish] <;> omega
  | publish own =>
      refine ⟨_, rfl, ?_⟩
      change (((core.setSeq own.pos (2 * own.pos + 2)).setProducer producer _).producers
        producer).toFinish < _
      rw [setProducer_self]
      cases more : own.rest with
      | nil => simp only [ProducerPhase.toFinish]; omega
      | cons frame rest =>
          simp only [ProducerPhase.toFinish, more, List.length_cons]
          omega
  | idle =>
      rw [phase] at held
      cases held
  | loadWaiters =>
      rw [phase] at held
      cases held
  | notifyAll =>
      rw [phase] at held
      cases held

end

end Core

/-- Everything but the cells and the producers is as it was, for readers that
are inside no call. -/
structure State.Leaves (state after : State geometry Producer ReaderId) : Prop where
  closed : after.closed = state.closed
  idleMutex : after.idleMutex = state.idleMutex
  readers : ∀ id, (state.readers id).phase.resting = true → after.readers id = state.readers id

namespace State

theorem wake_resting {reader : Reader} (resting : reader.phase.resting = true) :
    wake reader = reader := by
  unfold wake
  split
  · rename_i blocked
    rw [blocked] at resting
    cases resting
  · rfl

section

variable {geometry : Geometry} {Producer ReaderId : Type} [DecidableEq Producer]
  [DecidableEq ReaderId]

theorem producer_leaves {state after : State geometry Producer ReaderId} {producer : Producer}
    {spurious : Bool} (lone : state.core.Lone producer)
    (stepped : state.step (.producer producer spurious) = some after) :
    after.core.Lone producer ∧ state.Leaves after := by
  simp only [State.step] at stepped
  split at stepped
  · rename_i core advanced
    cases stepped
    exact ⟨Core.advance_lone lone advanced, rfl, rfl, fun _ _ => rfl⟩
  · unfold State.wakeReaders at stepped
    split at stepped <;> cases stepped
    · exact ⟨lone.set rfl, rfl, rfl, fun _ _ => rfl⟩
    · exact ⟨lone.set rfl, rfl, rfl, fun _ resting => wake_resting resting⟩

theorem publish_leaves {state after : State geometry Producer ReaderId} {producer : Producer}
    {frames : List Frame} (lone : state.core.Lone producer)
    (stepped : state.step (.publishBatch producer frames) = some after) :
    after.core.Lone producer ∧ state.Leaves after := by
  rcases Option.map_eq_some_iff.mp stepped with ⟨core, taken, rfl⟩
  refine ⟨?_, rfl, rfl, fun _ _ => rfl⟩
  unfold Core.take at taken
  split at taken
  · cases taken
    exact lone
  · split at taken <;> cases taken
    exact lone.set rfl
  · cases taken

theorem Sound.publish_on {state : State geometry Producer ReaderId} (sound : state.Sound)
    {producer : Producer} (lone : state.core.Lone producer)
    (busy : state.core.producers producer ≠ .idle) :
    ∃ after, state.step (.producer producer false) = some after ∧
      (after.core.producers producer).toFinish < (state.core.producers producer).toFinish := by
  cases held : (state.core.producers producer).ticket with
  | some ticket =>
      rcases lone.advance sound.core held with ⟨core, advanced, closer⟩
      refine ⟨{ state with core := core }, ?_, closer⟩
      simp only [State.step, advanced]
  | none =>
      have still : state.core.advance producer false = none := by
        unfold Core.advance
        cases phase : state.core.producers producer <;> rw [phase] at held <;>
          first | rfl | cases held
      simp only [State.step, still, State.wakeReaders]
      cases phase : state.core.producers producer with
      | loadWaiters =>
          refine ⟨_, rfl, ?_⟩
          rw [Core.setProducer_self]
          split <;> simp only [ProducerPhase.toFinish] <;> omega
      | notifyAll =>
          refine ⟨_, rfl, ?_⟩
          change ((state.core.setProducer producer .idle).producers producer).toFinish < _
          rw [Core.setProducer_self]
          exact Nat.zero_lt_one
      | idle => exact absurd phase busy
      | _ =>
          rw [phase] at held
          cases held

end

end State

end TelemetryGateway.BroadcastRing
