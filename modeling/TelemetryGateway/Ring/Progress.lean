import Mathlib.Order.Bounds.Basic
import TelemetryGateway.Ring.ReadSafety

/-! # Producers cannot deadlock

A producer waits only for the previous occupant of its cell, whose ticket is
smaller. The owner of the smallest outstanding ticket therefore waits for
nobody: left alone it publishes in at most eight steps. -/

namespace TelemetryGateway.BroadcastRing

def Core.outstanding (core : Core geometry Producer) : Set Nat :=
  { pos | pos < core.writePos ∧ pos ∉ core.published }

def ProducerPhase.remaining : ProducerPhase → Nat
  | .retry _ => 8
  | .claim _ => 7
  | .store _ index => 6 - index.val
  | .publish _ => 1
  | _ => 0

namespace Core

/-- The owner of the smallest outstanding ticket is working on it, not on an
earlier position of its batch. -/
theorem Tickets.working_on_smallest {core : Core geometry Producer} (tickets : core.Tickets)
    {pos : Nat} (smallest : IsLeast core.outstanding pos) :
    ∃ producer ticket, (core.producers producer).ticket = some ticket ∧ ticket.pos = pos := by
  rcases smallest with ⟨⟨issued, missing⟩, least⟩
  rcases tickets.outstanding pos issued missing with ⟨producer, ticket, held, covers⟩
  have stillMissing := tickets.unpublished producer ticket held ticket.pos ticket.covers_pos
  have ticketIssued := tickets.covers_lt held ticket.covers_pos
  exact ⟨producer, ticket, held, Nat.le_antisymm covers.1 (least ⟨ticketIssued, stillMissing⟩)⟩

/-- Everything before the smallest outstanding ticket is complete, so while its
cell is unclaimed it holds what the previous occupant left. -/
theorem Consistent.expected_of_smallest {core : Core geometry Producer}
    (consistent : core.Consistent) {pos : Nat} (smallest : IsLeast core.outstanding pos)
    (unclaimed : core.seqAt pos ≠ 2 * pos + 1) : core.seqAt pos = geometry.expected pos := by
  rcases smallest with ⟨⟨issued, missing⟩, least⟩
  have below : core.seqAt pos < 2 * pos + 2 := by
    rw [consistent.claims.complete] at missing
    omega
  have previous (lapped : geometry.capacity ≤ pos) :
      2 * (pos - geometry.capacity) + 2 ≤ core.seqAt pos := by
    have atLeastTwo := geometry.atLeastTwo
    have complete : pos - geometry.capacity ∈ core.published := by
      by_contra outstanding
      have later := least ⟨by omega, outstanding⟩
      omega
    rw [consistent.claims.complete, seqAt, geometry.slot_sub_capacity lapped] at complete
    exact complete
  unfold Geometry.expected
  rcases consistent.claims.shape (geometry.slot pos) with never | ⟨holder, same, held⟩
  · change core.seqAt pos = 0 at never
    split
    · exact never
    · have complete := previous (by omega)
      omega
  · change core.seqAt pos = _ ∨ core.seqAt pos = _ at held
    have earlier : holder < pos := by omega
    have lap := geometry.capacity_le_of_slot_eq same earlier
    have complete := previous (by omega)
    rw [if_neg (by omega)]
    omega

theorem Consistent.unclaimed {core : Core geometry Producer} (consistent : core.Consistent)
    {producer : Producer} {ticket : Ticket}
    (held : (core.producers producer).ticket = some ticket)
    (notWriting : (core.producers producer).writing = none) :
    core.seqAt ticket.pos ≠ 2 * ticket.pos + 1 := by
  intro claimed
  rcases consistent.claims.holder ticket.pos claimed with ⟨other, otherTicket, writes, equal⟩
  have covers := otherTicket.covers_pos
  rw [equal] at covers
  have same := consistent.tickets.owner_unique (ProducerPhase.ticket_of_writing writes) held
    covers ticket.covers_pos
  rw [same, notWriting] at writes
  cases writes

section

variable {geometry : Geometry} {Producer : Type} [DecidableEq Producer]

theorem advance_solo {core : Core geometry Producer} {producer : Producer} {ticket : Ticket}
    (held : (core.producers producer).ticket = some ticket)
    (ready : (core.producers producer).writing = none →
      core.seqAt ticket.pos = geometry.expected ticket.pos) :
    ∃ after, core.advance producer false = some after ∧
      (ticket.pos ∈ after.published ∨
        ((after.producers producer).ticket = some ticket ∧
          ((after.producers producer).writing = none →
            after.seqAt ticket.pos = geometry.expected ticket.pos) ∧
          (after.producers producer).remaining + 1 = (core.producers producer).remaining)) := by
  unfold advance
  cases phase : core.producers producer with
  | idle =>
      rw [phase] at held
      cases held
  | claim own =>
      rw [phase] at held ready
      cases held
      have free : (core.cells (geometry.slot ticket.pos)).seq = geometry.expected ticket.pos :=
        ready rfl
      refine ⟨_, if_pos ⟨free, rfl⟩, Or.inr ?_⟩
      rw [setProducer_self]
      exact ⟨rfl, (fun impossible => nomatch impossible), rfl⟩
  | retry own =>
      rw [phase] at held ready
      cases held
      refine ⟨_, rfl, Or.inr ?_⟩
      change ((core.setProducer producer (.claim ticket)).producers producer).ticket = _ ∧
        (((core.setProducer producer (.claim ticket)).producers producer).writing = none → _) ∧
        ((core.setProducer producer (.claim ticket)).producers producer).remaining + 1 = _
      rw [setProducer_self]
      exact ⟨rfl, fun _ => ready rfl, rfl⟩
  | store own index =>
      rw [phase] at held
      cases held
      refine ⟨_, rfl, Or.inr ?_⟩
      rw [setProducer_self]
      have bounded : index.val < 5 := index.isLt
      split
      · refine ⟨rfl, (fun impossible => nomatch impossible), ?_⟩
        simp only [ProducerPhase.remaining]
        omega
      · rename_i last
        have final : ¬ index.val + 1 < 5 := last
        refine ⟨rfl, (fun impossible => nomatch impossible), ?_⟩
        simp only [ProducerPhase.remaining]
        omega
  | publish own =>
      rw [phase] at held
      cases held
      exact ⟨_, rfl, Or.inl (List.mem_append_right _ (List.mem_singleton.mpr rfl))⟩
  | loadWaiters =>
      rw [phase] at held
      cases held
  | notifyAll =>
      rw [phase] at held
      cases held

end

end Core

namespace State

section

variable {geometry : Geometry} {Producer ReaderId : Type} [DecidableEq Producer]
  [DecidableEq ReaderId]

theorem publishes_alone {state : State geometry Producer ReaderId} {producer : Producer}
    {ticket : Ticket} (held : (state.core.producers producer).ticket = some ticket)
    (ready : (state.core.producers producer).writing = none →
      state.core.seqAt ticket.pos = geometry.expected ticket.pos) :
    ∃ steps after, steps ≤ (state.core.producers producer).remaining ∧
      (system geometry Producer ReaderId).run state
        (List.replicate steps (.producer producer false)) = some after ∧
      ticket.pos ∈ after.core.published := by
  induction bound : (state.core.producers producer).remaining generalizing state with
  | zero =>
      exfalso
      cases phase : state.core.producers producer with
      | store own index =>
          rw [phase] at bound
          have bounded : index.val < 5 := index.isLt
          simp only [ProducerPhase.remaining] at bound
          omega
      | _ => simp_all [ProducerPhase.remaining, ProducerPhase.ticket]
  | succ left induction =>
      rcases Core.advance_solo held ready with ⟨core, advanced, progress⟩
      have stepped : (system geometry Producer ReaderId).step state (.producer producer false) =
          some { state with core := core } := by
        simp only [system, State.step, advanced]
      rcases progress with published | ⟨stillHeld, stillReady, closer⟩
      · refine ⟨1, { state with core := core }, by omega, ?_, published⟩
        simp [System.run, stepped]
      · have fewer : (core.producers producer).remaining = left := by omega
        rcases @induction { state with core := core } stillHeld stillReady fewer with
          ⟨steps, after, within, final, published⟩
        refine ⟨steps + 1, after, by omega, ?_, published⟩
        rw [List.replicate_succ, System.run, stepped, Option.bind_some]
        exact final

theorem smallest_ticket_progresses {state : State geometry Producer ReaderId}
    (reached : (system geometry Producer ReaderId).Reachable state) {pos : Nat}
    (smallest : IsLeast state.core.outstanding pos) :
    ∃ producer ticket, state.core.issued[pos]? = some (producer, ticket.frame) ∧
      (state.core.producers producer).ticket = some ticket ∧ ticket.pos = pos ∧
      ((state.core.producers producer).writing = none →
        state.core.seqAt pos = geometry.expected pos) ∧
      (state.core.producers producer = .claim ticket →
        ∃ after, state.step (.producer producer false) = some after ∧
          after.core.producers producer = .store ticket 0) ∧
      ∃ steps after, steps ≤ 8 ∧
        (system geometry Producer ReaderId).run state
          (List.replicate steps (.producer producer false)) = some after ∧
        pos ∈ after.core.published := by
  have consistent := (sound_of_reachable reached).core
  rcases consistent.tickets.working_on_smallest smallest with ⟨producer, ticket, held, rfl⟩
  have ready (notWriting : (state.core.producers producer).writing = none) :
      state.core.seqAt ticket.pos = geometry.expected ticket.pos :=
    consistent.expected_of_smallest smallest (consistent.unclaimed held notWriting)
  refine ⟨producer, ticket, consistent.tickets.issued_of_ticket held, held, rfl, ready, ?_, ?_⟩
  · intro claiming
    have free : (state.core.cells (geometry.slot ticket.pos)).seq =
        geometry.expected ticket.pos := ready (by rw [claiming]; rfl)
    let claimed := state.core.setSeq ticket.pos (2 * ticket.pos + 1)
    refine ⟨{ state with core := claimed.setProducer producer (.store ticket 0) }, ?_,
      claimed.setProducer_self _ _⟩
    simp only [State.step, Core.advance, claiming, free, and_self, if_true]
    rfl
  · rcases publishes_alone held ready with ⟨steps, after, within, final, published⟩
    have bounded : (state.core.producers producer).remaining ≤ 8 := by
      cases state.core.producers producer <;> simp only [ProducerPhase.remaining] <;> omega
    exact ⟨steps, after, Nat.le_trans within bounded, final, published⟩

/-- A batch longer than the ring, stopped in front of its own earlier cell. -/
def wrapOwnCell : List (Label Unit Unit) :=
  .publishBatch () [Frame.zero, Frame.zero, Frame.zero] :: List.replicate 14 (.producer () false)

theorem smallest_ticket_progresses_wrapOwnCell :
    ∃ state, (system Geometry.smallest Unit Unit).run (.empty fun _ => 0) wrapOwnCell =
        some state ∧
      IsLeast state.core.outstanding 2 ∧
      ∃ ticket, state.core.producers () = .claim ticket ∧ state.core.seqAt 2 = 2 := by
  have final : ∃ state, (system Geometry.smallest Unit Unit).run (.empty fun _ => 0)
      wrapOwnCell = some state ∧ state.core.writePos = 3 ∧ state.core.published = [0, 1] ∧
      state.core.producers () = .claim ⟨2, Frame.zero, []⟩ := ⟨_, rfl, rfl, rfl, rfl⟩
  rcases final with ⟨state, ran, writePos, published, claiming⟩
  have smallest : IsLeast state.core.outstanding 2 := by
    constructor
    · rw [Core.outstanding, writePos, published]
      decide
    · intro pos outstanding
      rw [Core.outstanding, writePos, published] at outstanding
      rcases outstanding with ⟨issued, missing⟩
      simp only [List.mem_cons, List.not_mem_nil, or_false, not_or] at missing
      omega
  rcases smallest_ticket_progresses (.execute (.start ⟨fun _ => 0, rfl⟩) wrapOwnCell ran)
    smallest with ⟨producer, ticket, _, _, _, ready, _, _⟩
  exact ⟨state, ran, smallest, _, claiming, ready (by rw [claiming]; rfl)⟩

end

end State

end TelemetryGateway.BroadcastRing
