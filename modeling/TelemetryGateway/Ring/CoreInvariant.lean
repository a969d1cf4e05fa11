import TelemetryGateway.Ring.Cells

/-! # What the cells and the producers agree on

The invariant of the lock-free part has two halves. `Tickets` says who owns
each issued position; `Claims` ties every cell's sequence word and payload to
the program counters of the producers. Readers change neither. -/

namespace TelemetryGateway.BroadcastRing

/-! ## Sequence words of one cell -/

namespace Geometry

/-- Seen from the positions of its own cell, the word a claim expects says that
every earlier position is complete and no later one is. -/
theorem le_expected_iff (geometry : Geometry) {pos claimed : Nat}
    (same : geometry.slot pos = geometry.slot claimed) :
    2 * pos + 2 ≤ geometry.expected claimed ↔ pos < claimed := by
  unfold expected
  constructor
  · intro complete
    split at complete <;> omega
  · intro earlier
    have lap := geometry.capacity_le_of_slot_eq same earlier
    rw [if_neg (by omega)]
    omega

theorem expected_even (geometry : Geometry) (claimed pos : Nat) :
    geometry.expected claimed ≠ 2 * pos + 1 := by
  unfold expected
  split <;> omega

theorem expected_le_claimed (geometry : Geometry) (pos : Nat) :
    geometry.expected pos ≤ 2 * pos + 1 := by
  have atLeastTwo := geometry.atLeastTwo
  unfold expected
  split <;> omega

end Geometry

/-- The positions a ticket stands for: its own and those of the frames behind
it in the batch. -/
def Ticket.Covers (ticket : Ticket) (pos : Nat) : Prop :=
  ticket.pos ≤ pos ∧ pos < ticket.pos + 1 + ticket.rest.length

theorem Ticket.covers_pos (ticket : Ticket) : ticket.Covers ticket.pos := by
  constructor <;> omega

theorem ProducerPhase.ticket_of_writing {phase : ProducerPhase} {ticket : Ticket}
    (writing : phase.writing = some ticket) : phase.ticket = some ticket := by
  cases phase <;> simp_all [ProducerPhase.writing, ProducerPhase.ticket]

namespace Core

section

variable {geometry : Geometry} {Producer : Type}

def seqAt (core : Core geometry Producer) (pos : Nat) : Nat :=
  (core.cells (geometry.slot pos)).seq

def wordsAt (core : Core geometry Producer) (pos : Nat) : Fin kFrameWords → UInt64 :=
  (core.cells (geometry.slot pos)).words

structure Tickets (core : Core geometry Producer) : Prop where
  counted : core.issued.length = core.writePos
  owned : ∀ producer ticket, (core.producers producer).ticket = some ticket →
    ∀ offset frame, (ticket.frame :: ticket.rest)[offset]? = some frame →
      core.issued[ticket.pos + offset]? = some (producer, frame)
  outstanding : ∀ pos, pos < core.writePos → pos ∉ core.published →
    ∃ producer ticket, (core.producers producer).ticket = some ticket ∧ ticket.Covers pos
  unpublished : ∀ producer ticket, (core.producers producer).ticket = some ticket →
    ∀ pos, ticket.Covers pos → pos ∉ core.published
  publishedIssued : ∀ pos, pos ∈ core.published → pos < core.writePos

structure Claims (core : Core geometry Producer) : Prop where
  shape : ∀ index, (core.cells index).seq = 0 ∨ ∃ pos, geometry.slot pos = index ∧
    ((core.cells index).seq = 2 * pos + 1 ∨ (core.cells index).seq = 2 * pos + 2)
  complete : ∀ pos, pos ∈ core.published ↔ 2 * pos + 2 ≤ core.seqAt pos
  claimed : ∀ producer ticket, (core.producers producer).writing = some ticket →
    core.seqAt ticket.pos = 2 * ticket.pos + 1
  holder : ∀ pos, core.seqAt pos = 2 * pos + 1 →
    ∃ producer ticket, (core.producers producer).writing = some ticket ∧ ticket.pos = pos
  stored : ∀ producer ticket index, core.producers producer = .store ticket index →
    ∀ earlier, earlier < index → core.wordsAt ticket.pos earlier = ticket.words earlier
  copied : ∀ producer ticket, core.producers producer = .publish ticket →
    core.wordsAt ticket.pos = ticket.words
  payload : ∀ pos, core.seqAt pos = 2 * pos + 2 → ∃ producer frame,
    core.issued[pos]? = some (producer, frame) ∧
      core.wordsAt pos = { frame with seq := UInt64.ofNat pos }.toWords

structure Consistent (core : Core geometry Producer) : Prop where
  tickets : core.Tickets
  claims : core.Claims

theorem empty_consistent : (Core.empty : Core geometry Producer).Consistent := by
  constructor
  · constructor <;> simp [Core.empty, ProducerPhase.ticket]
  · constructor <;> simp [Core.empty, ProducerPhase.writing, Core.seqAt]

/-! ## Consequences -/

theorem Tickets.issued_of_ticket {core : Core geometry Producer} (tickets : core.Tickets)
    {producer : Producer} {ticket : Ticket}
    (held : (core.producers producer).ticket = some ticket) :
    core.issued[ticket.pos]? = some (producer, ticket.frame) :=
  tickets.owned producer ticket held 0 ticket.frame rfl

theorem Tickets.issued_of_covers {core : Core geometry Producer} (tickets : core.Tickets)
    {producer : Producer} {ticket : Ticket} {pos : Nat}
    (held : (core.producers producer).ticket = some ticket) (covers : ticket.Covers pos) :
    ∃ frame, core.issued[pos]? = some (producer, frame) := by
  rcases covers with ⟨lower, upper⟩
  have inside : pos - ticket.pos < (ticket.frame :: ticket.rest).length := by
    simp only [List.length_cons]
    omega
  have owned := tickets.owned producer ticket held (pos - ticket.pos) _
    (List.getElem?_eq_getElem inside)
  rw [show ticket.pos + (pos - ticket.pos) = pos by omega] at owned
  exact ⟨_, owned⟩

theorem Tickets.covers_lt {core : Core geometry Producer} (tickets : core.Tickets)
    {producer : Producer} {ticket : Ticket} {pos : Nat}
    (held : (core.producers producer).ticket = some ticket) (covers : ticket.Covers pos) :
    pos < core.writePos := by
  rcases tickets.issued_of_covers held covers with ⟨frame, issued⟩
  rw [← tickets.counted]
  exact (List.getElem?_eq_some_iff.mp issued).1

theorem Tickets.owner_unique {core : Core geometry Producer} (tickets : core.Tickets)
    {left right : Producer} {leftTicket rightTicket : Ticket} {pos : Nat}
    (leftHeld : (core.producers left).ticket = some leftTicket)
    (rightHeld : (core.producers right).ticket = some rightTicket)
    (leftCovers : leftTicket.Covers pos) (rightCovers : rightTicket.Covers pos) :
    left = right := by
  rcases tickets.issued_of_covers leftHeld leftCovers with ⟨_, leftIssued⟩
  rcases tickets.issued_of_covers rightHeld rightCovers with ⟨_, rightIssued⟩
  rw [leftIssued] at rightIssued
  cases rightIssued
  rfl

/-- A position is unpublished while it has no ticket, or while its owner has
not stored its even sequence word. -/
theorem Tickets.unpublished_iff {core : Core geometry Producer} (tickets : core.Tickets)
    (pos : Nat) : pos ∉ core.published ↔ core.writePos ≤ pos ∨
      ∃ producer ticket, (core.producers producer).ticket = some ticket ∧
        ticket.Covers pos := by
  constructor
  · intro missing
    by_cases issued : pos < core.writePos
    · exact Or.inr (tickets.outstanding pos issued missing)
    · exact Or.inl (Nat.not_lt.mp issued)
  · intro reason published
    rcases reason with unissued | ⟨producer, ticket, held, covers⟩
    · exact Nat.not_le.mpr (tickets.publishedIssued pos published) unissued
    · exact tickets.unpublished producer ticket held pos covers published

theorem Consistent.writer_unique {core : Core geometry Producer} (consistent : core.Consistent)
    {left right : Producer} {leftTicket rightTicket : Ticket}
    (leftWrites : (core.producers left).writing = some leftTicket)
    (rightWrites : (core.producers right).writing = some rightTicket)
    (same : geometry.slot leftTicket.pos = geometry.slot rightTicket.pos) : left = right := by
  have leftSeq := consistent.claims.claimed left leftTicket leftWrites
  have rightSeq := consistent.claims.claimed right rightTicket rightWrites
  rw [seqAt, same] at leftSeq
  rw [seqAt, leftSeq] at rightSeq
  have equal : leftTicket.pos = rightTicket.pos := by omega
  have rightCovers := rightTicket.covers_pos
  rw [← equal] at rightCovers
  exact consistent.tickets.owner_unique (ProducerPhase.ticket_of_writing leftWrites)
    (ProducerPhase.ticket_of_writing rightWrites) leftTicket.covers_pos rightCovers

theorem Consistent.lt_writePos_of_seq {core : Core geometry Producer}
    (consistent : core.Consistent) {pos : Nat}
    (held : core.seqAt pos = 2 * pos + 1 ∨ core.seqAt pos = 2 * pos + 2) :
    pos < core.writePos := by
  rcases held with writing | complete
  · rcases consistent.claims.holder pos writing with ⟨producer, ticket, writes, rfl⟩
    exact consistent.tickets.covers_lt (ProducerPhase.ticket_of_writing writes)
      ticket.covers_pos
  · exact consistent.tickets.publishedIssued pos
      ((consistent.claims.complete pos).mpr (by omega))

end

end Core

end TelemetryGateway.BroadcastRing
