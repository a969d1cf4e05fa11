import TelemetryGateway.Ring.CoreInvariant

/-! # Every producer step keeps the cells consistent -/

namespace TelemetryGateway.BroadcastRing.Core

section

variable {geometry : Geometry} {Producer : Type}

/-! ## The effect of one store -/

theorem seqAt_setSeq_same (core : Core geometry Producer) {pos target : Nat} (seq : Nat)
    (same : geometry.slot pos = geometry.slot target) :
    (core.setSeq target seq).seqAt pos = seq := by
  simp [seqAt, setSeq, same]

theorem seqAt_setSeq_other (core : Core geometry Producer) {pos target : Nat} (seq : Nat)
    (different : geometry.slot pos ≠ geometry.slot target) :
    (core.setSeq target seq).seqAt pos = core.seqAt pos := by
  simp [seqAt, setSeq, different]

@[simp] theorem wordsAt_setSeq (core : Core geometry Producer) (pos target seq : Nat) :
    (core.setSeq target seq).wordsAt pos = core.wordsAt pos := by
  unfold wordsAt setSeq
  by_cases same : geometry.slot pos = geometry.slot target
  · simp [same]
  · simp [same]

@[simp] theorem seqAt_setWord (core : Core geometry Producer) (pos target : Nat)
    (index : Fin kFrameWords) (word : UInt64) :
    (core.setWord target index word).seqAt pos = core.seqAt pos := by
  unfold seqAt setWord
  by_cases same : geometry.slot pos = geometry.slot target
  · simp [same]
  · simp [same]

@[simp] theorem cells_setWord_seq (core : Core geometry Producer) (target : Nat)
    (index : Fin kFrameWords) (word : UInt64) (slot : Fin geometry.capacity) :
    ((core.setWord target index word).cells slot).seq = (core.cells slot).seq := by
  by_cases here : slot = geometry.slot target
  · subst here
    simp [setWord]
  · simp [setWord, here]

theorem wordsAt_setWord_same (core : Core geometry Producer) (target : Nat)
    (index : Fin kFrameWords) (word : UInt64) :
    (core.setWord target index word).wordsAt target =
      Function.update (core.wordsAt target) index word := by
  simp [wordsAt, setWord]

theorem wordsAt_setWord_other (core : Core geometry Producer) {pos target : Nat}
    (index : Fin kFrameWords) (word : UInt64)
    (different : geometry.slot pos ≠ geometry.slot target) :
    (core.setWord target index word).wordsAt pos = core.wordsAt pos := by
  simp [wordsAt, setWord, different]

theorem Claims.shape_setSeq {core : Core geometry Producer} (claims : core.Claims) (target : Nat)
    {seq : Nat} (word : seq = 2 * target + 1 ∨ seq = 2 * target + 2)
    (index : Fin geometry.capacity) :
    ((core.setSeq target seq).cells index).seq = 0 ∨ ∃ pos, geometry.slot pos = index ∧
      (((core.setSeq target seq).cells index).seq = 2 * pos + 1 ∨
        ((core.setSeq target seq).cells index).seq = 2 * pos + 2) := by
  by_cases here : index = geometry.slot target
  · subst here
    have stored : ((core.setSeq target seq).cells (geometry.slot target)).seq = seq :=
      seqAt_setSeq_same core seq rfl
    rw [stored]
    exact Or.inr ⟨target, rfl, word⟩
  · have unchanged : (core.setSeq target seq).cells index = core.cells index := by
      simp [setSeq, here]
    rw [unchanged]
    exact claims.shape index

theorem Claims.stored_further {core : Core geometry Producer} (claims : core.Claims)
    {producer : Producer} {ticket : Ticket} {index : Fin kFrameWords}
    (storing : core.producers producer = .store ticket index) {earlier : Fin kFrameWords}
    (below : earlier.val < index.val + 1) :
    (core.setWord ticket.pos index (ticket.words index)).wordsAt ticket.pos earlier =
      ticket.words earlier := by
  rw [wordsAt_setWord_same]
  by_cases equal : earlier = index
  · subst equal
    simp
  · rw [Function.update_of_ne equal]
    have strictly : earlier < index := by
      apply Fin.lt_def.mpr
      have apart : earlier.val ≠ index.val := fun same => equal (Fin.ext same)
      omega
    exact claims.stored producer ticket index storing earlier strictly

theorem Tickets.issued_before {core : Core geometry Producer} (tickets : core.Tickets)
    {pos : Nat} (inside : pos < core.writePos) (more : List (Producer × Frame)) :
    (core.issued ++ more)[pos]? = core.issued[pos]? :=
  List.getElem?_append_left (by rw [tickets.counted]; exact inside)

theorem Consistent.countRetry {core : Core geometry Producer} (consistent : core.Consistent)
    (claimRetries : UInt64) : ({ core with claimRetries := claimRetries } :
      Core geometry Producer).Consistent := by
  rcases consistent with ⟨⟨counted, owned, outstanding, unpublished, publishedIssued⟩,
    ⟨shape, complete, claimed, holder, stored, copied, payload⟩⟩
  exact ⟨⟨counted, owned, outstanding, unpublished, publishedIssued⟩,
    ⟨shape, complete, claimed, holder, stored, copied, payload⟩⟩

end

section

variable {geometry : Geometry} {Producer : Type} [DecidableEq Producer]

@[simp] theorem setProducer_self (core : Core geometry Producer) (producer : Producer)
    (phase : ProducerPhase) : (core.setProducer producer phase).producers producer = phase := by
  simp [setProducer]

theorem setProducer_other (core : Core geometry Producer) {producer other : Producer}
    (phase : ProducerPhase) (different : other ≠ producer) :
    (core.setProducer producer phase).producers other = core.producers other := by
  simp [setProducer, different]

/-! ## Steps that only move the program counter -/

/-- A producer that moves between phases of one ticket leaves the ownership of
positions as it was. -/
theorem Tickets.keepTicket {core after : Core geometry Producer} (tickets : core.Tickets)
    {producer : Producer} {phase : ProducerPhase}
    (sameTicket : phase.ticket = (core.producers producer).ticket)
    (producers : after.producers = Function.update core.producers producer phase)
    (writePos : after.writePos = core.writePos) (issued : after.issued = core.issued)
    (published : after.published = core.published) : after.Tickets := by
  have ticketOf (other : Producer) :
      (after.producers other).ticket = (core.producers other).ticket := by
    rw [producers]
    by_cases equal : other = producer
    · subst equal
      simp [sameTicket]
    · simp [equal]
  constructor
  case counted => rw [issued, writePos, tickets.counted]
  case owned =>
    intro other ticket held
    rw [issued]
    exact tickets.owned other ticket (ticketOf other ▸ held)
  case outstanding =>
    rw [writePos, published]
    intro pos inside missing
    rcases tickets.outstanding pos inside missing with ⟨other, ticket, held, covers⟩
    exact ⟨other, ticket, (ticketOf other).trans held, covers⟩
  case unpublished =>
    intro other ticket held
    rw [published]
    exact tickets.unpublished other ticket (ticketOf other ▸ held)
  case publishedIssued =>
    rw [writePos, published]
    exact tickets.publishedIssued

theorem Consistent.movePhase {core : Core geometry Producer} (consistent : core.Consistent)
    {producer : Producer} {phase : ProducerPhase}
    (sameTicket : phase.ticket = (core.producers producer).ticket)
    (notWriting : (core.producers producer).writing = none)
    (notWritingAfter : phase.writing = none) :
    (core.setProducer producer phase).Consistent := by
  have writingOf (other : Producer) :
      ((core.setProducer producer phase).producers other).writing =
        (core.producers other).writing := by
    by_cases equal : other = producer
    · subst equal
      rw [setProducer_self, notWritingAfter, notWriting]
    · rw [setProducer_other _ _ equal]
  rcases consistent with ⟨tickets, claims⟩
  refine ⟨tickets.keepTicket sameTicket rfl rfl rfl rfl, ?_⟩
  constructor
  case shape => exact claims.shape
  case complete => exact claims.complete
  case claimed =>
    intro other ticket writes
    exact claims.claimed other ticket (writingOf other ▸ writes)
  case holder =>
    intro pos held
    rcases claims.holder pos held with ⟨other, ticket, writes, at_⟩
    exact ⟨other, ticket, (writingOf other).trans writes, at_⟩
  case stored =>
    intro other ticket index storing
    by_cases equal : other = producer
    · subst equal
      rw [setProducer_self] at storing
      rw [storing] at notWritingAfter
      cases notWritingAfter
    · rw [setProducer_other _ _ equal] at storing
      exact claims.stored other ticket index storing
  case copied =>
    intro other ticket publishing
    by_cases equal : other = producer
    · subst equal
      rw [setProducer_self] at publishing
      rw [publishing] at notWritingAfter
      cases notWritingAfter
    · rw [setProducer_other _ _ equal] at publishing
      exact claims.copied other ticket publishing
  case payload => exact claims.payload

/-! ## Taking tickets -/

/-- The tickets a `fetch_add` hands out lie behind every position issued
before. -/
theorem Tickets.take {core : Core geometry Producer} (tickets : core.Tickets)
    {producer : Producer} (idle : core.producers producer = .idle)
    (frame : Frame) (rest : List Frame) :
    ({ (core.setProducer producer (.claim ⟨core.writePos, frame, rest⟩)) with
        writePos := core.writePos + (frame :: rest).length
        issued := core.issued ++ (frame :: rest).map fun frame => (producer, frame) } :
      Core geometry Producer).Tickets := by
  constructor
  case counted => simp [tickets.counted]
  case owned =>
    intro other ticket held offset owned found
    by_cases equal : other = producer
    · subst equal
      rw [setProducer_self] at held
      cases held
      change (core.issued ++ _)[core.writePos + offset]? = _
      rw [← tickets.counted, List.getElem?_append_right (by omega), Nat.add_sub_cancel_left,
        List.getElem?_map, found]
      rfl
    · rw [setProducer_other _ _ equal] at held
      have issued := tickets.owned other ticket held offset owned found
      have inside := (List.getElem?_eq_some_iff.mp issued).1
      rw [tickets.counted] at inside
      exact (tickets.issued_before inside _).trans issued
  case outstanding =>
    intro pos issued unpublished
    by_cases before : pos < core.writePos
    · rcases tickets.outstanding pos before unpublished with ⟨other, ticket, held, covers⟩
      have different : other ≠ producer := by
        intro equal
        rw [equal, idle] at held
        cases held
      exact ⟨other, ticket, by rwa [setProducer_other _ _ different], covers⟩
    · refine ⟨producer, ⟨core.writePos, frame, rest⟩, by rw [setProducer_self]; rfl, ?_⟩
      simp only [List.length_cons] at issued
      constructor
      · exact Nat.not_lt.mp before
      · change pos < core.writePos + 1 + rest.length
        omega
  case unpublished =>
    intro other ticket held pos covers published
    by_cases equal : other = producer
    · subst equal
      rw [setProducer_self] at held
      cases held
      have issued := tickets.publishedIssued pos published
      exact Nat.not_le.mpr issued covers.1
    · rw [setProducer_other _ _ equal] at held
      exact tickets.unpublished other ticket held pos covers published
  case publishedIssued =>
    intro pos published
    exact Nat.lt_add_right _ (tickets.publishedIssued pos published)

theorem Consistent.takeTickets {core : Core geometry Producer} (consistent : core.Consistent)
    {producer : Producer} (idle : core.producers producer = .idle)
    (frame : Frame) (rest : List Frame) :
    ({ (core.setProducer producer (.claim ⟨core.writePos, frame, rest⟩)) with
        writePos := core.writePos + (frame :: rest).length
        issued := core.issued ++ (frame :: rest).map fun frame => (producer, frame) } :
      Core geometry Producer).Consistent := by
  rcases consistent with ⟨tickets, claims⟩
  have notWriting (other : Producer) (phase : ProducerPhase) :
      ((core.setProducer producer (.claim ⟨core.writePos, frame, rest⟩)).producers other =
        phase) → phase.writing ≠ none → core.producers other = phase := by
    intro holds writes
    by_cases equal : other = producer
    · subst equal
      rw [setProducer_self] at holds
      subst holds
      exact absurd rfl writes
    · rwa [setProducer_other _ _ equal] at holds
  refine ⟨tickets.take idle frame rest, ?_⟩
  constructor
  case shape => exact claims.shape
  case complete => exact claims.complete
  case claimed =>
    intro other ticket writes
    refine claims.claimed other ticket ?_
    rw [notWriting other _ rfl (by rw [writes]; simp)]
    exact writes
  case holder =>
    intro pos held
    rcases claims.holder pos held with ⟨other, ticket, writes, equal⟩
    refine ⟨other, ticket, ?_, equal⟩
    have different : other ≠ producer := by
      intro same
      rw [same, idle] at writes
      cases writes
    rwa [setProducer_other _ _ different]
  case stored =>
    intro other ticket index storing
    exact claims.stored other ticket index
      (notWriting other _ storing (by simp [ProducerPhase.writing]))
  case copied =>
    intro other ticket publishing
    exact claims.copied other ticket
      (notWriting other _ publishing (by simp [ProducerPhase.writing]))
  case payload =>
    intro pos complete
    rcases claims.payload pos complete with ⟨owner, owned, issued, words⟩
    have inside := (List.getElem?_eq_some_iff.mp issued).1
    rw [tickets.counted] at inside
    exact ⟨owner, owned, (tickets.issued_before inside _).trans issued, words⟩

theorem Consistent.take {core after : Core geometry Producer} (consistent : core.Consistent)
    {producer : Producer} {frames : List Frame}
    (taken : core.take producer frames = some after) : after.Consistent := by
  unfold Core.take at taken
  split at taken
  · cases taken
    exact consistent
  · rename_i frame rest idle
    split at taken
    · cases taken
      exact consistent.takeTickets idle frame rest
    · cases taken
  · cases taken

theorem take_limit {core after : Core geometry Producer}
    (limit : core.writePos < kTicketLimit) {producer : Producer} {frames : List Frame}
    (taken : core.take producer frames = some after) : after.writePos < kTicketLimit := by
  unfold Core.take at taken
  split at taken
  · cases taken
    exact limit
  · split at taken
    · rename_i below
      cases taken
      exact below
    · cases taken
  · cases taken

/-! ## Claim, store and publish -/

/-- The exchange succeeds only from the word the previous occupant left, so no
other claim is on the cell and every earlier position of it is complete. -/
theorem Consistent.claim {core : Core geometry Producer} (consistent : core.Consistent)
    {producer : Producer} {ticket : Ticket} (claiming : core.producers producer = .claim ticket)
    (matched : core.seqAt ticket.pos = geometry.expected ticket.pos) :
    ((core.setSeq ticket.pos (2 * ticket.pos + 1)).setProducer producer
      (.store ticket 0)).Consistent := by
  have tickets := consistent.tickets
  have claims := consistent.claims
  have otherSlot {other : Producer} {otherTicket : Ticket}
      (writes : (core.producers other).writing = some otherTicket) :
      geometry.slot otherTicket.pos ≠ geometry.slot ticket.pos := by
    intro same
    have held := claims.claimed other otherTicket writes
    rw [seqAt, same] at held
    rw [seqAt, held] at matched
    exact geometry.expected_even ticket.pos otherTicket.pos matched.symm
  have different {other : Producer} {otherTicket : Ticket}
      (writes : (core.producers other).writing = some otherTicket) : other ≠ producer := by
    intro equal
    rw [equal, claiming] at writes
    cases writes
  refine ⟨tickets.keepTicket (by rw [claiming]; rfl) rfl rfl rfl rfl, ?_⟩
  constructor
  case shape =>
    exact claims.shape_setSeq ticket.pos (Or.inl rfl)
  case complete =>
    intro pos
    change pos ∈ core.published ↔ 2 * pos + 2 ≤ (core.setSeq ticket.pos _).seqAt pos
    rw [claims.complete pos]
    by_cases same : geometry.slot pos = geometry.slot ticket.pos
    · have before : core.seqAt pos = geometry.expected ticket.pos := by
        rw [seqAt, same]
        exact matched
      rw [seqAt_setSeq_same core _ same, before, geometry.le_expected_iff same]
      omega
    · rw [seqAt_setSeq_other core _ same]
  case claimed =>
    intro other otherTicket writes
    change (core.setSeq ticket.pos _).seqAt otherTicket.pos = _
    by_cases equal : other = producer
    · subst equal
      rw [setProducer_self] at writes
      cases writes
      exact seqAt_setSeq_same core _ rfl
    · rw [setProducer_other _ _ equal] at writes
      rw [seqAt_setSeq_other core _ (otherSlot writes)]
      exact claims.claimed other otherTicket writes
  case holder =>
    intro pos held
    change (core.setSeq ticket.pos _).seqAt pos = _ at held
    by_cases same : geometry.slot pos = geometry.slot ticket.pos
    · rw [seqAt_setSeq_same core _ same] at held
      exact ⟨producer, ticket, by rw [setProducer_self]; rfl, by omega⟩
    · rw [seqAt_setSeq_other core _ same] at held
      rcases claims.holder pos held with ⟨other, otherTicket, writes, equal⟩
      exact ⟨other, otherTicket, by rwa [setProducer_other _ _ (different writes)], equal⟩
  case stored =>
    intro other otherTicket index storing earlier below
    change (core.setSeq ticket.pos _).wordsAt otherTicket.pos earlier = _
    rw [wordsAt_setSeq]
    by_cases equal : other = producer
    · subst equal
      rw [setProducer_self] at storing
      cases storing
      exact absurd below (Nat.not_lt_zero _)
    · rw [setProducer_other _ _ equal] at storing
      exact claims.stored other otherTicket index storing earlier below
  case copied =>
    intro other otherTicket publishing
    change (core.setSeq ticket.pos _).wordsAt otherTicket.pos = _
    rw [wordsAt_setSeq]
    by_cases equal : other = producer
    · subst equal
      rw [setProducer_self] at publishing
      cases publishing
    · rw [setProducer_other _ _ equal] at publishing
      exact claims.copied other otherTicket publishing
  case payload =>
    intro pos complete
    change (core.setSeq ticket.pos _).seqAt pos = _ at complete
    change ∃ owner frame, _ ∧ (core.setSeq ticket.pos _).wordsAt pos = _
    rw [wordsAt_setSeq]
    by_cases same : geometry.slot pos = geometry.slot ticket.pos
    · rw [seqAt_setSeq_same core _ same] at complete
      omega
    · rw [seqAt_setSeq_other core _ same] at complete
      exact claims.payload pos complete

/-- Words go only into a cell this producer holds, so no complete cell and no
other producer's copy changes. -/
theorem Consistent.storeWord {core : Core geometry Producer} (consistent : core.Consistent)
    {producer : Producer} {ticket : Ticket} {index : Fin kFrameWords}
    (storing : core.producers producer = .store ticket index) :
    ((core.setWord ticket.pos index (ticket.words index)).setProducer producer
      (if more : index.val + 1 < kFrameWords then .store ticket ⟨index.val + 1, more⟩
        else .publish ticket)).Consistent := by
  have tickets := consistent.tickets
  have claims := consistent.claims
  have writes : (core.producers producer).writing = some ticket := by
    rw [storing]
    rfl
  have seq := claims.claimed producer ticket writes
  generalize afterPhase : (if more : index.val + 1 < kFrameWords then
    ProducerPhase.store ticket ⟨index.val + 1, more⟩ else .publish ticket) = phase
  have phaseWrites : phase.writing = some ticket := by
    rw [← afterPhase]
    split <;> rfl
  have phaseTicket : phase.ticket = some ticket := ProducerPhase.ticket_of_writing phaseWrites
  have writingOf (other : Producer) :
      (((core.setWord ticket.pos index (ticket.words index)).setProducer producer
        phase).producers other).writing = (core.producers other).writing := by
    by_cases equal : other = producer
    · subst equal
      rw [setProducer_self, phaseWrites, writes]
    · rw [setProducer_other _ _ equal]
      rfl
  have elsewhere {other : Producer} {otherTicket : Ticket} (apart : other ≠ producer)
      (otherWrites : (core.producers other).writing = some otherTicket) :
      (core.setWord ticket.pos index (ticket.words index)).wordsAt otherTicket.pos =
        core.wordsAt otherTicket.pos :=
    wordsAt_setWord_other core index _ fun same =>
      apart (consistent.writer_unique otherWrites writes same)
  refine ⟨tickets.keepTicket (by rw [storing, phaseTicket]; rfl) rfl rfl rfl rfl, ?_⟩
  constructor
  case shape =>
    intro slot
    have unchanged : (((core.setWord ticket.pos index (ticket.words index)).setProducer producer
        phase).cells slot).seq = (core.cells slot).seq := cells_setWord_seq ..
    rw [unchanged]
    exact claims.shape slot
  case complete =>
    intro pos
    change _ ↔ _ ≤ (core.setWord ticket.pos index _).seqAt pos
    rw [seqAt_setWord]
    exact claims.complete pos
  case claimed =>
    intro other otherTicket otherWrites
    change (core.setWord ticket.pos index _).seqAt otherTicket.pos = _
    rw [seqAt_setWord]
    exact claims.claimed other otherTicket (writingOf other ▸ otherWrites)
  case holder =>
    intro pos held
    change (core.setWord ticket.pos index _).seqAt pos = _ at held
    rw [seqAt_setWord] at held
    rcases claims.holder pos held with ⟨other, otherTicket, otherWrites, equal⟩
    exact ⟨other, otherTicket, (writingOf other).trans otherWrites, equal⟩
  case stored =>
    intro other otherTicket otherIndex otherStores earlier below
    change (core.setWord ticket.pos index _).wordsAt otherTicket.pos earlier = _
    by_cases equal : other = producer
    · subst equal
      rw [setProducer_self, ← afterPhase] at otherStores
      split at otherStores
      · cases otherStores
        exact claims.stored_further storing below
      · cases otherStores
    · rw [setProducer_other _ _ equal] at otherStores
      change core.producers other = _ at otherStores
      rw [elsewhere equal (by rw [otherStores]; rfl)]
      exact claims.stored other otherTicket otherIndex otherStores earlier below
  case copied =>
    intro other otherTicket otherPublishes
    change (core.setWord ticket.pos index _).wordsAt otherTicket.pos = _
    by_cases equal : other = producer
    · subst equal
      rw [setProducer_self, ← afterPhase] at otherPublishes
      split at otherPublishes
      · cases otherPublishes
      · rename_i last
        cases otherPublishes
        funext earlier
        exact claims.stored_further storing (by omega)
    · rw [setProducer_other _ _ equal] at otherPublishes
      change core.producers other = _ at otherPublishes
      rw [elsewhere equal (by rw [otherPublishes]; rfl)]
      exact claims.copied other otherTicket otherPublishes
  case payload =>
    intro pos complete
    change (core.setWord ticket.pos index _).seqAt pos = _ at complete
    change ∃ owner frame, _ ∧ (core.setWord ticket.pos index _).wordsAt pos = _
    rw [seqAt_setWord] at complete
    have apart : geometry.slot pos ≠ geometry.slot ticket.pos := by
      intro same
      rw [seqAt, same] at complete
      rw [seqAt, complete] at seq
      omega
    rw [wordsAt_setWord_other core index _ apart]
    exact claims.payload pos complete

theorem Tickets.publish {core after : Core geometry Producer} (tickets : core.Tickets)
    {producer : Producer} {ticket : Ticket} {phase : ProducerPhase}
    (publishing : core.producers producer = .publish ticket)
    (next : phase = match ticket.rest with
      | [] => .loadWaiters
      | frame :: rest => .claim ⟨ticket.pos + 1, frame, rest⟩)
    (producers : after.producers = Function.update core.producers producer phase)
    (writePos : after.writePos = core.writePos) (issued : after.issued = core.issued)
    (published : after.published = core.published ++ [ticket.pos]) : after.Tickets := by
  have held : (core.producers producer).ticket = some ticket := by
    rw [publishing]
    rfl
  -- what the producer still owns is what stood behind the published position
  have remaining {left : Ticket} (leftHeld : phase.ticket = some left) :
      left.pos = ticket.pos + 1 ∧ ticket.rest = left.frame :: left.rest := by
    rw [next] at leftHeld
    split at leftHeld
    · cases leftHeld
    · rename_i frame rest equal
      cases leftHeld
      exact ⟨rfl, equal⟩
  have inherits {left : Ticket} (leftHeld : phase.ticket = some left) {pos : Nat}
      (covers : left.Covers pos) : ticket.Covers pos ∧ pos ≠ ticket.pos := by
    rcases remaining leftHeld with ⟨position, behind⟩
    rcases covers with ⟨lower, upper⟩
    refine ⟨⟨by omega, ?_⟩, by omega⟩
    rw [behind, List.length_cons]
    omega
  have self : after.producers producer = phase := by
    rw [producers, Function.update_self]
  have others {other : Producer} (apart : other ≠ producer) :
      after.producers other = core.producers other := by
    rw [producers, Function.update_of_ne apart]
  constructor
  case counted => rw [issued, writePos, tickets.counted]
  case owned =>
    intro other otherTicket otherHeld offset frame found
    rw [issued]
    by_cases equal : other = producer
    · subst equal
      rw [self] at otherHeld
      rcases remaining otherHeld with ⟨position, behind⟩
      have owned := tickets.owned other ticket held (offset + 1) frame
        (by rw [List.getElem?_cons_succ, behind]; exact found)
      rw [position]
      rw [show ticket.pos + 1 + offset = ticket.pos + (offset + 1) by omega]
      exact owned
    · rw [others equal] at otherHeld
      exact tickets.owned other otherTicket otherHeld offset frame found
  case outstanding =>
    intro pos inside missing
    rw [writePos] at inside
    rw [published, List.mem_append, List.mem_singleton, not_or] at missing
    rcases tickets.outstanding pos inside missing.1 with ⟨other, otherTicket, otherHeld, covers⟩
    by_cases equal : other = producer
    · subst equal
      rw [held] at otherHeld
      cases otherHeld
      rcases covers with ⟨lower, upper⟩
      cases behind : ticket.rest with
      | nil =>
          rw [behind, List.length_nil] at upper
          omega
      | cons frame rest =>
          refine ⟨other, ⟨ticket.pos + 1, frame, rest⟩, ?_, ?_⟩
          · rw [self, next, behind]
            rfl
          · rw [behind, List.length_cons] at upper
            constructor
            · change ticket.pos + 1 ≤ pos
              omega
            · change pos < ticket.pos + 1 + 1 + rest.length
              omega
    · exact ⟨other, otherTicket, by rw [others equal]; exact otherHeld, covers⟩
  case unpublished =>
    intro other otherTicket otherHeld pos covers member
    rw [published, List.mem_append, List.mem_singleton] at member
    by_cases equal : other = producer
    · subst equal
      rw [self] at otherHeld
      rcases inherits otherHeld covers with ⟨before, apart⟩
      rcases member with earlier | now
      · exact tickets.unpublished other ticket held pos before earlier
      · exact apart now
    · rw [others equal] at otherHeld
      rcases member with earlier | now
      · exact tickets.unpublished other otherTicket otherHeld pos covers earlier
      · rw [now] at covers
        exact equal (tickets.owner_unique otherHeld held covers ticket.covers_pos)
  case publishedIssued =>
    intro pos member
    rw [writePos]
    rw [published, List.mem_append, List.mem_singleton] at member
    rcases member with earlier | now
    · exact tickets.publishedIssued pos earlier
    · rw [now]
      exact tickets.covers_lt held ticket.covers_pos

/-- The publishing store turns the odd word of a finished copy into the even
one; the frame issued at the ticket is then the payload of the cell. -/
theorem Consistent.publish {core : Core geometry Producer} (consistent : core.Consistent)
    {producer : Producer} {ticket : Ticket} {phase : ProducerPhase}
    (publishing : core.producers producer = .publish ticket)
    (next : phase = match ticket.rest with
      | [] => .loadWaiters
      | frame :: rest => .claim ⟨ticket.pos + 1, frame, rest⟩) :
    ({ (core.setSeq ticket.pos (2 * ticket.pos + 2)).setProducer producer phase with
      published := core.published ++ [ticket.pos] } : Core geometry Producer).Consistent := by
  have tickets := consistent.tickets
  have claims := consistent.claims
  have writes : (core.producers producer).writing = some ticket := by
    rw [publishing]
    rfl
  have seq := claims.claimed producer ticket writes
  have afterWrites : phase.writing = none := by
    rw [next]
    split <;> rfl
  -- whoever still writes is another producer, on another cell
  have keeps {other : Producer} {otherPhase : ProducerPhase} {otherTicket : Ticket}
      (holds : Function.update core.producers producer phase other = otherPhase)
      (otherWrites : otherPhase.writing = some otherTicket) :
      core.producers other = otherPhase ∧
        geometry.slot otherTicket.pos ≠ geometry.slot ticket.pos := by
    have apart : other ≠ producer := by
      intro equal
      rw [equal, Function.update_self] at holds
      rw [← holds, afterWrites] at otherWrites
      cases otherWrites
    rw [Function.update_of_ne apart] at holds
    refine ⟨holds, fun same => apart (consistent.writer_unique ?_ writes same)⟩
    rw [holds]
    exact otherWrites
  refine ⟨tickets.publish publishing next rfl rfl rfl rfl, ?_⟩
  constructor
  case shape =>
    exact claims.shape_setSeq ticket.pos (Or.inr rfl)
  case complete =>
    intro pos
    change pos ∈ core.published ++ [ticket.pos] ↔ _ ≤ (core.setSeq ticket.pos _).seqAt pos
    rw [List.mem_append, List.mem_singleton, claims.complete pos]
    by_cases same : geometry.slot pos = geometry.slot ticket.pos
    · have before : core.seqAt pos = 2 * ticket.pos + 1 := by
        rw [seqAt, same]
        exact seq
      rw [seqAt_setSeq_same core _ same, before]
      omega
    · have apart : pos ≠ ticket.pos := fun equal => same (by rw [equal])
      rw [seqAt_setSeq_other core _ same]
      simp [apart]
  case claimed =>
    intro other otherTicket otherWrites
    change (core.setSeq ticket.pos _).seqAt otherTicket.pos = _
    rcases keeps rfl otherWrites with ⟨unchanged, elsewhere⟩
    rw [seqAt_setSeq_other core _ elsewhere]
    refine claims.claimed other otherTicket ?_
    rw [unchanged]
    exact otherWrites
  case holder =>
    intro pos held
    change (core.setSeq ticket.pos _).seqAt pos = _ at held
    by_cases same : geometry.slot pos = geometry.slot ticket.pos
    · rw [seqAt_setSeq_same core _ same] at held
      omega
    · rw [seqAt_setSeq_other core _ same] at held
      rcases claims.holder pos held with ⟨other, otherTicket, otherWrites, equal⟩
      have apart : other ≠ producer := by
        intro itself
        rw [itself, writes] at otherWrites
        cases otherWrites
        exact same (by rw [equal])
      refine ⟨other, otherTicket, ?_, equal⟩
      change (Function.update core.producers producer phase other).writing = _
      rw [Function.update_of_ne apart]
      exact otherWrites
  case stored =>
    intro other otherTicket index storing
    change ∀ earlier, _ → (core.setSeq ticket.pos _).wordsAt otherTicket.pos earlier = _
    rw [wordsAt_setSeq]
    exact claims.stored other otherTicket index (keeps storing rfl).1
  case copied =>
    intro other otherTicket otherPublishes
    change (core.setSeq ticket.pos _).wordsAt otherTicket.pos = _
    rw [wordsAt_setSeq]
    exact claims.copied other otherTicket (keeps otherPublishes rfl).1
  case payload =>
    intro pos complete
    change (core.setSeq ticket.pos _).seqAt pos = _ at complete
    change ∃ owner frame, _ ∧ (core.setSeq ticket.pos _).wordsAt pos = _
    rw [wordsAt_setSeq]
    by_cases same : geometry.slot pos = geometry.slot ticket.pos
    · rw [seqAt_setSeq_same core _ same] at complete
      have equal : pos = ticket.pos := by omega
      subst equal
      refine ⟨producer, ticket.frame,
        tickets.issued_of_ticket (ProducerPhase.ticket_of_writing writes), ?_⟩
      rw [claims.copied producer ticket publishing]
      exact ticket.words_eq_stored
    · rw [seqAt_setSeq_other core _ same] at complete
      exact claims.payload pos complete

theorem Consistent.advance {core after : Core geometry Producer} (consistent : core.Consistent)
    {producer : Producer} {spurious : Bool}
    (stepped : core.advance producer spurious = some after) : after.Consistent := by
  unfold Core.advance at stepped
  split at stepped
  · rename_i ticket claiming
    split at stepped
    · rename_i matched
      cases stepped
      exact consistent.claim claiming matched.1
    · cases stepped
      exact consistent.movePhase (by rw [claiming]; rfl) (by rw [claiming]; rfl) rfl
  · rename_i ticket retrying
    cases stepped
    exact (consistent.movePhase (by rw [retrying]; rfl) (by rw [retrying]; rfl) rfl).countRetry _
  · rename_i ticket index storing
    cases stepped
    exact consistent.storeWord storing
  · rename_i ticket publishing
    cases stepped
    exact consistent.publish publishing rfl
  · cases stepped
  · cases stepped
  · cases stepped

theorem advance_writePos {core after : Core geometry Producer} {producer : Producer}
    {spurious : Bool} (stepped : core.advance producer spurious = some after) :
    after.writePos = core.writePos := by
  unfold Core.advance at stepped
  split at stepped
  · split at stepped <;> cases stepped <;> rfl
  all_goals cases stepped
  all_goals rfl

theorem advance_producers {core after : Core geometry Producer} {producer : Producer}
    {spurious : Bool} (stepped : core.advance producer spurious = some after) :
    ∃ phase, after.producers = Function.update core.producers producer phase := by
  unfold Core.advance at stepped
  split at stepped
  · split at stepped <;> cases stepped <;> exact ⟨_, rfl⟩
  all_goals cases stepped
  all_goals exact ⟨_, rfl⟩

theorem advance_busy {core after : Core geometry Producer} {producer : Producer}
    {spurious : Bool} (stepped : core.advance producer spurious = some after) :
    after.producers producer ≠ .idle := by
  have moved {core : Core geometry Producer} {phase : ProducerPhase} (busy : phase ≠ .idle) :
      (core.setProducer producer phase).producers producer ≠ .idle := by
    rw [setProducer_self]
    exact busy
  unfold Core.advance at stepped
  split at stepped
  · split at stepped
    · cases stepped
      exact moved fun impossible => nomatch impossible
    · cases stepped
      exact moved fun impossible => nomatch impossible
  · cases stepped
    exact moved fun impossible => nomatch impossible
  · cases stepped
    apply moved
    split <;> exact fun impossible => nomatch impossible
  · cases stepped
    apply moved
    split <;> exact fun impossible => nomatch impossible
  all_goals cases stepped

end

end TelemetryGateway.BroadcastRing.Core
