import TelemetryGateway.Egress.Effects
import TelemetryGateway.Egress.Framing

/-! # What happens to a frame that was popped

`note_gap` moves `next_seq_` past a batch before any of it is sent. A batch
whose flush fails is thrown away with the connection, and since no sequence is
missing in front of the next batch, no marker ever mentions it. As long as no
flush fails, every frame and every gap reaches a message the socket took whole. -/

namespace TelemetryGateway.Egress

def Connection.Accepted (connection : Connection) (message : List Frame) : Prop :=
  ∃ earlier, earlier ++ [message] <+: connection.messages ∧
    ((earlier ++ [message]).map Wire.messageBytes).flatten <+: connection.written

theorem Connection.Accepted.given {connection : Connection} {message : List Frame}
    (accepted : connection.Accepted message) : message ∈ connection.messages := by
  rcases accepted with ⟨earlier, initial, _⟩
  exact initial.subset (List.mem_append_right _ (List.mem_singleton.mpr rfl))

theorem Connection.Accepted.length_le {connection : Connection} {message : List Frame}
    (accepted : connection.Accepted message) :
    (Wire.messageBytes message).length ≤ connection.written.length := by
  rcases accepted with ⟨earlier, _, taken⟩
  have length := taken.length_le
  simp only [List.map_append, List.flatten_append, List.length_append, List.map_cons,
    List.map_nil, List.flatten_cons, List.flatten_nil, List.append_nil] at length
  omega

theorem Connection.accepted_of_complete {connection : Connection}
    (complete : connection.written = connection.stream) {message : List Frame}
    (given : message ∈ connection.messages) : connection.Accepted message := by
  rcases List.append_of_mem given with ⟨earlier, later, messages⟩
  have split : connection.messages = (earlier ++ [message]) ++ later := by
    rw [messages, List.append_assoc]
    rfl
  have whole : connection.stream = ((earlier ++ [message]).map Wire.messageBytes).flatten ++
      (later.map Wire.messageBytes).flatten := by
    rw [Connection.stream, split, List.map_append, List.flatten_append]
  refine ⟨earlier, ⟨later, split.symm⟩, ?_⟩
  rw [complete, whole]
  exact List.prefix_append _ _

namespace State

/-- The sequence belongs to a popped frame of an accepted message, or a marker
of an accepted message covers it. -/
def Reported (state : State) (seq : Nat) : Prop :=
  ∃ connection ∈ state.history.connections, ∃ message, connection.Accepted message ∧
    ∃ record ∈ message,
      (record ∈ state.history.popped ∧ record.seq.toNat = seq) ∨
      (Wire.isGap record = true ∧ record.seq.toNat ≤ seq ∧
        seq < record.seq.toNat + (Wire.gapCount record).toNat)

/-- Every sequence from the first popped one up to `next_seq_` that was in a
batch, or in a gap `note_gap` found, has been reported. -/
def NothingVanishes (state : State) : Prop :=
  ∀ seq, (∀ first ∈ state.history.popped.head?, first.seq.toNat ≤ seq) →
    seq < state.egress.nextSeq.toNat →
    ((∃ frame ∈ state.history.popped, frame.seq.toNat = seq) ∨
      ∃ gap ∈ state.history.gaps, gap.1.toNat ≤ seq ∧ seq < gap.1.toNat + gap.2.toNat) →
    state.Reported seq

/-- No flush fails: neither `send` nor, while a message is half sent, `poll`
reports an error. A stop may still interrupt a flush. -/
def FlushesHold (state : State) : Event → Prop
  | .send .failed => False
  | .poll .failed => ∀ site, state.phase ≠ .pollWritable site
  | _ => True

end State

/-! ## Where a record is -/

def Phase.inHand (egress : Egress) : Phase → List Frame
  | .coalesce batch => batch
  | .linger batch _ _ => batch
  | .popMore batch _ _ => batch
  | .noteGap batch => batch
  | .sendEcho _ => egress.outgoing
  | .encode _ => egress.outgoing
  | _ => []

theorem Phase.inHand_eq (phase : Phase) (egress : Egress) :
    phase.inHand egress = phase.batch ++ phase.unsent egress := by
  cases phase with
  | coalesce batch => exact (List.append_nil _).symm
  | linger batch _ _ => exact (List.append_nil _).symm
  | popMore batch _ _ => exact (List.append_nil _).symm
  | noteGap batch => exact (List.append_nil _).symm
  | _ => rfl

theorem outgoing_subset_maybeSendEcho (egress : Egress) (now : UInt64) :
    egress.outgoing ⊆ (egress.maybeSendEcho now).outgoing := by
  unfold maybeSendEcho
  split
  · exact List.Subset.refl _
  · split
    · exact List.Subset.refl _
    · exact List.subset_append_left _ _

namespace State

def Given (state : State) (record : Frame) : Prop :=
  ∃ connection ∈ state.history.connections, ∃ message ∈ connection.messages, record ∈ message

def Holds (state : State) (record : Frame) : Prop :=
  record ∈ state.phase.inHand state.egress ∨ state.Given record

def Aborted (state : State) : Prop :=
  state.stopping = true ∧ state.egress.clientFd = none ∧
    (state.phase = .waitForClient ∨ state.phase = .returned)

structure Delivering (state : State) : Prop where
  past : ∀ connection ∈ state.history.past, connection.written = connection.stream
  popped : ∀ frame ∈ state.history.popped, state.Holds frame
  gaps : ∀ gap ∈ state.history.gaps, ∃ marker, Wire.isGap marker = true ∧
    marker.seq = gap.1 ∧ Wire.gapCount marker = gap.2 ∧ state.Holds marker

theorem Framed.current_complete {state : State} (framed : state.Framed)
    (quiet : state.phase.flushing = false) :
    state.history.current.written = state.history.current.stream := by
  have current := framed.current
  rw [(framed.quiet quiet).1, List.drop_nil, List.append_nil] at current
  exact current

/-- Right after a flush, whatever was popped or found missing is in a message
that a socket took whole. -/
theorem Delivering.nothing_vanishes {state : State} (delivering : state.Delivering)
    (framed : state.Framed) {site : FlushSite} (flushed : state.phase = .flushed site) :
    state.NothingVanishes := by
  have accepted {record : Frame} (holds : state.Holds record) :
      ∃ connection ∈ state.history.connections, ∃ message, connection.Accepted message ∧
        record ∈ message := by
    rcases holds with inHand | ⟨connection, member, message, given, found⟩
    · rw [flushed] at inHand
      cases inHand
    · refine ⟨connection, member, message, Connection.accepted_of_complete ?_ given, found⟩
      rcases List.mem_append.mp member with old | last
      · exact delivering.past connection old
      · rw [List.mem_singleton.mp last]
        exact framed.current_complete (by rw [flushed]; rfl)
  intro seq _ _ reason
  rcases reason with ⟨frame, popped, equal⟩ | ⟨gap, found, lower, upper⟩
  · rcases accepted (delivering.popped frame popped) with ⟨connection, member, message, all, inside⟩
    exact ⟨connection, member, message, all, frame, inside, Or.inl ⟨popped, equal⟩⟩
  · rcases delivering.gaps gap found with ⟨marker, isGap, first, count, holds⟩
    rcases accepted holds with ⟨connection, member, message, all, inside⟩
    refine ⟨connection, member, message, all, marker, inside, Or.inr ⟨isGap, ?_, ?_⟩⟩
    · rw [first]
      exact lower
    · rw [first, count]
      exact upper

/-! ## One step -/

theorem Delivering.keep {state after : State} (delivering : state.Delivering)
    (past : after.history.past = state.history.past)
    (holds : ∀ record, state.Holds record → after.Holds record)
    (popped : after.history.popped = state.history.popped)
    (gaps : after.history.gaps = state.history.gaps) : after.Delivering := by
  constructor
  · rw [past]
    exact delivering.past
  · rw [popped]
    intro frame found
    exact holds frame (delivering.popped frame found)
  · rw [gaps]
    intro gap found
    rcases delivering.gaps gap found with ⟨marker, isGap, first, count, held⟩
    exact ⟨marker, isGap, first, count, holds marker held⟩

theorem Holds.same {state after : State} (quiet : state.Quiet after) {record : Frame}
    (holds : state.Holds record) : after.Holds record := by
  rcases holds with there | ⟨connection, member, message, given, found⟩
  · refine Or.inl ?_
    rw [Phase.inHand_eq, quiet.batch, quiet.unsent, ← Phase.inHand_eq]
    exact there
  · refine Or.inr ?_
    rcases List.mem_append.mp member with old | current
    · exact ⟨connection, List.mem_append_left _ (quiet.past ▸ old), message, given, found⟩
    · rw [List.mem_singleton.mp current, ← quiet.messages] at given
      exact ⟨_, List.mem_append_right _ (List.mem_singleton.mpr rfl), message, given, found⟩

theorem Delivering.dropAndContinue {state : State} (delivering : state.Delivering)
    (complete : state.history.current.written = state.history.current.stream)
    (empty : state.phase.inHand state.egress = []) : state.dropAndContinue.Delivering := by
  have kept (record : Frame) (holds : state.Holds record) :
      state.dropAndContinue.Holds record := by
    rcases holds with there | ⟨connection, member, message, given, found⟩
    · rw [empty] at there
      cases there
    · exact Or.inr ⟨connection, List.mem_append_left _ member, message, given, found⟩
  refine ⟨?_, fun frame found => kept frame (delivering.popped frame found), ?_⟩
  · intro connection member
    rcases List.mem_append.mp member with old | last
    · exact delivering.past connection old
    · rw [List.mem_singleton.mp last]
      exact complete
  · intro gap found
    rcases delivering.gaps gap found with ⟨marker, isGap, first, count, held⟩
    exact ⟨marker, isGap, first, count, kept marker held⟩

theorem Delivering.recordPop {state after : State} (delivering : state.Delivering)
    {frames : List Frame} (pops : state.Pops frames after) : after.Delivering := by
  have inHand : after.phase.inHand after.egress = state.phase.inHand state.egress ++ frames := by
    rw [Phase.inHand_eq, Phase.inHand_eq, pops.batch, pops.unsent, pops.before, List.append_nil,
      List.append_nil]
  have kept (record : Frame) (holds : state.Holds record) : after.Holds record := by
    rcases holds with there | ⟨connection, member, message, given, found⟩
    · exact Or.inl (inHand ▸ List.mem_append_left _ there)
    · exact Or.inr ⟨connection, pops.history ▸ member, message, given, found⟩
  constructor
  · rw [pops.history]
    exact delivering.past
  · rw [pops.history]
    intro frame found
    rcases List.mem_append.mp found with old | new
    · exact kept frame (delivering.popped frame old)
    · exact Or.inl (inHand ▸ List.mem_append_right _ new)
  · rw [pops.history]
    intro gap found
    rcases delivering.gaps gap found with ⟨marker, isGap, first, count, held⟩
    exact ⟨marker, isGap, first, count, kept marker held⟩

theorem Delivering.noteGap {state : State} (delivering : state.Delivering) {batch : List Frame}
    (noting : state.phase = .noteGap batch) (filled : batch ≠ []) (now : UInt64) :
    (state.noteGap batch now).Delivering := by
  cases batch with
  | nil => exact absurd rfl filled
  | cons front rest =>
      have outgoing := outgoing_noteGap state.egress front rest now
      have kept (record : Frame) (holds : state.Holds record) :
          (state.noteGap (front :: rest) now).Holds record := by
        rcases holds with there | given
        · rw [noting] at there
          refine Or.inl ?_
          change record ∈ (state.egress.noteGap (front :: rest) now).outgoing
          rw [outgoing]
          exact List.mem_append_right _ there
        · exact Or.inr given
      refine ⟨delivering.past, fun frame found => kept frame (delivering.popped frame found), ?_⟩
      intro gap found
      rcases List.mem_append.mp found with old | new
      · rcases delivering.gaps gap old with ⟨marker, isGap, first, count, held⟩
        exact ⟨marker, isGap, first, count, kept marker held⟩
      · refine ⟨Wire.makeGap gap.1 gap.2 state.egress.gapReason now, Wire.isGap_makeGap .., rfl,
          Wire.gapCount_makeGap .., Or.inl ?_⟩
        change _ ∈ (state.egress.noteGap (front :: rest) now).outgoing
        rw [outgoing]
        exact List.mem_append_left _ (List.mem_map.mpr ⟨gap, new, rfl⟩)

theorem Delivering.encode {state : State} (delivering : state.Delivering) {n : Nat}
    (encoding : state.phase = .encode n) : (state.encode n).Delivering := by
  refine delivering.keep rfl ?_ rfl rfl
  intro record holds
  refine Or.inr ?_
  have last : (state.encode n).history.current ∈ (state.encode n).history.connections :=
    List.mem_append_right _ (List.mem_singleton.mpr rfl)
  rcases holds with there | ⟨connection, member, message, given, found⟩
  · rw [encoding] at there
    exact ⟨_, last, state.egress.outgoing, List.mem_append_right _ (List.mem_singleton.mpr rfl),
      there⟩
  · rcases List.mem_append.mp member with old | current
    · exact ⟨connection, List.mem_append_left _ old, message, given, found⟩
    · rw [List.mem_singleton.mp current] at given
      exact ⟨_, last, message, List.mem_append_left _ given, found⟩

def Sound (state : State) : Prop :=
  state.Aborted ∨ state.Delivering

theorem Delivering.step {state after : State} (delivering : state.Delivering)
    (framed : state.Framed) {event : Event} (holds : state.FlushesHold event)
    (stepped : state.step event = some after) : after.Sound := by
  cases step_effect stepped with
  | quiet quiet nothing =>
      exact Or.inr (delivering.keep quiet.past (fun _ held => held.same quiet) quiet.popped
        quiet.gaps)
  | drop drops =>
      cases drops with
      | failed site flushing => exact holds.elim
      | pollFailed site parked => exact absurd parked (holds site)
      | stopped site parked stopping ready =>
          refine Or.inl ⟨stopping, ?_, Or.inl rfl⟩
          rcases Option.ne_none_iff_exists'.mp (framed.client (by rw [parked]; rfl)) with
            ⟨fd, connected⟩
          simp only [State.dropAndContinue, dropClient, connected]
      | gone testing =>
          refine Or.inr (delivering.dropAndContinue ?_ (by rw [testing]; rfl))
          exact framed.current_complete (by rw [testing]; rfl)
  | pop frames pops => exact Or.inr (delivering.recordPop pops)
  | noteGap batch noting now =>
      exact Or.inr (delivering.noteGap noting (framed.batch_filled noting) now)
  | sendEcho n probing now =>
      refine Or.inr (delivering.keep rfl ?_ rfl rfl)
      intro record held
      rcases held with there | given
      · rw [probing] at there
        exact Or.inl (outgoing_subset_maybeSendEcho state.egress now there)
      · exact Or.inr given
  | encode n encoding => exact Or.inr (delivering.encode encoding)

theorem Aborted.step {state after : State} (aborted : state.Aborted) {event : Event}
    (stepped : state.step event = some after) : after.Aborted := by
  rcases aborted with ⟨stopping, absent, waiting | returned⟩
  · cases step_cases stepped with
    | stop => exact ⟨rfl, absent, Or.inl waiting⟩
    | keepClient _ client => exact absurd absent client
    | pollListen _ _ result =>
        cases result with
        | interrupted => exact ⟨stopping, absent, Or.inl waiting⟩
        | failed => exact ⟨stopping, absent, Or.inr rfl⟩
        | answered ready =>
            simp only [State.waitForClient, stopping, if_true]
            exact ⟨rfl, absent, Or.inr rfl⟩
    | _ => simp_all
  · cases step_cases stepped with
    | stop => exact ⟨rfl, absent, Or.inr returned⟩
    | _ => simp_all

theorem sound_of_reachable {tuning : Tuning} {state : State}
    (reached : (system tuning).ReachableUnder FlushesHold state) : state.Sound := by
  refine reached.invariant State.Sound ?_ ?_
  · intro state initial
    rcases initial with ⟨listenFd, stopFd, egress, _, rfl⟩
    exact Or.inr ⟨(fun _ member => nomatch member), (fun _ member => nomatch member),
      fun _ member => nomatch member⟩
  · intro state event after before holds sound stepped
    rcases sound with aborted | delivering
    · exact Or.inl (aborted.step stepped)
    · exact delivering.step (framed_of_reachable before) holds stepped

end State

/-! ## Nothing vanishes while flushes hold -/

theorem nothing_vanishes_while_flushes_hold {tuning : Tuning} {state : State} {site : FlushSite}
    (reached : (system tuning).ReachableUnder State.FlushesHold state)
    (flushed : state.phase = .flushed site) : state.NothingVanishes := by
  rcases State.sound_of_reachable reached with ⟨_, _, waiting | returned⟩ | delivering
  · rw [waiting] at flushed
    cases flushed
  · rw [returned] at flushed
    cases flushed
  · exact delivering.nothing_vanishes (State.framed_of_reachable reached) flushed

def numbered (seq : UInt64) : Frame :=
  { Frame.zero with seq := seq }

/-- Two batches with a gap between them, both flushed in pieces, the client
replaced in between. -/
def reconnectBetweenBatches : List Event :=
  [.poll (.answered true), .accept (some 5)] ++ fillBatch [numbered 0] ++
    [.send (.sent 10), .send .wouldBlock, .poll (.answered true), .send (.sent 46), .proceed,
      .proceed, .proceed, .proceed, .peer true, .poll (.answered true), .accept (some 6)] ++
    fillBatch [numbered 3] ++ [.send (.sent 96), .proceed]

theorem nothing_vanishes_reconnectBetweenBatches :
    ∃ state, (system {}).run (.initial { tuning := {} }) reconnectBetweenBatches = some state ∧
      state.egress.nextSeq = 4 ∧ state.history.gaps = [(1, 2)] ∧ state.NothingVanishes := by
  have final : ((system {}).run (.initial { tuning := {} }) reconnectBetweenBatches).map
      (fun state => (state.egress.nextSeq, state.history.gaps, state.phase)) =
      some (4, [(1, 2)], .flushed (.batch 1)) := by
    decide +kernel
  rcases Option.map_eq_some_iff.mp final with ⟨state, ran, facts⟩
  simp only [Prod.mk.injEq] at facts
  have holds : ∀ event ∈ reconnectBetweenBatches, ∀ state : State, state.FlushesHold event := by
    have plain : ∀ event ∈ reconnectBetweenBatches,
        event ≠ .send .failed ∧ event ≠ .poll .failed := by
      decide
    intro event member state
    rcases plain event member with ⟨sends, polls⟩
    unfold State.FlushesHold
    split
    · exact sends rfl
    · exact absurd rfl polls
    · trivial
  have reached : (system {}).ReachableUnder State.FlushesHold state :=
    .run (.start ⟨3, 4, _, rfl, rfl⟩) reconnectBetweenBatches
      (System.guarded_of_labels _ reconnectBetweenBatches holds _) ran
  exact ⟨state, ran, facts.1, facts.2.1,
    nothing_vanishes_while_flushes_hold reached facts.2.2⟩

def failFirstBatch : List Event :=
  [.poll (.answered true), .accept (some 5)] ++ fillBatch [numbered 0] ++
    [.send .failed, .poll (.answered true), .accept (some 6)] ++ fillBatch [numbered 1] ++
    [.send (.sent 56), .proceed]

theorem abandoned_batch_vanishes :
    ¬ ∀ state site, (system {}).Reachable state → state.phase = .flushed site →
      state.NothingVanishes := by
  intro holds
  have final : ((system {}).run (.initial { tuning := {} }) failFirstBatch).map
      (fun state => (state.phase, state.egress.nextSeq, state.history.popped)) =
      some (.flushed (.batch 1), 2, [numbered 0, numbered 1]) := by
    decide +kernel
  have connections : ((system {}).run (.initial { tuning := {} }) failFirstBatch).map
      (fun state => state.history.connections.map fun connection =>
        (connection.messages, connection.written.length)) =
      some [([[numbered 0]], 0), ([[numbered 1]], 56)] := by
    decide +kernel
  rcases Option.map_eq_some_iff.mp final with ⟨state, ran, facts⟩
  simp only [Prod.mk.injEq] at facts
  rcases facts with ⟨flushed, nextSeq, popped⟩
  rw [ran, Option.map_some, Option.some.injEq] at connections
  have vanished := holds state _ (.execute (.start ⟨3, 4, _, rfl, rfl⟩) failFirstBatch ran) flushed
    0 (by rw [popped]; simp [numbered]) (by rw [nextSeq]; decide)
    (Or.inl ⟨numbered 0, by rw [popped]; simp, rfl⟩)
  rcases vanished with ⟨connection, member, message, accepted, record, inside, reported⟩
  have listed : (connection.messages, connection.written.length) ∈
      state.history.connections.map fun connection =>
        (connection.messages, connection.written.length) := List.mem_map.mpr ⟨_, member, rfl⟩
  have given := accepted.given
  have taken := accepted.length_le
  rw [connections, List.mem_cons, List.mem_singleton] at listed
  rcases listed with first | second
  · -- the first connection took nothing
    simp only [Prod.mk.injEq] at first
    rw [first.2, Wire.length_messageBytes, Wire.kHeaderSize] at taken
    omega
  · -- the second one was never given sequence 0
    simp only [Prod.mk.injEq] at second
    rw [second.1, List.mem_singleton] at given
    rw [given, List.mem_singleton] at inside
    rw [inside, popped] at reported
    revert reported
    decide

end TelemetryGateway.Egress
