import Mathlib.Data.List.Chain
import TelemetryGateway.Consumer.GapTracker
import TelemetryGateway.Egress.Effects
import TelemetryGateway.Egress.Framing

/-! # What a connection is sent when no batch has a hole

`note_gap` compares the front of a batch with `next_seq_` and looks no further.
That is enough exactly when the frames of one batch are consecutive: then every
hole is in front of some batch, and a marker announces it. -/

namespace TelemetryGateway.Egress

/-! ## Batches without a hole -/

namespace State

/-- The frames are newer than everything popped before, and join the batch in
hand without a hole. -/
structure Continues (state : State) (frames : List Frame) : Prop where
  ordinary : ∀ frame ∈ frames, Wire.Ordinary frame
  ordered : Wire.Increasing (state.history.popped ++ frames)
  consecutive : Wire.Consecutive (state.phase.batch ++ frames)

def ContiguousFeed (state : State) : Event → Prop
  | .pop frames => state.Continues frames
  | _ => True

theorem ContiguousFeed.of_not_pop {state : State} {event : Event}
    (notPop : ∀ frames, event ≠ .pop frames) : state.ContiguousFeed event := by
  cases event with
  | pop frames => exact absurd rfl (notPop frames)
  | _ => trivial

end State

def Connection.items (connection : Connection) : List Item :=
  connection.messages.flatten.map Wire.item

/-! ## The invariant -/

namespace State

/-- The frames popped so far are those `note_gap` has seen, up to `next_seq_`,
and the batch in hand. -/
structure Numbered (state : State) : Prop where
  noted : ∃ noted, state.history.popped = noted ++ state.phase.batch ∧
    (state.egress.haveSeq = true →
      ∃ last, noted.getLast? = some last ∧ state.egress.nextSeq.toNat = last.seq.toNat + 1)
  ordered : Wire.Increasing state.history.popped
  ordinary : ∀ frame ∈ state.phase.batch, Wire.Ordinary frame
  consecutive : Wire.Consecutive state.phase.batch

/-- Every connection has been given a stream without an unannounced hole, and
the current one goes on at `next_seq_`. -/
structure Continuing (state : State) : Prop where
  numbered : state.Numbered
  past : ∀ connection ∈ state.history.past,
    ∃ expect, Expect.anything.follow connection.items = some expect
  current : ∃ expect, Expect.anything.follow (state.history.current.items ++
      (state.phase.unsent state.egress).map Wire.item) = some expect ∧
    (expect = .anything ∨
      (state.egress.haveSeq = true ∧ expect = .dataOrGap state.egress.nextSeq.toNat))

theorem Numbered.front_ahead {state : State} (numbered : state.Numbered) {front : Frame}
    {rest : List Frame} (batch : state.phase.batch = front :: rest)
    (known : state.egress.haveSeq = true) :
    state.egress.nextSeq.toNat ≤ front.seq.toNat := by
  rcases numbered.noted with ⟨noted, popped, latest⟩
  rcases latest known with ⟨last, isLast, next⟩
  have ordered := numbered.ordered
  rw [popped, batch] at ordered
  have before : last.seq.toNat < front.seq.toNat :=
    (List.pairwise_append.mp ordered).2.2 last (List.mem_of_getLast? isLast) front
      List.mem_cons_self
  omega

/-- What `note_gap` puts in front of the batch is what the stream lacks up to
it. -/
theorem follow_gapBefore {egress : Egress} {front : Frame} {expect : Expect}
    (ahead : egress.haveSeq = true → egress.nextSeq.toNat ≤ front.seq.toNat)
    (expected : expect = .anything ∨
      (egress.haveSeq = true ∧ expect = .dataOrGap egress.nextSeq.toNat)) (now : UInt64) :
    ∃ next, expect.follow (((egress.gapBefore front).toList.map fun gap =>
        Wire.makeGap gap.1 gap.2 egress.gapReason now).map Wire.item) = some next ∧
      next.after (.data front.seq.toNat) = some (.dataOrGap (front.seq.toNat + 1)) := by
  unfold gapBefore
  split
  · rename_i found
    have reached : egress.nextSeq.toNat + (front.seq - egress.nextSeq).toNat = front.seq.toNat := by
      rw [UInt64.toNat_sub_of_le _ _ (UInt64.le_of_lt found.2)]
      exact Nat.add_sub_cancel' (ahead found.1)
    refine ⟨.data front.seq.toNat, ?_, by simp [Expect.after]⟩
    simp only [Option.toList_some, List.map_cons, List.map_nil, Wire.item_makeGap,
      Expect.follow_cons, Expect.follow_nil]
    rcases expected with rfl | ⟨_, rfl⟩
    · simp [Expect.after, reached]
    · simp [Expect.after, reached]
  · rename_i absent
    refine ⟨expect, rfl, ?_⟩
    rcases expected with rfl | ⟨known, rfl⟩
    · rfl
    · have notAhead : ¬ egress.nextSeq.toNat < front.seq.toNat := fun less =>
        absent ⟨known, UInt64.lt_iff_toNat_lt.mpr less⟩
      have same : front.seq.toNat = egress.nextSeq.toNat :=
        Nat.le_antisymm (Nat.not_lt.mp notAhead) (ahead known)
      simp [Expect.after, same]

/-! ## One step -/

theorem Continuing.keep {state after : State} (continuing : state.Continuing)
    (quiet : state.Quiet after) : after.Continuing := by
  rcases continuing with ⟨⟨noted, ordered, ordinary, consecutive⟩, past, current⟩
  refine ⟨⟨?_, ?_, ?_, ?_⟩, ?_, ?_⟩
  · rw [quiet.popped, quiet.batch, quiet.haveSeq, quiet.nextSeq]
    exact noted
  · rw [quiet.popped]
    exact ordered
  · rw [quiet.batch]
    exact ordinary
  · rw [quiet.batch]
    exact consecutive
  · rw [quiet.past]
    exact past
  · rw [Connection.items, quiet.messages, quiet.unsent, quiet.haveSeq, quiet.nextSeq]
    exact current

theorem haveSeq_dropClient (egress : Egress) : egress.dropClient.haveSeq = egress.haveSeq := by
  unfold dropClient
  split <;> rfl

theorem nextSeq_dropClient (egress : Egress) : egress.dropClient.nextSeq = egress.nextSeq := by
  unfold dropClient
  split <;> rfl

/-- A connection that is dropped has been given a stream without a hole, and
the next one may begin anywhere. -/
theorem Continuing.dropAndContinue {state : State} (continuing : state.Continuing)
    (batch : state.phase.batch = []) (unsent : state.phase.unsent state.egress = []) :
    state.dropAndContinue.Continuing := by
  rcases continuing with ⟨⟨noted, ordered, ordinary, consecutive⟩, past, current⟩
  refine ⟨⟨?_, ordered, (fun _ member => nomatch member), List.IsChain.nil⟩, ?_,
    ⟨.anything, rfl, Or.inl rfl⟩⟩
  · rw [batch] at noted
    change ∃ noted, state.history.popped = noted ++ [] ∧ (state.egress.dropClient.haveSeq = true →
      ∃ last, noted.getLast? = some last ∧
        state.egress.dropClient.nextSeq.toNat = last.seq.toNat + 1)
    rw [haveSeq_dropClient, nextSeq_dropClient]
    exact noted
  · intro connection member
    rcases List.mem_append.mp member with old | last
    · exact past connection old
    · rw [List.mem_singleton.mp last]
      rcases current with ⟨expect, followed, _⟩
      rw [unsent, List.map_nil, List.append_nil] at followed
      exact ⟨expect, followed⟩

theorem Continuing.recordPop {state after : State} (continuing : state.Continuing)
    {frames : List Frame} (continues : state.Continues frames)
    (pops : state.Pops frames after) : after.Continuing := by
  rcases continuing with ⟨⟨noted, ordered, ordinary, consecutive⟩, past, current⟩
  refine ⟨⟨?_, ?_, ?_, ?_⟩, ?_, ?_⟩
  · rcases noted with ⟨noted, popped, latest⟩
    refine ⟨noted, ?_, ?_⟩
    · rw [pops.history, pops.batch, ← List.append_assoc, ← popped]
      rfl
    · rw [pops.haveSeq, pops.nextSeq]
      exact latest
  · rw [pops.history]
    exact continues.ordered
  · rw [pops.batch]
    intro frame member
    rcases List.mem_append.mp member with old | new
    · exact ordinary frame old
    · exact continues.ordinary frame new
  · rw [pops.batch]
    exact continues.consecutive
  · rw [pops.history]
    exact past
  · rw [pops.before] at current
    rw [pops.history, pops.unsent, pops.haveSeq, pops.nextSeq]
    exact current

theorem follow_batch {expect : Expect} {front : Frame} {rest : List Frame}
    (ordinary : ∀ frame ∈ front :: rest, Wire.Ordinary frame)
    (consecutive : Wire.Consecutive (front :: rest))
    (admitted : expect.after (.data front.seq.toNat) = some (.dataOrGap (front.seq.toNat + 1))) :
    expect.follow ((front :: rest).map Wire.item) =
      some (.dataOrGap (((front :: rest).getLast (List.cons_ne_nil _ _)).seq.toNat + 1)) := by
  have numbers : (front :: rest).map Wire.item =
      ((front :: rest).map fun frame => frame.seq.toNat).map Item.data := by
    rw [List.map_map]
    exact List.map_congr_left fun frame member => Wire.item_of_bus (ordinary frame member).bus
  have chain : ((front :: rest).map fun frame => frame.seq.toNat).IsChain
      fun left right => right = left + 1 := (List.isChain_map _).mpr consecutive
  rw [numbers]
  rw [List.map_cons] at chain ⊢
  rw [Expect.follow_run chain admitted]
  have last := List.getLast_map (f := fun frame : Frame => frame.seq.toNat) (l := front :: rest)
    (by simp)
  exact congrArg (fun number => some (Expect.dataOrGap (number + 1))) last

theorem noteGap_numbers (egress : Egress) (front : Frame) (rest : List Frame) (now : UInt64) :
    (egress.noteGap (front :: rest) now).haveSeq = true ∧
      (egress.noteGap (front :: rest) now).nextSeq =
        ((front :: rest).getLast (List.cons_ne_nil _ _)).seq + 1 := by
  simp only [Egress.noteGap, List.head?_cons,
    List.getLast?_eq_some_getLast (List.cons_ne_nil front rest)]
  split <;> exact ⟨rfl, rfl⟩

theorem noteGap_nextSeq {front : Frame} {rest : List Frame}
    (ordinary : ∀ frame ∈ front :: rest, Wire.Ordinary frame) (egress : Egress) (now : UInt64) :
    (egress.noteGap (front :: rest) now).nextSeq.toNat =
      ((front :: rest).getLast (List.cons_ne_nil _ _)).seq.toNat + 1 := by
  have last : ((front :: rest).getLast (List.cons_ne_nil _ _)) ∈ front :: rest :=
    List.getLast_mem _
  rw [(noteGap_numbers egress front rest now).2, UInt64.toNat_add]
  exact Nat.mod_eq_of_lt (ordinary _ last).unwrapped

theorem Continuing.noteGap {state : State} (continuing : state.Continuing) {batch : List Frame}
    (noting : state.phase = .noteGap batch) (filled : batch ≠ []) (now : UInt64) :
    (state.noteGap batch now).Continuing := by
  have inHand : state.phase.batch = batch := by rw [noting]; rfl
  cases batch with
  | nil => exact absurd rfl filled
  | cons front rest =>
      have ahead := continuing.numbered.front_ahead inHand
      rcases continuing with ⟨⟨noted, ordered, ordinary, consecutive⟩, past, current⟩
      rw [inHand] at noted ordinary consecutive
      have haveSeq := (noteGap_numbers state.egress front rest now).1
      have number := noteGap_nextSeq ordinary state.egress now
      refine ⟨⟨?_, ordered, (fun _ member => nomatch member), List.IsChain.nil⟩, past, ?_⟩
      · rcases noted with ⟨noted, popped, _⟩
        refine ⟨noted ++ front :: rest, ?_, ?_⟩
        · exact popped.trans (List.append_nil _).symm
        · intro _
          refine ⟨_, ?_, number⟩
          rw [List.getLast?_append, List.getLast?_eq_some_getLast (List.cons_ne_nil front rest)]
          rfl
      · rcases current with ⟨expect, followed, expected⟩
        rw [noting] at followed
        change Expect.anything.follow (state.history.current.items ++ []) = _ at followed
        rw [List.append_nil] at followed
        rcases follow_gapBefore ahead expected now with ⟨next, marked, admitted⟩
        refine ⟨_, ?_, Or.inr ⟨haveSeq, rfl⟩⟩
        change Expect.anything.follow (state.history.current.items ++
          (state.egress.noteGap (front :: rest) now).outgoing.map Wire.item) = _
        rw [Expect.follow_trans followed, outgoing_noteGap, List.map_append,
          Expect.follow_trans marked, follow_batch ordinary consecutive admitted]
        exact congrArg (fun number => some (Expect.dataOrGap number)) number.symm

theorem Continuing.sendEcho {state : State} (continuing : state.Continuing) {n : Nat}
    (probing : state.phase = .sendEcho n) (now : UInt64) :
    ({ state with
      phase := .encode n
      egress := state.egress.maybeSendEcho now } : State).Continuing := by
  have unchanged : ({ state with phase := .encode n } : State).Continuing :=
    continuing.keep ⟨rfl, rfl, rfl, rfl, by rw [probing]; rfl, by rw [probing]; rfl, rfl, rfl⟩
  unfold maybeSendEcho
  split
  · exact unchanged
  · split
    · exact unchanged
    · rcases continuing with ⟨⟨noted, ordered, ordinary, consecutive⟩, past, current⟩
      rw [probing] at noted current
      refine ⟨⟨noted, ordered, (fun _ member => nomatch member), List.IsChain.nil⟩, past, ?_⟩
      rcases current with ⟨expect, followed, expected⟩
      refine ⟨expect, ?_, expected⟩
      change Expect.anything.follow (state.history.current.items ++
        state.egress.outgoing.map Wire.item) = _ at followed
      change Expect.anything.follow (state.history.current.items ++
        (state.egress.outgoing ++ [_]).map Wire.item) = _
      rw [List.map_append, ← List.append_assoc, Expect.follow_trans followed, List.map_cons,
        Wire.item_makeEcho, Expect.follow_cons, Expect.after_other]
      rfl

theorem Continuing.encode {state : State} (continuing : state.Continuing) {n : Nat}
    (encoding : state.phase = .encode n) : (state.encode n).Continuing := by
  rcases continuing with ⟨⟨noted, ordered, ordinary, consecutive⟩, past, current⟩
  rw [encoding] at noted current
  rw [state.encode_eq n]
  refine ⟨⟨noted, ordered, (fun _ member => nomatch member), List.IsChain.nil⟩, past, ?_⟩
  rcases current with ⟨expect, followed, expected⟩
  refine ⟨expect, ?_, expected⟩
  change Expect.anything.follow
    ((state.history.current.messages ++ [state.egress.outgoing]).flatten.map Wire.item ++ []) = _
  rw [List.append_nil, List.flatten_append, List.map_append, List.flatten_singleton]
  exact followed

theorem Continuing.step {state after : State} (continuing : state.Continuing)
    (framed : state.Framed) {event : Event} (contiguous : state.ContiguousFeed event)
    (stepped : state.step event = some after) : after.Continuing := by
  cases step_effect stepped with
  | quiet quiet nothing => exact continuing.keep quiet
  | drop drops =>
      rcases drops.nothing_in_hand with ⟨batch, unsent⟩
      exact continuing.dropAndContinue batch unsent
  | pop frames pops => exact continuing.recordPop contiguous pops
  | noteGap batch noting now =>
      exact continuing.noteGap noting (framed.batch_filled noting) now
  | sendEcho n probing now => exact continuing.sendEcho probing now
  | encode n encoding => exact continuing.encode encoding

theorem continuing_of_reachable {tuning : Tuning} {state : State}
    (reached : (system tuning).ReachableUnder ContiguousFeed state) : state.Continuing := by
  refine reached.invariant State.Continuing ?_ ?_
  · intro state initial
    rcases initial with ⟨listenFd, stopFd, egress, created, rfl⟩
    unfold create at created
    split at created <;> cases created
    exact ⟨⟨⟨[], rfl, fun known => nomatch known⟩, List.Pairwise.nil,
      (fun _ member => nomatch member), List.IsChain.nil⟩, (fun _ member => nomatch member),
      ⟨.anything, rfl, Or.inl rfl⟩⟩
  · intro state event after before contiguous continuing stepped
    exact continuing.step (framed_of_reachable before) contiguous stepped

/-- On every connection, as far as its records have been sent, two consecutive
bus frames leave no hole or exactly one marker between them says which, and a
consumer that tracks gaps counts no silent jump. -/
def HolesAnnounced (state : State) : Prop :=
  ∀ connection ∈ state.history.connections, ∀ records, records <+: connection.messages.flatten →
    Announced (records.map Wire.item) ∧
      (({} : GapTracker).observeAll records).stats.silentJumps = 0

theorem Continuing.follow {state : State} (continuing : state.Continuing)
    {connection : Connection} (member : connection ∈ state.history.connections)
    {records : List Frame} (given : records <+: connection.messages.flatten) :
    ∃ expect, Expect.anything.follow (records.map Wire.item) = some expect := by
  have whole : ∃ expect, Expect.anything.follow connection.items = some expect := by
    rcases List.mem_append.mp member with old | last
    · exact continuing.past connection old
    · rw [List.mem_singleton.mp last]
      rcases continuing.current with ⟨expect, followed, _⟩
      rcases Expect.exists_follow_prefix followed with ⟨middle, sent, _⟩
      exact ⟨middle, sent⟩
  rcases whole with ⟨expect, followed⟩
  rcases given with ⟨later, split⟩
  rw [Connection.items, ← split, List.map_append] at followed
  rcases Expect.exists_follow_prefix followed with ⟨middle, sent, _⟩
  exact ⟨middle, sent⟩

theorem Continuing.announced {state : State} (continuing : state.Continuing) :
    state.HolesAnnounced := by
  intro connection member records given
  rcases continuing.follow member given with ⟨expect, followed⟩
  exact ⟨Expect.announced_of_follow followed, GapTracker.silentJumps_of_follow followed⟩

end State

end TelemetryGateway.Egress
