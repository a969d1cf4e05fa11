import TelemetryGateway.Egress.Echo
import TelemetryGateway.Egress.Markers
import TelemetryGateway.Feed.Overwrites
import TelemetryGateway.Gateway.Holes

/-! # Why frames were lost

A frame is overwritten at some moment, with a client connected or without one.
`note_gap` only finds out later, and tells the two apart by a single flag for
all the frames of one gap. -/

namespace TelemetryGateway.QueueTopology

/-! ## Losses and markers -/

structure Loss where
  frame : Frame
  connected : Bool
  deriving DecidableEq

def Loss.seq (loss : Loss) : UInt64 :=
  loss.frame.seq

structure Losses where
  overwritten : List Loss
  markers : List Frame

def Losses.none : Losses where
  overwritten := []
  markers := []

namespace State

def loses (sink : Fin sinks) (state after : State sinks) : List Loss :=
  (FanOut.State.overwritten sink state.fanOut after.fanOut).map fun frame =>
    { frame := frame, connected := state.egress.egress.clientFd.isSome }

end State

def noteLosses (sink : Fin sinks) (losses : Losses) (state : State sinks) (_ : Label sinks)
    (after : State sinks) : Losses where
  overwritten := losses.overwritten ++ state.loses sink after
  markers := losses.markers ++ state.egress.markers after.egress

def watched (sink : Fin sinks) (tuning : Tuning) : System (State sinks × Losses) (Label sinks) :=
  (system sink tuning).observed .none (noteLosses sink)

/-- The losses are the sequences the marker covers, and each happened as its
reason says. -/
structure Explains (marker : Frame) (losses : List Loss) : Prop where
  covered : losses.map Loss.seq = FanOut.sequences marker.seq (Wire.gapCount marker).toNat
  absent : Wire.gapReason marker = .kConsumerAbsent → ∀ loss ∈ losses, loss.connected = false
  overrun : Wire.gapReason marker = .kConsumerOverrun → ∀ loss ∈ losses, loss.connected = true

/-- Every marker covers losses of its own kind, and `frames_lost_` counts those
of them that happened to a connected client, in 64 bits. -/
def ReasonsSound (state : State sinks) (losses : Losses) : Prop :=
  ∃ reported : List (List Loss), reported.flatten.Sublist losses.overwritten ∧
    List.Forall₂ Explains losses.markers reported ∧
    state.egress.egress.counters.framesLost =
      UInt64.ofNat (reported.flatten.countP Loss.connected)

/-! ## When one flag is enough -/

namespace State

def overflows (sink : Fin sinks) (state : State sinks) : Bool :=
  match state.fanOut.phase with
  | .poll => false
  | .push produced next =>
      decide (next = sink.val ∧ (state.fanOut.queues sink).closed = false ∧
        (state.fanOut.queues sink).capacity <
          (state.fanOut.queues sink).count + produced.length)

/-- Once a consumer has been sent something, nothing is overwritten between its
return and its next batch, and it is not dropped with a loss since its last
batch, unless it has been away since then anyway. -/
def LossesApart (sink : Fin sinks) (state : State sinks) : Label sinks → Prop
  | .fanOut .push => state.overflows sink = true → state.egress.egress.clientFd ≠ none →
      state.egress.history.popped ≠ [] → state.egress.egress.reconnected = true →
      state.egress.phase.batch ≠ []
  | .egress event => state.egress.dropsClient event = true → state.egress.history.popped ≠ [] →
      state.egress.egress.reconnected = true ∨
        (state.fanOut.queues sink).losses = state.lossesAtPop
  | _ => True

instance (sink : Fin sinks) (state : State sinks) (label : Label sinks) :
    Decidable (state.LossesApart sink label) :=
  match label with
  | .fanOut .push => inferInstanceAs (Decidable (_ → _ → _ → _ → _))
  | .fanOut (.drain _) => .isTrue trivial
  | .fanOut (.pop _ _) => .isTrue trivial
  | .fanOut (.close _) => .isTrue trivial
  | .pop => .isTrue trivial
  | .closed => .isTrue trivial
  | .egress _ => inferInstanceAs (Decidable (_ → _ → _))

theorem overflows_of_overwritten {sink : Fin sinks} {state : State sinks}
    {label : FanOut.Label sinks} {next : FanOut.State sinks} (others : label.pops sink = false)
    (moved : state.fanOut.step label = some next)
    (lost : FanOut.State.overwritten sink state.fanOut next ≠ []) :
    label = .push ∧ state.overflows sink = true := by
  have dropped : (next.queues sink).losses ≠ (state.fanOut.queues sink).losses := by
    intro same
    refine lost ?_
    rw [FanOut.State.overwritten, same, Nat.sub_self, List.take_zero]
  cases FanOut.State.step_sink others moved with
  | same queue upcoming => exact absurd (congrArg _ queue) dropped
  | close queue upcoming => exact absurd (congrArg BoundedQueue.losses queue) dropped
  | push produced pushing queue upcoming =>
      refine ⟨rfl, ?_⟩
      rw [queue] at dropped
      rw [overflows, pushing]
      cases isClosed : (state.fanOut.queues sink).closed with
      | true =>
          rw [BoundedQueue.pushBatch_closed isClosed] at dropped
          exact absurd rfl dropped
      | false =>
          refine decide_eq_true ⟨rfl, rfl, ?_⟩
          rw [(BoundedQueue.pushBatch_open isClosed produced).2.1] at dropped
          omega

/-! ## Where the losses stand -/

/-- `skipped` are the losses in front of the batch in hand, and `since` those
after the last frame that was popped. -/
structure Placed (sink : Fin sinks) (skipped since : List Loss) (state : State sinks) : Prop where
  lined : ∃ first, state.fanOut.Lined sink first (since.map Loss.frame) ∧
    ∀ last, state.egress.history.popped.getLast? = some last → first = last.seq + 1
  stamped : state.fanOut.Stamped
  counted : (state.fanOut.queues sink).losses = state.lossesAtPop + since.length
  bus : ∀ frame ∈ state.egress.phase.batch, Wire.isControl frame = false
  latest : state.egress.phase.batch ≠ [] →
    state.egress.phase.batch.getLast? = state.egress.history.popped.getLast?
  front : ∀ front rest, state.egress.phase.batch = front :: rest →
    state.egress.egress.haveSeq = true →
    FanOut.SequencedFrom state.egress.egress.nextSeq (skipped.map Loss.frame) ∧
      front.seq = state.egress.egress.nextSeq + UInt64.ofNat skipped.length
  next : state.egress.phase.batch = [] → state.egress.egress.haveSeq = true →
    ∃ last, state.egress.history.popped.getLast? = some last ∧
      state.egress.egress.nextSeq = last.seq + 1
  unknown : state.egress.phase.batch = [] → state.egress.egress.haveSeq = false →
    state.egress.history.popped = []

theorem Placed.fanOut {sink : Fin sinks} {skipped since : List Loss} {state : State sinks}
    (placed : state.Placed sink skipped since) {label : FanOut.Label sinks}
    {next : FanOut.State sinks} (others : label.pops sink = false)
    (moved : state.fanOut.step label = some next) :
    ({ state with fanOut := next } : State sinks).Placed sink skipped
      (since ++ state.loses sink { state with fanOut := next }) := by
  rcases placed.lined with ⟨first, lined, after⟩
  rcases lined.step placed.stamped others moved with ⟨line, dropped⟩
  have frames : (since ++ state.loses sink { state with fanOut := next }).map Loss.frame =
      since.map Loss.frame ++ FanOut.State.overwritten sink state.fanOut next := by
    rw [List.map_append, loses, List.map_map]
    exact congrArg _ (List.map_id _)
  refine ⟨⟨first, by rw [frames]; exact line, after⟩, placed.stamped.step moved, ?_, placed.bus,
    placed.latest, placed.front, placed.next, placed.unknown⟩
  dsimp only
  rw [dropped, placed.counted, List.length_append, loses, List.length_map, Nat.add_assoc]

theorem Placed.moveEgress {sink : Fin sinks} {skipped since : List Loss} {state : State sinks}
    (placed : state.Placed sink skipped since) {next : Egress.State}
    (popped : next.history.popped = state.egress.history.popped)
    (batch : next.phase.batch = state.egress.phase.batch)
    (haveSeq : next.egress.haveSeq = state.egress.egress.haveSeq)
    (nextSeq : next.egress.nextSeq = state.egress.egress.nextSeq) :
    ({ state with egress := next } : State sinks).Placed sink skipped since := by
  constructor
  case lined =>
    rw [popped]
    exact placed.lined
  case stamped => exact placed.stamped
  case counted => exact placed.counted
  case bus =>
    rw [batch]
    exact placed.bus
  case latest =>
    rw [batch, popped]
    exact placed.latest
  case front =>
    rw [batch, haveSeq, nextSeq]
    exact placed.front
  case next =>
    rw [batch, haveSeq, nextSeq, popped]
    exact placed.next
  case unknown =>
    rw [batch, haveSeq, popped]
    exact placed.unknown

theorem Placed.noteGap {sink : Fin sinks} {skipped since : List Loss} {state : State sinks}
    (placed : state.Placed sink skipped since) {front : Frame} {rest : List Frame}
    (noting : state.egress.phase = .noteGap (front :: rest)) (now : UInt64) :
    ({ state with egress := state.egress.noteGap (front :: rest) now } : State sinks).Placed sink
      [] since := by
  have inHand : state.egress.phase.batch = front :: rest := by
    rw [noting]
    rfl
  rcases Egress.State.noteGap_numbers state.egress.egress front rest now with ⟨haveSeq, nextSeq⟩
  have latest := placed.latest (by rw [inHand]; exact List.cons_ne_nil _ _)
  rw [inHand, List.getLast?_eq_some_getLast (List.cons_ne_nil front rest)] at latest
  constructor
  case lined => exact placed.lined
  case stamped => exact placed.stamped
  case counted => exact placed.counted
  case bus => exact fun _ member => nomatch member
  case latest => exact fun filled => absurd rfl filled
  case front => exact fun _ _ impossible => nomatch impossible
  case next => exact fun _ _ => ⟨_, latest.symm, nextSeq⟩
  case unknown =>
    intro _ unknown
    change (state.egress.egress.noteGap (front :: rest) now).haveSeq = false at unknown
    rw [haveSeq] at unknown
    cases unknown

theorem Placed.pop {sink : Fin sinks} {skipped since : List Loss} {state : State sinks}
    (placed : state.Placed sink skipped since) (empty : state.egress.phase.batch = [])
    {size : Nat} {next : Egress.State}
    (filled : ((state.fanOut.queues sink).popBatch size).2 ≠ [])
    (pops : state.egress.Pops ((state.fanOut.queues sink).popBatch size).2 next) :
    ({ fanOut := state.fanOut.setQueue sink ((state.fanOut.queues sink).popBatch size).1
       egress := next
       lossesAtPop := ((state.fanOut.queues sink).popBatch size).1.losses } :
      State sinks).Placed sink since [] := by
  rcases placed.lined with ⟨first, lined, after⟩
  have moved := lined.pop size
  have members : ∀ frame ∈ ((state.fanOut.queues sink).popBatch size).2,
      frame ∈ (state.fanOut.queues sink).contents := by
    rw [((state.fanOut.queues sink).popBatch_spec size).1]
    exact fun frame => List.mem_of_mem_take
  have history : next.history.popped =
      state.egress.history.popped ++ ((state.fanOut.queues sink).popBatch size).2 := by
    rw [pops.history]
    rfl
  have batch : next.phase.batch = ((state.fanOut.queues sink).popBatch size).2 := by
    rw [pops.batch, empty, List.nil_append]
  have queue : (state.fanOut.setQueue sink ((state.fanOut.queues sink).popBatch size).1).queues
      sink = ((state.fanOut.queues sink).popBatch size).1 := Function.update_self ..
  generalize ((state.fanOut.queues sink).popBatch size).2 = frames at *
  have sequenced := (FanOut.sequencedFrom_append.mp moved.sequenced).1
  have last : next.history.popped.getLast? = frames.getLast? := by
    rw [history, List.getLast?_append_of_ne_nil _ filled]
  constructor
  case lined =>
    refine ⟨first + UInt64.ofNat (since.map Loss.frame ++ frames).length, ?_, ?_⟩
    · refine FanOut.State.Lined.forget ?_
      rw [List.map_nil, List.append_nil]
      exact moved
    · intro newest isNewest
      rw [last] at isNewest
      refine (sequenced.last ?_).symm
      rw [List.getLast?_append_of_ne_nil _ filled]
      exact isNewest
  case stamped => exact placed.stamped
  case counted =>
    dsimp only
    rw [queue]
    rfl
  case bus =>
    rw [batch]
    exact fun frame member => lined.bus frame (members frame member)
  case latest =>
    rw [batch]
    exact fun _ => last.symm
  case front =>
    intro front rest inHand known
    rw [batch] at inHand
    rw [pops.haveSeq] at known
    rw [pops.nextSeq]
    rcases placed.next empty known with ⟨newest, isNewest, nextSeq⟩
    rw [nextSeq, ← after newest isNewest]
    rcases FanOut.sequencedFrom_append.mp sequenced with ⟨lost, taken⟩
    rw [inHand, List.length_map] at taken
    exact ⟨lost, taken.front⟩
  case next =>
    rw [batch]
    exact fun none => absurd none filled
  case unknown =>
    rw [batch]
    exact fun none => absurd none filled

theorem Placed.popNothing {sink : Fin sinks} {skipped since : List Loss} {state : State sinks}
    (placed : state.Placed sink skipped since) {size : Nat}
    (nothing : ((state.fanOut.queues sink).popBatch size).2 = []) :
    ({ state with
      fanOut := state.fanOut.setQueue sink ((state.fanOut.queues sink).popBatch size).1 } :
      State sinks).Placed sink skipped since := by
  rcases placed.lined with ⟨first, lined, after⟩
  have moved := lined.pop size
  rw [nothing, List.append_nil] at moved
  have queue : (state.fanOut.setQueue sink ((state.fanOut.queues sink).popBatch size).1).queues
      sink = ((state.fanOut.queues sink).popBatch size).1 := Function.update_self ..
  refine ⟨⟨first, moved, after⟩, placed.stamped, ?_, placed.bus, placed.latest, placed.front,
    placed.next, placed.unknown⟩
  dsimp only
  rw [queue, ((state.fanOut.queues sink).popBatch_spec size).2.2.1]
  exact placed.counted

/-! ## What the flag says about them -/

/-- One flag for all the losses of a gap. A loss since the last pop counts for
the next gap, and `reconnected_` is about that one as soon as the batch in hand
has been noted. -/
structure Flagged (skipped since : List Loss) (state : State sinks) : Prop where
  idle : state.egress.history.popped ≠ [] → state.egress.phase.batch = [] →
    ∀ loss ∈ since, loss.connected = !state.egress.egress.reconnected
  inHand : state.egress.phase.batch ≠ [] → ∀ loss ∈ since, loss.connected = true
  front : state.egress.phase.batch ≠ [] → state.egress.egress.haveSeq = true →
    ∀ loss ∈ skipped, loss.connected = !state.egress.egress.reconnected
  away : state.egress.egress.clientFd = none → state.egress.history.popped = [] ∨
    state.egress.egress.reconnected = true

theorem Flagged.fanOut {sink : Fin sinks} {skipped since : List Loss} {state : State sinks}
    (flagged : state.Flagged skipped since) (framed : state.egress.Framed)
    {label : FanOut.Label sinks} {next : FanOut.State sinks}
    (apart : state.LossesApart sink (.fanOut label)) (others : label.pops sink = false)
    (moved : state.fanOut.step label = some next) :
    ({ state with fanOut := next } : State sinks).Flagged skipped
      (since ++ state.loses sink { state with fanOut := next }) := by
  have lost (loss : Loss) (member : loss ∈ state.loses sink { state with fanOut := next }) :
      loss.connected = state.egress.egress.clientFd.isSome ∧ label = .push ∧
        state.overflows sink = true := by
    rcases List.mem_map.mp member with ⟨frame, overwritten, rfl⟩
    exact ⟨rfl, overflows_of_overwritten others moved (List.ne_nil_of_mem overwritten)⟩
  refine ⟨?_, ?_, flagged.front, flagged.away⟩
  · intro sent empty loss member
    rcases List.mem_append.mp member with old | new
    · exact flagged.idle sent empty loss old
    · rcases lost loss new with ⟨connected, pushing, overflows⟩
      subst pushing
      rw [connected]
      cases client : state.egress.egress.clientFd with
      | none =>
          rcases flagged.away client with nothing | reconnected
          · exact absurd nothing sent
          · dsimp only
            rw [reconnected]
            rfl
      | some fd =>
          dsimp only
          cases reconnected : state.egress.egress.reconnected with
          | false => rfl
          | true =>
              have present : state.egress.egress.clientFd ≠ none := by
                rw [client]
                exact Option.some_ne_none fd
              exact absurd empty (apart overflows present sent reconnected)
  · intro filled loss member
    rcases List.mem_append.mp member with old | new
    · exact flagged.inHand filled loss old
    · rw [(lost loss new).1]
      exact Option.isSome_iff_ne_none.mpr
        (framed.client (Egress.Phase.detached_of_batch filled))

theorem Flagged.keep {skipped since : List Loss} {state after : State sinks}
    (flagged : state.Flagged skipped since) (kept : state.egress.Kept after.egress) :
    after.Flagged skipped since := by
  constructor
  case idle =>
    rw [kept.popped, kept.batch, kept.unreported.reconnected]
    exact flagged.idle
  case inHand =>
    rw [kept.batch]
    exact flagged.inHand
  case front =>
    rw [kept.batch, kept.haveSeq, kept.unreported.reconnected]
    exact flagged.front
  case away =>
    rw [kept.popped, kept.unreported.reconnected]
    exact fun client => flagged.away (kept.unreported.clientFd client)

/-- The losses so far must all have happened while the client was away, or
there must be none. -/
theorem Flagged.drop {skipped since : List Loss} {state : State sinks}
    (flagged : state.Flagged skipped since) (framed : state.egress.Framed)
    {event : Egress.Event} (drops : state.egress.Drops event)
    (apart : state.egress.history.popped ≠ [] →
      state.egress.egress.reconnected = true ∨ since = []) :
    ({ state with egress := state.egress.dropAndContinue } : State sinks).Flagged
      skipped since := by
  have reconnected := Egress.State.reconnected_dropAndContinue (framed.client drops.attached)
  have empty := drops.nothing_in_hand.1
  constructor
  case idle =>
    intro sent _ loss member
    dsimp only
    rw [reconnected]
    rcases apart sent with away | none
    · rw [flagged.idle sent empty loss member, away]
    · rw [none] at member
      cases member
  case inHand => exact fun filled => absurd rfl filled
  case front => exact fun filled => absurd rfl filled
  case away => exact fun _ => Or.inr reconnected

theorem Flagged.noteGap {skipped since : List Loss} {state : State sinks}
    (flagged : state.Flagged skipped since) (framed : state.egress.Framed) {front : Frame}
    {rest : List Frame} (noting : state.egress.phase = .noteGap (front :: rest)) (now : UInt64) :
    ({ state with egress := state.egress.noteGap (front :: rest) now } : State sinks).Flagged
      [] since := by
  have filled : state.egress.phase.batch ≠ [] := by
    rw [noting]
    exact List.cons_ne_nil _ _
  have reconnected : (state.egress.noteGap (front :: rest) now).egress.reconnected = false :=
    Egress.State.noteGap_reconnected ..
  constructor
  case idle =>
    intro _ _ loss member
    dsimp only
    rw [reconnected, flagged.inHand filled loss member]
    rfl
  case inHand => exact fun filled => absurd rfl filled
  case front => exact fun filled => absurd rfl filled
  case away =>
    intro client
    have same := (Egress.sameBuffer_noteGap state.egress.egress (front :: rest) now).clientFd
    exact absurd (same.symm.trans client) (framed.client (Egress.Phase.detached_of_batch filled))

theorem Flagged.pop {sink : Fin sinks} {skipped since : List Loss} {state : State sinks}
    (flagged : state.Flagged skipped since) (placed : state.Placed sink skipped since)
    (empty : state.egress.phase.batch = []) {frames : List Frame} (filled : frames ≠ [])
    {after : State sinks} (attached : after.egress.egress.clientFd ≠ none)
    (pops : state.egress.Pops frames after.egress)
    (unreported : state.egress.Unreported after.egress) : after.Flagged since [] := by
  have batch : after.egress.phase.batch ≠ [] := by
    rw [pops.batch, empty]
    exact filled
  constructor
  case idle => exact fun _ none => absurd none batch
  case inHand => exact fun _ _ member => nomatch member
  case front =>
    intro _ known
    rw [pops.haveSeq] at known
    rw [unreported.reconnected]
    rcases placed.next empty known with ⟨last, isLast, _⟩
    refine flagged.idle ?_ empty
    intro none
    rw [none] at isLast
    cases isLast
  case away => exact fun client => absurd client attached

/-! ## What is reported -/

/-- A marker covers the oldest of the losses in front of the batch: all of them,
unless there are so many that their number goes around. -/
theorem explains_gap {egress : Egress} {front : Frame} {gap : UInt64 × UInt64}
    {skipped : List Loss} (found : egress.gapBefore front = some gap)
    (sequenced : FanOut.SequencedFrom egress.nextSeq (skipped.map Loss.frame))
    (position : front.seq = egress.nextSeq + UInt64.ofNat skipped.length)
    (flags : ∀ loss ∈ skipped, loss.connected = !egress.reconnected) (now : UInt64) :
    Explains (Wire.makeGap gap.1 gap.2 egress.gapReason now) (skipped.take gap.2.toNat) ∧
      UInt64.ofNat ((skipped.take gap.2.toNat).countP Loss.connected) =
        if egress.gapReason.isFault then gap.2 else 0 := by
  unfold Egress.gapBefore at found
  split at found <;> cases found
  dsimp only
  have missing : front.seq - egress.nextSeq = UInt64.ofNat skipped.length := by
    rw [position, UInt64.add_comm, UInt64.add_sub_cancel]
  have fits : (front.seq - egress.nextSeq).toNat ≤ skipped.length := by
    rw [missing, UInt64.toNat_ofNat']
    exact Nat.mod_le ..
  generalize front.seq - egress.nextSeq = count at fits ⊢
  have covered : (skipped.take count.toNat).map Loss.seq =
      FanOut.sequences egress.nextSeq count.toNat := by
    rw [← List.take_append_drop count.toNat skipped, List.map_append] at sequenced
    have first := (FanOut.sequencedFrom_append.mp sequenced).1
    rw [FanOut.SequencedFrom, List.map_map, List.length_map, List.length_take_of_le fits] at first
    exact first
  have kinds (loss : Loss) (member : loss ∈ skipped.take count.toNat) :
      loss.connected = !egress.reconnected := flags loss (List.mem_of_mem_take member)
  unfold Egress.gapReason
  cases away : egress.reconnected with
  | true =>
      rw [away] at kinds
      rw [if_pos rfl]
      refine ⟨⟨?_, fun _ => kinds, ?_⟩, ?_⟩
      · rw [Wire.gapCount_makeGap]
        exact covered
      · rw [Wire.gapReason_makeGap]
        exact fun impossible => nomatch impossible
      · have none : (skipped.take count.toNat).countP Loss.connected = 0 := by
          refine List.countP_eq_zero.mpr ?_
          intro loss member
          rw [kinds loss member]
          decide
        rw [none]
        exact (if_neg (by decide)).symm
  | false =>
      rw [away] at kinds
      rw [if_neg Bool.false_ne_true]
      refine ⟨⟨?_, ?_, fun _ => kinds⟩, ?_⟩
      · rw [Wire.gapCount_makeGap]
        exact covered
      · rw [Wire.gapReason_makeGap]
        exact fun impossible => nomatch impossible
      · rw [List.countP_eq_length.mpr kinds, List.length_take_of_le fits, UInt64.ofNat_toNat]
        exact (if_pos rfl).symm

structure Explained (sink : Fin sinks) (losses : Losses) (earlier skipped since : List Loss)
    (reported : List (List Loss)) (state : State sinks) : Prop where
  overwritten : losses.overwritten = earlier ++ (skipped ++ since)
  within : reported.flatten.Sublist earlier
  explains : List.Forall₂ Explains losses.markers reported
  counted : state.egress.egress.counters.framesLost =
    UInt64.ofNat (reported.flatten.countP Loss.connected)
  placed : state.Placed sink skipped since
  flagged : state.Flagged skipped since

theorem loses_nothing (sink : Fin sinks) {state after : State sinks}
    (dropped : (after.fanOut.queues sink).losses = (state.fanOut.queues sink).losses) :
    state.loses sink after = [] := by
  rw [loses, FanOut.State.overwritten, dropped, Nat.sub_self, List.take_zero, List.map_nil]

theorem Explained.keep {sink : Fin sinks} {losses : Losses} {earlier skipped since : List Loss}
    {reported : List (List Loss)} {state after : State sinks}
    (explained : state.Explained sink losses earlier skipped since reported)
    (label : Label sinks)
    (dropped : (after.fanOut.queues sink).losses = (state.fanOut.queues sink).losses)
    (markers : state.egress.markers after.egress = [])
    (framesLost : after.egress.egress.counters.framesLost =
      state.egress.egress.counters.framesLost)
    (placed : after.Placed sink skipped since) (flagged : after.Flagged skipped since) :
    after.Explained sink (noteLosses sink losses state label after) earlier skipped since
      reported := by
  refine ⟨?_, explained.within, ?_, framesLost.trans explained.counted, placed, flagged⟩
  · rw [noteLosses, loses_nothing sink dropped, List.append_nil]
    exact explained.overwritten
  · rw [noteLosses, markers, List.append_nil]
    exact explained.explains

theorem Explained.noteGap {sink : Fin sinks} {losses : Losses} {earlier skipped since : List Loss}
    {reported : List (List Loss)} {state : State sinks}
    (explained : state.Explained sink losses earlier skipped since reported)
    (framed : state.egress.Framed) {front : Frame} {rest : List Frame}
    (noting : state.egress.phase = .noteGap (front :: rest)) (label : Label sinks)
    (now : UInt64) :
    ∃ more, ({ state with egress := state.egress.noteGap (front :: rest) now } :
        State sinks).Explained sink
      (noteLosses sink losses state label
        { state with egress := state.egress.noteGap (front :: rest) now })
      (earlier ++ skipped) [] since (reported ++ more) := by
  have inHand : state.egress.phase.batch = front :: rest := by
    rw [noting]
    rfl
  have filled : state.egress.phase.batch ≠ [] := by
    rw [inHand]
    exact List.cons_ne_nil _ _
  have bus := explained.placed.bus
  rw [inHand] at bus
  have markers := Egress.State.markers_noteGap noting bus now
  have framesLost := Egress.State.framesLost_noteGap state.egress.egress front rest now
  have overwritten : losses.overwritten ++
      state.loses sink { state with egress := state.egress.noteGap (front :: rest) now } =
      (earlier ++ skipped) ++ ([] ++ since) := by
    have nothing : state.loses sink
        { state with egress := state.egress.noteGap (front :: rest) now } = [] :=
      loses_nothing sink rfl
    rw [nothing, List.append_nil, explained.overwritten, List.append_assoc]
    rfl
  have placed := explained.placed.noteGap noting now
  have flagged := explained.flagged.noteGap framed noting now
  cases found : state.egress.egress.gapBefore front with
  | none =>
      rw [found] at markers framesLost
      refine ⟨[], overwritten, ?_, ?_, ?_, placed, flagged⟩
      · rw [List.append_nil]
        exact explained.within.trans (List.sublist_append_left _ _)
      · rw [noteLosses, markers, List.append_nil]
        exact (List.append_nil _).symm ▸ explained.explains
      · rw [List.append_nil]
        exact (framesLost.trans (UInt64.add_zero _)).trans explained.counted
  | some gap =>
      rw [found] at markers framesLost
      have known : state.egress.egress.haveSeq = true := by
        by_contra unknown
        rw [Egress.State.gapBefore_unknown (Bool.not_eq_true _ ▸ unknown)] at found
        cases found
      rcases explained.placed.front front rest inHand known with ⟨sequenced, position⟩
      rcases explains_gap found sequenced position (explained.flagged.front filled known) now with
        ⟨explains, counted⟩
      refine ⟨[skipped.take gap.2.toNat], overwritten, ?_, ?_, ?_, placed, flagged⟩
      · rw [List.flatten_append, List.flatten_singleton]
        exact explained.within.append (List.take_sublist _ _)
      · rw [noteLosses, markers]
        exact List.rel_append explained.explains (.cons explains .nil)
      · rw [List.flatten_append, List.flatten_singleton, List.countP_append, UInt64.ofNat_add,
          counted, ← explained.counted]
        exact framesLost.trans (congrArg _ (UInt64.add_zero _))

theorem Explained.moveEgress {sink : Fin sinks} {losses : Losses}
    {earlier skipped since : List Loss} {reported : List (List Loss)} {state : State sinks}
    (explained : state.Explained sink losses earlier skipped since reported)
    (framed : state.egress.Framed) {event : Egress.Event} {next : Egress.State}
    (own : ∀ frames, event ≠ .pop frames)
    (apart : state.egress.dropsClient event = true → state.egress.history.popped ≠ [] →
      state.egress.egress.reconnected = true ∨
        (state.fanOut.queues sink).losses = state.lossesAtPop)
    (label : Label sinks) (moved : state.egress.step event = some next) :
    ∃ earlier skipped since reported, ({ state with egress := next } : State sinks).Explained sink
      (noteLosses sink losses state label { state with egress := next }) earlier skipped since
      reported := by
  cases Egress.State.step_outline moved with
  | keep kept nothing =>
      refine ⟨earlier, skipped, since, reported, ?_⟩
      exact explained.keep label rfl kept.markers kept.unreported.framesLost
        (explained.placed.moveEgress kept.popped kept.batch kept.haveSeq kept.nextSeq)
        (explained.flagged.keep kept)
  | drop drops =>
      refine ⟨earlier, skipped, since, reported, ?_⟩
      have counted := explained.placed.counted
      apply explained.keep label
      · rfl
      · exact Egress.State.markers_dropAndContinue state.egress
      · exact Egress.State.framesLost_dropAndContinue state.egress
      · apply explained.placed.moveEgress
        · rfl
        · exact drops.nothing_in_hand.1.symm
        · exact Egress.State.haveSeq_dropClient _
        · exact Egress.State.nextSeq_dropClient _
      · refine explained.flagged.drop framed drops ?_
        intro sent
        rcases apart drops.dropsClient sent with away | same
        · exact Or.inl away
        · exact Or.inr (List.eq_nil_of_length_eq_zero (by omega))
  | pop frames filled pops unreported => exact absurd rfl (own frames)
  | noteGap batch noting now =>
      cases batch with
      | nil => exact absurd rfl (framed.batch_filled noting)
      | cons front rest =>
          rcases explained.noteGap framed noting label now with ⟨more, after⟩
          exact ⟨_, _, _, _, after⟩

theorem Explained.pop {sink : Fin sinks} {losses : Losses} {earlier skipped since : List Loss}
    {reported : List (List Loss)} {state after : State sinks}
    (explained : state.Explained sink losses earlier skipped since reported)
    (empty : state.egress.phase.batch = []) (framed : after.egress.Framed) {size : Nat}
    (label : Label sinks) (popped : state.pop sink size = some after) :
    ∃ earlier skipped since reported, after.Explained sink
      (noteLosses sink losses state label after) earlier skipped since reported := by
  have unchanged := ((state.fanOut.queues sink).popBatch_spec size).2.2.1
  have queue : (state.fanOut.setQueue sink ((state.fanOut.queues sink).popBatch size).1).queues
      sink = ((state.fanOut.queues sink).popBatch size).1 := Function.update_self ..
  have dropped : ((state.fanOut.setQueue sink ((state.fanOut.queues sink).popBatch size).1).queues
      sink).losses = (state.fanOut.queues sink).losses := by
    rw [queue, unchanged]
  rcases Option.map_eq_some_iff.mp popped with ⟨next, taken, rfl⟩
  cases Egress.State.step_outline taken with
  | keep kept nothing =>
      change ((state.fanOut.queues sink).popBatch size).2 = [] at nothing
      refine ⟨earlier, skipped, since, reported, ?_⟩
      rw [if_pos nothing]
      exact explained.keep label dropped kept.markers kept.unreported.framesLost
        ((explained.placed.popNothing nothing).moveEgress kept.popped kept.batch kept.haveSeq
          kept.nextSeq)
        (explained.flagged.keep kept)
  | drop drops => cases drops
  | pop frames filled pops unreported =>
      have attached : next.egress.clientFd ≠ none := by
        refine framed.client (Egress.Phase.detached_of_batch ?_)
        dsimp only
        rw [pops.batch, empty]
        exact filled
      refine ⟨earlier ++ skipped, since, [], reported, ?_⟩
      rw [if_neg filled]
      refine ⟨?_, explained.within.trans (List.sublist_append_left _ _), ?_,
        unreported.framesLost.trans explained.counted, explained.placed.pop empty filled pops,
        explained.flagged.pop explained.placed empty filled attached pops unreported⟩
      · rw [noteLosses, loses_nothing sink dropped, List.append_nil, List.append_nil,
          List.append_assoc]
        exact explained.overwritten
      · have markers : state.egress.markers next = [] :=
          Egress.State.markers_same (Egress.State.records_pops pops)
        rw [noteLosses, markers, List.append_nil]
        exact explained.explains

theorem Explained.step {sink : Fin sinks} {losses : Losses} {earlier skipped since : List Loss}
    {reported : List (List Loss)} {state after : State sinks}
    (explained : state.Explained sink losses earlier skipped since reported)
    (prompt : state.egress.phase.lingers = false) (framed : state.egress.Framed)
    (framedAfter : after.egress.Framed) {label : Label sinks}
    (apart : state.LossesApart sink label) (stepped : state.step sink label = some after) :
    ∃ earlier skipped since reported, after.Explained sink
      (noteLosses sink losses state label after) earlier skipped since reported := by
  cases step_cases stepped with
  | fanOut label next others moved =>
      refine ⟨earlier, skipped, since ++ state.loses sink { state with fanOut := next }, reported,
        ?_, explained.within, ?_, explained.counted, explained.placed.fanOut others moved,
        explained.flagged.fanOut framed apart others moved⟩
      · rw [noteLosses, explained.overwritten, List.append_assoc, List.append_assoc]
      · have markers : state.egress.markers state.egress = [] := Egress.State.markers_same rfl
        rw [noteLosses, markers, List.append_nil]
        exact explained.explains
  | pop size requested popped =>
      exact explained.pop (Egress.State.batch_of_requested prompt requested) framedAfter .pop popped
  | closed answer next answered =>
      refine explained.moveEgress framed ?_ ?_ .closed answered
      · exact fun _ impossible => nomatch impossible
      · intro drops
        simp [Egress.State.dropsClient] at drops
  | egress event next own moved => exact explained.moveEgress framed own apart _ moved

end State

/-- As long as no gap mixes losses of both kinds, its reason is right for all of
them. -/
theorem reasons_sound_while_losses_apart {tuning : Tuning} (quick : tuning.lingerUs = 0)
    {sink : Fin sinks} {state : State sinks} {losses : Losses}
    (reached : (watched sink tuning).ReachableUnder
      (fun run label => run.1.LossesApart sink label) (state, losses)) :
    ReasonsSound state losses := by
  have all : ∃ earlier skipped since reported,
      state.Explained sink losses earlier skipped since reported := by
    refine reached.invariant (fun run => ∃ earlier skipped since reported,
      run.1.Explained sink run.2 earlier skipped since reported) ?_ ?_
    · rintro ⟨state, losses⟩ ⟨⟨capacity, listenFd, stopFd, egress, created, rfl⟩, rfl⟩
      unfold Egress.create at created
      split at created <;> cases created
      refine ⟨[], [], [], [], rfl, .slnil, .nil, rfl, ?_, ?_⟩
      · exact ⟨⟨0, FanOut.State.create_lined capacity sink, fun _ impossible => nomatch impossible⟩,
          (fun _ _ impossible => nomatch impossible), rfl, (fun _ member => nomatch member),
          fun filled => absurd rfl filled, (fun _ _ impossible => nomatch impossible),
          (fun _ known => nomatch known), fun _ _ => rfl⟩
      · exact ⟨fun _ _ _ member => (nomatch member), fun _ _ member => (nomatch member),
          fun _ _ _ member => (nomatch member), fun _ => Or.inl rfl⟩
    · rintro ⟨state, losses⟩ label after before apart ⟨earlier, skipped, since, reported, explained⟩
        stepped
      rcases Option.map_eq_some_iff.mp stepped with ⟨next, moved, rfl⟩
      have thread := State.reachable_egress before.unobserved
      have later := State.reachable_egress (before.unobserved.next apart moved)
      exact explained.step (Egress.State.prompt_of_reachable quick thread).2
        (Egress.State.framed_of_reachable thread) (Egress.State.framed_of_reachable later) apart
        moved
  rcases all with ⟨earlier, skipped, since, reported, explained⟩
  refine ⟨reported, ?_, explained.explains, explained.counted⟩
  rw [explained.overwritten]
  exact explained.within.trans (List.sublist_append_left _ _)

def sendAndTest (bytes : Nat) : List Egress.Event :=
  (sendBatch bytes).take 9

/-- One frame is overwritten with the client there, and three while it is
away. -/
def overrunThenAbsence : List (Label 1) :=
  connect.map .egress ++ ingestQueue 1 ++ [.pop] ++ (sendBatch 56).map .egress ++ ingestQueue 3 ++
    [.pop] ++ (sendAndTest 136).map .egress ++ [.egress (.peer true)] ++ ingestQueue 5 ++
    connect.map .egress ++ [.pop, .egress (.clock 0), .egress (.clock 0)]

theorem reasons_sound_overrunThenAbsence :
    ∃ state losses, (watched 0 {}).run (.initial (fun _ => 2) { tuning := {} }, .none)
        overrunThenAbsence = some (state, losses) ∧
      losses.markers.map (fun marker => (marker.seq, Wire.gapCount marker,
        Wire.gapReason marker)) = [(1, 1, .kConsumerOverrun), (4, 3, .kConsumerAbsent)] ∧
      state.egress.egress.counters.framesLost = 1 ∧ ReasonsSound state losses := by
  have final : ((watched 0 {}).runUnder (fun run label => run.1.LossesApart 0 label)
      (.initial (fun _ => 2) { tuning := {} }, .none) overrunThenAbsence).map
      (fun run => (run.2.markers.map (fun marker => (marker.seq, Wire.gapCount marker,
        Wire.gapReason marker)), run.1.egress.egress.counters.framesLost)) =
      some ([(1, 1, .kConsumerOverrun), (4, 3, .kConsumerAbsent)], 1) := by
    decide +kernel
  rcases Option.map_eq_some_iff.mp final with ⟨⟨state, losses⟩, ran, facts⟩
  simp only [Prod.mk.injEq] at facts
  have initial : (watched (0 : Fin 1) {}).initial
      (.initial (fun _ => 2) { tuning := {} }, .none) := ⟨⟨_, 3, 4, _, rfl, rfl⟩, rfl⟩
  exact ⟨state, losses, System.run_of_runUnder ran, facts.1, facts.2,
    reasons_sound_while_losses_apart rfl (.runUnder (.start initial) _ ran)⟩

/-- A frame is overwritten with the client there; then the client leaves and
comes back. -/
def overrunJustBeforeAbsence : List (Label 1) :=
  connect.map .egress ++ ingestQueue 1 ++ [.pop] ++ (sendAndTest 56).map .egress ++
    ingestQueue 1 ++ ingestQueue 1 ++ [.egress (.peer true)] ++ connect.map .egress ++
    [.pop, .egress (.clock 0), .egress (.clock 0)]

/-- The overrun is reported as an absence, and `frames_lost_` does not count
it. -/
theorem overrun_reported_as_absence :
    ∃ (state : State 1) (losses : Losses), (watched 0 {}).Reachable (state, losses) ∧
      losses.overwritten.map (fun loss => (loss.seq, loss.connected)) = [(1, true)] ∧
      losses.markers.map (fun marker => (marker.seq, Wire.gapCount marker,
        Wire.gapReason marker)) = [(1, 1, .kConsumerAbsent)] ∧
      state.egress.egress.counters.framesLost = 0 ∧ ¬ ReasonsSound state losses := by
  have final : ((watched 0 {}).run (.initial (fun _ => 1) { tuning := {} }, .none)
      overrunJustBeforeAbsence).map (fun run =>
        (run.2.overwritten.map (fun loss => (loss.seq, loss.connected)),
          run.2.markers.map (fun marker => (marker.seq, Wire.gapCount marker,
            Wire.gapReason marker)), run.1.egress.egress.counters.framesLost)) =
      some ([(1, true)], [(1, 1, .kConsumerAbsent)], 0) := by
    decide +kernel
  rcases Option.map_eq_some_iff.mp final with ⟨⟨state, losses⟩, ran, facts⟩
  simp only [Prod.mk.injEq] at facts
  rcases facts with ⟨overwritten, markers, framesLost⟩
  have initial : (watched (0 : Fin 1) {}).initial
      (.initial (fun _ => 1) { tuning := {} }, .none) := ⟨⟨_, 3, 4, _, rfl, rfl⟩, rfl⟩
  refine ⟨state, losses, .execute (.start initial) _ ran, overwritten, markers, framesLost, ?_⟩
  rintro ⟨reported, within, explains, _⟩
  rcases List.map_eq_singleton_iff.mp markers with ⟨marker, only, fields⟩
  simp only [Prod.mk.injEq] at fields
  rw [only] at explains
  cases explains with
  | @cons _ covering _ _ explain others =>
      cases others
      -- the marker covers one frame, and all that was lost was lost to a client
      have covered := explain.covered
      rw [fields.1, fields.2.1] at covered
      rcases List.map_eq_singleton_iff.mp covered with ⟨loss, single, _⟩
      have absent := explain.absent fields.2.2 loss (by rw [single]; exact List.mem_singleton_self _)
      rw [single] at within
      have member := within.subset (List.mem_singleton_self loss)
      have flag : (loss.seq, loss.connected) ∈ [((1 : UInt64), true)] := by
        rw [← overwritten]
        exact List.mem_map.mpr ⟨loss, member, rfl⟩
      rw [absent] at flag
      simp at flag

end TelemetryGateway.QueueTopology
