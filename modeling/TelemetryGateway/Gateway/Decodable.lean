import TelemetryGateway.Consumer.Reassembly
import TelemetryGateway.Egress.Reports
import TelemetryGateway.Feed.BusRecords
import TelemetryGateway.Gateway.Holes
import TelemetryGateway.Gateway.RingConsumer

/-! # What a consumer can decode

On its way from a source to a connection a frame keeps everything but its
sequence, and the records the egress thread makes itself are well formed. So no
decoder refuses what a gateway writes, wherever the stream is cut. -/

namespace TelemetryGateway

namespace Wire

/-- A frame whose record no decoder refuses. -/
structure Decodable (frame : Frame) : Prop where
  flags : frame.flags &&& FrameFlags.kReservedMask = 0
  short : frame.len.toNat ≤ kMaxPayload

instance (frame : Frame) : Decidable (Decodable frame) :=
  decidable_of_iff (frame.flags &&& FrameFlags.kReservedMask = 0 ∧ frame.len.toNat ≤ kMaxPayload)
    ⟨fun both => ⟨both.1, both.2⟩, fun decodable => ⟨decodable.flags, decodable.short⟩⟩

theorem Decodable.resequence {frame : Frame} (decodable : Decodable frame) (seq : UInt64) :
    Decodable { frame with seq := seq } :=
  ⟨decodable.flags, decodable.short⟩

theorem decodable_makeGap (firstMissing count : UInt64) (reason : GapReason)
    (tIngestNs : UInt64) : Decodable (makeGap firstMissing count reason tIngestNs) := by
  constructor
  · change FrameFlags.kGap &&& FrameFlags.kReservedMask = 0
    decide
  · exact Nat.le_refl 8

theorem decodable_makeEcho (nonce tSentNs : UInt64) : Decodable (makeEcho nonce tSentNs) := by
  constructor
  · change FrameFlags.kEcho &&& FrameFlags.kReservedMask = 0
    decide
  · change (0 : UInt8).toNat ≤ kMaxPayload
    decide

end Wire

theorem Intact.decodable {raw : CanFrame} {frame : Frame} (intact : Intact raw frame) :
    Wire.Decodable frame :=
  ⟨intact.flagsDefined, intact.short⟩

/-! ## From the feed to the connections -/

namespace Egress.State

/-- What is true of the frames popped and of the records the thread makes is true
of everything it has given to a connection. -/
theorem carried_of_reachable {tuning : Tuning} {state : State}
    (reached : (system tuning).Reachable state) :
    ∀ connection ∈ state.history.connections, ∀ record ∈ connection.messages.flatten,
      state.Carried record := by
  have past : ∀ connection ∈ state.history.past, ∀ record ∈ connection.messages.flatten,
      state.Carried record := by
    refine reached.invariant (fun state => ∀ connection ∈ state.history.past,
      ∀ record ∈ connection.messages.flatten, state.Carried record) ?_ ?_
    · rintro _ ⟨listenFd, stopFd, egress, created, rfl⟩ connection member
      cases member
    · intro state event after before _ carried stepped
      have carrying := carrying_of_reachable before
      have popped := popped_step stepped
      have kept (same : after.history.past = state.history.past) :
          ∀ connection ∈ after.history.past, ∀ record ∈ connection.messages.flatten,
            after.Carried record := by
        intro connection member record given
        rw [same] at member
        exact (carried connection member record given).more popped
      cases step_effect stepped with
      | quiet quiet _ => exact kept quiet.past
      | pop frames pops => exact kept (by rw [pops.history]; rfl)
      | noteGap batch noting now => exact kept rfl
      | sendEcho n probing now => exact kept rfl
      | encode n encoding => exact kept rfl
      | drop drops =>
          intro connection member record given
          rcases List.mem_append.mp member with old | last
          · exact (carried connection old record given).more popped
          · rw [List.mem_singleton.mp last] at given
            exact (carrying.records record (List.mem_append_left _ given)).more popped
  intro connection member record given
  rcases List.mem_append.mp member with old | last
  · exact past connection old record given
  · rw [List.mem_singleton.mp last] at given
    exact (carrying_of_reachable reached).records record (List.mem_append_left _ given)

theorem messages_encodable {tuning : Tuning} {state : State}
    (reached : (system tuning).Reachable state)
    (popped : ∀ frame ∈ state.history.popped, Wire.Decodable frame) :
    ∀ connection ∈ state.history.connections, ∀ message ∈ connection.messages,
      FrameStream.Encodable message := by
  intro connection member message sent
  refine ⟨(framed_of_reachable reached).sizes connection member message sent, ?_⟩
  intro record inside
  have decodable : Wire.Decodable record := by
    rcases carried_of_reachable reached connection member record
      (List.mem_flatten.mpr ⟨message, sent, inside⟩) with old | ⟨_, _, _, _, rfl⟩ | ⟨_, _, rfl⟩
    · exact popped record old
    · exact Wire.decodable_makeGap ..
    · exact Wire.decodable_makeEcho ..
  exact ⟨decodable.flags, decodable.short⟩

end Egress.State

/-! ## From the sources to the feed of a queue -/

theorem BoundedQueue.mem_contents_pushBatch {queue : BoundedQueue T} {items : List T} {item : T}
    (member : item ∈ (queue.pushBatch items).1.contents) :
    item ∈ queue.contents ∨ item ∈ items := by
  cases isClosed : queue.closed with
  | true =>
      rw [pushBatch_closed isClosed] at member
      exact Or.inl member
  | false =>
      rw [(pushBatch_open isClosed items).1] at member
      exact List.mem_append.mp (List.mem_of_mem_drop member)

theorem FanOut.mem_stamp {base : UInt64} {batch : List BusFrame} {frame : Frame}
    (member : frame ∈ stamp base batch) :
    ∃ drained ∈ batch, ∃ seq, frame = { drained.val with seq := seq } := by
  rcases List.mem_mapIdx.mp member with ⟨index, inside, rfl⟩
  exact ⟨batch[index], List.getElem_mem inside, _, rfl⟩

structure FanOut.State.Carries (state : FanOut.State sinks) (sink : Fin sinks) : Prop where
  contents : ∀ frame ∈ (state.queues sink).contents, Wire.Decodable frame
  produced : ∀ produced next, state.phase = .push produced next →
    ∀ frame ∈ produced, Wire.Decodable frame

theorem FanOut.State.mem_setQueue {state : FanOut.State sinks} {sink other : Fin sinks}
    {queue : FrameQueue} {frame : Frame}
    (member : frame ∈ ((state.setQueue other queue).queues sink).contents) :
    (sink = other ∧ frame ∈ queue.contents) ∨ frame ∈ (state.queues sink).contents := by
  by_cases own : sink = other
  · subst own
    have same : (state.setQueue sink queue).queues sink = queue := Function.update_self ..
    rw [same] at member
    exact Or.inl ⟨rfl, member⟩
  · have same : (state.setQueue other queue).queues sink = state.queues sink :=
      Function.update_of_ne own ..
    rw [same] at member
    exact Or.inr member

theorem FanOut.State.Carries.setQueue {state : FanOut.State sinks} {sink : Fin sinks}
    (carries : state.Carries sink) {other : Fin sinks} {queue : FrameQueue}
    (kept : ∀ frame ∈ queue.contents, frame ∈ (state.queues other).contents) :
    (state.setQueue other queue).Carries sink := by
  refine ⟨?_, carries.produced⟩
  intro frame member
  rcases State.mem_setQueue member with ⟨rfl, new⟩ | old
  · exact carries.contents frame (kept frame new)
  · exact carries.contents frame old

theorem FanOut.State.Carries.push {state : FanOut.State sinks} {sink : Fin sinks}
    (carries : state.Carries sink) {produced : List Frame} {next : Nat}
    (pushing : state.phase = .push produced next) : (state.push produced next).Carries sink := by
  have decodable := carries.produced produced next pushing
  unfold State.push
  split
  · rename_i inside
    refine ⟨?_, ?_⟩
    · intro frame member
      rcases State.mem_setQueue member with ⟨rfl, own⟩ | other
      · rcases BoundedQueue.mem_contents_pushBatch own with old | new
        · exact carries.contents frame old
        · exact decodable frame new
      · exact carries.contents frame other
    · intro others following same
      cases same
      exact decodable
  · exact ⟨carries.contents, fun _ _ impossible => nomatch impossible⟩

theorem FanOut.State.Carries.step {state after : FanOut.State sinks} {sink : Fin sinks}
    (carries : state.Carries sink) {label : FanOut.Label sinks}
    (drained : ∀ batch, label = .drain batch → ∀ frame ∈ batch, Wire.Decodable frame.val)
    (stepped : state.step label = some after) : after.Carries sink := by
  cases step_cases stepped with
  | drain batch polling =>
      refine ⟨carries.contents, ?_⟩
      intro produced next same frame member
      cases same
      rcases mem_stamp member with ⟨original, found, seq, rfl⟩
      exact (drained batch rfl original found).resequence seq
  | push produced next pushing => exact carries.push pushing
  | pop other size =>
      apply carries.setQueue
      intro frame member
      rw [((state.queues other).popBatch_spec size).2.1] at member
      exact List.mem_of_mem_drop member
  | close other =>
      apply carries.setQueue
      exact fun frame member => member

namespace QueueTopology

/-- What is drained can be decoded, as what the sources produce can. -/
def Label.Decodable : Label sinks → Prop
  | .fanOut (.drain batch) => ∀ frame ∈ batch, Wire.Decodable frame.val
  | _ => True

instance (label : Label sinks) : Decidable label.Decodable :=
  match label with
  | .fanOut (.drain batch) => inferInstanceAs (Decidable (∀ frame ∈ batch, _))
  | .fanOut .push => .isTrue trivial
  | .fanOut (.pop _ _) => .isTrue trivial
  | .fanOut (.close _) => .isTrue trivial
  | .pop => .isTrue trivial
  | .closed => .isTrue trivial
  | .egress _ => .isTrue trivial

namespace State

theorem popped_decodable {tuning : Tuning} {sink : Fin sinks} {guard} {state : State sinks}
    (decodable : ∀ state label, guard state label → label.Decodable)
    (reached : (system sink tuning).ReachableUnder guard state) :
    ∀ frame ∈ state.egress.history.popped, Wire.Decodable frame := by
  suffices both : state.fanOut.Carries sink ∧
      ∀ frame ∈ state.egress.history.popped, Wire.Decodable frame from both.2
  refine reached.invariant (fun state => state.fanOut.Carries sink ∧
    ∀ frame ∈ state.egress.history.popped, Wire.Decodable frame) ?_ ?_
  · rintro _ ⟨capacity, listenFd, stopFd, egress, created, rfl⟩
    refine ⟨⟨?_, fun _ _ impossible => nomatch impossible⟩, fun _ impossible => nomatch impossible⟩
    intro frame member
    have empty : ((FanOut.State.create capacity).queues sink).contents = [] := rfl
    rw [State.initial, empty] at member
    cases member
  · rintro state label after _ allowed ⟨carries, popped⟩ stepped
    have sends := decodable state label allowed
    cases step_cases stepped with
    | fanOut label next others moved =>
        refine ⟨carries.step ?_ moved, popped⟩
        rintro batch rfl
        exact sends
    | pop size requested taken =>
        rcases Option.map_eq_some_iff.mp taken with ⟨egress, moved, rfl⟩
        have spec := (state.fanOut.queues sink).popBatch_spec size
        refine ⟨?_, ?_⟩
        · apply carries.setQueue
          intro frame member
          rw [spec.2.1] at member
          exact List.mem_of_mem_drop member
        · intro frame member
          rw [Egress.State.popped_step moved, Egress.Event.frames, spec.1] at member
          rcases List.mem_append.mp member with old | new
          · exact popped frame old
          · exact carries.contents frame (List.mem_of_mem_take new)
    | closed answer next answered =>
        refine ⟨carries, ?_⟩
        have notPop : ∀ frames, Egress.Event.closed answer ≠ .pop frames := by
          rintro frames impossible
          cases impossible
        rw [Egress.State.popped_step answered, Egress.Event.frames_of_not_pop notPop,
          List.append_nil]
        exact popped
    | egress event next own moved =>
        refine ⟨carries, ?_⟩
        rw [Egress.State.popped_step moved, Egress.Event.frames_of_not_pop own, List.append_nil]
        exact popped

end State

end QueueTopology

/-! ## From the producers to the feed of a ring -/

theorem BroadcastRing.State.Sound.taken_published
    {state : BroadcastRing.State geometry Producer ReaderId} (sound : state.Sound)
    {id : ReaderId} {frame : Frame} (member : frame ∈ (state.readers id).takenFrames) :
    ∃ entry ∈ state.core.issued, ∃ seq, frame = { entry.2 with seq := seq } := by
  rcases List.mem_map.mp member with ⟨⟨pos, frame, missed⟩, found, rfl⟩
  rcases (sound.readers id).frames pos frame missed
    (List.mem_append_right _ (Reader.mem_log_of_taken found)) with
    ⟨producer, original, issued, rfl⟩
  exact ⟨(producer, original), List.mem_of_getElem? issued, _, rfl⟩

namespace RingTopology.State

structure Supplied (tuning : Tuning) (me : ReaderId) (state : State geometry Producer ReaderId) :
    Prop where
  reached : (Egress.system tuning).Reachable state.egress
  sound : state.ring.Sound
  delivers : RingConsumer.State.Delivers me ⟨state.ring, state.feed⟩ state.egress.history.popped

theorem Supplied.answer {tuning : Tuning} {me : ReaderId} {state : State geometry Producer ReaderId}
    (supplied : state.Supplied tuning me) {event : Egress.Event}
    (taken : (state.ring.readers me).takenFrames = state.egress.history.popped ++ event.frames)
    (settled : (state.ring.readers me).phase.settled = true) {feed : RingFeed}
    (idle : feed.phase = .idle) {next : Egress.State}
    (stepped : state.egress.step event = some next) :
    ({ state with egress := next, feed := feed } :
      State geometry Producer ReaderId).Supplied tuning me := by
  refine ⟨.next supplied.reached trivial stepped, supplied.sound, [], .rest ?_ settled, ?_⟩
  · dsimp only
    rw [idle]
    rfl
  · rw [List.append_nil, Egress.State.popped_step stepped]
    exact taken

section

variable {geometry : BroadcastRing.Geometry} {Producer ReaderId : Type} [DecidableEq Producer]
  [DecidableEq ReaderId]

theorem Supplied.call {tuning : Tuning} {me : ReaderId}
    {state after : State geometry Producer ReaderId} (supplied : state.Supplied tuning me)
    (taken : (state.ring.readers me).takenFrames = state.egress.history.popped)
    {request : BroadcastRing.Request} {feed : RingFeed} (makes : feed.phase.Makes request)
    (called : state.call me request feed = some after) : after.Supplied tuning me := by
  rcases Option.map_eq_some_iff.mp called with ⟨ring, moved, rfl⟩
  have calls : RingConsumer.State.call me ⟨state.ring, state.feed⟩ request feed =
      some ⟨ring, feed⟩ := by
    rw [RingConsumer.State.call, moved]
    rfl
  have stepped : state.ring.step (.call me request) = some ring := moved
  exact ⟨supplied.reached, supplied.sound.step stepped, .call taken makes calls⟩

theorem Supplied.step {tuning : Tuning} {me : ReaderId}
    {state after : State geometry Producer ReaderId} (supplied : state.Supplied tuning me)
    {label : Label Producer ReaderId} (stepped : state.step me label = some after) :
    after.Supplied tuning me := by
  have handedOver := @supplied.delivers.handed_over
  have returned {out : List Frame} {missed : Nat} (reading : state.feed.phase.reading = true)
      (done : (state.ring.readers me).phase = .done (.readBatch out missed)) :
      (state.ring.readers me).takenFrames = state.egress.history.popped ++ out := by
    rcases supplied.delivers with ⟨held, holding, taken⟩
    rw [Holding, reading, done] at holding
    cases holding
    exact taken
  cases step_cases stepped with
  | ring label next others bus moved =>
      exact ⟨supplied.reached, supplied.sound.step moved, supplied.delivers.ring others moved⟩
  | firstRead size idle requested called =>
      exact supplied.call (handedOver (by rw [idle]; rfl)).2 rfl called
  | askClosed idle testing called =>
      exact supplied.call (handedOver (by rw [idle]; rfl)).2 rfl called
  | testClosed size missed reading done called =>
      have taken := returned (by rw [reading]; rfl) done
      rw [List.append_nil] at taken
      exact supplied.call taken rfl called
  | wait size known asking called =>
      exact supplied.call (handedOver (by rw [asking]; rfl)).2 rfl called
  | secondRead size waiting called =>
      exact supplied.call (handedOver (by rw [waiting]; rfl)).2 rfl called
  | handOver out missed reading done feed idle next popped =>
      have settled : (state.ring.readers me).phase.settled = true := by
        rw [done]
        rfl
      exact supplied.answer (by exact returned reading done) settled idle popped
  | giveUp size asking done next popped =>
      rcases handedOver (by rw [asking]; rfl) with ⟨settled, taken⟩
      exact supplied.answer (taken.trans (List.append_nil _).symm) settled rfl popped
  | answer closed asking done next answered =>
      rcases handedOver (by rw [asking]; rfl) with ⟨settled, taken⟩
      exact supplied.answer (taken.trans (List.append_nil _).symm) settled rfl answered
  | egress event next own moved =>
      have notPop : ∀ frames, event ≠ .pop frames := by
        rintro frames rfl
        cases own
      have popped := Egress.State.popped_step moved
      rw [Egress.Event.frames_of_not_pop notPop, List.append_nil] at popped
      refine ⟨.next supplied.reached trivial moved, supplied.sound, ?_⟩
      dsimp only
      rw [popped]
      exact supplied.delivers

theorem supplied_of_reachable {tuning : Tuning} {me : ReaderId} {guard}
    {state : State geometry Producer ReaderId}
    (reached : (system geometry Producer me tuning).ReachableUnder guard state) :
    state.Supplied tuning me := by
  refine reached.invariant (Supplied tuning me) ?_ ?_
  · rintro state ⟨listenFd, stopFd, egress, created, ring, attached, feed, thread⟩
    have sound := BroadcastRing.State.sound_of_reachable ring
    have log := (sound.readers me).log_of_attached attached
    refine ⟨.start ⟨listenFd, stopFd, egress, created, thread⟩, sound, [], .rest ?_ ?_, ?_⟩
    · dsimp only
      rw [feed]
      rfl
    · dsimp only
      rw [attached]
      rfl
    · dsimp only
      rw [BroadcastRing.Reader.takenFrames, BroadcastRing.Reader.taken, log, thread]
      rfl
  · intro state label after _ _ supplied stepped
    exact supplied.step stepped

theorem popped_decodable {tuning : Tuning} {me : ReaderId} {guard}
    {state : State geometry Producer ReaderId}
    (published : ∀ entry ∈ state.ring.core.issued, Wire.Decodable entry.2)
    (reached : (system geometry Producer me tuning).ReachableUnder guard state) :
    ∀ frame ∈ state.egress.history.popped, Wire.Decodable frame := by
  intro frame member
  have supplied := supplied_of_reachable reached
  rcases supplied.delivers with ⟨out, _, taken⟩
  have found : frame ∈ (state.ring.readers me).takenFrames := by
    rw [taken]
    exact List.mem_append_left _ member
  rcases supplied.sound.taken_published found with ⟨entry, issued, seq, rfl⟩
  exact (published entry issued).resequence seq

end

end RingTopology.State

/-! ## What arrives of the messages -/

namespace FrameStream

/-- How many of the messages lie within the first `size` bytes. -/
def complete : List (List Frame) → Nat → Nat
  | [], _ => 0
  | message :: rest, size =>
      if (Wire.messageBytes message).length ≤ size then
        complete rest (size - (Wire.messageBytes message).length) + 1
      else 0

theorem parseAll_cut {frames : List Frame} (encodable : Encodable frames) {bytes : List UInt8}
    (cut : bytes <+: Wire.messageBytes frames)
    (short : bytes.length < (Wire.messageBytes frames).length) : parseAll bytes = [.closed] := by
  have number : (UInt32.ofNat frames.length).toNat = frames.length :=
    UInt32.toNat_ofNat_of_lt' (by have := encodable.1; simp [UInt32.size]; omega)
  have allowed : UInt32.ofNat frames.length ≤ Wire.kMaxCount := by
    rw [UInt32.le_iff_toNat_le, number]
    exact encodable.1
  by_cases long : Wire.kHeaderSize ≤ bytes.length
  · have size := Wire.length_headerBytes (UInt32.ofNat frames.length)
    have header : bytes.take Wire.kHeaderSize =
        Wire.headerBytes (UInt32.ofNat frames.length) := by
      rw [List.prefix_iff_eq_take.mp cut, List.take_take, Nat.min_eq_left long,
        Wire.messageBytes, List.take_append_of_le_length (Nat.le_of_eq size.symm),
        List.take_of_length_le (Nat.le_of_eq size)]
    have decoded : Wire.decodeHeader (bytes.take Wire.kHeaderSize) noHeader =
        (.kOk, Wire.parsedHeader (Wire.headerBytes (UInt32.ofNat frames.length))) := by
      rw [header]
      exact Wire.decodeHeader_accepts _ _ (Wire.headerTestsPass_headerBytes _ allowed)
    rw [parseAll_header long decoded, Wire.payloadLen_of_decoded decoded,
      Wire.parsedHeader_headerBytes]
    apply parsePayload_short
    rw [Wire.length_messageBytes] at short
    dsimp only
    rw [List.length_drop, number]
    omega
  · exact parseAll_short (Nat.lt_of_not_le long)

theorem parseAll_prefix {messages : List (List Frame)}
    (encodable : ∀ message ∈ messages, Encodable message) {bytes : List UInt8}
    (cut : bytes <+: (messages.map Wire.messageBytes).flatten) :
    parseAll bytes = (messages.take (complete messages bytes.length)).map .ok ++ [.closed] := by
  induction messages generalizing bytes with
  | nil =>
      rw [List.prefix_nil.mp cut]
      exact parseAll_short (by decide)
  | cons message rest induction =>
      have first := encodable message List.mem_cons_self
      have others := fun other member => encodable other (List.mem_cons_of_mem message member)
      rw [List.map_cons, List.flatten_cons] at cut
      rw [complete]
      split
      · rename_i whole
        have start := List.prefix_of_prefix_length_le (List.prefix_append _ _) cut whole
        rcases start with ⟨later, rfl⟩
        rw [parseAll_message first, induction others ((List.prefix_append_right_inj _).mp cut),
          List.length_append, Nat.add_sub_cancel_left]
        rfl
      · rename_i part
        have inside := List.prefix_of_prefix_length_le cut (List.prefix_append _ _)
          (Nat.le_of_not_le part)
        exact parseAll_cut first inside (Nat.lt_of_not_le part)

end FrameStream

/-! ## Both topologies -/

/-- Whatever a consumer has read of a connection, in whatever pieces, it has got
the messages that are complete, as they were encoded, and then perhaps the end. -/
def Egress.State.Understood (state : Egress.State) : Prop :=
  ∀ connection ∈ state.history.connections, ∀ input, input <+: connection.written →
    ∀ calls : List (List FrameStream.ReadAnswer),
      let whole := connection.messages.take
        (FrameStream.complete connection.messages input.length)
      let results := FrameStream.connected.results input calls
      FrameStream.observed results <+: whole.map .ok ++ [.closed] ∧
        ((∃ result ∈ results, result.final = true) →
          FrameStream.observed results = whole.map .ok ++ [.closed])

theorem Egress.State.understood {tuning : Tuning} {state : State}
    (reached : (system tuning).Reachable state)
    (popped : ∀ frame ∈ state.history.popped, Wire.Decodable frame) : state.Understood := by
  intro connection member input cut calls
  have framed := framed_of_reachable reached
  have written : connection.written <+: connection.stream := by
    rcases List.mem_append.mp member with old | last
    · exact framed.past connection old
    · rw [List.mem_singleton.mp last, ← framed.current]
      exact List.prefix_append _ _
  have parsed := FrameStream.parseAll_prefix (messages_encodable reached popped connection member)
    (cut.trans written)
  dsimp only
  rw [← parsed, ← FrameStream.future_connected]
  exact ⟨FrameStream.observed_results_prefix FrameStream.connected_waiting input calls,
    FrameStream.observed_results_final FrameStream.connected_waiting input calls⟩

theorem Reaches.decodable {holds : CanFrame → Frame → Prop} {raw : CanFrame} {frame : Frame}
    (reaches : Reaches holds raw frame) : Wire.Decodable frame := by
  have carried : Carried frame _ := .ring { pos := 0, frame := frame, rest := [] }
  rcases carried.exists_seq with ⟨seq, same⟩
  have decodable := (reaches _ carried).2.1.decodable
  rw [same] at decodable
  exact ⟨decodable.flags, decodable.short⟩

theorem decodable_of_reaches {holds : CanFrame → Frame → Prop} {raws : List T}
    {raw : T → CanFrame} {frames : List Frame}
    (reach : List.Forall₂ (fun source frame => Reaches holds (raw source) frame) raws frames) :
    ∀ frame ∈ frames, Wire.Decodable frame := by
  induction reach with
  | nil => exact fun _ member => nomatch member
  | cons first rest induction =>
      intro frame member
      rcases List.mem_cons.mp member with rfl | later
      · exact first.decodable
      · exact induction frame later

/-- What the sources drain can be decoded, and so whatever part of a connection a
consumer has read, in whatever pieces: it gets whole messages, and never an
error. -/
theorem streams_understood (tuning : Tuning) :
    (∀ (source : CanSource) (size : Nat) (received : Received UInt32)
      (tIngest : UInt64), ∀ frame ∈ (source.drain size received tIngest).2,
        Wire.Decodable frame) ∧
    (∀ (source : SyntheticSource) (size : Nat) (read : SyntheticSource.TimerRead)
      (tKernel tIngest : UInt64), ∀ frame ∈ (source.drain size read tKernel tIngest).2,
        Wire.Decodable frame) ∧
    (∀ (sinks : Nat) (sink : Fin sinks) (state : QueueTopology.State sinks),
      (QueueTopology.system sink tuning).ReachableUnder (fun _ label => label.Decodable) state →
        state.egress.Understood) ∧
    (∀ (geometry : BroadcastRing.Geometry) (Producer ReaderId : Type) [DecidableEq Producer]
      [DecidableEq ReaderId] (me : ReaderId)
      (state : RingTopology.State geometry Producer ReaderId),
      (RingTopology.system geometry Producer me tuning).Reachable state →
        (∀ entry ∈ state.ring.core.issued, Wire.Decodable entry.2) →
        state.egress.Understood) := by
  refine ⟨?_, ?_, ?_, ?_⟩
  · intro source size received tIngest
    exact decodable_of_reaches (source.drain_reaches size received tIngest)
  · intro source size read tKernel tIngest
    exact decodable_of_reaches (source.drain_reaches size read tKernel tIngest)
  · intro sinks sink state reached
    apply Egress.State.understood (QueueTopology.State.reachable_egress reached)
    exact QueueTopology.State.popped_decodable (fun _ _ decodable => decodable) reached
  · intro geometry Producer ReaderId _ _ me state reached published
    apply Egress.State.understood (RingTopology.State.supplied_of_reachable reached).reached
    exact RingTopology.State.popped_decodable published reached

/-- Four frames in two messages, in topology A and in topology B. -/
theorem streams_understood_twoMessages :
    (∃ state, (QueueTopology.system 0 {}).run (.initial (fun _ => 2) { tuning := {} })
        overflowBetweenBatches = some state ∧
      state.egress.history.current.written.length = 192 ∧ state.egress.Understood) ∧
    (∃ state, (RingTopology.system _ Unit () {}).run attached lapBetweenBatches = some state ∧
      state.egress.history.current.written.length = 192 ∧ state.egress.Understood) := by
  constructor
  · have final : ((QueueTopology.system 0 {}).runUnder (fun _ label => label.Decodable)
        (.initial (fun _ => 2) { tuning := {} }) overflowBetweenBatches).map
        (fun state => state.egress.history.current.written.length) = some 192 := by
      decide +kernel
    rcases Option.map_eq_some_iff.mp final with ⟨state, ran, written⟩
    have reached : (QueueTopology.system (0 : Fin 1) {}).ReachableUnder
        (fun _ label => label.Decodable) state :=
      .runUnder (.start ⟨_, 3, 4, _, rfl, rfl⟩) _ ran
    exact ⟨state, System.run_of_runUnder ran, written,
      (streams_understood {}).2.2.1 1 0 state reached⟩
  · have final : ((RingTopology.system _ Unit () {}).run attached lapBetweenBatches).map
        (fun state => (state.egress.history.current.written.length,
          decide (∀ entry ∈ state.ring.core.issued, Wire.Decodable entry.2))) =
        some (192, true) := by
      decide +kernel
    rcases Option.map_eq_some_iff.mp final with ⟨state, ran, facts⟩
    simp only [Prod.mk.injEq, decide_eq_true_eq] at facts
    have reached := System.ReachableUnder.execute (.start attached_initial) _ ran
    exact ⟨state, ran, facts.1, (streams_understood {}).2.2.2 _ Unit Unit () state reached facts.2⟩

end TelemetryGateway
