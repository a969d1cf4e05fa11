import TelemetryGateway.Gateway.RingWindow

/-! # The two feeds are interchangeable

A batch is ingested and frames are popped, one call after the other. The queue
drops what it has no room for when it is pushed, the ring feed finds out when
it next reads; what they hand out and report is the same. -/

namespace TelemetryGateway

structure FeedStats where
  delivered : UInt64
  dropped : UInt64
  backlog : Nat
  capacity : Nat
  deriving DecidableEq, Repr

namespace ConsumerFeed

inductive Operation (Producer : Type)
  | ingest (producer : Producer) (batch : List BusFrame)
  | pop (size : Nat) (positive : 0 < size)

/-- What a `pop_batch` returned, and what `stats` reports right after it. -/
structure Answer where
  frames : List Frame
  stats : FeedStats

/-- The same frames, and the same numbers once there was a frame. -/
def Answer.Alike (left right : Answer) : Prop :=
  left.frames = right.frames ∧ (left.frames ≠ [] → left.stats = right.stats)

def ingested (operations : List (Operation Producer)) : Nat :=
  (operations.map fun
    | .ingest _ batch => batch.length
    | .pop _ _ => 0).sum

end ConsumerFeed

open ConsumerFeed (Operation Answer)

/-! ## Topology A -/

namespace QueueFeed

def stats (queue : FrameQueue) : FeedStats where
  delivered := queue.popped
  dropped := queue.dropped
  backlog := queue.count
  capacity := queue.capacity

/-- The answers of the feed of a sink to operations completed one after the
other. -/
inductive Answers {Producer : Type} (sink : Fin sinks) :
    FanOut.State sinks → List (Operation Producer) → List Answer → Prop
  | done : Answers sink state [] []
  | ingest : FanOut.Ingests state batch after → Answers sink after operations answers →
      Answers sink state (.ingest producer batch :: operations) answers
  | pop : state.step (.pop sink size) = some after → Answers sink after operations answers →
      Answers sink state (.pop size positive :: operations)
        ({ frames := ((state.queues sink).popBatch size).2
           stats := stats (after.queues sink) } :: answers)

end QueueFeed

/-! ## Topology B -/

namespace RingFeed

def stats (feed : RingFeed) (ring : BroadcastRing.State geometry Producer ReaderId) :
    FeedStats where
  delivered := feed.delivered
  dropped := feed.missed
  backlog :=
    if feed.position < UInt64.ofNat ring.core.writePos then
      (UInt64.ofNat ring.core.writePos - feed.position).toNat
    else 0
  capacity := geometry.capacity

theorem backlog_stats (feed : RingFeed) {ring : BroadcastRing.State geometry Producer ReaderId}
    (sound : ring.Sound) :
    (feed.stats ring).backlog = ring.core.writePos - feed.position.toNat := by
  have limit : ring.core.writePos < 2 ^ 63 := sound.limit
  have width : UInt64.size = 2 ^ 64 := rfl
  have written : (UInt64.ofNat ring.core.writePos).toNat = ring.core.writePos :=
    UInt64.toNat_ofNat_of_lt' (by omega)
  unfold stats
  dsimp only
  split
  · rename_i behind
    rw [UInt64.toNat_sub_of_le _ _ (UInt64.le_of_lt behind), written]
  · rename_i ahead
    rw [UInt64.lt_iff_toNat_lt, written] at ahead
    omega

inductive Answers {Producer : Type} [DecidableEq Producer] [DecidableEq ReaderId] (me : ReaderId) :
    RingConsumer.State geometry Producer ReaderId → List (Operation Producer) → List Answer → Prop
  | done : Answers me state [] []
  | ingest : RingConsumer.Ingests me producer batch state after →
      Answers me after operations answers →
      Answers me state (.ingest producer batch :: operations) answers
  | pop : RingConsumer.Pops me size state frames after → Answers me after operations answers →
      Answers me state (.pop size positive :: operations)
        ({ frames := frames
           stats := after.feed.stats after.ring } :: answers)

end RingFeed

/-! ## The answers -/

/-- After a pop that found something, the queue has counted what the ring feed
has noticed. -/
theorem stats_alike {sink : Fin sinks} {geometry : BroadcastRing.Geometry} {me : ReaderId}
    {window : Window Frame} {size : Nat} {queues : FanOut.State sinks}
    {consumer : RingConsumer.State geometry Producer ReaderId}
    (found : (window.pop geometry.capacity size).2 ≠ [])
    (queue : FanOut.Rest sink geometry.capacity (window.pop geometry.capacity size).1 queues)
    (ring : RingConsumer.Rest me (window.pop geometry.capacity size).1 consumer) :
    QueueFeed.stats (queues.queues sink) = consumer.feed.stats consumer.ring := by
  have caught : (window.pop geometry.capacity size).1.front geometry.capacity =
      (window.pop geometry.capacity size).1.next := by
    rw [Window.pop_found found]
    exact window.front_take
  have delivered : (queues.queues sink).popped = consumer.feed.delivered := by
    rw [queue.popped, ring.delivered]
  have dropped : (queues.queues sink).dropped = consumer.feed.missed := by
    rw [BoundedQueue.counted, queue.eager.dropped, ring.missed, caught, Nat.sub_self, Nat.add_zero]
  have position : consumer.feed.position.toNat = (window.pop geometry.capacity size).1.next := by
    have limit : consumer.ring.core.writePos < 2 ^ 63 := ring.sound.limit
    have inside := ring.inside
    have width : UInt64.size = 2 ^ 64 := rfl
    rw [ring.writePos] at limit
    rw [ring.position]
    exact UInt64.toNat_ofNat_of_lt' (by omega)
  have backlog : (queues.queues sink).count = (consumer.feed.stats consumer.ring).backlog := by
    rw [RingFeed.backlog_stats _ ring.sound, position, ring.writePos,
      ← BoundedQueue.length_contents, queue.eager.items, Window.readable, List.length_drop, caught]
  rw [QueueFeed.stats, delivered, dropped, backlog, queue.size]
  rfl

theorem queue_answers {sink : Fin sinks} {capacity : Nat} {window : Window Frame}
    {queues : FanOut.State sinks} (queue : FanOut.Rest sink capacity window queues)
    (operations : List (Operation Producer)) :
    ∃ answers, QueueFeed.Answers sink queues operations answers := by
  induction operations generalizing window queues with
  | nil => exact ⟨[], .done⟩
  | cons operation operations induction =>
      cases operation with
      | ingest producer batch =>
          rcases FanOut.ingests_all queue.polling batch with ⟨after, ingests⟩
          rcases induction (queue.ingest ingests) with ⟨answers, rest⟩
          exact ⟨answers, .ingest ingests rest⟩
      | pop size positive =>
          rcases induction (queue.pop size).2 with ⟨answers, rest⟩
          exact ⟨_, .pop rfl rest⟩

section

variable {geometry : BroadcastRing.Geometry} {Producer ReaderId : Type} [DecidableEq Producer]
  [DecidableEq ReaderId] {me : ReaderId} {window : Window Frame} {sink : Fin sinks}
  {queues : FanOut.State sinks} {consumer : RingConsumer.State geometry Producer ReaderId}
  {operations : List (Operation Producer)}

theorem answers_alike (queue : FanOut.Rest sink geometry.capacity window queues)
    (ring : RingConsumer.Rest me window consumer) {fromQueue fromRing : List Answer}
    (queueAnswers : QueueFeed.Answers sink queues operations fromQueue)
    (ringAnswers : RingFeed.Answers me consumer operations fromRing) :
    List.Forall₂ Answer.Alike fromQueue fromRing := by
  induction queueAnswers generalizing window consumer fromRing with
  | done =>
      cases ringAnswers
      exact .nil
  | ingest ingests _ induction =>
      cases ringAnswers with
      | ingest published rest =>
          exact induction (queue.ingest ingests) (ring.ingest published) rest
  | pop stepped _ induction =>
      cases ringAnswers with
      | pop pops rest =>
          cases stepped
          rename_i size positive _ _ _ _ _
          rcases queue.pop size with ⟨taken, queueRest⟩
          rcases ring.pop positive pops with ⟨read, ringRest⟩
          refine .cons ⟨taken.trans read.symm, ?_⟩ (induction queueRest ringRest rest)
          intro found
          exact stats_alike (fun nothing => found (taken.trans nothing)) queueRest ringRest

theorem ring_answers (ring : RingConsumer.Rest me window consumer)
    (operations : List (Operation Producer))
    (room : window.log.length + ConsumerFeed.ingested operations <
      BroadcastRing.Core.kTicketLimit) :
    ∃ answers, RingFeed.Answers me consumer operations answers := by
  induction operations generalizing window consumer with
  | nil => exact ⟨[], .done⟩
  | cons operation operations induction =>
      rw [ConsumerFeed.ingested, List.map_cons, List.sum_cons, ← ConsumerFeed.ingested] at room
      cases operation with
      | ingest producer batch =>
          rcases ring.ingests producer batch (by dsimp only at room; omega) with ⟨after, ingests⟩
          have grown : (window.push (FanOut.stamp (UInt64.ofNat window.log.length)
              batch)).log.length = window.log.length + batch.length := by
            change (window.log ++ FanOut.stamp _ batch).length = _
            rw [List.length_append, FanOut.stamp, List.length_mapIdx]
          rcases induction (ring.ingest ingests) (by rw [grown]; dsimp only at room; omega) with
            ⟨answers, rest⟩
          exact ⟨answers, .ingest ingests rest⟩
      | pop size positive =>
          rcases ring.pops positive with ⟨frames, after, pops⟩
          rcases induction (ring.pop positive pops).2
            (by rw [Window.log_pop]; dsimp only at room; omega) with ⟨answers, rest⟩
          exact ⟨_, .pop pops rest⟩

/-- Whatever is ingested and popped, call after call, and however the threads
work through their calls, both feeds return the same frames and report the same
numbers after every pop that found one; and the calls do return. The ring gives
out fewer than `2 ^ 63` tickets, as everywhere; a call that would take one more
does not return. -/
theorem feeds_interchangeable (capacity : Fin sinks → Nat) (sink : Fin sinks)
    (same : capacity sink = geometry.capacity)
    (attached : RingConsumer.State.empty.step me .attach = some consumer)
    (operations : List (Operation Producer)) :
    (∀ fromQueue fromRing,
      QueueFeed.Answers sink (FanOut.State.create capacity) operations fromQueue →
      RingFeed.Answers me consumer operations fromRing →
      List.Forall₂ Answer.Alike fromQueue fromRing) ∧
    (∃ fromQueue, QueueFeed.Answers sink (FanOut.State.create capacity) operations fromQueue) ∧
    (ConsumerFeed.ingested operations < 2 ^ 63 →
      ∃ fromRing, RingFeed.Answers me consumer operations fromRing) := by
  have positive : capacity sink ≠ 0 := by
    have atLeastTwo := geometry.atLeastTwo
    omega
  have queue := FanOut.create_rest positive
  rw [same] at queue
  have ring := RingConsumer.attach_rest attached
  refine ⟨fun _ _ => answers_alike queue ring, queue_answers queue operations, ?_⟩
  intro room
  apply ring_answers ring
  change 0 + _ < 2 ^ 63
  rw [Nat.zero_add]
  exact room

end

/-- Two laps before the first pop, a pop that leaves a frame, one that takes the
rest, and one that finds nothing. -/
def lapsAndPartialPops : List (Operation Unit) :=
  [.ingest () (List.replicate 5 blank), .pop 1 Nat.zero_lt_one, .ingest () [blank],
    .pop 3 (Nat.zero_lt_succ 2), .pop 3 (Nat.zero_lt_succ 2)]

theorem feeds_interchangeable_lapsAndPartialPops :
    ∃ consumer : RingConsumer.State .smallest Unit Unit,
      RingConsumer.State.empty.step () .attach = some consumer ∧
      ∃ fromQueue fromRing,
        QueueFeed.Answers (0 : Fin 1) (FanOut.State.create fun _ => 2) lapsAndPartialPops
          fromQueue ∧
        RingFeed.Answers () consumer lapsAndPartialPops fromRing ∧
        List.Forall₂ Answer.Alike fromQueue fromRing := by
  have attached : (RingConsumer.State.empty : RingConsumer.State .smallest Unit Unit).step ()
      .attach = some _ := rfl
  refine ⟨_, attached, ?_⟩
  rcases feeds_interchangeable (fun _ => 2) (0 : Fin 1) rfl attached lapsAndPartialPops with
    ⟨alike, ⟨fromQueue, queue⟩, returns⟩
  rcases returns (by decide) with ⟨fromRing, ring⟩
  exact ⟨fromQueue, fromRing, queue, ring, alike fromQueue fromRing queue ring⟩

end TelemetryGateway
