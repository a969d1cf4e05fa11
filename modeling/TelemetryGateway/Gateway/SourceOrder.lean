import TelemetryGateway.Feed.FanOutThread
import TelemetryGateway.Gateway.RingIngest

/-! # The order of each source

A consumer gets the frames of one source in the order the source drained them,
with holes at most. In topology A this rests on one thread that pushes in
order; in topology B on each thread taking its tickets in order and every
reader following them. -/

namespace TelemetryGateway

def Frame.unsequenced (frame : Frame) : Frame :=
  { frame with seq := 0 }

/-- The delivered frames that carry `id` are among the drained ones, in order
and each at most once. -/
def FromSource (id : UInt8) (delivered : List Frame) (drained : List BusFrame) : Prop :=
  ((delivered.filter fun frame => frame.srcId = id).map Frame.unsequenced).Sublist
    (drained.map fun frame => frame.val.unsequenced)

theorem sublist_of_increasing {items : List α} {reads : List (Nat × α)}
    (increasing : (reads.map Prod.fst).Pairwise (· < ·))
    (found : ∀ read ∈ reads, items[read.1]? = some read.2) :
    (reads.map Prod.snd).Sublist items := by
  -- what is read from a position on comes from the items from there on
  have tail (start : Nat) (later : ∀ read ∈ reads, start ≤ read.1) :
      (reads.map Prod.snd).Sublist (items.drop start) := by
    induction reads generalizing start with
    | nil => exact List.nil_sublist _
    | cons read rest induction =>
        rcases List.pairwise_cons.mp increasing with ⟨first, ordered⟩
        rcases List.getElem?_eq_some_iff.mp (found read List.mem_cons_self) with ⟨inside, here⟩
        have remaining := induction ordered
          (fun other member => found other (List.mem_cons_of_mem _ member)) (read.1 + 1)
          (fun other member => first other.1 (List.mem_map_of_mem member))
        have front : (read.2 :: rest.map Prod.snd).Sublist (items.drop read.1) := by
          rw [List.drop_eq_getElem_cons inside, here]
          exact remaining.cons_cons _
        exact front.trans (List.drop_sublist_drop_left _ (later read List.mem_cons_self))
  exact tail 0 fun _ _ => Nat.zero_le _

theorem fromSource_of_sublist {srcId : Fin sources → UInt8} (distinct : Function.Injective srcId)
    {entries : List (Fin sources × Frame)} (own : ∀ entry ∈ entries, entry.2.srcId = srcId entry.1)
    {delivered : List Frame}
    (among : (delivered.map Frame.unsequenced).Sublist
      (entries.map fun entry => entry.2.unsequenced)) (source : Fin sources) :
    ((delivered.filter fun frame => frame.srcId = srcId source).map Frame.unsequenced).Sublist
      ((entries.filter fun entry => entry.1 = source).map fun entry => entry.2.unsequenced) := by
  have picked : (entries.filter fun entry => entry.1 = source) =
      entries.filter fun entry => entry.2.srcId = srcId source := by
    refine List.filter_congr ?_
    intro entry member
    rw [own entry member, decide_eq_decide]
    exact distinct.eq_iff.symm
  have filtered := among.filter fun frame => decide (frame.srcId = srcId source)
  rw [List.filter_map, List.filter_map] at filtered
  rw [picked]
  exact filtered

/-! ## Topology A -/

namespace FanOut.Thread

def Place.source? : Place sources → Option (Fin sources)
  | .source _ _ i => if inside : i < sources then some ⟨i, inside⟩ else none
  | _ => none

/-- Every source puts its own id on the frames it drains. -/
def OwnIds (srcId : Fin sources → UInt8) (state : State sources sinks) :
    Label sources sinks → Prop
  | .drain batch => ∀ source ∈ state.place.source?, ∀ frame ∈ batch,
      frame.val.srcId = srcId source
  | _ => True

instance (srcId : Fin sources → UInt8) (state : State sources sinks)
    (label : Label sources sinks) : Decidable (OwnIds srcId state label) :=
  match label with
  | .drain _ => inferInstanceAs (Decidable (∀ source ∈ _, ∀ frame ∈ _, _))
  | .poll _ => .isTrue trivial
  | .pass => .isTrue trivial
  | .push => .isTrue trivial
  | .pop _ _ => .isTrue trivial
  | .close _ => .isTrue trivial

def Ledger.drainedBy (ledger : Ledger sources sinks) (source : Fin sources) : List BusFrame :=
  (ledger.drained.filter fun entry => entry.1 = source).map Prod.snd

theorem Move.own {srcId : Fin sources → UInt8} {state : State sources sinks}
    {ledger recorded : Ledger sources sinks} {label : Label sources sinks}
    {core : FanOut.State sinks} (move : Move state ledger label core recorded)
    (ids : OwnIds srcId state label)
    (own : ∀ entry ∈ ledger.drained, entry.2.val.srcId = srcId entry.1) :
    ∀ entry ∈ recorded.drained, entry.2.val.srcId = srcId entry.1 := by
  cases move with
  | idle => exact own
  | drain place polling =>
      intro entry member
      rcases List.mem_append.mp member with old | new
      · exact own entry old
      · rcases List.mem_map.mp new with ⟨frame, found, rfl⟩
        refine ids _ ?_ frame found
        rw [place, Place.source?, dif_pos (Fin.isLt _)]
        rfl
  | push pushing =>
      unfold Ledger.noteOffer
      dsimp only
      split <;> exact own
  | pop sink size => exact own
  | close sink => exact own

theorem own_of_reachable {srcId : Fin sources → UInt8} {capacity : Fin sinks → Nat}
    {state : State sources sinks × Ledger sources sinks}
    (reached : (observed sources capacity).ReachableUnder
      (fun state label => OwnIds srcId state.1 label) state) :
    ∀ entry ∈ state.2.drained, entry.2.val.srcId = srcId entry.1 := by
  refine reached.invariant
    (fun state => ∀ entry ∈ state.2.drained, entry.2.val.srcId = srcId entry.1) ?_ ?_
  · rintro ⟨state, ledger⟩ ⟨rfl, rfl⟩ entry member
    cases member
  · rintro ⟨state, ledger⟩ label after _ ids own stepped
    rcases Option.map_eq_some_iff.mp stepped with ⟨moved, step, rfl⟩
    exact (State.step_move step ledger).own ids own

theorem unsequenced_stamp (base : UInt64) (batch : List BusFrame) :
    (stamp base batch).map Frame.unsequenced = batch.map fun frame => frame.val.unsequenced := by
  apply List.ext_getElem
  · simp [stamp]
  · intro k left right
    simp [stamp, Frame.unsequenced]

theorem Sound.delivered_sublist {core : FanOut.State sinks} {ledger : Ledger sources sinks}
    (sound : Sound core ledger) (sink : Fin sinks) :
    (ledger.delivered sink).Sublist ledger.numbered := by
  rw [← sound.offered sink]
  exact ((List.sublist_append_left ..).trans (sound.serves sink).delivered).trans
    (List.sublist_append_left ..)

theorem Sound.fromSource {core : FanOut.State sinks} {ledger : Ledger sources sinks}
    (sound : Sound core ledger) {srcId : Fin sources → UInt8} (distinct : Function.Injective srcId)
    (own : ∀ entry ∈ ledger.drained, entry.2.val.srcId = srcId entry.1) (sink : Fin sinks)
    (source : Fin sources) :
    FromSource (srcId source) (ledger.delivered sink) (ledger.drainedBy source) := by
  have among := (sound.delivered_sublist sink).map Frame.unsequenced
  rw [Ledger.numbered, unsequenced_stamp, List.map_map] at among
  have stamped : ∀ entry ∈ ledger.drained.map fun entry => (entry.1, entry.2.val),
      entry.2.srcId = srcId entry.1 := by
    intro entry member
    rcases List.mem_map.mp member with ⟨drained, found, rfl⟩
    exact own drained found
  have entries : ((ledger.delivered sink).map Frame.unsequenced).Sublist
      ((ledger.drained.map fun entry => (entry.1, entry.2.val)).map
        fun entry => entry.2.unsequenced) := by
    rw [List.map_map]
    exact among
  have filtered := fromSource_of_sublist distinct stamped entries source
  simpa [FromSource, Ledger.drainedBy, List.filter_map, Function.comp_def] using filtered

theorem stamp_increasing {batch : List BusFrame} (fits : batch.length ≤ 2 ^ 64) :
    Wire.Increasing (stamp 0 batch) := by
  rw [Wire.Increasing, List.pairwise_iff_getElem]
  intro i j left right earlier
  rw [stamp, List.length_mapIdx] at left right
  have size : UInt64.size = 2 ^ 64 := rfl
  simp only [stamp, List.getElem_mapIdx, UInt64.zero_add]
  rw [UInt64.toNat_ofNat_of_lt' (by omega), UInt64.toNat_ofNat_of_lt' (by omega)]
  exact earlier

end FanOut.Thread

/-! ## Topology B -/

namespace RingIngest

def OwnIds (srcId : Fin sources → UInt8) : Label sources ReaderId → Prop
  | .drain source batch => ∀ frame ∈ batch, frame.val.srcId = srcId source
  | _ => True

instance (srcId : Fin sources → UInt8) (label : Label sources ReaderId) :
    Decidable (OwnIds srcId label) :=
  match label with
  | .drain _ _ => inferInstanceAs (Decidable (∀ frame ∈ _, _))
  | .poll _ _ => .isTrue trivial
  | .publish _ => .isTrue trivial
  | .count _ => .isTrue trivial
  | .consumer _ => .isTrue trivial

theorem own_of_reachable [DecidableEq ReaderId] {me : ReaderId} {srcId : Fin sources → UInt8}
    {state : State geometry sources ReaderId × Ledger sources}
    (reached : (observed geometry sources me).ReachableUnder
      (fun _ label => OwnIds srcId label) state) :
    ∀ source, ∀ frame ∈ state.2.drained source, frame.val.srcId = srcId source := by
  refine reached.invariant
    (fun state => ∀ source, ∀ frame ∈ state.2.drained source, frame.val.srcId = srcId source) ?_ ?_
  · rintro ⟨state, ledger⟩ ⟨rfl, rfl⟩ source frame member
    cases member
  · rintro ⟨state, ledger⟩ label after _ ids own stepped
    rcases Option.map_eq_some_iff.mp stepped with ⟨moved, step, rfl⟩
    cases label with
    | drain source batch =>
        intro other frame member
        change frame ∈ Function.update ledger.drained source (ledger.drained source ++ batch) other
          at member
        by_cases same : other = source
        · subst same
          rw [Function.update_self] at member
          rcases List.mem_append.mp member with old | new
          · exact own other frame old
          · exact ids frame new
        · rw [Function.update_of_ne same] at member
          exact own other frame member
    | poll source answer => exact own
    | publish source => exact own
    | count source => exact own
    | consumer label => exact own

theorem taken_sublist {ring : BroadcastRing.State geometry Producer ReaderId}
    (sound : ring.Sound) (id : ReaderId) :
    ((ring.readers id).takenFrames.map Frame.unsequenced).Sublist
      (ring.core.issued.map fun entry => entry.2.unsequenced) := by
  have increasing : (((ring.readers id).taken.map fun read =>
      (read.1, read.2.1.unsequenced)).map Prod.fst).Pairwise (· < ·) := by
    rw [List.map_map]
    exact sound.positions_increase id
  have found : ∀ read ∈ (ring.readers id).taken.map fun read => (read.1, read.2.1.unsequenced),
      (ring.core.issued.map fun entry => entry.2.unsequenced)[read.1]? = some read.2 := by
    intro read member
    rcases List.mem_map.mp member with ⟨⟨pos, frame, missed⟩, taken, rfl⟩
    rcases (sound.readers id).frames pos frame missed
      (List.mem_append_right _ (BroadcastRing.Reader.mem_log_of_taken taken)) with
      ⟨producer, original, issued, rfl⟩
    rw [List.getElem?_map, issued]
    rfl
  have reads := sublist_of_increasing increasing found
  simpa [BroadcastRing.Reader.takenFrames, Function.comp_def] using reads

theorem Sound.fromSource {me : ReaderId} {state : State geometry sources ReaderId}
    {ledger : Ledger sources} (sound : Sound me state ledger) {srcId : Fin sources → UInt8}
    (distinct : Function.Injective srcId)
    (own : ∀ source, ∀ frame ∈ ledger.drained source, frame.val.srcId = srcId source)
    (source : Fin sources) :
    FromSource (srcId source) ledger.delivered (ledger.drained source) := by
  have stamped : ∀ entry ∈ state.consumer.ring.core.issued,
      entry.2.srcId = srcId entry.1 := by
    intro entry member
    have mine : entry.2 ∈ issuedBy state.consumer.ring.core entry.1 :=
      List.mem_map.mpr ⟨entry, List.mem_filter.mpr ⟨member, decide_eq_true rfl⟩, rfl⟩
    have drained : entry.2 ∈ (ledger.drained entry.1).map Subtype.val := by
      rw [← sound.published entry.1]
      exact List.mem_append_left _ mine
    rcases List.mem_map.mp drained with ⟨frame, found, same⟩
    rw [← same]
    exact own entry.1 frame found
  have delivered : (ledger.delivered.map Frame.unsequenced).Sublist
      (state.consumer.ring.core.issued.map fun entry => entry.2.unsequenced) := by
    rcases sound.delivers with ⟨out, _, taken⟩
    have all := taken_sublist sound.ring me
    rw [taken, List.map_append] at all
    exact (List.sublist_append_left ..).trans all
  have filtered := fromSource_of_sublist distinct stamped delivered source
  have issued : (issuedBy state.consumer.ring.core source).map Frame.unsequenced <+:
      (ledger.drained source).map fun frame => frame.val.unsequenced := by
    have published := (List.prefix_append (issuedBy state.consumer.ring.core source)
      ((state.places source).waiting.map Subtype.val)).map Frame.unsequenced
    rw [sound.published source, List.map_map] at published
    exact published
  rw [issuedBy, List.map_map] at issued
  exact filtered.trans issued.sublist

theorem Sound.increasing {me : ReaderId} {state : State geometry sources ReaderId}
    {ledger : Ledger sources} (sound : Sound me state ledger) :
    Wire.Increasing ledger.delivered := by
  rcases sound.delivers with ⟨out, _, taken⟩
  have ordered := sound.ring.taken_increasing me
  rw [taken] at ordered
  exact (List.pairwise_append.mp ordered).1

end RingIngest

/-! ## First in, first out for each source -/

/-- Of every source a consumer gets a subsequence, in both topologies and under
every schedule; and what it gets has rising sequences, in topology A as long as
the 64-bit counter has not gone around. -/
theorem per_source_fifo {srcId : Fin sources → UInt8} (distinct : Function.Injective srcId) :
    (∀ (sinks : Nat) (capacity : Fin sinks → Nat) (state : FanOut.Thread.State sources sinks)
      (ledger : FanOut.Thread.Ledger sources sinks),
      (FanOut.Thread.observed sources capacity).ReachableUnder
        (fun state label => FanOut.Thread.OwnIds srcId state.1 label) (state, ledger) →
      ∀ sink, (∀ source, FromSource (srcId source) (ledger.delivered sink)
          (ledger.drainedBy source)) ∧
        (ledger.drained.length ≤ 2 ^ 64 → Wire.Increasing (ledger.delivered sink))) ∧
    (∀ (geometry : BroadcastRing.Geometry) (ReaderId : Type) [DecidableEq ReaderId]
      (me : ReaderId) (state : RingIngest.State geometry sources ReaderId)
      (ledger : RingIngest.Ledger sources),
      (RingIngest.observed geometry sources me).ReachableUnder
        (fun _ label => RingIngest.OwnIds srcId label) (state, ledger) →
      (∀ source, FromSource (srcId source) ledger.delivered (ledger.drained source)) ∧
        Wire.Increasing ledger.delivered) := by
  constructor
  · intro sinks capacity state ledger reached sink
    have sound := FanOut.Thread.reachable_sound reached
    refine ⟨sound.fromSource distinct (FanOut.Thread.own_of_reachable reached) sink, ?_⟩
    intro fits
    have rising : Wire.Increasing ledger.numbered :=
      FanOut.Thread.stamp_increasing (by rw [List.length_map]; exact fits)
    exact rising.sublist (sound.delivered_sublist sink)
  · intro geometry ReaderId _ me state ledger reached
    have sound := RingIngest.reachable_sound reached
    exact ⟨sound.fromSource distinct (RingIngest.own_of_reachable reached), sound.increasing⟩

def busId (source : Fin 2) : UInt8 :=
  UInt8.ofNat source.val

def busFrame (source : Fin 2) : BusFrame :=
  ⟨{ Frame.zero with srcId := busId source }, blank.property⟩

def firstSource : Fin 2 := ⟨0, Nat.zero_lt_two⟩

def secondSource : Fin 2 := ⟨1, Nat.one_lt_two⟩

/-- One thread drains both sources; the first frame is overwritten. -/
def overwriteOldest : List (FanOut.Thread.Label 2 1) :=
  [.poll (.ready (fun _ => true) false), .drain [busFrame firstSource, busFrame firstSource],
    .push, .push, .drain [busFrame secondSource], .push, .push, .pass,
    .pop ⟨0, Nat.zero_lt_one⟩ 2]

/-- The second source takes its ticket later and publishes first. -/
def publishOutOfOrder : List (RingIngest.Label 2 Unit) :=
  [.consumer .attach, .poll firstSource (.ready true false),
    .poll secondSource (.ready true false), .drain firstSource [busFrame firstSource],
    .publish firstSource, .drain secondSource [busFrame secondSource], .publish secondSource] ++
  List.replicate 8 (.consumer (.ring (.producer secondSource false))) ++
  List.replicate 8 (.consumer (.ring (.producer firstSource false))) ++
  [.count firstSource, .count secondSource, .consumer (.pop 2)] ++
  List.replicate 14 (.consumer (.ring (.reader ()))) ++ [.consumer .resume]

theorem per_source_fifo_twoSources :
    (∃ state ledger, (FanOut.Thread.observed 2 fun _ => 2).run
        (.create 2 fun _ => 2, .fresh) overwriteOldest = some (state, ledger) ∧
      (ledger.delivered 0).map (fun frame => (frame.srcId, frame.seq)) = [(0, 1), (1, 2)] ∧
      FromSource 0 (ledger.delivered 0) (ledger.drainedBy 0)) ∧
    (∃ state ledger, (RingIngest.observed BroadcastRing.Geometry.smallest 2 ()).run
        (.empty, .fresh) publishOutOfOrder = some (state, ledger) ∧
      ledger.delivered.map (fun frame => (frame.srcId, frame.seq)) = [(0, 0), (1, 1)] ∧
      FromSource 1 ledger.delivered (ledger.drained 1)) := by
  have distinct : Function.Injective busId := by
    unfold Function.Injective
    decide
  constructor
  · have final : ((FanOut.Thread.observed 2 fun _ => 2).runUnder
        (fun state label => FanOut.Thread.OwnIds busId state.1 label)
        (.create 2 fun _ => 2, .fresh) overwriteOldest).map
        (fun run => (run.2.delivered 0).map fun frame => (frame.srcId, frame.seq)) =
        some [(0, 1), (1, 2)] := by
      decide +kernel
    rcases Option.map_eq_some_iff.mp final with ⟨⟨state, ledger⟩, ran, delivered⟩
    have initial : (FanOut.Thread.observed 2 fun _ : Fin 1 => 2).initial
        (.create 2 fun _ => 2, .fresh) := ⟨rfl, rfl⟩
    exact ⟨state, ledger, System.run_of_runUnder ran, delivered,
      ((per_source_fifo distinct).1 _ _ _ _ (.runUnder (.start initial) _ ran) 0).1 0⟩
  · have final : ((RingIngest.observed BroadcastRing.Geometry.smallest 2 ()).runUnder
        (fun _ label => RingIngest.OwnIds busId label) (.empty, .fresh) publishOutOfOrder).map
        (fun run => run.2.delivered.map fun frame => (frame.srcId, frame.seq)) =
        some [(0, 0), (1, 1)] := by
      decide +kernel
    rcases Option.map_eq_some_iff.mp final with ⟨⟨state, ledger⟩, ran, delivered⟩
    have initial : (RingIngest.observed BroadcastRing.Geometry.smallest 2 ()).initial
        (.empty, .fresh) := ⟨rfl, rfl⟩
    exact ⟨state, ledger, System.run_of_runUnder ran, delivered,
      ((per_source_fifo distinct).2 _ _ _ _ _ (.runUnder (.start initial) _ ran)).1 1⟩

/-! ## Around the end of the counter -/

namespace FanOut.Thread

/-- One source, one sink that holds one frame, and the thread about to poll
with that sequence next. -/
structure Waiting (next : UInt64) (delivered : List Frame) (run : State 1 1 × Ledger 1 1) :
    Prop where
  reached : (observed 1 fun _ => 1).ReachableUnder
    (fun state label => OwnIds (fun _ => 0) state.1 label) run
  place : run.1.place = .poll
  phase : run.1.core.phase = .poll
  nextSeq : run.1.core.nextSeq = next
  isOpen : (run.1.core.queues 0).closed = false
  capacity : (run.1.core.queues 0).capacity = 1
  delivered : run.2.delivered 0 = delivered

theorem waiting_first : Waiting 0 [] (State.create 1 fun _ => 1, Ledger.fresh) where
  reached := .start ⟨rfl, rfl⟩
  place := rfl
  phase := rfl
  nextSeq := rfl
  isOpen := rfl
  capacity := rfl
  delivered := rfl

def round : List (Label 1 1) :=
  [.poll (.ready (fun _ => true) false), .drain [blank], .push, .push, .pass]

theorem round_guarded (run : State 1 1 × Ledger 1 1) :
    (observed 1 fun _ => 1).Guarded (fun state label => OwnIds (fun _ => 0) state.1 label) run
      round := by
  refine System.guarded_of_labels _ _ ?_ _
  intro label member state
  simp only [round, List.mem_cons, List.not_mem_nil, or_false] at member
  rcases member with rfl | rfl | rfl | rfl | rfl
  · trivial
  · intro source _ frame member
    rw [List.mem_singleton.mp member]
    rfl
  all_goals trivial

theorem Waiting.round {next : UInt64} {delivered : List Frame} {run : State 1 1 × Ledger 1 1}
    (waiting : Waiting next delivered run) :
    ∃ after, Waiting (next + 1) delivered after ∧
      (after.1.core.queues 0).contents = stamp next [blank] := by
  rcases run with ⟨⟨⟨nextSeq, phase, queues⟩, place, frames, batches, pollErrors⟩, ledger⟩
  rcases waiting with ⟨reached, atPoll, polling, rfl, isOpen, capacity, taken⟩
  cases atPoll
  cases polling
  have ran := reached.run FanOut.Thread.round (round_guarded _) rfl
  rcases BoundedQueue.pushBatch_open isOpen (stamp nextSeq [blank]) with ⟨contents, _, stillOpen⟩
  have size := (BoundedQueue.pushBatch_counts isOpen (stamp nextSeq [blank])).2.2.2
  refine ⟨_, ⟨ran, rfl, rfl, rfl, stillOpen, size.trans capacity, taken⟩, contents.trans ?_⟩
  dsimp only at capacity
  rw [capacity, List.rtake, List.length_append]
  exact List.drop_left' rfl

theorem Waiting.rounds {next : UInt64} {delivered : List Frame} {run : State 1 1 × Ledger 1 1}
    (waiting : Waiting next delivered run) (count : Nat) :
    ∃ after, Waiting (next + UInt64.ofNat count) delivered after := by
  induction count with
  | zero =>
      have same : next + UInt64.ofNat 0 = next := UInt64.add_zero next
      rw [same]
      exact ⟨run, waiting⟩
  | succ count induction =>
      rcases induction with ⟨before, earlier⟩
      rcases earlier.round with ⟨after, later, _⟩
      rw [UInt64.ofNat_add, ← UInt64.add_assoc]
      exact ⟨after, later⟩

theorem Waiting.pop {next : UInt64} {delivered : List Frame} {run : State 1 1 × Ledger 1 1}
    (waiting : Waiting next delivered run) (one : (run.1.core.queues 0).contents.length = 1) :
    ∃ after, Waiting next (delivered ++ (run.1.core.queues 0).contents) after := by
  have free : OwnIds (fun _ => 0) run.1 (.pop 0 1) := trivial
  have popped := waiting.reached.next free rfl
  rcases BoundedQueue.popBatch_spec (run.1.core.queues 0) 1 with ⟨taken, _, _, closed⟩
  rw [List.take_of_length_le (Nat.le_of_eq one)] at taken
  have size := (BoundedQueue.popBatch_counts (run.1.core.queues 0) 1).2.2
  refine ⟨_, popped, waiting.place, waiting.phase, waiting.nextSeq, ?_, ?_, ?_⟩
  · exact closed.trans waiting.isOpen
  · exact size.trans waiting.capacity
  · rw [← waiting.delivered, ← taken]
    rfl

end FanOut.Thread

/-- After 2^64 frames the counter of the fan-out thread begins again, and a
consumer gets a sequence it already had. -/
theorem sequence_delivered_twice :
    ∃ state ledger, (FanOut.Thread.observed 1 fun _ : Fin 1 => 1).ReachableUnder
        (fun state label => FanOut.Thread.OwnIds (fun _ => 0) state.1 label) (state, ledger) ∧
      (ledger.delivered 0).map Frame.seq = [0, 0] ∧ ¬ Wire.Increasing (ledger.delivered 0) := by
  rcases FanOut.Thread.waiting_first.round with ⟨held, waiting, contents⟩
  rcases waiting.pop (by rw [contents]; rfl) with ⟨taken, waiting⟩
  rcases waiting.rounds (2 ^ 64 - 1) with ⟨around, waiting⟩
  rcases waiting.round with ⟨again, waiting, newer⟩
  rcases waiting.pop (by rw [newer]; rfl) with ⟨⟨state, ledger⟩, waiting⟩
  have delivered := waiting.delivered
  rw [contents, newer] at delivered
  have sequences : (ledger.delivered 0).map Frame.seq = [0, 0] := by
    rw [delivered]
    decide
  refine ⟨state, ledger, waiting.reached, sequences, ?_⟩
  intro increasing
  have rising : ((ledger.delivered 0).map Frame.seq).Pairwise
      fun earlier later => earlier.toNat < later.toNat := List.pairwise_map.mpr increasing
  rw [sequences] at rising
  revert rising
  decide

end TelemetryGateway
