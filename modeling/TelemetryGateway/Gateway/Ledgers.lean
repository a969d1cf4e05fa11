import TelemetryGateway.Consumer.Reassembly
import TelemetryGateway.Egress.Reports
import TelemetryGateway.Gateway.Holes

/-! # Three ledgers of one loss

The queue counts what it overwrites, the egress thread what `note_gap` finds
missing, and the consumer what the markers tell it. None of them sees the
others' count. -/

namespace TelemetryGateway.QueueTopology

namespace State

/-- The counter of the fan-out thread does not go around. -/
def Unwrapped (state : State sinks) : Label sinks → Prop
  | .fanOut (.drain batch) => state.fanOut.nextSeq.toNat + batch.length < 2 ^ 64
  | _ => True

instance (state : State sinks) (label : Label sinks) : Decidable (state.Unwrapped label) :=
  match label with
  | .fanOut (.drain _) => inferInstanceAs (Decidable (_ < _))
  | .fanOut .push => .isTrue trivial
  | .fanOut (.pop _ _) => .isTrue trivial
  | .fanOut (.close _) => .isTrue trivial
  | .pop => .isTrue trivial
  | .closed => .isTrue trivial
  | .egress _ => .isTrue trivial

/-- A thread that does not linger pops once for each batch, so nothing is lost
inside one. -/
theorem whole_of_unwrapped {sink : Fin sinks} {state after : State sinks}
    (prompt : state.egress.phase.lingers = false) {label : Label sinks}
    (unwrapped : state.Unwrapped label) (stepped : state.step sink label = some after) :
    state.BatchesWhole sink label := by
  cases label with
  | pop =>
      intro filled
      rcases Option.bind_eq_some_iff.mp stepped with ⟨size, requested, _⟩
      exact absurd (Egress.State.batch_of_requested prompt requested) filled
  | fanOut label =>
      cases label with
      | drain batch => exact unwrapped
      | push => trivial
      | pop other size => trivial
      | close other => trivial
  | closed => trivial
  | egress event => trivial

theorem feeding_of_unwrapped {tuning : Tuning} {sink : Fin sinks} {state : State sinks}
    (quick : tuning.lingerUs = 0)
    (reached : (system sink tuning).ReachableUnder Unwrapped state) :
    state.Feeding tuning sink := by
  have whole : (system sink tuning).ReachableUnder (BatchesWhole sink) state := by
    induction reached with
    | start initial => exact .start initial
    | next before unwrapped stepped induction =>
        have prompt := Egress.State.prompt_of_reachable quick
          (feeding_of_reachable induction).reached
        exact .next induction (whole_of_unwrapped prompt.2 unwrapped stepped) stepped
  exact feeding_of_reachable whole

end State

/-! ## The queue's ledger -/

def noteFirst (atFirst : Option Nat) (_ : State sinks) (_ : Label sinks) (after : State sinks) :
    Option Nat :=
  atFirst.or (if after.egress.history.popped = [] then none else some after.lossesAtPop)

/-- The frames handed out and those dropped in between fill the sequences from
the first one on. -/
structure Spans (state : State sinks) (atFirst : Option Nat) : Prop where
  nothing : state.egress.history.popped = [] → atFirst = none
  spans : ∀ first last, state.egress.history.popped.head? = some first →
    state.egress.history.popped.getLast? = some last →
    ∃ dropped, atFirst = some dropped ∧ dropped ≤ state.lossesAtPop ∧
      last.seq.toNat + 1 + dropped =
        first.seq.toNat + state.egress.history.popped.length + state.lossesAtPop

theorem Spans.keep {state after : State sinks} {atFirst : Option Nat} (spans : Spans state atFirst)
    (popped : after.egress.history.popped = state.egress.history.popped)
    (dropped : after.lossesAtPop = state.lossesAtPop) (label : Label sinks) :
    Spans after (noteFirst atFirst state label after) := by
  have noted : noteFirst atFirst state label after = atFirst := by
    rw [noteFirst, popped]
    cases empty : state.egress.history.popped with
    | nil =>
        rw [spans.nothing empty]
        rfl
    | cons first rest =>
        have isLast := List.getLast?_eq_some_getLast (List.cons_ne_nil first rest)
        rcases spans.spans first _ (by rw [empty]; rfl) (by rw [empty]; exact isLast) with
          ⟨dropped, known, _⟩
        rw [known]
        rfl
  rw [noted]
  refine ⟨?_, ?_⟩
  · rw [popped]
    exact spans.nothing
  · rw [popped, dropped]
    exact spans.spans

theorem Spans.pop {tuning : Tuning} {sink : Fin sinks} {state after : State sinks}
    {atFirst : Option Nat} (spans : Spans state atFirst) (feeding : state.Feeding tuning sink)
    {size : Nat} (stepped : state.pop sink size = some after) :
    Spans after (noteFirst atFirst state .pop after) := by
  rcases feeding.window with ⟨start, holds, latest, _⟩
  have numbered := (holds.pop size).1
  have unchanged := ((state.fanOut.queues sink).popBatch_spec size).2.2.1
  have counted := feeding.counted
  rcases Option.map_eq_some_iff.mp stepped with ⟨egress, popped, rfl⟩
  have history := Egress.State.popped_step popped
  rw [Egress.Event.frames] at history
  generalize ((state.fanOut.queues sink).popBatch size).2 = frames at numbered history ⊢
  cases frames with
  | nil =>
      apply spans.keep
      · rw [history, List.append_nil]
      · rfl
  | cons front rest =>
      have start_eq := numbered.first rfl
      have isFinal := List.getLast?_eq_some_getLast (List.cons_ne_nil front rest)
      have final_eq := numbered.last isFinal
      rw [List.length_cons] at final_eq
      refine ⟨?_, ?_⟩
      · intro empty
        dsimp only at empty
        rw [history] at empty
        exact absurd empty (List.append_ne_nil_of_right_ne_nil _ (List.cons_ne_nil _ _))
      · intro first last isFirst isLast
        dsimp only at isFirst isLast ⊢
        rw [history] at isFirst isLast ⊢
        rw [List.getLast?_append, isFinal] at isLast
        cases isLast
        rw [noteFirst, history, if_neg (List.cons_ne_nil _ _), unchanged,
          if_neg (List.append_ne_nil_of_right_ne_nil _ (List.cons_ne_nil _ _)),
          List.length_append, List.length_cons]
        cases earlier : state.egress.history.popped with
        | nil =>
            -- the first frames of all
            rw [earlier] at isFirst
            cases isFirst
            rw [spans.nothing earlier]
            refine ⟨_, rfl, Nat.le_refl _, ?_⟩
            dsimp only [List.length_nil]
            omega
        | cons oldest others =>
            rw [earlier] at isFirst
            cases isFirst
            have isLatest : state.egress.history.popped.getLast? = some
                ((first :: others).getLast (List.cons_ne_nil _ _)) := by
              rw [earlier]
              exact List.getLast?_eq_some_getLast _
            rcases spans.spans first _ (by rw [earlier]; rfl) isLatest with
              ⟨dropped, known, below, span⟩
            have position := latest _ isLatest
            rw [known]
            rw [earlier] at span
            refine ⟨dropped, rfl, Nat.le_trans below counted, ?_⟩
            omega

theorem Spans.step {tuning : Tuning} {sink : Fin sinks} {state after : State sinks}
    {atFirst : Option Nat} (spans : Spans state atFirst) (feeding : state.Feeding tuning sink)
    {label : Label sinks} (stepped : state.step sink label = some after) :
    Spans after (noteFirst atFirst state label after) := by
  have others {event : Egress.Event} {egress : Egress.State} (notPop : ∀ frames, event ≠ .pop frames)
      (moved : state.egress.step event = some egress) :
      egress.history.popped = state.egress.history.popped := by
    rw [Egress.State.popped_step moved, Egress.Event.frames_of_not_pop notPop, List.append_nil]
  cases State.step_cases stepped with
  | fanOut label next separate moved => apply spans.keep <;> rfl
  | pop size requested popped => exact spans.pop feeding popped
  | closed answer next answered =>
      apply spans.keep
      · refine others ?_ answered
        exact fun _ impossible => nomatch impossible
      · rfl
  | egress event next own moved =>
      apply spans.keep
      · exact others own moved
      · rfl

def observed (sink : Fin sinks) (tuning : Tuning) :
    System (State sinks × Option Nat) (Label sinks) :=
  (system sink tuning).observed none noteFirst

theorem spans_of_reachable {tuning : Tuning} {sink : Fin sinks} {run : State sinks × Option Nat}
    (quick : tuning.lingerUs = 0)
    (reached : (observed sink tuning).ReachableUnder
      (fun run label => run.1.Unwrapped label) run) : Spans run.1 run.2 := by
  refine reached.invariant (fun run => Spans run.1 run.2) ?_ ?_
  · rintro ⟨state, atFirst⟩ ⟨⟨capacity, listenFd, stopFd, egress, created, rfl⟩, rfl⟩
    exact ⟨fun _ => rfl, fun _ _ impossible => nomatch impossible⟩
  · rintro ⟨state, atFirst⟩ label after before _ spans stepped
    rcases Option.map_eq_some_iff.mp stepped with ⟨moved, step, rfl⟩
    exact spans.step (State.feeding_of_unwrapped quick before.unobserved) step

/-! ## All three agree -/

def tracker (state : State sinks) : GapTracker :=
  ({} : GapTracker).observeAll state.egress.history.current.messages.flatten

/-- However its reads are cut, a consumer that reads to the end gets exactly
the messages of the connection, provided its frames are ones the codec carries. -/
def Received (state : State sinks) : Prop :=
  (∀ frame ∈ state.egress.history.popped, FrameStream.Encodable [frame]) →
  ∀ calls, state.egress.history.current.messages.length + 1 ≤ calls.countP FrameStream.patient →
    FrameStream.observed
        (FrameStream.connected.results state.egress.history.current.written calls) =
      state.egress.history.current.messages.map .ok ++ [.closed]

/-- `first` is the first frame sent, and `dropped` what the queue had dropped
when it was popped. The queue's own counter has not gone around, so it says
`lossesAtPop` at the last pop and said `dropped` at the first. -/
structure LedgersAgree (state : State sinks) (first : Frame) (dropped : Nat) : Prop where
  silentJumps : (tracker state).stats.silentJumps = 0
  reach : (tracker state).stats.frames.toNat + (tracker state).stats.reportedLost.toNat =
    state.egress.egress.nextSeq.toNat - first.seq.toNat
  markers : (tracker state).stats.markers = state.egress.egress.counters.gapsSent
  reportedLost : (tracker state).stats.reportedLost = state.egress.egress.counters.framesLost
  frames : (tracker state).stats.frames = state.egress.egress.counters.framesSent
  queue : dropped + state.egress.egress.counters.framesLost.toNat = state.lossesAtPop
  inRange : state.lossesAtPop < 2 ^ 64

theorem received_of_reachable {tuning : Tuning} {state : State sinks} {guard}
    (reached : (Egress.system tuning).ReachableUnder guard state.egress)
    (sent : state.egress.phase = .waitForClient) : Received state := by
  intro valid calls enough
  have framed := Egress.State.framed_of_reachable reached
  have carrying := Egress.State.carrying_of_reachable reached
  have complete := framed.current
  rw [(framed.quiet (by rw [sent]; rfl)).1, List.drop_nil, List.append_nil] at complete
  rw [complete]
  refine FrameStream.results_of_messages ?_ enough
  intro message member
  refine ⟨framed.sizes _ (List.mem_append_right _ (List.mem_singleton.mpr rfl)) message member, ?_⟩
  intro record found
  have given : record ∈ state.egress.records :=
    List.mem_append_left _ (List.mem_flatten.mpr ⟨message, member, found⟩)
  rcases carrying.records record given with popped | ⟨first, missing, reason, now, rfl⟩ |
    ⟨nonce, now, rfl⟩
  · exact (valid record popped).2 record (List.mem_singleton.mpr rfl)
  · exact (Wire.control_acceptable first missing now 0 0 reason).1
  · exact (Wire.control_acceptable 0 0 0 nonce now .kConsumerOverrun).2

theorem agree_of_spans {tuning : Tuning} {sink : Fin sinks} {state : State sinks}
    {atFirst : Option Nat} (feeding : state.Feeding tuning sink) (spans : Spans state atFirst)
    (connection : state.egress.history.past = []) (sent : state.egress.phase = .waitForClient)
    {first : Frame} (isFirst : state.egress.history.popped.head? = some first) :
    ∃ dropped, atFirst = some dropped ∧ LedgersAgree state first dropped := by
  have continuing := Egress.State.continuing_of_reachable feeding.reached
  have tallied := Egress.State.tallied_of_reachable feeding.reached connection
  have batch : state.egress.phase.batch = [] := by
    rw [sent]
    rfl
  have size : state.egress.noted = state.egress.history.popped.length := by
    rw [Egress.State.noted, batch]
    rfl
  have known : state.egress.egress.haveSeq = true := by
    by_contra unknown
    have nothing := (tallied.unknown (Bool.not_eq_true _ ▸ unknown)).1
    rw [size] at nothing
    rw [List.eq_nil_of_length_eq_zero nothing] at isFirst
    cases isFirst
  rcases tallied.known known with ⟨oldest, isOldest, position⟩
  rw [isFirst] at isOldest
  cases isOldest
  rcases continuing.numbered.noted with ⟨all, popped, latest⟩
  rcases latest known with ⟨last, isLast, next⟩
  rw [batch, List.append_nil] at popped
  rw [← popped] at isLast
  rcases spans.spans first last isFirst isLast with ⟨dropped, atPop, below, span⟩
  rcases feeding.window with ⟨start, _, latestPopped, gone⟩
  have behind := latestPopped last isLast
  -- every count is at most a sequence, and so it fits its 64 bits
  have bound : state.egress.egress.nextSeq.toNat < UInt64.size :=
    state.egress.egress.nextSeq.toNat_lt
  have lastBound : last.seq.toNat < 2 ^ 64 := last.seq.toNat_lt
  have some : 0 < state.egress.history.popped.length :=
    List.length_pos_of_mem (List.mem_of_mem_head? isFirst)
  have given : state.egress.records = state.egress.history.current.messages.flatten := by
    rw [Egress.State.records, sent]
    exact List.append_nil _
  have totals := tallied.totals
  rw [given] at totals
  have frames : (tracker state).stats.frames = UInt64.ofNat state.egress.noted :=
    congrArg (fun totals => totals.frames) totals
  have markers : (tracker state).stats.markers = state.egress.egress.counters.gapsSent :=
    congrArg (fun totals => totals.markers) totals
  have reportedLost : (tracker state).stats.reportedLost =
      state.egress.egress.counters.framesLost :=
    congrArg (fun totals => totals.reportedLost) totals
  have framesSent : state.egress.egress.counters.framesSent = UInt64.ofNat state.egress.noted := by
    have counted := tallied.counted
    rw [sent] at counted
    exact (UInt64.add_zero _).symm.trans counted
  refine ⟨dropped, atPop, ?_, ?_, markers, reportedLost, frames.trans framesSent.symm, ?_, ?_⟩
  · rcases continuing.current with ⟨expect, followed, _⟩
    rw [sent] at followed
    change Expect.anything.follow (state.egress.history.current.items ++ []) = _ at followed
    rw [List.append_nil] at followed
    exact GapTracker.silentJumps_of_follow followed
  · rw [frames, reportedLost, UInt64.toNat_ofNat_of_lt' (by omega)]
    omega
  · omega
  · omega

theorem ledgers_agree {tuning : Tuning} (quick : tuning.lingerUs = 0) {sink : Fin sinks}
    {state : State sinks} {atFirst : Option Nat}
    (reached : (observed sink tuning).ReachableUnder (fun run label => run.1.Unwrapped label)
      (state, atFirst))
    (connection : state.egress.history.past = []) (sent : state.egress.phase = .waitForClient)
    {first : Frame} (isFirst : state.egress.history.popped.head? = some first) :
    ∃ dropped, atFirst = some dropped ∧ LedgersAgree state first dropped ∧ Received state := by
  have feeding : state.Feeding tuning sink :=
    State.feeding_of_unwrapped quick reached.unobserved
  rcases agree_of_spans feeding (spans_of_reachable quick reached) connection sent isFirst with
    ⟨dropped, atPop, agree⟩
  exact ⟨dropped, atPop, agree, received_of_reachable feeding.reached sent⟩

def finishBatch (bytes : Nat) : List Egress.Event :=
  (sendBatch bytes).take 7

/-- The queue overflows between two batches. -/
def reportOverflow : List (Label 1) :=
  connect.map .egress ++ ingestQueue 1 ++ [.pop] ++ (sendBatch 56).map .egress ++ ingestQueue 3 ++
    [.pop] ++ (finishBatch 136).map .egress

theorem ledgers_agree_reportOverflow :
    ∃ state first, (observed 0 {}).run (.initial (fun _ => 2) { tuning := {} }, none)
        reportOverflow = some (state, some 0) ∧
      (tracker state).stats.frames = 3 ∧ (tracker state).stats.reportedLost = 1 ∧
      LedgersAgree state first 0 := by
  have final : ((observed 0 {}).runUnder (fun run label => run.1.Unwrapped label)
      (.initial (fun _ => 2) { tuning := {} }, none) reportOverflow).map
      (fun run => ((run.1.egress.history.past, run.1.egress.phase,
        run.1.egress.history.popped.head?), (tracker run.1).stats.frames,
        (tracker run.1).stats.reportedLost, run.2)) =
      some (([], .waitForClient, some Frame.zero), 3, 1, some 0) := by
    decide +kernel
  rcases Option.map_eq_some_iff.mp final with ⟨⟨state, atFirst⟩, ran, facts⟩
  simp only [Prod.mk.injEq] at facts
  rcases facts with ⟨⟨connection, sent, isFirst⟩, frames, lost, rfl⟩
  have initial : (observed (0 : Fin 1) {}).initial
      (.initial (fun _ => 2) { tuning := {} }, none) := ⟨⟨_, 3, 4, _, rfl, rfl⟩, rfl⟩
  rcases ledgers_agree rfl (.runUnder (.start initial) _ ran) connection sent isFirst with
    ⟨dropped, same, agree, _⟩
  cases same
  exact ⟨state, Frame.zero, System.run_of_runUnder ran, frames, lost, agree⟩

/-! ## Around the end of the counter -/

theorem run_egress {sink : Fin sinks} {tuning : Tuning} {state : State sinks}
    {events : List Egress.Event} (own : ∀ event ∈ events, event.fromFeed = false)
    {after : Egress.State} (ran : (Egress.system tuning).run state.egress events = some after) :
    (system sink tuning).run state (events.map .egress) = some { state with egress := after } := by
  induction events generalizing state with
  | nil =>
      cases ran
      rfl
  | cons event rest induction =>
      rcases Option.bind_eq_some_iff.mp ran with ⟨middle, stepped, remaining⟩
      have moved : (system sink tuning).step state (.egress event) =
          some { state with egress := middle } := by
        change (if event.fromFeed then none else (state.egress.step event).map _) = _
        rw [own event List.mem_cons_self, if_neg Bool.false_ne_true,
          show state.egress.step event = some middle from stepped]
        rfl
      rw [List.map_cons, System.run, moved]
      exact induction (fun other member => own other (List.mem_cons_of_mem _ member)) remaining

/-- The fan-out thread is about to poll, in front of a sink that holds at most
one frame. -/
structure Waiting (next : UInt64) (held : List Frame) (egress : Egress.State) (state : State 1) :
    Prop where
  reached : (system 0 {}).Reachable state
  phase : state.fanOut.phase = .poll
  nextSeq : state.fanOut.nextSeq = next
  isOpen : (state.fanOut.queues 0).closed = false
  capacity : (state.fanOut.queues 0).capacity = 1
  contents : (state.fanOut.queues 0).contents = held
  egress : state.egress = egress

namespace Waiting

theorem start : Waiting 0 [] (.initial { tuning := {} })
    (.initial (fun _ => 1) { tuning := {} }) where
  reached := .start ⟨_, 3, 4, _, rfl, rfl⟩
  phase := rfl
  nextSeq := rfl
  isOpen := rfl
  capacity := rfl
  contents := rfl
  egress := rfl

theorem ingest {next : UInt64} {held : List Frame} {egress : Egress.State} {state : State 1}
    (waiting : Waiting next held egress state) :
    ∃ after, Waiting (next + 1) (FanOut.stamp next [blank]) egress after := by
  rcases state with ⟨⟨nextSeq, phase, queues⟩, thread, lossesAtPop⟩
  rcases waiting with ⟨reached, polling, rfl, isOpen, capacity, contents, rfl⟩
  cases polling
  have ran := reached.execute (ingestQueue 1) rfl
  rcases BoundedQueue.pushBatch_open isOpen (FanOut.stamp nextSeq [blank]) with
    ⟨kept, _, stillOpen⟩
  have size := (BoundedQueue.pushBatch_counts isOpen (FanOut.stamp nextSeq [blank])).2.2.2
  refine ⟨_, ran, rfl, rfl, stillOpen, size.trans capacity, kept.trans ?_, rfl⟩
  dsimp only at capacity
  rw [capacity, List.rtake, List.length_append]
  exact List.drop_left' rfl

theorem ingestMany {next : UInt64} {held : List Frame} {egress : Egress.State} {state : State 1}
    (waiting : Waiting next held egress state) (count : Nat) :
    ∃ held after, Waiting (next + UInt64.ofNat count) held egress after := by
  induction count with
  | zero =>
      have same : next + UInt64.ofNat 0 = next := UInt64.add_zero next
      rw [same]
      exact ⟨held, state, waiting⟩
  | succ count induction =>
      rcases induction with ⟨before, earlier, waiting⟩
      rcases waiting.ingest with ⟨after, later⟩
      rw [UInt64.ofNat_add, ← UInt64.add_assoc]
      exact ⟨_, after, later⟩

theorem run {next : UInt64} {held : List Frame} {egress : Egress.State} {state : State 1}
    (waiting : Waiting next held egress state) {events : List Egress.Event}
    (own : ∀ event ∈ events, event.fromFeed = false) {after : Egress.State}
    (ran : (Egress.system {}).run egress events = some after) :
    Waiting next held after { state with egress := after } := by
  rcases waiting with ⟨reached, phase, nextSeq, isOpen, capacity, contents, rfl⟩
  exact ⟨reached.execute _ (run_egress own ran), phase, nextSeq, isOpen, capacity, contents, rfl⟩

theorem pop {next : UInt64} {frame : Frame} {egress after : Egress.State} {state : State 1}
    (waiting : Waiting next [frame] egress state) {size : Nat}
    (requested : egress.requested = some (size + 1))
    (stepped : egress.step (.pop [frame]) = some after) :
    ∃ state, Waiting next [] after state := by
  rcases waiting with ⟨reached, phase, nextSeq, isOpen, capacity, contents, rfl⟩
  rcases BoundedQueue.popBatch_spec (state.fanOut.queues 0) (size + 1) with
    ⟨taken, rest, _, closed⟩
  have kept := (BoundedQueue.popBatch_counts (state.fanOut.queues 0) (size + 1)).2.2
  rw [contents, List.take_succ_cons, List.take_nil] at taken
  rw [contents, List.drop_succ_cons, List.drop_nil] at rest
  have popped : (system 0 {}).step state .pop = some
      { fanOut := state.fanOut.setQueue 0 ((state.fanOut.queues 0).popBatch (size + 1)).1
        egress := after
        lossesAtPop := ((state.fanOut.queues 0).popBatch (size + 1)).1.losses } := by
    change (state.egress.requested.bind fun size => state.pop 0 size) = _
    rw [requested, Option.bind_some, State.pop, taken, stepped]
    rfl
  exact ⟨_, reached.next trivial popped, phase, nextSeq, closed.trans isOpen,
    kept.trans capacity, rest, rfl⟩

end Waiting

def lastBut (k : UInt64) : Frame :=
  { Frame.zero with seq := 0 - k }

/-- The first frame a consumer gets has the last sequence but one. The last one
is overwritten, and the next frame begins again at 0: nothing is behind
`next_seq_`, so no marker mentions the loss. -/
theorem loss_unreported_at_wrap :
    ∃ state : State 1, (system 0 {}).Reachable state ∧ state.egress.history.past = [] ∧
      state.egress.phase = .waitForClient ∧
      state.egress.history.popped.head? = some (lastBut 2) ∧
      (tracker state).stats.frames = 2 ∧ (tracker state).stats.reportedLost = 0 ∧
      state.egress.egress.nextSeq - (lastBut 2).seq = 3 ∧
      ∀ dropped, ¬ LedgersAgree state (lastBut 2) dropped := by
  rcases Waiting.start.ingestMany (2 ^ 64 - 2) with ⟨_, _, waiting⟩
  rcases waiting.ingest with ⟨_, waiting⟩
  have newest : FanOut.stamp (0 + UInt64.ofNat (2 ^ 64 - 2)) [blank] = [lastBut 2] := by
    decide +kernel
  rw [newest] at waiting
  -- the thread alone: what it is handed, and what it makes of it
  have ready : ((Egress.system {}).run (.initial { tuning := {} }) connect).map
      Egress.State.requested = some (some 256) := by
    decide +kernel
  have readyAgain : ((Egress.system {}).run (.initial { tuning := {} })
      (connect ++ .pop [lastBut 2] :: sendBatch 56)).map Egress.State.requested =
      some (some 256) := by
    decide +kernel
  have final : ((Egress.system {}).run (.initial { tuning := {} })
      ((connect ++ .pop [lastBut 2] :: sendBatch 56) ++ .pop [Frame.zero] :: finishBatch 56)).map
      (fun thread => ((thread.history.past, thread.phase, thread.history.popped),
        ({} : GapTracker).observeAll thread.history.current.messages.flatten,
        thread.egress.nextSeq)) =
      some (([], .waitForClient, [lastBut 2, Frame.zero]),
        { stats := { frames := 2 }, next := 1, have_ := true }, 1) := by
    decide +kernel
  rcases Option.map_eq_some_iff.mp final with ⟨thread, ran, facts⟩
  rw [System.run_append] at ran
  rcases Option.bind_eq_some_iff.mp ran with ⟨idle, earlier, later⟩
  rcases Option.map_eq_some_iff.mp readyAgain with ⟨same, again, requestedAgain⟩
  cases earlier.symm.trans again
  rw [System.run_append] at earlier
  rcases Option.bind_eq_some_iff.mp earlier with ⟨connected, opened, sending⟩
  rcases Option.map_eq_some_iff.mp ready with ⟨same, connecting, requested⟩
  cases opened.symm.trans connecting
  rcases Option.bind_eq_some_iff.mp sending with ⟨filled, popped, sent⟩
  rcases Option.bind_eq_some_iff.mp later with ⟨refilled, poppedAgain, sentAgain⟩
  have waiting := waiting.run (by decide) opened
  rcases waiting.pop requested popped with ⟨_, waiting⟩
  have waiting := waiting.run (by decide) sent
  rcases waiting.ingest with ⟨_, waiting⟩
  rcases waiting.ingest with ⟨_, waiting⟩
  have around : FanOut.stamp (0 + UInt64.ofNat (2 ^ 64 - 2) + 1 + 1) [blank] = [Frame.zero] := by
    decide +kernel
  rw [around] at waiting
  rcases waiting.pop requestedAgain poppedAgain with ⟨_, waiting⟩
  have waiting := waiting.run (by decide) sentAgain
  simp only [Prod.mk.injEq] at facts
  rcases facts with ⟨⟨connection, phase, history⟩, tracked, nextSeq⟩
  refine ⟨_, waiting.reached, connection, phase, by rw [history]; rfl, ?_, ?_, ?_, ?_⟩
  · exact congrArg (fun tracker => tracker.stats.frames) tracked
  · exact congrArg (fun tracker => tracker.stats.reportedLost) tracked
  · rw [nextSeq]
    decide
  · intro dropped agree
    have reach := agree.reach
    rw [nextSeq] at reach
    change (GapTracker.observeAll _ _).stats.frames.toNat +
      (GapTracker.observeAll _ _).stats.reportedLost.toNat = _ at reach
    rw [tracked] at reach
    revert reach
    decide

end TelemetryGateway.QueueTopology
