import TelemetryGateway.Consumer.Coverage
import TelemetryGateway.Consumer.FrameStream
import TelemetryGateway.Foundation.CheckedDifference
import TelemetryGateway.Foundation.Execution
import TelemetryGateway.Measure.Percentiles

/-! # The probe

A consumer that measures. What it reports at the end is a function of the frames
it has received and of the clock readings they came with; whether it returns
success depends on the records of each connection alone. -/

namespace TelemetryGateway

namespace Probe

/-- The arguments of `main` that the loop goes by. -/
structure Config where
  reconnect : Bool := false
  measureE2e : Bool := false
  crossMachine : Bool := false
  /-- delays seen before this instant are discarded -/
  measureFrom : UInt64 := 0

def kLiveWindow : Nat := 4096

def second : UInt64 := 1000000000

structure Line where
  rate : UInt64
  total : UInt64
  lost : UInt64
  p50 : Int64

inductive Stage
  /-- no connection -/
  | away
  | reading
  /-- behind the inner loop -/
  | leaving
  | ended
  /-- a connection failed, and that was to be the end -/
  | refused
  deriving DecidableEq

/-- What the clocks say in a round: at the first frame of a connection, for the
batch, and at the end. -/
structure Clocks where
  first : UInt64
  now : UInt64
  mono : UInt64

inductive Event
  | refuse
  | connect (now : UInt64)
  | round (result : FrameStream.Result) (clocks : Clocks)
  /-- out of the inner loop: the stream has failed, or the program is to end -/
  | leave
  /-- the program is to end, and there is no connection -/
  | stop

def payloadTimestamp (frame : Frame) : UInt64 :=
  UInt64.ofNat (LittleEndian.load 8 fun index => frame.data.toList.getD index 0)

def Config.stamp (config : Config) (frame : Frame) : UInt64 :=
  if config.crossMachine then frame.tKernelNs else frame.tIngestNs

def liveP50 (live : List Int64) : Int64 :=
  (live.mergeSort (· ≤ ·)).getD (live.length / 2) 0

end Probe

/-- `lines` is history: what has been printed. -/
structure Probe where
  frames : UInt64 := 0
  batches : UInt64 := 0
  protocolErrs : UInt64 := 0
  reconnects : UInt64 := 0
  gaps : GapTracker := {}
  gwLatency : Samples Int64 := .create Samples.defaultCapacity
  timeToFirstFrame : Samples Int64 := .create (1 <<< 12)
  live : List Int64 := []
  e2eLatency : Samples Int64 := .create Samples.defaultCapacity
  nextReport : UInt64
  lastFrames : UInt64 := 0
  warmupDiscarded : UInt64 := 0
  connectedAt : UInt64 := 0
  firstFrameSeen : Bool := false
  stage : Probe.Stage := .away
  lines : List Probe.Line := []

namespace Probe

/-! ## The loops -/

def measureAge (probe : Probe) (config : Config) (now : UInt64) (frame : Frame) :
    Option (Samples Int64) :=
  if config.measureE2e then
    (checkedSub now.toInt64 (payloadTimestamp frame).toInt64).map probe.e2eLatency.add
  else some probe.e2eLatency

def measure (probe : Probe) (config : Config) (now : UInt64) (frame : Frame) : Option Probe := do
  let delay ← checkedSub now.toInt64 (config.stamp frame).toInt64
  let e2eLatency ← probe.measureAge config now frame
  return { probe with
    gwLatency := probe.gwLatency.add delay
    live := if probe.live.length < kLiveWindow then probe.live ++ [delay] else probe.live
    e2eLatency := e2eLatency }

def record (config : Config) (now : UInt64) (probe : Probe) (frame : Frame) : Option Probe :=
  if Wire.isEcho frame then some probe
  else
    let (gaps, real) := probe.gaps.observe frame
    if real then
      let probe := { probe with gaps := gaps, frames := probe.frames + 1 }
      if now < config.measureFrom then
        some { probe with warmupDiscarded := probe.warmupDiscarded + 1 }
      else probe.measure config now frame
    else some { probe with gaps := gaps }

def greet (probe : Probe) (batch : List Frame) (first : UInt64) : Probe :=
  if batch ≠ [] ∧ probe.firstFrameSeen = false then
    { probe with
      firstFrameSeen := true
      timeToFirstFrame := probe.timeToFirstFrame.add (first - probe.connectedAt).toInt64 }
  else probe

def receive (probe : Probe) (config : Config) (batch : List Frame) (clocks : Clocks) :
    Option Probe :=
  let probe := probe.greet batch clocks.first
  batch.foldlM (record config clocks.now) { probe with batches := probe.batches + 1 }

def progress (probe : Probe) (mono : UInt64) : Probe :=
  if probe.nextReport ≤ mono then
    { probe with
      nextReport := mono + second
      lines := probe.lines ++
        [{ rate := probe.frames - probe.lastFrames
           total := probe.frames
           lost := probe.gaps.totalLost
           p50 := liveP50 probe.live }]
      live := []
      lastFrames := probe.frames }
  else probe

def round (probe : Probe) (config : Config) (result : FrameStream.Result) (clocks : Clocks) :
    Option Probe :=
  match result with
  | .closed => some { probe with stage := .leaving }
  | .protocolError _ =>
      some { probe with protocolErrs := probe.protocolErrs + 1, stage := .leaving }
  | .timeout => some (probe.progress clocks.mono)
  | .ok batch => (probe.receive config batch clocks).map fun probe => probe.progress clocks.mono

def connect (probe : Probe) (now : UInt64) : Probe :=
  { probe with
    reconnects := probe.reconnects + 1
    gaps := probe.gaps.reset
    connectedAt := now
    firstFrameSeen := false
    stage := .reading }

def step (config : Config) (probe : Probe) (event : Event) : Option Probe :=
  match probe.stage, event with
  | .away, .refuse => some (if config.reconnect then probe else { probe with stage := .refused })
  | .away, .connect now => some (probe.connect now)
  | .away, .stop => some { probe with stage := .ended }
  | .reading, .round result clocks => probe.round config result clocks
  | .reading, .leave => some { probe with stage := if config.reconnect then .away else .ended }
  | .leaving, .leave => some { probe with stage := if config.reconnect then .away else .ended }
  | _, _ => none

def start (nextReport : UInt64) : Probe where
  nextReport := nextReport

def system (config : Config) (nextReport : UInt64) : System Probe Event where
  initial := fun probe => probe = start nextReport
  step := step config

def exitCode (probe : Probe) : Nat :=
  if probe.stage = .refused then 1
  else if 0 < probe.protocolErrs ∨ 0 < probe.gaps.stats.silentJumps then 1
  else 0

/-! ## What is to come of it -/

/-- A bus frame with the time its batch was seen at. -/
structure Arrival where
  now : UInt64
  frame : Frame

def arrivalsOf (batch : List Frame) (now : UInt64) : List Arrival :=
  (batch.filter fun frame => !Wire.isControl frame).map fun frame => ⟨now, frame⟩

def arrivals (events : List Event) : List Arrival :=
  events.flatMap fun
    | .round (.ok batch) clocks => arrivalsOf batch clocks.now
    | _ => []

/-- Those that are not from the time of warming up. -/
def Config.measured (config : Config) (arrivals : List Arrival) : List Arrival :=
  arrivals.filter fun arrival => config.measureFrom ≤ arrival.now

def Config.delay (config : Config) (arrival : Arrival) : Int :=
  arrival.now.toInt64.toInt - (config.stamp arrival.frame).toInt64.toInt

def Arrival.age (arrival : Arrival) : Int :=
  arrival.now.toInt64.toInt - (payloadTimestamp arrival.frame).toInt64.toInt

def Config.delays (config : Config) (arrivals : List Arrival) : List Int64 :=
  (config.measured arrivals).map fun arrival => .ofInt (config.delay arrival)

def Config.ages (config : Config) (arrivals : List Arrival) : List Int64 :=
  if config.measureE2e then (config.measured arrivals).map fun arrival => .ofInt arrival.age
  else []

def Config.InRange (config : Config) (arrival : Arrival) : Prop :=
  IsInt64 (config.delay arrival) ∧ (config.measureE2e = true → IsInt64 arrival.age)

structure Connection where
  since : UInt64
  rounds : List (FrameStream.Result × Clocks) := []

namespace Connection

def results (connection : Connection) : List FrameStream.Result :=
  connection.rounds.map Prod.fst

def add (connection : Connection) (result : FrameStream.Result) (clocks : Clocks) : Connection :=
  { connection with rounds := connection.rounds ++ [(result, clocks)] }

/-- The records the tracker gets to see. -/
def records (connection : Connection) : List Frame :=
  connection.results.flatMap fun
    | .ok batch => batch.filter fun frame => !Wire.isEcho frame
    | _ => []

def brings : FrameStream.Result → Bool
  | .ok batch => !batch.isEmpty
  | _ => false

def wait (connection : Connection) : Option Int64 :=
  (connection.rounds.find? fun round => brings round.1).map fun round =>
    (round.2.first - connection.since).toInt64

end Connection

/-- One connection after the other. -/
def connections (events : List Event) : List Connection :=
  events.foldl
    (fun connections event =>
      match event with
      | .connect now => connections ++ [{ since := now }]
      | .round result clocks =>
          connections.dropLast ++
            (connections.getLast?.map fun last => last.add result clocks).toList
      | _ => connections) []

def trackerOf (connections : List Connection) : GapTracker :=
  connections.foldl (fun tracker connection => tracker.reset.observeAll connection.records) {}

def resultsOf (connections : List Connection) : List FrameStream.Result :=
  connections.flatMap Connection.results

def isFault : FrameStream.Result → Bool
  | .protocolError _ => true
  | _ => false

def isBatch : FrameStream.Result → Bool
  | .ok _ => true
  | _ => false

def reported (lines : List Line) : UInt64 :=
  lines.foldl (fun sum line => sum + line.rate) 0

structure Tally (config : Config) (probe : Probe) (done : List Arrival) (tracker : GapTracker) :
    Prop where
  frames : probe.frames = UInt64.ofNat done.length
  inRange : ∀ arrival ∈ config.measured done, config.InRange arrival
  gwLatency : probe.gwLatency =
    (Samples.create Samples.defaultCapacity).addAll (config.delays done)
  e2eLatency : probe.e2eLatency =
    (Samples.create Samples.defaultCapacity).addAll (config.ages done)
  warmupDiscarded :
    probe.warmupDiscarded + UInt64.ofNat (config.measured done).length = probe.frames
  live : ∃ earlier since, config.delays done = earlier ++ since ∧
    probe.live = since.take kLiveWindow
  gaps : probe.gaps = tracker

/-- What is reported is what was received. -/
structure Accounts (config : Config) (probe : Probe) (events : List Event) : Prop
    extends Tally config probe (arrivals events) (trackerOf (connections events)) where
  lines : reported probe.lines = probe.lastFrames
  reconnects : probe.reconnects = UInt64.ofNat (connections events).length
  timeToFirstFrame : probe.timeToFirstFrame =
    (Samples.create (1 <<< 12)).addAll ((connections events).filterMap Connection.wait)
  batches : probe.batches = UInt64.ofNat ((resultsOf (connections events)).countP isBatch)
  protocolErrs : probe.protocolErrs = UInt64.ofNat ((resultsOf (connections events)).countP isFault)

/-! ## One batch -/

section

variable {config : Config} {probe : Probe} {done : List Arrival} {tracker : GapTracker}

theorem Tally.keep (tally : Tally config probe done tracker) {nextReport lastFrames batches
    protocolErrs reconnects connectedAt : UInt64} {timeToFirstFrame : Samples Int64}
    {firstFrameSeen : Bool} {stage : Stage} {lines : List Line} :
    Tally config
      { probe with
        nextReport, lastFrames, batches, protocolErrs, reconnects, connectedAt
        timeToFirstFrame, firstFrameSeen, stage, lines } done tracker :=
  ⟨tally.frames, tally.inRange, tally.gwLatency, tally.e2eLatency, tally.warmupDiscarded,
    tally.live, tally.gaps⟩

theorem Tally.watch (tally : Tally config probe done tracker) (next : GapTracker) :
    Tally config { probe with gaps := next } done next :=
  ⟨tally.frames, tally.inRange, tally.gwLatency, tally.e2eLatency, tally.warmupDiscarded,
    tally.live, rfl⟩

theorem take_concat_of_room {samples : List Int64} {sample : Int64} :
    (if (samples.take kLiveWindow).length < kLiveWindow then samples.take kLiveWindow ++ [sample]
      else samples.take kLiveWindow) = (samples ++ [sample]).take kLiveWindow := by
  rw [List.length_take]
  split
  · rename_i room
    have few : samples.length < kLiveWindow := by omega
    rw [List.take_of_length_le (Nat.le_of_lt few), List.take_of_length_le]
    rw [List.length_append, List.length_singleton]
    exact few
  · rename_i full
    rw [List.take_append_of_le_length (by omega)]

theorem measured_concat (arrival : Arrival) : config.measured (done ++ [arrival]) =
    config.measured done ++ if config.measureFrom ≤ arrival.now then [arrival] else [] := by
  unfold Config.measured
  rw [List.filter_append]
  by_cases late : config.measureFrom ≤ arrival.now <;> simp [late]

theorem length_concat (arrival : Arrival) :
    UInt64.ofNat (done ++ [arrival]).length = UInt64.ofNat done.length + 1 := by
  rw [List.length_append, List.length_singleton, UInt64.ofNat_add]
  rfl

theorem delays_concat (arrival : Arrival) : config.delays (done ++ [arrival]) =
    config.delays done ++
      if config.measureFrom ≤ arrival.now then [.ofInt (config.delay arrival)] else [] := by
  rw [Config.delays, measured_concat, List.map_append]
  split <;> rfl

theorem ages_concat (arrival : Arrival) : config.ages (done ++ [arrival]) =
    config.ages done ++
      if config.measureE2e = true ∧ config.measureFrom ≤ arrival.now then [.ofInt arrival.age]
      else [] := by
  unfold Config.ages
  rw [measured_concat, List.map_append]
  cases config.measureE2e with
  | false => rfl
  | true =>
      simp only [if_true, true_and]
      split <;> rfl

theorem measure_eq_some {now : UInt64} {frame : Frame} {after : Probe}
    (measured : probe.measure config now frame = some after) :
    config.InRange ⟨now, frame⟩ ∧
      after = { probe with
        gwLatency := probe.gwLatency.add (.ofInt (config.delay ⟨now, frame⟩))
        live :=
          if probe.live.length < kLiveWindow then
            probe.live ++ [.ofInt (config.delay ⟨now, frame⟩)]
          else probe.live
        e2eLatency :=
          if config.measureE2e then probe.e2eLatency.add (.ofInt (Arrival.age ⟨now, frame⟩))
          else probe.e2eLatency } := by
  rcases Option.bind_eq_some_iff.mp measured with ⟨delay, first, rest⟩
  rcases checkedSub_eq_some.mp first with ⟨fits, rfl⟩
  rcases Option.bind_eq_some_iff.mp rest with ⟨e2eLatency, second, same⟩
  cases same
  unfold Config.InRange
  unfold measureAge at second
  cases wanted : config.measureE2e with
  | false =>
      rw [wanted] at second
      cases second
      exact ⟨⟨fits, fun impossible => nomatch impossible⟩, rfl⟩
  | true =>
      rw [wanted] at second
      rcases Option.map_eq_some_iff.mp second with ⟨age, found, rfl⟩
      rcases checkedSub_eq_some.mp found with ⟨old, rfl⟩
      exact ⟨⟨fits, fun _ => old⟩, rfl⟩

theorem Tally.discard (tally : Tally config probe done tracker) {now : UInt64}
    (early : now < config.measureFrom) (frame : Frame) (next : GapTracker) :
    Tally config
      { probe with
        gaps := next
        frames := probe.frames + 1
        warmupDiscarded := probe.warmupDiscarded + 1 }
      (done ++ [⟨now, frame⟩]) next := by
  have unmeasured := UInt64.not_le.mpr early
  have none : config.measured (done ++ [⟨now, frame⟩]) = config.measured done := by
    rw [measured_concat, if_neg unmeasured, List.append_nil]
  have delays : config.delays (done ++ [⟨now, frame⟩]) = config.delays done := by
    rw [delays_concat, if_neg unmeasured, List.append_nil]
  have ages : config.ages (done ++ [⟨now, frame⟩]) = config.ages done := by
    rw [ages_concat, if_neg fun both => unmeasured both.2, List.append_nil]
  constructor
  · rw [length_concat, ← tally.frames]
  · rw [none]
    exact tally.inRange
  · rw [delays]
    exact tally.gwLatency
  · rw [ages]
    exact tally.e2eLatency
  · rw [none, ← tally.warmupDiscarded, UInt64.add_assoc, UInt64.add_comm 1, ← UInt64.add_assoc]
  · rw [delays]
    exact tally.live
  · rfl

theorem Tally.measure (tally : Tally config probe done tracker) {now : UInt64} {frame : Frame}
    (late : config.measureFrom ≤ now) {next : GapTracker} {after : Probe}
    (measured : { probe with gaps := next, frames := probe.frames + 1 }.measure config now frame =
      some after) :
    Tally config after (done ++ [⟨now, frame⟩]) next := by
  rcases tally with
    ⟨frames, inRange, gwLatency, e2eLatency, warmupDiscarded, ⟨earlier, since, all, live⟩, _⟩
  rcases measure_eq_some measured with ⟨fits, rfl⟩
  have one : config.measured (done ++ [⟨now, frame⟩]) =
      config.measured done ++ [⟨now, frame⟩] := by
    rw [measured_concat, if_pos late]
  have delays : config.delays (done ++ [⟨now, frame⟩]) =
      config.delays done ++ [.ofInt (config.delay ⟨now, frame⟩)] := by
    rw [delays_concat, if_pos late]
  constructor
  · rw [length_concat, ← frames]
  · rw [one]
    intro arrival member
    rcases List.mem_append.mp member with old | new
    · exact inRange arrival old
    · rw [List.mem_singleton.mp new]
      exact fits
  · rw [delays, Samples.addAll_concat, ← gwLatency]
  · rw [ages_concat, e2eLatency]
    dsimp only
    cases config.measureE2e with
    | false =>
        rw [if_neg Bool.false_ne_true, if_neg fun both => Bool.false_ne_true both.1,
          List.append_nil]
    | true => rw [if_pos rfl, if_pos ⟨rfl, late⟩, Samples.addAll_concat]
  · rw [one, length_concat, ← UInt64.add_assoc, warmupDiscarded]
  · refine ⟨earlier, since ++ [.ofInt (config.delay ⟨now, frame⟩)], ?_, ?_⟩
    · rw [delays, all, List.append_assoc]
    · dsimp only
      rw [live]
      exact take_concat_of_room
  · rfl

/-- A bus frame is counted, and its delays are kept unless it came too early. -/
theorem Tally.bus (tally : Tally config probe done tracker) {now : UInt64} {frame : Frame}
    {next : GapTracker} {after : Probe}
    (counted :
      (let probe := { probe with gaps := next, frames := probe.frames + 1 }
      if now < config.measureFrom then
        some { probe with warmupDiscarded := probe.warmupDiscarded + 1 }
      else probe.measure config now frame) = some after) :
    Tally config after (done ++ [⟨now, frame⟩]) next := by
  dsimp only at counted
  split at counted
  · rename_i early
    cases counted
    exact tally.discard early frame next
  · rename_i late
    exact tally.measure (UInt64.not_lt.mp late) counted

theorem arrivalsOf_singleton (frame : Frame) (now : UInt64) :
    arrivalsOf [frame] now = if Wire.isControl frame then [] else [⟨now, frame⟩] := by
  rw [arrivalsOf, List.filter_singleton]
  cases Wire.isControl frame <;> rfl

theorem observe_real (tracker : GapTracker) {frame : Frame} (record : Wire.isEcho frame = false) :
    (tracker.observe frame).2 = !Wire.isControl frame := by
  unfold GapTracker.observe
  rw [record, if_neg Bool.false_ne_true]
  cases gap : Wire.isGap frame with
  | true =>
      have control : Wire.isControl frame = true := by
        by_contra bus
        rw [(Wire.isControl_eq_false.mp (Bool.eq_false_iff.mpr bus)).1] at gap
        cases gap
      rw [if_pos rfl, control]
      rfl
  | false =>
      rw [if_neg Bool.false_ne_true, Wire.isControl_eq_false.mpr ⟨gap, record⟩]
      rfl

theorem Tally.record (tally : Tally config probe done tracker) {now : UInt64} {frame : Frame}
    {after : Probe} (recorded : Probe.record config now probe frame = some after) :
    Tally config after (done ++ arrivalsOf [frame] now)
      (if Wire.isEcho frame then tracker else (tracker.observe frame).1) := by
  rw [arrivalsOf_singleton]
  unfold Probe.record at recorded
  cases echo : Wire.isEcho frame with
  | true =>
      have control : Wire.isControl frame = true := by
        by_contra bus
        rw [(Wire.isControl_eq_false.mp (Bool.eq_false_iff.mpr bus)).2] at echo
        cases echo
      rw [echo, if_pos rfl] at recorded
      cases recorded
      rw [if_pos rfl, if_pos control, List.append_nil]
      exact tally
  | false =>
      have real := observe_real probe.gaps echo
      rw [echo, if_neg Bool.false_ne_true] at recorded
      dsimp only at recorded
      rw [real] at recorded
      rw [if_neg Bool.false_ne_true, ← tally.gaps]
      cases control : Wire.isControl frame with
      | true =>
          rw [control] at recorded
          cases recorded
          rw [if_pos rfl, List.append_nil]
          exact tally.watch _
      | false =>
          rw [control] at recorded
          exact tally.bus recorded

theorem record_changes {now : UInt64} {frame : Frame} {after : Probe}
    (recorded : record config now probe frame = some after) :
    ∃ frames gaps gwLatency live e2eLatency warmupDiscarded,
      after = { probe with frames, gaps, gwLatency, live, e2eLatency, warmupDiscarded } := by
  unfold Probe.record at recorded
  split at recorded
  · cases recorded
    exact ⟨_, _, _, _, _, _, rfl⟩
  · dsimp only at recorded
    split at recorded
    · split at recorded
      · cases recorded
        exact ⟨_, _, _, _, _, _, rfl⟩
      · rcases measure_eq_some recorded with ⟨_, rfl⟩
        exact ⟨_, _, _, _, _, _, rfl⟩
    · cases recorded
      exact ⟨_, _, _, _, _, _, rfl⟩

theorem records_changes {now : UInt64} {batch : List Frame} {after : Probe}
    (recorded : batch.foldlM (record config now) probe = some after) :
    ∃ frames gaps gwLatency live e2eLatency warmupDiscarded,
      after = { probe with frames, gaps, gwLatency, live, e2eLatency, warmupDiscarded } := by
  refine foldlM_keeps (fun _ later =>
    ∃ frames gaps gwLatency live e2eLatency warmupDiscarded,
      later = { probe with frames, gaps, gwLatency, live, e2eLatency, warmupDiscarded })
    ?_ ⟨_, _, _, _, _, _, rfl⟩ recorded
  rintro _ _ frame later ⟨_, _, _, _, _, _, rfl⟩ recorded
  rcases record_changes recorded with ⟨_, _, _, _, _, _, rfl⟩
  exact ⟨_, _, _, _, _, _, rfl⟩

theorem arrivalsOf_concat (batch : List Frame) (frame : Frame) (now : UInt64) :
    arrivalsOf (batch ++ [frame]) now = arrivalsOf batch now ++ arrivalsOf [frame] now := by
  rw [arrivalsOf, arrivalsOf, arrivalsOf, List.filter_append, List.map_append]

theorem Tally.records (tally : Tally config probe done tracker) {now : UInt64}
    {batch : List Frame} {after : Probe}
    (recorded : batch.foldlM (Probe.record config now) probe = some after) :
    Tally config after (done ++ arrivalsOf batch now)
      (tracker.observeAll (batch.filter fun frame => !Wire.isEcho frame)) := by
  have start : Tally config probe (done ++ arrivalsOf [] now) (tracker.observeAll []) := by
    rw [show arrivalsOf [] now = [] from rfl, List.append_nil]
    exact tally
  refine foldlM_keeps (fun seen probe =>
    Tally config probe (done ++ arrivalsOf seen now)
      (tracker.observeAll (seen.filter fun frame => !Wire.isEcho frame))) ?_ start recorded
  intro seen probe frame after tally recorded
  have next := tally.record recorded
  rw [arrivalsOf_concat, ← List.append_assoc, List.filter_append, List.filter_singleton,
    GapTracker.observeAll_append]
  cases echo : Wire.isEcho frame with
  | true =>
      rw [echo] at next
      exact next
  | false =>
      rw [echo] at next
      exact next

/-! ## One event -/

theorem connections_concat (events : List Event) (event : Event) :
    connections (events ++ [event]) =
      match event with
      | .connect now => connections events ++ [{ since := now }]
      | .round result clocks =>
          (connections events).dropLast ++
            ((connections events).getLast?.map fun last => last.add result clocks).toList
      | _ => connections events := by
  rw [connections, List.foldl_append]
  rfl

theorem arrivals_concat (events : List Event) (event : Event) :
    arrivals (events ++ [event]) = arrivals events ++ arrivals [event] :=
  List.flatMap_append

theorem trackerOf_concat (connections : List Connection) (connection : Connection) :
    trackerOf (connections ++ [connection]) =
      (trackerOf connections).reset.observeAll connection.records := by
  rw [trackerOf, List.foldl_append]
  rfl

theorem resultsOf_concat (connections : List Connection) (connection : Connection) :
    resultsOf (connections ++ [connection]) = resultsOf connections ++ connection.results := by
  rw [resultsOf, List.flatMap_append, List.flatMap_singleton]
  rfl

theorem waits_concat (connections : List Connection) (connection : Connection) :
    (connections ++ [connection]).filterMap Connection.wait =
      connections.filterMap Connection.wait ++ connection.wait.toList := by
  rw [List.filterMap_append, List.filterMap_cons, List.filterMap_nil]
  cases connection.wait <;> rfl

namespace Connection

theorem results_add (connection : Connection) (result : FrameStream.Result) (clocks : Clocks) :
    (connection.add result clocks).results = connection.results ++ [result] :=
  List.map_append

theorem records_add (connection : Connection) (result : FrameStream.Result) (clocks : Clocks) :
    (connection.add result clocks).records = connection.records ++
      ({ since := connection.since, rounds := [(result, clocks)] } : Connection).records := by
  rw [records, results_add, List.flatMap_append]
  rfl

theorem wait_add (connection : Connection) (result : FrameStream.Result) (clocks : Clocks) :
    (connection.add result clocks).wait =
      connection.wait.or
        (if brings result then some (clocks.first - connection.since).toInt64 else none) := by
  rw [wait, wait, add, List.find?_append]
  cases connection.rounds.find? fun round => brings round.1 with
  | some round => rfl
  | none =>
      rw [Option.none_or, List.find?_singleton]
      cases brings result <;> rfl

end Connection

theorem Tally.progress (tally : Tally config probe done tracker) (mono : UInt64) :
    Tally config (probe.progress mono) done tracker := by
  unfold Probe.progress
  split
  · exact ⟨tally.frames, tally.inRange, tally.gwLatency, tally.e2eLatency,
      tally.warmupDiscarded, ⟨_, [], (List.append_nil _).symm, rfl⟩, tally.gaps⟩
  · exact tally

/-- The probe is where it should be after these rounds of a connection. -/
structure Follows (probe : Probe) (connection : Connection) : Prop where
  connectedAt : probe.connectedAt = connection.since
  firstFrameSeen : probe.firstFrameSeen = connection.wait.isSome

theorem Tally.connect (tally : Tally config probe done tracker) (now : UInt64) :
    Tally config (probe.connect now) done tracker.reset := by
  rw [← tally.gaps]
  exact (tally.watch probe.gaps.reset).keep

structure Running (config : Config) (probe : Probe) (events : List Event) : Prop
    extends Accounts config probe events where
  connected : probe.stage = .reading ∨ probe.stage = .leaving →
    ∃ front last, connections events = front ++ [last] ∧ Follows probe last

variable {events : List Event}

theorem Accounts.restage (accounts : Accounts config probe events) (stage : Stage)
    {more : List Event} (all : arrivals more = arrivals events)
    (same : connections more = connections events) :
    Accounts config { probe with stage := stage } more := by
  rcases accounts with ⟨tally, lines, reconnects, waits, batches, protocolErrs⟩
  rw [← all, ← same] at tally
  rw [← same] at reconnects waits batches protocolErrs
  exact ⟨tally.keep, lines, reconnects, waits, batches, protocolErrs⟩

theorem Running.restage (running : Running config probe events) {event : Event} (stage : Stage)
    (elsewhere : stage ≠ .reading ∧ stage ≠ .leaving)
    (nothing : arrivals [event] = [])
    (same : connections (events ++ [event]) = connections events) :
    Running config { probe with stage := stage } (events ++ [event]) := by
  have all : arrivals (events ++ [event]) = arrivals events := by
    rw [arrivals_concat, nothing, List.append_nil]
  exact ⟨running.toAccounts.restage stage all same,
    fun here => (here.elim elsewhere.1 elsewhere.2).elim⟩

theorem Running.connect (running : Running config probe events) (now : UInt64) :
    Running config (probe.connect now) (events ++ [.connect now]) := by
  have all : arrivals (events ++ [.connect now]) = arrivals events := by
    rw [arrivals_concat]
    exact List.append_nil _
  have one : connections (events ++ [.connect now]) = connections events ++ [{ since := now }] :=
    connections_concat ..
  have results : resultsOf (connections events ++ [{ since := now }]) =
      resultsOf (connections events) := by
    rw [resultsOf_concat]
    exact List.append_nil _
  have tracker : trackerOf (connections events ++ [{ since := now }]) =
      (trackerOf (connections events)).reset :=
    trackerOf_concat ..
  rcases running with ⟨⟨tally, lines, reconnects, waits, batches, protocolErrs⟩, _⟩
  refine ⟨⟨?_, lines, ?_, ?_, ?_, ?_⟩, ?_⟩
  · rw [all, one, tracker]
    exact tally.connect now
  · rw [one, List.length_append, List.length_singleton, UInt64.ofNat_add, ← reconnects]
    rfl
  · rw [one, waits_concat]
    exact waits.trans (congrArg _ (List.append_nil _).symm)
  · rw [one, results]
    exact batches
  · rw [one, results]
    exact protocolErrs
  · exact fun _ => ⟨_, _, one, rfl, rfl⟩

theorem lastFrames_progress (lines : reported probe.lines = probe.lastFrames) (mono : UInt64) :
    reported (probe.progress mono).lines = (probe.progress mono).lastFrames := by
  unfold Probe.progress
  split
  · have more (line : Line) : reported (probe.lines ++ [line]) =
        reported probe.lines + line.rate := List.foldl_append
    dsimp only
    rw [more, lines, UInt64.add_comm, UInt64.sub_add_cancel]
  · exact lines

theorem progress_changes (probe : Probe) (mono : UInt64) :
    ∃ nextReport lines live lastFrames,
      probe.progress mono = { probe with nextReport, lines, live, lastFrames } := by
  unfold Probe.progress
  split <;> exact ⟨_, _, _, _, rfl⟩

theorem Tally.greet (tally : Tally config probe done tracker) (batch : List Frame)
    (first : UInt64) : Tally config (probe.greet batch first) done tracker := by
  unfold Probe.greet
  split
  · exact tally.keep
  · exact tally

theorem greet_changes (probe : Probe) (batch : List Frame) (first : UInt64) :
    ∃ timeToFirstFrame firstFrameSeen,
      probe.greet batch first = { probe with timeToFirstFrame, firstFrameSeen } := by
  unfold Probe.greet
  split <;> exact ⟨_, _, rfl⟩

theorem Follows.greet {connection : Connection} (follows : Follows probe connection)
    (batch : List Frame) (clocks : Clocks) :
    (probe.greet batch clocks.first).firstFrameSeen =
        (connection.add (.ok batch) clocks).wait.isSome ∧
      ∀ waits : List Int64, probe.timeToFirstFrame =
          (Samples.create (1 <<< 12)).addAll (waits ++ connection.wait.toList) →
        (probe.greet batch clocks.first).timeToFirstFrame =
          (Samples.create (1 <<< 12)).addAll
            (waits ++ (connection.add (.ok batch) clocks).wait.toList) := by
  have seen := follows.firstFrameSeen
  rw [connection.wait_add, ← follows.connectedAt]
  unfold Probe.greet
  rw [seen]
  cases known : connection.wait with
  | some wait =>
      rw [known] at seen
      rw [if_neg (by rintro ⟨_, impossible⟩; cases impossible)]
      exact ⟨seen, fun waits same => same⟩
  | none =>
      rw [known] at seen
      cases batch with
      | nil =>
          rw [if_neg (by rintro ⟨impossible, _⟩; exact impossible rfl)]
          exact ⟨seen, fun waits same => same⟩
      | cons frame batch =>
          rw [if_pos ⟨List.cons_ne_nil _ _, rfl⟩]
          refine ⟨rfl, fun waits same => ?_⟩
          have added := Samples.addAll_concat (Samples.create (1 <<< 12)) waits
            (clocks.first - probe.connectedAt).toInt64
          rw [Option.toList_none, List.append_nil] at same
          rw [← same] at added
          exact added.symm

structure OneMore (before after : List Connection) (front : List Connection) (last : Connection)
    (result : FrameStream.Result) (clocks : Clocks) : Prop where
  before : before = front ++ [last]
  after : after = front ++ [last.add result clocks]

theorem Running.oneMore (running : Running config probe events) (reading : probe.stage = .reading)
    (result : FrameStream.Result) (clocks : Clocks) :
    ∃ front last, OneMore (connections events) (connections (events ++ [.round result clocks]))
      front last result clocks ∧ Follows probe last := by
  rcases running.connected (Or.inl reading) with ⟨front, last, split, follows⟩
  refine ⟨front, last, ⟨split, ?_⟩, follows⟩
  rw [connections_concat]
  dsimp only
  rw [split, List.dropLast_concat, List.getLast?_concat]
  rfl

namespace OneMore

variable {before after front : List Connection} {last : Connection}
  {result : FrameStream.Result} {clocks : Clocks}

theorem length (more : OneMore before after front last result clocks) :
    after.length = before.length := by
  rw [more.after, more.before, List.length_append, List.length_append]
  rfl

theorem countP (more : OneMore before after front last result clocks)
    (test : FrameStream.Result → Bool) :
    UInt64.ofNat ((resultsOf after).countP test) =
      UInt64.ofNat ((resultsOf before).countP test) + if test result then 1 else 0 := by
  rw [more.after, more.before, resultsOf_concat, resultsOf_concat, last.results_add,
    ← List.append_assoc, List.countP_append, List.countP_singleton, UInt64.ofNat_add]
  cases test result <;> rfl

theorem trackerOf (more : OneMore before after front last result clocks) :
    trackerOf after = (Probe.trackerOf before).observeAll
      ({ since := last.since, rounds := [(result, clocks)] } : Connection).records := by
  rw [more.after, more.before, trackerOf_concat, trackerOf_concat, last.records_add,
    GapTracker.observeAll_append]

end OneMore

theorem Running.leaving (running : Running config probe events)
    (reading : probe.stage = .reading) :
    Running config { probe with stage := .leaving } events := by
  rcases running.connected (Or.inl reading) with ⟨front, last, split, follows⟩
  exact ⟨running.toAccounts.restage .leaving rfl rfl,
    fun _ => ⟨front, last, split, follows.connectedAt, follows.firstFrameSeen⟩⟩

theorem Running.progress (running : Running config probe events) (mono : UInt64) :
    Running config (probe.progress mono) events := by
  have tally := running.toTally.progress mono
  have lines := lastFrames_progress running.lines mono
  rcases progress_changes probe mono with ⟨_, _, _, _, changed⟩
  rw [changed] at tally lines ⊢
  refine ⟨⟨tally, lines, running.reconnects, running.timeToFirstFrame, running.batches,
    running.protocolErrs⟩, fun here => ?_⟩
  rcases running.connected here with ⟨front, last, split, follows⟩
  exact ⟨front, last, split, follows.connectedAt, follows.firstFrameSeen⟩

theorem Running.quiet (running : Running config probe events) (reading : probe.stage = .reading)
    (result : FrameStream.Result) (quiet : isBatch result = false) (clocks : Clocks) :
    Running config
      { probe with protocolErrs := probe.protocolErrs + if isFault result then 1 else 0 }
      (events ++ [.round result clocks]) := by
  rcases running.oneMore reading result clocks with ⟨front, last, more, follows⟩
  have none : arrivals [.round result clocks] = [] ∧ Connection.brings result = false ∧
      ({ since := last.since, rounds := [(result, clocks)] } : Connection).records = [] := by
    cases result with
    | ok batch => cases quiet
    | timeout => exact ⟨rfl, rfl, rfl⟩
    | closed => exact ⟨rfl, rfl, rfl⟩
    | protocolError error => exact ⟨rfl, rfl, rfl⟩
  rcases none with ⟨noArrivals, nothing, noRecords⟩
  have all : arrivals (events ++ [.round result clocks]) = arrivals events := by
    rw [arrivals_concat, noArrivals, List.append_nil]
  have wait : (last.add result clocks).wait = last.wait := by
    rw [last.wait_add, nothing, if_neg Bool.false_ne_true, Option.or_none]
  have seen := more.trackerOf
  rw [noRecords] at seen
  rcases running with ⟨⟨tally, lines, reconnects, waits, batches, protocolErrs⟩, _⟩
  rw [← all, show trackerOf (connections events) =
    trackerOf (connections (events ++ [.round result clocks])) from seen.symm] at tally
  refine ⟨⟨tally.keep, lines, ?_, ?_, ?_, ?_⟩,
    fun _ => ⟨front, _, more.after, follows.connectedAt, ?_⟩⟩
  · rw [more.length]
    exact reconnects
  · rw [more.after, waits_concat, wait, ← waits_concat, ← more.before]
    exact waits
  · rw [more.countP, quiet, ← batches]
    exact (UInt64.add_zero _).symm
  · rw [more.countP, ← protocolErrs]
  · rw [wait]
    exact follows.firstFrameSeen

theorem receive_changes {batch : List Frame} {clocks : Clocks} {after : Probe}
    (received : probe.receive config batch clocks = some after) :
    ∃ frames gaps gwLatency live e2eLatency warmupDiscarded,
      after =
        { probe with
          frames, gaps, gwLatency, live, e2eLatency, warmupDiscarded
          batches := probe.batches + 1
          timeToFirstFrame := (probe.greet batch clocks.first).timeToFirstFrame
          firstFrameSeen := (probe.greet batch clocks.first).firstFrameSeen } := by
  rcases greet_changes probe batch clocks.first with ⟨_, _, greeted⟩
  rcases records_changes received with ⟨_, _, _, _, _, _, changed⟩
  rw [changed, greeted]
  exact ⟨_, _, _, _, _, _, rfl⟩

theorem Tally.receive (tally : Tally config probe done tracker) {batch : List Frame}
    {clocks : Clocks} {after : Probe} (received : probe.receive config batch clocks = some after) :
    Tally config after (done ++ arrivalsOf batch clocks.now)
      (tracker.observeAll (batch.filter fun frame => !Wire.isEcho frame)) :=
  Tally.records (tally.greet batch clocks.first).keep received

theorem Running.receive (running : Running config probe events) (reading : probe.stage = .reading)
    {batch : List Frame} {clocks : Clocks} {after : Probe}
    (received : probe.receive config batch clocks = some after) :
    Running config after (events ++ [.round (.ok batch) clocks]) := by
  rcases running.oneMore reading (.ok batch) clocks with ⟨front, last, more, follows⟩
  rcases follows.greet batch clocks with ⟨firstFrameSeen, timeToFirstFrame⟩
  have all : arrivals (events ++ [.round (.ok batch) clocks]) =
      arrivals events ++ arrivalsOf batch clocks.now := by
    rw [arrivals_concat]
    exact congrArg _ (List.append_nil _)
  have seen := more.trackerOf
  rw [show ({ since := last.since, rounds := [(.ok batch, clocks)] } : Connection).records =
    batch.filter fun frame => !Wire.isEcho frame from List.append_nil _] at seen
  have tally := running.toTally.receive received
  rw [← all, ← seen] at tally
  have waits := running.timeToFirstFrame
  rw [more.before, waits_concat] at waits
  rcases receive_changes received with ⟨_, _, _, _, _, _, changed⟩
  rw [changed] at tally ⊢
  refine ⟨⟨tally, running.lines, ?_, ?_, ?_, ?_⟩, fun _ => ⟨front, _, more.after, ?_, ?_⟩⟩
  · rw [more.length]
    exact running.reconnects
  · rw [more.after, waits_concat]
    exact timeToFirstFrame _ waits
  · rw [more.countP, ← running.batches]
    rfl
  · rw [more.countP, ← running.protocolErrs]
    exact (UInt64.add_zero _).symm
  · exact follows.connectedAt
  · exact firstFrameSeen

theorem Running.round (running : Running config probe events) (reading : probe.stage = .reading)
    {result : FrameStream.Result} {clocks : Clocks} {after : Probe}
    (turned : probe.round config result clocks = some after) :
    Running config after (events ++ [.round result clocks]) := by
  cases result with
  | closed =>
      cases turned
      have quiet := running.quiet reading .closed rfl clocks
      rw [show isFault .closed = false from rfl, if_neg Bool.false_ne_true,
        UInt64.add_zero] at quiet
      exact quiet.leaving reading
  | protocolError error =>
      cases turned
      exact (running.quiet reading (.protocolError error) rfl clocks).leaving reading
  | timeout =>
      cases turned
      have quiet := running.quiet reading .timeout rfl clocks
      rw [show isFault .timeout = false from rfl, if_neg Bool.false_ne_true,
        UInt64.add_zero] at quiet
      exact quiet.progress clocks.mono
  | ok batch =>
      rcases Option.map_eq_some_iff.mp turned with ⟨middle, received, rfl⟩
      exact (running.receive reading received).progress clocks.mono

theorem Running.leave (running : Running config probe events) :
    Running config { probe with stage := if config.reconnect then .away else .ended }
      (events ++ [.leave]) := by
  apply running.restage
  · cases config.reconnect <;> decide
  · rfl
  · exact connections_concat events .leave

theorem Running.step (running : Running config probe events) {event : Event} {after : Probe}
    (stepped : probe.step config event = some after) :
    Running config after (events ++ [event]) := by
  unfold Probe.step at stepped
  split at stepped
  · rename_i away
    cases stepped
    have same := connections_concat events .refuse
    have stays := running.restage .away (by decide) rfl same
    rw [← away] at stays
    cases config.reconnect with
    | true => exact stays
    | false => exact running.restage .refused (by decide) rfl same
  · cases stepped
    exact running.connect _
  · cases stepped
    exact running.restage .ended (by decide) rfl (connections_concat events .stop)
  · rename_i reading
    exact running.round reading stepped
  · cases stepped
    exact running.leave
  · cases stepped
    exact running.leave
  · cases stepped

end

theorem running_of_run {config : Config} {nextReport : UInt64} {events : List Event}
    {probe : Probe} (ran : (system config nextReport).run (start nextReport) events = some probe) :
    Running config probe events := by
  induction events using List.reverseRecOn generalizing probe with
  | nil =>
      cases ran
      have live : ∃ earlier since, ([] : List Int64) = earlier ++ since ∧
          ([] : List Int64) = since.take kLiveWindow := ⟨[], [], rfl, rfl⟩
      refine ⟨⟨⟨rfl, fun _ member => (nomatch member), rfl, ?_, rfl, live, rfl⟩, rfl, rfl, rfl,
        rfl, rfl⟩, ?_⟩
      · unfold Config.ages
        cases config.measureE2e <;> rfl
      · rintro (impossible | impossible) <;> cases impossible
  | append_singleton events event induction =>
      rw [System.run_append] at ran
      rcases Option.bind_eq_some_iff.mp ran with ⟨middle, before, last⟩
      rcases Option.bind_eq_some_iff.mp last with ⟨after, stepped, same⟩
      cases same
      exact (induction before).step stepped

/-- Whatever the probe has connected to and whenever: all it reports at the end is
what it has received. -/
theorem accounts_of_run {config : Config} {nextReport : UInt64} {events : List Event}
    {probe : Probe} (ran : (system config nextReport).run (start nextReport) events = some probe) :
    Accounts config probe events :=
  (running_of_run ran).toAccounts

/-- A connection that breaks off, a gateway that is away for a while, and another
connection. -/
def twice : List Event :=
  let clocks (now : UInt64) : Clocks := { first := now, now := now, mono := now }
  [.connect 10, .round (.ok [Frame.zero, Wire.makeEcho 1 15]) (clocks 20),
    .round .timeout (clocks 1000), .round .closed (clocks 1001), .leave, .refuse, .connect 1100,
    .round (.ok [Wire.makeGap 1 3 .kConsumerAbsent 1150, { Frame.zero with seq := 4 }])
      (clocks 1200),
    .leave, .stop]

theorem accounts_of_run_twice :
    ∃ probe, (system { reconnect := true, measureE2e := true } 500).run (start 500) twice =
        some probe ∧
      Accounts { reconnect := true, measureE2e := true } probe twice :=
  ⟨_, rfl, @accounts_of_run _ 500 twice _ rfl⟩

end Probe

end TelemetryGateway
