import Mathlib.Data.List.DropRight
import TelemetryGateway.Consumer.Coverage
import TelemetryGateway.Consumer.FrameStream
import TelemetryGateway.Foundation.CheckedDifference
import TelemetryGateway.Foundation.Execution
import TelemetryGateway.Foundation.SortedMap
import TelemetryGateway.View.RollingLatency

/-! # What the live view keeps

The consumer loop of the view: it counts what it receives, remembers the last
frames, the identifiers it has seen and how many frames each second brought.
Identifiers and frames are bounded, and the seconds are a ring. -/

namespace TelemetryGateway

namespace View

def kRateWindow : Nat := 60

def kRecentFrames : Nat := 40

def kMaxIds : Nat := 256

def kMaxPlausibleLatencyNs : Int64 := 10000000000

def sameClockDomain (delayNs : Int64) : Bool :=
  0 ≤ delayNs && delayNs ≤ kMaxPlausibleLatencyNs

structure IdStat where
  count : UInt64 := 0
  lastSeenNs : UInt64 := 0
  srcId : UInt8 := 0
  len : UInt8 := 0
  data : Vector UInt8 8 := Vector.replicate 8 0
  deriving DecidableEq, Repr

structure State where
  connected : Bool := false
  frames : UInt64 := 0
  batches : UInt64 := 0
  reconnects : UInt64 := 0
  protocolErrs : UInt64 := 0
  firstSeq : UInt64 := 0
  lastSeq : UInt64 := 0
  haveSeq : Bool := false
  gaps : GapTracker := {}
  ids : SortedMap UInt32 IdStat := .empty
  recent : List Frame := []
  rate : Vector UInt64 kRateWindow := Vector.replicate _ 0
  ratePos : Fin kRateWindow := ⟨0, by decide⟩
  framesAtTick : UInt64 := 0
  latency : RollingLatency := {}
  offDomain : UInt64 := 0
  startedNs : UInt64 := 0

/-- `static_cast<std::int64_t>(now) - static_cast<std::int64_t>(t_ingest_ns)`. -/
def delayNs (now : UInt64) (frame : Frame) : Option Int64 :=
  checkedSub now.toInt64 frame.tIngestNs.toInt64

def emplaceId (ids : SortedMap UInt32 IdStat) (id : UInt32) : SortedMap UInt32 IdStat :=
  if ids.find? id = none ∧ ids.size < kMaxIds then ids.emplace id {} else ids

def IdStat.see (stat : IdStat) (now : UInt64) (frame : Frame) : IdStat where
  count := stat.count + 1
  lastSeenNs := now
  srcId := frame.srcId
  len := frame.len
  data := frame.data

/-- `push_back`, and `pop_front` when that was one too many. -/
def remember (recent : List Frame) (frame : Frame) : List Frame :=
  let recent := recent ++ [frame]
  if kRecentFrames < recent.length then recent.tail else recent

namespace State

def showFrame (state : State) (now : UInt64) (frame : Frame) (delay : Int64) : State :=
  let onClock := sameClockDomain delay
  { state with
    firstSeq := if state.haveSeq then state.firstSeq else frame.seq
    lastSeq := frame.seq
    haveSeq := true
    frames := state.frames + 1
    offDomain := if onClock then state.offDomain else state.offDomain + 1
    latency := if onClock then state.latency.add now delay else state.latency
    ids := (emplaceId state.ids frame.canId).modify frame.canId fun stat => stat.see now frame
    recent := remember state.recent frame }

/-- What the loop over a batch does with a frame that is none of the gateway's
own records. -/
def busFrame (state : State) (now : UInt64) (frame : Frame) : Option State :=
  (delayNs now frame).map (state.showFrame now frame)

def record (now : UInt64) (state : State) (frame : Frame) : Option State :=
  if Wire.isEcho frame then some state
  else
    let (gaps, real) := state.gaps.observe frame
    if real then { state with gaps := gaps }.busFrame now frame
    else some { state with gaps := gaps }

/-- The half of a round that depends on what `read_batch` returned. -/
def receive (state : State) (status : FrameStream.Status) (batch : List Frame) (now : UInt64) :
    Option State :=
  match status with
  | .kProtocolError => some { state with protocolErrs := state.protocolErrs + 1 }
  | .kOk =>
      if batch.isEmpty then some state
      else batch.foldlM (record now) { state with batches := state.batches + 1 }
  | _ => some state

def tick (state : State) : State :=
  { state with
    rate := state.rate.set state.ratePos.val (state.frames - state.framesAtTick)
    framesAtTick := state.frames
    ratePos := ⟨(state.ratePos.val + 1) % kRateWindow, Nat.mod_lt _ (by decide)⟩ }

/-- The count `i` cells after the cursor, round the ring. -/
def rateAt (state : State) (i : Nat) : UInt64 :=
  state.rate.get ⟨(state.ratePos.val + i) % kRateWindow, Nat.mod_lt _ (by decide)⟩

end State

inductive Stage
  | away
  | reading
  | leaving
  deriving DecidableEq, Repr

/-- The loop's own variables beside the state it shares with the page. -/
structure Loop where
  state : State
  stage : Stage
  nextTick : UInt64

namespace Loop

/-- What is done between taking the mutex and releasing it: a connection is
made; a call of `read_batch` has returned, and the clock is read; the connection
is over. -/
inductive Event
  | connect
  | round (status : FrameStream.Status) (batch : FrameStream.Batch) (now : UInt64)
  | leave

def second : UInt64 := 1000000000

def stageAfter : FrameStream.Status → Stage
  | .kClosed => .leaving
  | .kProtocolError => .leaving
  | _ => .reading

/-- A round of the inner loop. It ends before anything is touched if the stream
is closed. -/
def round (loop : Loop) (status : FrameStream.Status) (batch : FrameStream.Batch) (now : UInt64) :
    Option Loop :=
  let stage := stageAfter status
  if status = .kClosed then some { loop with stage := stage }
  else
    (loop.state.receive status batch.frames now).map fun state =>
      if loop.nextTick ≤ now then { state := state.tick, stage := stage, nextTick := now + second }
      else { loop with state := state, stage := stage }

def connect (loop : Loop) : Loop :=
  { loop with
    stage := .reading
    state := { loop.state with
      connected := true
      reconnects := loop.state.reconnects + 1
      gaps := loop.state.gaps.reset } }

def disconnect (loop : Loop) : Loop :=
  { loop with stage := .away, state := { loop.state with connected := false } }

def ready (loop : Loop) : Event → Bool
  | .connect => loop.stage = .away
  | .round .. => loop.stage = .reading
  | .leave => loop.stage ≠ .away

def perform (loop : Loop) : Event → Option Loop
  | .connect => some loop.connect
  | .round status batch now => loop.round status batch now
  | .leave => some loop.disconnect

def step (loop : Loop) (event : Event) : Option Loop :=
  if loop.ready event then loop.perform event else none

def start (startedNs nextTick : UInt64) : Loop where
  state := { startedNs := startedNs }
  stage := .away
  nextTick := nextTick

def system (startedNs nextTick : UInt64) : System Loop Event where
  initial := fun loop => loop = start startedNs nextTick
  step := step

theorem step_eq_some {loop after : Loop} {event : Event} :
    loop.step event = some after ↔ loop.ready event = true ∧ loop.perform event = some after :=
  Option.ite_none_right_eq_some

end Loop

end View

end TelemetryGateway
