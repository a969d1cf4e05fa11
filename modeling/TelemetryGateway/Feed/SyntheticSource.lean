import TelemetryGateway.Feed.CanSource
import TelemetryGateway.Foundation.Execution

/-! # Frames generated in the process

A timer says how many ticks have passed. The frames of a tick that found no
room are owed. -/

namespace TelemetryGateway

namespace SyntheticSource

/-- A `std::vector` has a size of 64 bits. -/
structure Config where
  srcId : UInt8 := 0
  periodNs : UInt32 := 1000000
  framesPerTick : UInt32 := 1
  canIds : List UInt32 := [0x100, 0x200, 0x300]
  sized : canIds.length < 2 ^ 64 := by decide

end SyntheticSource

structure SyntheticSource where
  cfg : SyntheticSource.Config
  cycles : cfg.canIds ≠ []
  stats : SourceStats := {}
  counter : UInt64 := 0
  pending : UInt64 := 0

namespace SyntheticSource

/-- `timerfdCreate` and `timerfdSettime` are what these calls say. -/
def openTimer (cfg : Config) (timerfdCreate timerfdSettime : Except String Unit) :
    Except String SyntheticSource :=
  if empty : cfg.canIds = [] then .error "synthetic source needs at least one CAN id"
  else if cfg.periodNs = 0 ∨ cfg.framesPerTick = 0 then
    .error "synthetic source needs a non-zero period and frames_per_tick"
  else
    match timerfdCreate with
    | .error reason => .error ("timerfd_create: " ++ reason)
    | .ok () =>
        match timerfdSettime with
        | .error reason => .error ("timerfd_settime: " ++ reason)
        | .ok () => .ok { cfg := cfg, cycles := empty }

/-- Identifiers of standard frames, of eleven bits. -/
def Config.Standard (cfg : Config) : Prop := ∀ id ∈ cfg.canIds, id.toNat < 2 ^ 11

def gatewayConfig (srcId : UInt8) (rate : UInt32) : Config :=
  let periodNs := if rate = 0 then 1000000 else 1000000000 / rate
  { srcId := srcId, periodNs := if periodNs = 0 then 1 else periodNs }

/-- What `read` says of the timer. -/
inductive TimerRead
  | expirations (count : UInt64)
  | notYet
  | failed

def canIdAt (source : SyntheticSource) (counter : UInt64) : UInt32 :=
  source.cfg.canIds.getD (counter.toNat % source.cfg.canIds.length) 0

def payload (counter : UInt64) : Vector UInt8 8 :=
  Vector.ofFn fun b => ((counter >>> UInt64.ofNat (8 * b.val)) &&& 0xFF).toUInt8

def frameAt (source : SyntheticSource) (tKernel tIngest counter : UInt64) : Frame where
  seq := 0
  tKernelNs := tKernel
  tIngestNs := tIngest
  canId := source.canIdAt counter
  srcId := source.cfg.srcId
  len := 8
  flags := 0
  reserved := 0
  data := payload counter

def fill (source : SyntheticSource) (tKernel tIngest : UInt64) : Nat → UInt64 → List Frame
  | 0, _ => []
  | want + 1, counter =>
      source.frameAt tKernel tIngest counter :: source.fill tKernel tIngest want (counter + 1)

def readTimer (source : SyntheticSource) : TimerRead → SyntheticSource
  | .expirations count =>
      { source with pending := source.pending + count * source.cfg.framesPerTick.toUInt64 }
  | .notYet => source
  | .failed =>
      { source with stats := { source.stats with readErrors := source.stats.readErrors + 1 } }

/-- `drain` into `size` frames. -/
def drain (source : SyntheticSource) (size : Nat) (read : TimerRead) (tKernel tIngest : UInt64) :
    SyntheticSource × List Frame :=
  let source := source.readTimer read
  let want := if size < source.pending.toNat then size else source.pending.toNat
  ({ source with
      counter := source.counter + UInt64.ofNat want
      pending := source.pending - UInt64.ofNat want
      stats := { source.stats with frames := source.stats.frames + UInt64.ofNat want } },
    source.fill tKernel tIngest want source.counter)

structure Call where
  size : Nat
  read : TimerRead
  tKernel : UInt64
  tIngest : UInt64

/-- A source of a configuration that `open` accepts, and the drains made of it. -/
def system (cfg : Config) : System SyntheticSource Call where
  initial := fun source => ∃ timerfdCreate timerfdSettime,
    openTimer cfg timerfdCreate timerfdSettime = .ok source
  step := fun source call =>
    some (source.drain call.size call.read call.tKernel call.tIngest).1

/-! ## What is owed -/

/-- The number of frames a drain into `size` frames has to produce. -/
def owed (source : SyntheticSource) (size : Nat) (read : TimerRead) : Nat :=
  min size (source.readTimer read).pending.toNat

theorem length_fill (source : SyntheticSource) (tKernel tIngest : UInt64) (want : Nat)
    (counter : UInt64) : (source.fill tKernel tIngest want counter).length = want := by
  induction want generalizing counter with
  | zero => rfl
  | succ want induction => rw [fill, List.length_cons, induction]

theorem owed_eq (source : SyntheticSource) (size : Nat) (read : TimerRead) :
    (if size < (source.readTimer read).pending.toNat then size
      else (source.readTimer read).pending.toNat) = source.owed size read := by
  unfold owed
  split <;> omega

/-- No frame is written past the span, and none that is not owed; the rest stays
owed. -/
theorem drain_owed (source : SyntheticSource) (size : Nat) (read : TimerRead)
    (tKernel tIngest : UInt64) :
    (source.drain size read tKernel tIngest).2.length = source.owed size read ∧
      (source.drain size read tKernel tIngest).1.pending.toNat =
        (source.readTimer read).pending.toNat -
          (source.drain size read tKernel tIngest).2.length := by
  have below := (source.readTimer read).pending.toNat_lt
  have fewer : source.owed size read ≤ (source.readTimer read).pending.toNat :=
    Nat.min_le_right ..
  have exact : (UInt64.ofNat (source.owed size read)).toNat = source.owed size read :=
    UInt64.toNat_ofNat_of_lt' (Nat.lt_of_le_of_lt fewer below)
  simp only [drain, length_fill, owed_eq]
  refine ⟨trivial, ?_⟩
  rw [UInt64.toNat_sub_of_le, exact]
  rw [UInt64.le_iff_toNat_le, exact]
  exact fewer

theorem isControl_frameAt (source : SyntheticSource) (tKernel tIngest counter : UInt64) :
    Wire.isControl (source.frameAt tKernel tIngest counter) = false := by
  change ((0 : UInt8) &&& (FrameFlags.kGap ||| FrameFlags.kEcho) != 0) = false
  decide

theorem fill_bus (source : SyntheticSource) (tKernel tIngest : UInt64) (want : Nat)
    (counter : UInt64) :
    ∀ frame ∈ source.fill tKernel tIngest want counter, Wire.isControl frame = false := by
  induction want generalizing counter with
  | zero => exact fun _ member => nomatch member
  | succ want induction =>
      intro frame member
      rcases List.mem_cons.mp member with rfl | later
      · exact isControl_frameAt ..
      · exact induction _ frame later

/-- A drain returns what the fan-out takes for one: bus frames, no more than its
buffer holds. -/
theorem drain_bus (source : SyntheticSource) (size : Nat) (read : TimerRead)
    (tKernel tIngest : UInt64) :
    (source.drain size read tKernel tIngest).2.length ≤ size ∧
      ∀ frame ∈ (source.drain size read tKernel tIngest).2, Wire.isControl frame = false := by
  constructor
  · rw [(source.drain_owed size read tKernel tIngest).1]
    exact Nat.min_le_left ..
  · exact fill_bus _ _ _ _ _

theorem gatewayConfig_standard (srcId : UInt8) (rate : UInt32) :
    (gatewayConfig srcId rate).Standard := by
  intro id identifier
  change id ∈ [0x100, 0x200, 0x300] at identifier
  simp only [List.mem_cons, List.not_mem_nil, or_false] at identifier
  rcases identifier with rfl | rfl | rfl
  · simp
  · simp
  · simp

theorem canIdAt_mem (source : SyntheticSource) (counter : UInt64) :
    source.canIdAt counter ∈ source.cfg.canIds := by
  have inside : counter.toNat % source.cfg.canIds.length < source.cfg.canIds.length :=
    Nat.mod_lt _ (List.length_pos_iff.mpr source.cycles)
  rw [canIdAt, List.getD_eq_getElem?_getD, List.getElem?_eq_getElem inside]
  exact List.getElem_mem inside

end SyntheticSource

end TelemetryGateway
