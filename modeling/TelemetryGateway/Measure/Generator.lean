import TelemetryGateway.Feed.CanSource
import TelemetryGateway.Foundation.CheckedDifference
import TelemetryGateway.Foundation.Execution
import TelemetryGateway.Measure.Percentiles

/-! # The paced generator

A timer says how many ticks have passed since it was last read, and for each of
them a frame is written. Each tick is measured against an absolute schedule: what
was late before does not move it. -/

namespace TelemetryGateway

namespace Generator

/-- The arguments of `main` that the loop goes by, and the instant the timer is
armed for. -/
structure Config where
  rate : UInt64 := 1000
  seconds : UInt64 := 10
  baseId : UInt32 := 0x100
  idCount : UInt32 := 1
  start : UInt64

def Config.periodNs (config : Config) : UInt64 := 1000000000 / config.rate

def Config.total (config : Config) : UInt64 := config.rate * config.seconds

def Config.accepted (config : Config) : Bool :=
  config.rate ≠ 0 && config.seconds ≠ 0 && config.idCount ≠ 0 && config.periodNs ≠ 0

def Config.ideal (config : Config) (k : UInt64) : UInt64 :=
  config.start + k * config.periodNs

/-- The frame of tick `k`: it carries the time it was made. -/
def Config.canFrame (config : Config) (k now : UInt64) : CanFrame where
  canId := config.baseId + (k % config.idCount.toUInt64).toUInt32
  canDlc := 8
  data := Vector.ofFn fun index => LittleEndian.byteAt now.toNat index.val

inductive WriteResult
  | written
  | noBuffers
  | failed
  deriving DecidableEq

/-- What `read` of the timer answers. -/
inductive ReadResult
  | expired (expirations : UInt64)
  | interrupted
  | failed

inductive Event
  | read (result : ReadResult)
  /-- a turn of the inner loop: the clock, and the answer of `write` -/
  | tick (now : UInt64) (result : WriteResult)

/-- Where `main` is: about to read the timer; with so many ticks still owed;
behind the loop. -/
inductive Phase
  | waiting
  | paying (left : UInt64)
  | ended
  deriving DecidableEq

end Generator

/-- `bus` is history: what the kernel has taken. -/
structure Generator where
  config : Generator.Config
  phase : Generator.Phase
  k : UInt64 := 0
  sent : UInt64 := 0
  enobufs : UInt64 := 0
  sendErrors : UInt64 := 0
  jitter : Samples Int64 := .create Samples.defaultCapacity
  bus : List CanFrame := []

namespace Generator

def owe (generator : Generator) (left : UInt64) : Generator :=
  { generator with
    phase :=
      if generator.config.total ≤ generator.k then .ended
      else if left = 0 then .waiting
      else .paying left }

def send (generator : Generator) (now : UInt64) (error : Int64) (result : WriteResult) :
    Generator :=
  let generator := { generator with
    k := generator.k + 1
    jitter := generator.jitter.add error
    bus := match result with
      | .written => generator.bus ++ [generator.config.canFrame generator.k now]
      | _ => generator.bus }
  match result with
  | .written => { generator with sent := generator.sent + 1 }
  | .noBuffers => { generator with enobufs := generator.enobufs + 1 }
  | .failed => { generator with sendErrors := generator.sendErrors + 1 }

def pay (generator : Generator) (now : UInt64) (result : WriteResult) : Option Generator :=
  let ideal := generator.config.ideal generator.k
  (checkedSub now.toInt64 ideal.toInt64).map fun error => generator.send now error result

def step (generator : Generator) (event : Event) : Option Generator :=
  match generator.phase, event with
  | .waiting, .read (.expired expirations) => some (generator.owe expirations)
  | .waiting, .read .interrupted => some generator
  | .waiting, .read .failed => some { generator with phase := .ended }
  | .paying left, .tick now result =>
      (generator.pay now result).map fun generator => generator.owe (left - 1)
  | _, _ => none

/-- `main` up to the loop; it returns 2 for what it does not accept. -/
def begin (config : Config) : Option Generator :=
  if config.accepted then some (owe { config := config, phase := .waiting } 0) else none

def system (config : Config) : System Generator Event where
  initial := fun generator => begin config = some generator
  step := step

/-! ## What is to come of it -/

structure Tick where
  now : UInt64
  result : WriteResult

/-- The ticks of a run, in order. -/
def ticks (events : List Event) : List Tick :=
  events.filterMap fun
    | .tick now result => some ⟨now, result⟩
    | _ => none

def expired (events : List Event) : Nat :=
  (events.map fun
    | .read (.expired expirations) => expirations.toNat
    | _ => 0).sum

def errors (config : Config) (ticks : List Tick) : List Int :=
  ticks.mapIdx fun k tick =>
    tick.now.toInt64.toInt - (config.ideal (UInt64.ofNat k)).toInt64.toInt

/-- The frames of the ticks that were written. -/
def frames (config : Config) (ticks : List Tick) : List CanFrame :=
  (ticks.mapIdx fun k tick =>
    if tick.result = .written then [config.canFrame (UInt64.ofNat k) tick.now] else []).flatten

def count (result : WriteResult) (ticks : List Tick) : UInt64 :=
  UInt64.ofNat (ticks.countP fun tick => tick.result = result)

/-- All that has been counted and written is that of the ticks, each in its place
of the schedule. -/
structure Follows (generator : Generator) (config : Config) (ticks : List Tick) : Prop where
  same : generator.config = config
  few : ticks.length ≤ config.total.toNat
  k : generator.k = UInt64.ofNat ticks.length
  inRange : ∀ error ∈ errors config ticks, IsInt64 error
  jitter : generator.jitter =
    (Samples.create Samples.defaultCapacity).addAll ((errors config ticks).map .ofInt)
  bus : generator.bus = frames config ticks
  sent : generator.sent = count .written ticks
  enobufs : generator.enobufs = count .noBuffers ticks
  sendErrors : generator.sendErrors = count .failed ticks

/-- What the timer has reported has been paid for or is still owed. -/
def Owes (generator : Generator) (paid expired : Nat) : Prop :=
  match generator.phase with
  | .waiting => paid = expired ∧ paid < generator.config.total.toNat
  | .paying left =>
      left ≠ 0 ∧ paid + left.toNat = expired ∧ paid < generator.config.total.toNat
  | .ended => paid = min expired generator.config.total.toNat

/-! ## One turn -/

section

variable {config : Config} {generator : Generator} {done : List Tick} {tick : Tick}

theorem errors_concat : errors config (done ++ [tick]) =
    errors config done ++
      [tick.now.toInt64.toInt - (config.ideal (UInt64.ofNat done.length)).toInt64.toInt] := by
  simp [errors, List.mapIdx_append]

theorem frames_concat : frames config (done ++ [tick]) =
    frames config done ++
      if tick.result = .written then [config.canFrame (UInt64.ofNat done.length) tick.now]
      else [] := by
  simp [frames, List.mapIdx_append]

theorem count_concat (result : WriteResult) : count result (done ++ [tick]) =
    if tick.result = result then count result done + 1 else count result done := by
  simp only [count, List.countP_append, List.countP_singleton]
  split <;> simp_all

theorem Follows.owe (follows : generator.Follows config done) (left : UInt64) :
    (generator.owe left).Follows config done := by
  cases follows
  constructor <;> assumption

theorem Follows.pay (follows : generator.Follows config done)
    (room : done.length < config.total.toNat) {after : Generator}
    (paid : generator.pay tick.now tick.result = some after) :
    after.Follows config (done ++ [tick]) := by
  rcases follows with ⟨same, few, k, inRange, jitter, bus, sent, enobufs, sendErrors⟩
  rcases Option.map_eq_some_iff.mp paid with ⟨error, subtracted, rfl⟩
  rcases checkedSub_eq_some.mp subtracted with ⟨fits, rfl⟩
  rw [k, same] at fits
  have next : UInt64.ofNat done.length + 1 = UInt64.ofNat (done.length + 1) := by simp
  constructor
  · cases result : tick.result <;> exact same
  · rw [List.length_append]
    exact room
  · rw [List.length_append, List.length_singleton, ← next, ← k]
    cases result : tick.result <;> rfl
  · rw [errors_concat]
    intro error member
    rcases List.mem_append.mp member with old | new
    · exact inRange error old
    · rw [List.mem_singleton.mp new]
      exact fits
  · rw [errors_concat, List.map_append, List.map_singleton, Samples.addAll_concat, ← jitter,
      ← k, ← same]
    cases result : tick.result <;> rfl
  · rw [frames_concat, ← bus, ← k, ← same]
    cases result : tick.result <;> simp [Generator.send]
  · rw [count_concat, ← sent]
    cases result : tick.result <;> rfl
  · rw [count_concat, ← enobufs]
    cases result : tick.result <;> rfl
  · rw [count_concat, ← sendErrors]
    cases result : tick.result <;> rfl

theorem ticks_concat (events : List Event) (event : Event) :
    ticks (events ++ [event]) = ticks events ++ ticks [event] :=
  List.filterMap_append

theorem expired_concat (events : List Event) (event : Event) :
    expired (events ++ [event]) = expired events + expired [event] := by
  simp [expired]

theorem Follows.owes (follows : generator.Follows config done) {left : UInt64} {expired : Nat}
    (balance : done.length + left.toNat = expired) :
    (generator.owe left).Owes done.length expired := by
  have small : done.length < UInt64.size :=
    Nat.lt_of_le_of_lt follows.few config.total.toNat_lt
  have paid : generator.k.toNat = done.length := by
    rw [follows.k, UInt64.toNat_ofNat', Nat.mod_eq_of_lt small]
  have few := follows.few
  unfold Generator.Owes Generator.owe
  rw [follows.same]
  dsimp only
  by_cases all : config.total ≤ generator.k
  · rw [if_pos all]
    rw [UInt64.le_iff_toNat_le, paid] at all
    dsimp only
    omega
  · rw [if_neg all]
    rw [UInt64.le_iff_toNat_le, paid] at all
    by_cases none : left = 0
    · rw [if_pos none]
      rw [none] at balance
      exact ⟨balance, Nat.not_le.mp all⟩
    · rw [if_neg none]
      exact ⟨none, balance, Nat.not_le.mp all⟩

theorem follows_of_run {first : Generator} {events : List Event}
    (begun : begin config = some first)
    (ran : (system config).run first events = some generator) :
    generator.Follows config (ticks events) ∧
      generator.Owes (ticks events).length (expired events) := by
  induction events using List.reverseRecOn generalizing generator with
  | nil =>
      unfold begin at begun
      split at begun
      · cases begun
        cases ran
        have follows : Follows { config := config, phase := .waiting } config [] := by
          exact ⟨rfl, Nat.zero_le _, rfl, fun _ member => (nomatch member), rfl, rfl, rfl, rfl, rfl⟩
        exact ⟨follows.owe 0, follows.owes rfl⟩
      · cases begun
  | append_singleton events event induction =>
      rw [System.run_append] at ran
      rcases Option.bind_eq_some_iff.mp ran with ⟨middle, before, last⟩
      rcases Option.bind_eq_some_iff.mp last with ⟨after, stepped, same⟩
      cases same
      rcases induction before with ⟨follows, owes⟩
      rw [ticks_concat, expired_concat]
      change middle.step event = some generator at stepped
      unfold Generator.step at stepped
      unfold Generator.Owes at owes
      split at stepped
      · rename_i waiting
        cases stepped
        rw [waiting] at owes
        rw [show ticks [_] = [] from rfl, List.append_nil]
        refine ⟨follows.owe _, follows.owes ?_⟩
        rw [owes.1]
        simp [expired]
      · rename_i waiting
        cases stepped
        rw [waiting] at owes
        rw [show ticks [_] = [] from rfl, List.append_nil]
        unfold Generator.Owes
        rw [waiting]
        exact ⟨follows, owes⟩
      · rename_i waiting
        cases stepped
        rw [waiting] at owes
        rw [show ticks [_] = [] from rfl, List.append_nil]
        refine ⟨⟨follows.same, follows.few, follows.k, follows.inRange, follows.jitter,
          follows.bus, follows.sent, follows.enobufs, follows.sendErrors⟩, ?_⟩
        change _ = min (expired events) _
        dsimp only
        omega
      · rename_i left now result paying
        rcases Option.map_eq_some_iff.mp stepped with ⟨payer, pays, rfl⟩
        rw [paying] at owes
        rcases owes with ⟨some, balance, room⟩
        rw [follows.same] at room
        have paid := @Follows.pay _ _ _ ⟨now, result⟩ follows room _ pays
        refine ⟨paid.owe _, paid.owes ?_⟩
        have positive : 0 < left.toNat :=
          Nat.pos_of_ne_zero fun zero => some (UInt64.toNat_inj.mp zero)
        have one : (1 : UInt64) ≤ left := UInt64.le_iff_toNat_le.mpr positive
        have nothing : expired [.tick now result] = 0 := rfl
        rw [UInt64.toNat_sub_of_le _ _ one, List.length_append, nothing, ← balance]
        change (ticks events).length + 1 + (left.toNat - 1) = _
        omega
      · cases stepped

/-- A run of the loop: every expiration of the timer is paid for with a tick in its
place of the schedule, until there are as many as were asked for. -/
theorem schedule_of_run {first : Generator} {events : List Event}
    (begun : begin config = some first)
    (ran : (system config).run first events = some generator) :
    generator.Follows config (ticks events) ∧
      generator.Owes (ticks events).length (expired events) :=
  follows_of_run begun ran

def late : Config where
  rate := 3
  seconds := 1
  start := 1000

def lateEvents : List Event :=
  [.read (.expired 1), .tick 1010 .written, .read .interrupted, .read (.expired 4),
    .tick 700000000 .noBuffers, .tick 700000020 .written]

theorem schedule_of_run_late :
    ∃ first generator, begin late = some first ∧
      (system late).run first lateEvents = some generator ∧
      generator.Follows late (ticks lateEvents) ∧
      generator.Owes (ticks lateEvents).length (expired lateEvents) :=
  ⟨_, _, rfl, rfl, schedule_of_run rfl rfl⟩

end

end Generator

end TelemetryGateway
