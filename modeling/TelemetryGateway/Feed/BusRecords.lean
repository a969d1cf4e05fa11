import Mathlib.Data.List.Forall2
import TelemetryGateway.Feed.SyntheticSource
import TelemetryGateway.Ring.Cells

/-! # From the bus to the wire

What a source makes of a raw frame reaches a consumer as a record, and never as
a control record. On the way only its sequence changes. -/

namespace TelemetryGateway

/-! ## On the way -/

/-- What a frame is when it comes to be encoded: stamped by the fan-out, or
copied through the words of a ring cell. -/
inductive Carried : Frame → Frame → Prop
  | fanOut (base : UInt64) (batch : List BusFrame) (index : Nat) (frame : BusFrame) (out : Frame)
      (drained : batch[index]? = some frame) (stamped : (FanOut.stamp base batch)[index]? = some out) :
      Carried frame.val out
  | ring (ticket : BroadcastRing.Ticket) : Carried ticket.frame (Frame.ofWords ticket.words)

theorem Carried.exists_seq {frame out : Frame} (carried : Carried frame out) :
    ∃ seq, out = { frame with seq := seq } := by
  cases carried with
  | fanOut base batch index frame out drained stamped =>
      rw [FanOut.stamp, List.getElem?_mapIdx, drained] at stamped
      exact ⟨_, (Option.some_inj.mp stamped).symm⟩
  | ring ticket =>
      rw [ticket.words_eq_stored, Frame.ofWords_toWords]
      exact ⟨_, rfl⟩

/-! ## What a record says of a raw frame -/

structure Intact (raw : CanFrame) (frame : Frame) : Prop where
  ordinary : Wire.isControl frame = false
  flagsDefined : frame.flags &&& FrameFlags.kReservedMask = 0
  short : frame.len.toNat ≤ kMaxPayload
  unreserved : frame.reserved = 0
  len : frame.len.toNat = min raw.canDlc.toNat kMaxPayload
  data : ∀ index : Fin 8, frame.data.get index =
    if index.val < frame.len.toNat then raw.data.get index else 0

/-- The flags and the identifier are those of the raw frame as well. -/
structure Mirrors (raw : CanFrame) (frame : Frame) : Prop where
  extended : frame.flags &&& FrameFlags.kExtendedId ≠ 0 ↔ raw.canId &&& canEffFlag ≠ 0
  remote : frame.flags &&& FrameFlags.kRemote ≠ 0 ↔ raw.canId &&& canRtrFlag ≠ 0
  error : frame.flags &&& FrameFlags.kError ≠ 0 ↔ raw.canId &&& canErrFlag ≠ 0
  canId : frame.canId.toNat =
    raw.canId.toNat % 2 ^ (if raw.canId &&& canEffFlag ≠ 0 then 29 else 11)

/-- However the frame is carried, a consumer decodes the record it is encoded
in, and finds the raw frame in it. -/
def Reaches (holds : CanFrame → Frame → Prop) (raw : CanFrame) (frame : Frame) : Prop :=
  ∀ out, Carried frame out →
    (∀ (buffer : Wire.FrameBytes) (initial : Frame),
      Wire.decodeFrame (Wire.encodeFrame out buffer.val) initial = (.kOk, out)) ∧
    Intact raw out ∧ holds raw out

section

variable {raw : CanFrame} {frame out : Frame}

theorem get_ofFn (entry : Fin 8 → UInt8) (index : Fin 8) :
    (Vector.ofFn entry).get index = entry index := by
  simp only [Vector.get, Vector.toArray_ofFn, Array.getElem_ofFn]
  rfl

theorem Intact.resequence (intact : Intact raw frame) (seq : UInt64) :
    Intact raw { frame with seq := seq } :=
  ⟨intact.ordinary, intact.flagsDefined, intact.short, intact.unreserved, intact.len, intact.data⟩

theorem Mirrors.resequence (mirrors : Mirrors raw frame) (seq : UInt64) :
    Mirrors raw { frame with seq := seq } :=
  ⟨mirrors.extended, mirrors.remote, mirrors.error, mirrors.canId⟩

theorem Intact.reaches {holds : CanFrame → Frame → Prop} (intact : Intact raw frame)
    (said : ∀ seq, holds raw { frame with seq := seq }) : Reaches holds raw frame := by
  intro out carried
  rcases carried.exists_seq with ⟨seq, rfl⟩
  have same := intact.resequence seq
  refine ⟨?_, same, said seq⟩
  intro buffer initial
  rw [Wire.encodeFrame_eq]
  exact Wire.decodeFrame_recordBytes _ initial same.flagsDefined same.short

end

/-! ## Frames of the bus -/

namespace CanSource

theorem translateFlags_mirrors (id : UInt32) :
    (translateFlags id &&& FrameFlags.kExtendedId ≠ 0 ↔ id &&& canEffFlag ≠ 0) ∧
      (translateFlags id &&& FrameFlags.kRemote ≠ 0 ↔ id &&& canRtrFlag ≠ 0) ∧
      (translateFlags id &&& FrameFlags.kError ≠ 0 ↔ id &&& canErrFlag ≠ 0) ∧
      translateFlags id &&& FrameFlags.kReservedMask = 0 := by
  by_cases extended : id &&& canEffFlag = 0 <;> by_cases remote : id &&& canRtrFlag = 0 <;>
    by_cases error : id &&& canErrFlag = 0 <;>
    simp only [translateFlags, extended, remote, error, ne_eq, not_true_eq_false,
      not_false_eq_true, if_true, if_false] <;> decide

theorem toNat_and_canEffMask (id : UInt32) : (id &&& canEffMask).toNat = id.toNat % 2 ^ 29 := by
  rw [UInt32.toNat_and]
  exact Nat.and_two_pow_sub_one_eq_mod id.toNat 29

theorem toNat_and_canSffMask (id : UInt32) : (id &&& canSffMask).toNat = id.toNat % 2 ^ 11 := by
  rw [UInt32.toNat_and]
  exact Nat.and_two_pow_sub_one_eq_mod id.toNat 11

theorem normalise_mirrors (source : CanSource) (raw : CanFrame) (tKernel tIngest : UInt64) :
    Mirrors raw (source.normalise raw tKernel tIngest) := by
  rcases translateFlags_mirrors raw.canId with ⟨extended, remote, error, _⟩
  constructor
  case extended => exact extended
  case remote => exact remote
  case error => exact error
  case canId =>
    simp only [normalise, extended]
    split
    · exact toNat_and_canEffMask raw.canId
    · exact toNat_and_canSffMask raw.canId

theorem normalise_intact (source : CanSource) (raw : CanFrame) (tKernel tIngest : UInt64) :
    Intact raw (source.normalise raw tKernel tIngest) := by
  have clamped : (source.normalise raw tKernel tIngest).len.toNat =
      min raw.canDlc.toNat kMaxPayload := by
    simp only [normalise]
    split
    · rename_i long
      exact (Nat.min_eq_right (Nat.le_of_lt long)).symm
    · rename_i short
      exact (Nat.min_eq_left (Nat.not_lt.mp short)).symm
  constructor
  case ordinary => exact isControl_normalise ..
  case flagsDefined => exact (translateFlags_mirrors raw.canId).2.2.2
  case short => rw [clamped]; exact Nat.min_le_right ..
  case unreserved => rfl
  case len => exact clamped
  case data =>
    intro index
    exact get_ofFn _ index

/-- What has been handed over by one `recvmmsg`. -/
def handedOver : Received UInt32 → List (Message UInt32)
  | .failed _ => []
  | .messages messages => messages

theorem receiveAll_normalised (source : CanSource) (tIngest : UInt64)
    (messages : List (Message UInt32)) :
    List.Forall₂
      (fun message frame => ∃ (asWas : CanSource) (tKernel : UInt64),
        frame = asWas.normalise message.raw tKernel tIngest)
      (messages.filter isWellFormed) (source.receiveAll tIngest messages).2 := by
  induction messages generalizing source with
  | nil => exact List.Forall₂.nil
  | cons message messages induction =>
      have rest := induction (source.receive tIngest message).1
      have split : (source.receiveAll tIngest (message :: messages)).2 =
          (source.receive tIngest message).2 ++
            ((source.receive tIngest message).1.receiveAll tIngest messages).2 := rfl
      rw [split]
      by_cases short : message.msgLen < canFrameSize
      · have passedOver : (source.receive tIngest message).2 = [] := by
          rw [receive, if_pos short]
        have malformed : ¬ isWellFormed message := by simpa [isWellFormed] using short
        rw [List.filter_cons_of_neg malformed, passedOver, List.nil_append]
        exact rest
      · have taken : (source.receive tIngest message).2 =
            [(source.readControls 0 message.control).1.normalise message.raw
              (source.readControls 0 message.control).2 tIngest] := by
          rw [receive, if_neg short]
        have wellFormed : isWellFormed message := by simpa [isWellFormed] using short
        rw [List.filter_cons_of_pos wellFormed, taken, List.singleton_append]
        exact List.Forall₂.cons ⟨_, _, rfl⟩ rest

theorem drain_reaches (source : CanSource) (size : Nat) (received : Received UInt32)
    (tIngest : UInt64) :
    List.Forall₂ (fun message frame => Reaches Mirrors message.raw frame)
      (((handedOver received).take (min size kBatch)).filter isWellFormed)
      (source.drain size received tIngest).2 := by
  have each : ∀ messages : List (Message UInt32), List.Forall₂
      (fun message frame => Reaches Mirrors message.raw frame)
      (messages.filter isWellFormed) (source.receiveAll tIngest messages).2 := by
    intro messages
    apply (receiveAll_normalised source tIngest messages).imp
    rintro message frame ⟨asWas, tKernel, rfl⟩
    apply (normalise_intact asWas message.raw tKernel tIngest).reaches
    exact (normalise_mirrors asWas message.raw tKernel tIngest).resequence
  by_cases nothing : min size kBatch = 0
  · simp [drain, nothing]
  · cases received with
    | failed wouldBlock => simp [drain, nothing, handedOver]
    | messages messages =>
        simp only [drain, if_neg nothing]
        exact each _

end CanSource

/-! ## Generated frames -/

namespace SyntheticSource

def rawAt (source : SyntheticSource) (counter : UInt64) : CanFrame where
  canId := source.canIdAt counter
  canDlc := 8
  data := payload counter

def raws (source : SyntheticSource) : Nat → UInt64 → List CanFrame
  | 0, _ => []
  | want + 1, counter => source.rawAt counter :: source.raws want (counter + 1)

/-- No flag is set, and the identifier is the configured one. -/
structure Generated (raw : CanFrame) (frame : Frame) : Prop where
  flags : frame.flags = 0
  canId : frame.canId = raw.canId

theorem frameAt_intact (source : SyntheticSource) (tKernel tIngest counter : UInt64) :
    Intact (source.rawAt counter) (source.frameAt tKernel tIngest counter) := by
  constructor
  case ordinary => exact isControl_frameAt ..
  case flagsDefined =>
    change (0 : UInt8) &&& FrameFlags.kReservedMask = 0
    decide
  case short => exact Nat.le_refl 8
  case unreserved => rfl
  case len => rfl
  case data => exact fun index => (if_pos index.isLt).symm

theorem and_flag_eq_zero {id flag : UInt32} (small : id.toNat < 2 ^ 11)
    (high : flag.toNat % 2 ^ 11 = 0) : id &&& flag = 0 := by
  have below : (id &&& flag).toNat < 2 ^ 11 := by
    rw [UInt32.toNat_and]
    exact Nat.lt_of_le_of_lt Nat.and_le_left small
  have cleared : (id &&& flag).toNat % 2 ^ 11 = 0 := by
    rw [UInt32.toNat_and, Nat.and_mod_two_pow, high, Nat.and_zero]
  rw [Nat.mod_eq_of_lt below] at cleared
  exact UInt32.toNat_inj.mp cleared

theorem frameAt_mirrors {source : SyntheticSource} (standard : source.cfg.Standard)
    (tKernel tIngest counter : UInt64) :
    Mirrors (source.rawAt counter) (source.frameAt tKernel tIngest counter) := by
  have small := standard _ (source.canIdAt_mem counter)
  have extended : source.canIdAt counter &&& canEffFlag = 0 := and_flag_eq_zero small (by decide)
  have remote : source.canIdAt counter &&& canRtrFlag = 0 := and_flag_eq_zero small (by decide)
  have error : source.canIdAt counter &&& canErrFlag = 0 := and_flag_eq_zero small (by decide)
  constructor
  case extended => simp [frameAt, rawAt, extended]
  case remote => simp [frameAt, rawAt, remote]
  case error => simp [frameAt, rawAt, error]
  case canId =>
    rw [rawAt, if_neg (not_not.mpr extended)]
    exact (Nat.mod_eq_of_lt small).symm

theorem fill_reaches {holds : CanFrame → Frame → Prop} {source : SyntheticSource}
    {tKernel tIngest : UInt64}
    (held : ∀ counter seq, holds (source.rawAt counter)
      { source.frameAt tKernel tIngest counter with seq := seq })
    (want : Nat) (counter : UInt64) :
    List.Forall₂ (Reaches holds) (source.raws want counter)
      (source.fill tKernel tIngest want counter) := by
  induction want generalizing counter with
  | zero => exact List.Forall₂.nil
  | succ want induction =>
      apply List.Forall₂.cons
      · exact (source.frameAt_intact tKernel tIngest counter).reaches (held counter)
      · exact induction (counter + 1)

section

variable (source : SyntheticSource) (size : Nat) (read : TimerRead) (tKernel tIngest : UInt64)

theorem drain_eq_fill :
    (source.drain size read tKernel tIngest).2 =
      source.fill tKernel tIngest (source.owed size read) source.counter := by
  have same : ∀ want counter, (source.readTimer read).fill tKernel tIngest want counter =
      source.fill tKernel tIngest want counter := by
    intro want
    induction want with
    | zero => exact fun _ => rfl
    | succ want induction =>
        intro counter
        rw [fill, fill, induction]
        cases read <;> rfl
  have kept : (source.readTimer read).counter = source.counter := by cases read <;> rfl
  simp only [drain, same, kept, owed_eq]

theorem drain_reaches :
    List.Forall₂ (Reaches Generated) (source.raws (source.owed size read) source.counter)
      (source.drain size read tKernel tIngest).2 := by
  rw [drain_eq_fill]
  exact @fill_reaches Generated source tKernel tIngest (fun _ _ => ⟨rfl, rfl⟩) _ _

theorem drain_mirrors (standard : source.cfg.Standard) :
    List.Forall₂ (Reaches Mirrors) (source.raws (source.owed size read) source.counter)
      (source.drain size read tKernel tIngest).2 := by
  rw [drain_eq_fill]
  apply fill_reaches
  exact fun counter => (frameAt_mirrors standard tKernel tIngest counter).resequence

/-- A generated frame without flags that mirrors its identifier has one of eleven
bits. -/
theorem canId_of_reaches {counter : UInt64}
    (reaches : Reaches Mirrors (source.rawAt counter) (source.frameAt tKernel tIngest counter)) :
    (source.canIdAt counter).toNat < 2 ^ 11 := by
  have carried : Carried (source.frameAt tKernel tIngest counter) _ :=
    .ring { pos := 0, frame := source.frameAt tKernel tIngest counter, rest := [] }
  rcases carried.exists_seq with ⟨seq, same⟩
  have mirrors := (reaches _ carried).2.2
  rw [same] at mirrors
  have noFlag : (0 : UInt8) &&& FrameFlags.kExtendedId = 0 := by decide
  have unextended : ¬ (source.rawAt counter).canId &&& canEffFlag ≠ 0 :=
    fun extended => mirrors.extended.mpr extended noFlag
  have canId := mirrors.canId
  rw [if_neg unextended] at canId
  change (source.canIdAt counter).toNat = (source.canIdAt counter).toNat % 2 ^ 11 at canId
  rw [canId]
  exact Nat.mod_lt _ (Nat.two_pow_pos 11)

end

/-! ### Every identifier has its turn -/

section

variable {cfg : Config} {source : SyntheticSource}

theorem owed_one (ticks : source.cfg.framesPerTick ≠ 0) :
    ∃ read, source.owed 1 read = 1 := by
  by_cases nothing : source.pending = 0
  · refine ⟨.expirations 1, Nat.min_eq_left ?_⟩
    have some : source.pending + 1 * source.cfg.framesPerTick.toUInt64 ≠ 0 := by
      rw [nothing, UInt64.zero_add, UInt64.one_mul]
      intro zero
      exact ticks (UInt32.toNat_inj.mp (congrArg UInt64.toNat zero))
    exact Nat.pos_of_ne_zero fun zero => some (UInt64.toNat_inj.mp zero)
  · refine ⟨.notYet, Nat.min_eq_left ?_⟩
    exact Nat.pos_of_ne_zero fun zero => nothing (UInt64.toNat_inj.mp zero)

theorem cfg_drain (source : SyntheticSource) (size : Nat) (read : TimerRead)
    (tKernel tIngest : UInt64) : (source.drain size read tKernel tIngest).1.cfg = source.cfg := by
  cases read <;> rfl

theorem counter_drain (source : SyntheticSource) (size : Nat) (read : TimerRead)
    (tKernel tIngest : UInt64) : (source.drain size read tKernel tIngest).1.counter =
      source.counter + UInt64.ofNat (source.owed size read) := by
  simp only [drain, owed_eq]
  cases read <;> rfl

theorem openTimer_ok {timerfdCreate timerfdSettime : Except String Unit}
    (opened : openTimer cfg timerfdCreate timerfdSettime = .ok source) :
    source.cfg = cfg ∧ source.counter = 0 ∧ cfg.framesPerTick ≠ 0 := by
  unfold openTimer at opened
  split at opened
  · cases opened
  · split at opened
    · cases opened
    · rename_i ticks
      rcases timerfdCreate with _ | _
      · cases opened
      · rcases timerfdSettime with _ | _
        · cases opened
        · cases opened
          exact ⟨rfl, rfl, fun none => ticks (Or.inr none)⟩

theorem cfg_of_reachable (reached : (system cfg).Reachable source) : source.cfg = cfg := by
  refine reached.invariant (fun source => source.cfg = cfg) ?_ ?_
  · rintro source ⟨_, _, opened⟩
    exact (openTimer_ok opened).1
  · intro source call after _ _ same stepped
    cases stepped
    exact (cfg_drain ..).trans same

theorem counter_reached {timerfdCreate timerfdSettime : Except String Unit}
    (opened : openTimer cfg timerfdCreate timerfdSettime = .ok source) (count : Nat) :
    ∃ after, (system cfg).Reachable after ∧ after.counter = UInt64.ofNat count := by
  rcases openTimer_ok opened with ⟨_, fresh, ticks⟩
  induction count with
  | zero => exact ⟨source, .start ⟨_, _, opened⟩, fresh⟩
  | succ count induction =>
      rcases induction with ⟨before, reached, counter⟩
      rcases owed_one (cfg_of_reachable reached ▸ ticks : before.cfg.framesPerTick ≠ 0) with
        ⟨read, one⟩
      have drained : (system cfg).step before ⟨1, read, 0, 0⟩ = some _ := rfl
      refine ⟨_, reached.next trivial drained, ?_⟩
      rw [counter_drain, one, counter, UInt64.ofNat_add]

theorem drains_mirror_iff {timerfdCreate timerfdSettime : Except String Unit}
    (opened : openTimer cfg timerfdCreate timerfdSettime = .ok source) :
    (∀ source, (system cfg).Reachable source → ∀ size read tKernel tIngest,
      List.Forall₂ (Reaches Mirrors) (source.raws (source.owed size read) source.counter)
        (source.drain size read tKernel tIngest).2) ↔ cfg.Standard := by
  constructor
  · intro mirror id identifier
    rcases List.getElem_of_mem identifier with ⟨index, inside, rfl⟩
    rcases counter_reached opened index with ⟨before, reached, counter⟩
    have same := cfg_of_reachable reached
    rcases owed_one (same ▸ (openTimer_ok opened).2.2 : before.cfg.framesPerTick ≠ 0) with
      ⟨read, one⟩
    have drained := mirror before reached 1 read 0 0
    rw [drain_eq_fill, one] at drained
    rcases List.forall₂_cons.mp drained with ⟨first, _⟩
    have small := canId_of_reaches before 0 0 first
    have position : before.counter.toNat = index := by
      rw [counter]
      exact UInt64.toNat_ofNat_of_lt' (Nat.lt_trans inside cfg.sized)
    have turn : before.canIdAt before.counter = cfg.canIds[index] := by
      rw [canIdAt, position, same, Nat.mod_eq_of_lt inside, List.getD_eq_getElem?_getD,
        List.getElem?_eq_getElem inside]
      rfl
    rwa [turn] at small
  · intro standard source reached size read tKernel tIngest
    apply drain_mirrors
    rw [cfg_of_reachable reached]
    exact standard

end

end SyntheticSource

/-! ## Both sources -/

/-- Whatever a source drains reaches the consumers as records of bus frames: those
of the messages that were handed over and are not too short, one by one, and
those that are generated, as many as are owed. Flags and identifier are those of
the raw frame, for generated ones exactly when all the configured identifiers
have eleven bits: nothing checks or masks them, and no flag is ever set. -/
theorem bus_frames_reach_consumers_iff {cfg : SyntheticSource.Config}
    {timerfdCreate timerfdSettime : Except String Unit} {opened : SyntheticSource}
    (accepted : SyntheticSource.openTimer cfg timerfdCreate timerfdSettime = .ok opened) :
    (∀ (source : CanSource) (size : Nat) (received : Received UInt32) (tIngest : UInt64),
      List.Forall₂ (fun message frame => Reaches Mirrors message.raw frame)
        (((CanSource.handedOver received).take (min size CanSource.kBatch)).filter
          CanSource.isWellFormed)
        (source.drain size received tIngest).2) ∧
    (∀ (source : SyntheticSource) (size : Nat) (read : SyntheticSource.TimerRead)
      (tKernel tIngest : UInt64),
      List.Forall₂ (Reaches SyntheticSource.Generated)
        (source.raws (source.owed size read) source.counter)
        (source.drain size read tKernel tIngest).2) ∧
    ((∀ source, (SyntheticSource.system cfg).Reachable source → ∀ size read tKernel tIngest,
        List.Forall₂ (Reaches Mirrors) (source.raws (source.owed size read) source.counter)
          (source.drain size read tKernel tIngest).2) ↔
      cfg.Standard) :=
  ⟨CanSource.drain_reaches, SyntheticSource.drain_reaches,
    SyntheticSource.drains_mirror_iff accepted⟩

/-- The source the gateway makes for bus 1: one frame of two ticks, and then the
other with the next tick. -/
theorem bus_frames_reach_consumers_gatewaySource :
    ∃ source : SyntheticSource,
      SyntheticSource.openTimer (SyntheticSource.gatewayConfig 1 1000) (.ok ()) (.ok ()) =
        .ok source ∧
      (((source.drain 1 (.expirations 2) 5 6).1.drain 64 (.expirations 1) 7 8).2.map
        fun frame => (frame.canId, frame.srcId, frame.flags, frame.data.toList)) =
        [(0x200, 1, 0, [1, 0, 0, 0, 0, 0, 0, 0]), (0x300, 1, 0, [2, 0, 0, 0, 0, 0, 0, 0])] ∧
      List.Forall₂ (Reaches Mirrors)
        ((source.drain 1 (.expirations 2) 5 6).1.raws 2 1)
        ((source.drain 1 (.expirations 2) 5 6).1.drain 64 (.expirations 1) 7 8).2 := by
  have opened : SyntheticSource.openTimer (SyntheticSource.gatewayConfig 1 1000) (.ok ())
      (.ok ()) = .ok _ := rfl
  refine ⟨_, opened, by decide, ?_⟩
  have first := (System.ReachableUnder.start ⟨_, _, opened⟩ :
    (SyntheticSource.system (SyntheticSource.gatewayConfig 1 1000)).Reachable _)
  have second := first.next trivial
    (by rfl : (SyntheticSource.system (SyntheticSource.gatewayConfig 1 1000)).step _
      ⟨1, .expirations 2, 5, 6⟩ = some _)
  exact (bus_frames_reach_consumers_iff opened).2.2.mpr
    (SyntheticSource.gatewayConfig_standard 1 1000) _ second 64 (.expirations 1) 7 8

/-- An identifier of twelve bits goes out as it is, in a frame that claims eleven. -/
theorem identifier_past_eleven_bits :
    ∃ source, SyntheticSource.openTimer { canIds := [0x800] } (.ok ()) (.ok ()) = .ok source ∧
      ((source.drain 1 (.expirations 1) 0 0).2.map fun frame => (frame.canId, frame.flags)) =
        [(0x800, 0)] ∧
      ¬ List.Forall₂ (Reaches Mirrors) (source.raws 1 0)
        (source.drain 1 (.expirations 1) 0 0).2 := by
  refine ⟨_, rfl, by decide, ?_⟩
  intro reach
  rcases List.forall₂_cons.mp reach with ⟨first, _⟩
  exact absurd (SyntheticSource.canId_of_reaches _ 0 0 first) (by decide)

end TelemetryGateway
