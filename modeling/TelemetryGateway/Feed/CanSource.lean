import Mathlib.Data.List.Flatten
import TelemetryGateway.Feed.FanOut
import TelemetryGateway.Foundation.Successive

/-! # SocketCAN ingest

A drain takes what one `recvmmsg` hands over, reads the control messages of
each message and normalises its frame. The kernel reports how many frames it
has dropped on the socket as a cumulative 32-bit counter. -/

namespace TelemetryGateway

/-! ## What the kernel hands over -/

structure Timespec where
  tvSec : Int64
  tvNsec : Int64

def toNs (ts : Timespec) : UInt64 :=
  ts.tvSec.toUInt64 * 1000000000 + ts.tvNsec.toUInt64

/-- A control message. The drop counter is generic: the code sees 32 bits of
it. -/
inductive Control (counter : Type)
  /-- `ts[0]`, the software receive timestamp -/
  | timestamping (software : Timespec)
  | rxqOvfl (ovfl : counter)
  /-- of another level or type -/
  | other

structure CanFrame where
  canId : UInt32
  canDlc : UInt8
  data : Vector UInt8 8

def canFrameSize : Nat := 16

structure Message (counter : Type) where
  msgLen : Nat
  control : List (Control counter)
  raw : CanFrame

/-- What `recvmmsg` returns. -/
inductive Received (counter : Type)
  | failed (wouldBlock : Bool)
  | messages (messages : List (Message counter))

/-! ## Frames -/

def canEffFlag : UInt32 := 0x80000000
def canRtrFlag : UInt32 := 0x40000000
def canErrFlag : UInt32 := 0x20000000
def canSffMask : UInt32 := 0x000007FF
def canEffMask : UInt32 := 0x1FFFFFFF

def translateFlags (id : UInt32) : UInt8 :=
  let f : UInt8 := 0
  let f := if id &&& canEffFlag ≠ 0 then f ||| FrameFlags.kExtendedId else f
  let f := if id &&& canRtrFlag ≠ 0 then f ||| FrameFlags.kRemote else f
  if id &&& canErrFlag ≠ 0 then f ||| FrameFlags.kError else f

structure SourceStats where
  frames : UInt64 := 0
  kernelDrops : UInt64 := 0
  readErrors : UInt64 := 0
  malformed : UInt64 := 0
  deriving DecidableEq, Repr

structure CanSource where
  srcId : UInt8
  stats : SourceStats := {}
  lastOvfl : UInt32 := 0
  haveOvfl : Bool := false
  deriving DecidableEq, Repr

namespace CanSource

def kBatch : Nat := 64

def normalise (source : CanSource) (cf : CanFrame) (tKernel tIngest : UInt64) : Frame :=
  let flags := translateFlags cf.canId
  let mask := if flags &&& FrameFlags.kExtendedId ≠ 0 then canEffMask else canSffMask
  let len := if kMaxPayload < cf.canDlc.toNat then UInt8.ofNat kMaxPayload else cf.canDlc
  { seq := 0
    tKernelNs := tKernel
    tIngestNs := tIngest
    canId := cf.canId &&& mask
    srcId := source.srcId
    len := len
    flags := flags
    reserved := 0
    data := Vector.ofFn fun index => if index.val < len.toNat then cf.data.get index else 0 }

/-! ## The drain -/

def noteOvfl (source : CanSource) (ovfl : UInt32) : CanSource :=
  { source with
    stats := { source.stats with
      kernelDrops := if source.haveOvfl then
          source.stats.kernelDrops + (ovfl - source.lastOvfl).toUInt64
        else source.stats.kernelDrops }
    lastOvfl := ovfl
    haveOvfl := true }

/-- One turn of the control message loop, which also carries `t_kernel`. -/
def readControl (source : CanSource) (tKernel : UInt64) : Control UInt32 → CanSource × UInt64
  | .timestamping software => (source, toNs software)
  | .rxqOvfl ovfl => (source.noteOvfl ovfl, tKernel)
  | .other => (source, tKernel)

def readControls (source : CanSource) (tKernel : UInt64) :
    List (Control UInt32) → CanSource × UInt64
  | [] => (source, tKernel)
  | control :: controls =>
      let (source, tKernel) := source.readControl tKernel control
      source.readControls tKernel controls

def receive (source : CanSource) (tIngest : UInt64) (message : Message UInt32) :
    CanSource × List Frame :=
  if message.msgLen < canFrameSize then
    ({ source with stats := { source.stats with malformed := source.stats.malformed + 1 } }, [])
  else
    let (source, tKernel) := source.readControls 0 message.control
    (source, [source.normalise message.raw tKernel tIngest])

def receiveAll (source : CanSource) (tIngest : UInt64) :
    List (Message UInt32) → CanSource × List Frame
  | [] => (source, [])
  | message :: messages =>
      let (source, first) := source.receive tIngest message
      let (source, rest) := source.receiveAll tIngest messages
      (source, first ++ rest)

/-- `drain` into `size` frames, with what `recvmmsg` and the clock say. No more
messages are handed over than were asked for. -/
def drain (source : CanSource) (size : Nat) (received : Received UInt32) (tIngest : UInt64) :
    CanSource × List Frame :=
  let want := min size kBatch
  if want = 0 then (source, [])
  else
    match received with
    | .failed wouldBlock =>
        (if wouldBlock then source
          else { source with stats := { source.stats with
            readErrors := source.stats.readErrors + 1 } }, [])
    | .messages messages =>
        let (source, produced) := source.receiveAll tIngest (messages.take want)
        ({ source with stats := { source.stats with
            frames := source.stats.frames + UInt64.ofNat produced.length } }, produced)

/-! ## What is drained are bus frames -/

theorem isControl_normalise (source : CanSource) (cf : CanFrame) (tKernel tIngest : UInt64) :
    Wire.isControl (source.normalise cf tKernel tIngest) = false := by
  simp only [Wire.isControl, normalise, translateFlags]
  split <;> split <;> split <;> decide

theorem receive_bus (source : CanSource) (tIngest : UInt64) (message : Message UInt32) :
    ∀ frame ∈ (source.receive tIngest message).2, Wire.isControl frame = false := by
  intro frame member
  rw [receive] at member
  split at member
  · cases member
  · rw [List.mem_singleton.mp member]
    exact isControl_normalise ..

theorem length_receive_le (source : CanSource) (tIngest : UInt64) (message : Message UInt32) :
    (source.receive tIngest message).2.length ≤ 1 := by
  rw [receive]
  split
  · exact Nat.zero_le _
  · exact Nat.le_refl _

theorem receiveAll_bus (source : CanSource) (tIngest : UInt64) (messages : List (Message UInt32)) :
    (source.receiveAll tIngest messages).2.length ≤ messages.length ∧
      ∀ frame ∈ (source.receiveAll tIngest messages).2, Wire.isControl frame = false := by
  induction messages generalizing source with
  | nil => exact ⟨Nat.le_refl _, fun _ member => nomatch member⟩
  | cons message messages induction =>
      rcases induction (source.receive tIngest message).1 with ⟨shorter, bus⟩
      have single := length_receive_le source tIngest message
      constructor
      · rw [receiveAll, List.length_append, List.length_cons]
        omega
      · intro frame member
        rcases List.mem_append.mp member with first | rest
        · exact receive_bus source tIngest message frame first
        · exact bus frame rest

/-- A drain returns what the fan-out takes for one: bus frames, no more than its
buffer holds. -/
theorem drain_bus (source : CanSource) (size : Nat) (received : Received UInt32)
    (tIngest : UInt64) :
    (source.drain size received tIngest).2.length ≤ min size kBatch ∧
      ∀ frame ∈ (source.drain size received tIngest).2, Wire.isControl frame = false := by
  simp only [drain]
  split
  · exact ⟨Nat.zero_le _, fun _ member => nomatch member⟩
  · cases received with
    | failed wouldBlock => exact ⟨Nat.zero_le _, fun _ member => nomatch member⟩
    | messages messages =>
        rcases receiveAll_bus source tIngest (messages.take (min size kBatch)) with
          ⟨shorter, bus⟩
        refine ⟨Nat.le_trans shorter ?_, bus⟩
        rw [List.length_take]
        exact Nat.min_le_left ..

/-! ## Reports of the drop counter -/

/-- What the counters of the control messages say. -/
def reportsOf (control : List (Control counter)) : List counter :=
  control.filterMap fun
    | .rxqOvfl ovfl => some ovfl
    | .timestamping _ => none
    | .other => none

/-- The reports of messages, of the malformed ones too. -/
def reports (messages : List (Message counter)) : List counter :=
  messages.flatMap fun message => reportsOf message.control

def isWellFormed (message : Message counter) : Bool :=
  canFrameSize ≤ message.msgLen

def counted (messages : List (Message counter)) : List counter :=
  reports (messages.filter isWellFormed)

theorem readControls_eq (source : CanSource) (tKernel : UInt64) (control : List (Control UInt32)) :
    (source.readControls tKernel control).1 = (reportsOf control).foldl noteOvfl source := by
  induction control generalizing source tKernel with
  | nil => rfl
  | cons first control induction =>
      rw [readControls, induction]
      cases first <;> rfl

structure DropCount where
  kernelDrops : UInt64
  lastOvfl : UInt32
  haveOvfl : Bool
  deriving DecidableEq

def dropCount (source : CanSource) : DropCount where
  kernelDrops := source.stats.kernelDrops
  lastOvfl := source.lastOvfl
  haveOvfl := source.haveOvfl

def DropCount.note (count : DropCount) (ovfl : UInt32) : DropCount where
  kernelDrops := if count.haveOvfl then count.kernelDrops + (ovfl - count.lastOvfl).toUInt64
    else count.kernelDrops
  lastOvfl := ovfl
  haveOvfl := true

theorem dropCount_foldl (source : CanSource) (ovfls : List UInt32) :
    (ovfls.foldl noteOvfl source).dropCount = ovfls.foldl DropCount.note source.dropCount := by
  induction ovfls generalizing source with
  | nil => rfl
  | cons ovfl ovfls induction => exact induction (source.noteOvfl ovfl)

theorem dropCount_receive (source : CanSource) (tIngest : UInt64) (message : Message UInt32) :
    (source.receive tIngest message).1.dropCount =
      (counted [message]).foldl DropCount.note source.dropCount := by
  rw [receive]
  by_cases short : message.msgLen < canFrameSize
  · have malformed : isWellFormed message = false := decide_eq_false (Nat.not_le.mpr short)
    rw [if_pos short, counted, List.filter_singleton, malformed]
    rfl
  · have fine : isWellFormed message = true := decide_eq_true (Nat.not_lt.mp short)
    rw [if_neg short, counted, List.filter_singleton, fine, Bool.cond_true, reports,
      List.flatMap_singleton, ← dropCount_foldl, ← readControls_eq source 0]

theorem counted_cons (message : Message counter) (messages : List (Message counter)) :
    counted (message :: messages) = counted [message] ++ counted messages := by
  rw [counted, counted, counted, List.filter_cons, List.filter_singleton]
  cases isWellFormed message
  · rfl
  · simp [reports]

theorem dropCount_receiveAll (source : CanSource) (tIngest : UInt64)
    (messages : List (Message UInt32)) :
    (source.receiveAll tIngest messages).1.dropCount =
      (counted messages).foldl DropCount.note source.dropCount := by
  induction messages generalizing source with
  | nil => rfl
  | cons message messages induction =>
      rw [receiveAll, counted_cons, List.foldl_append, ← dropCount_receive source tIngest]
      exact induction _

/-! ## A sequence of drains -/

structure Call (counter : Type) where
  size : Nat
  received : Received counter
  tIngest : UInt64

/-- The messages that the call processes. -/
def Call.processed (call : Call counter) : List (Message counter) :=
  match call.received with
  | .failed _ => []
  | .messages messages => messages.take (min call.size kBatch)

def processed (calls : List (Call counter)) : List (Message counter) :=
  calls.flatMap Call.processed

def drainAll (source : CanSource) (calls : List (Call UInt32)) : CanSource :=
  calls.foldl (fun source call => (source.drain call.size call.received call.tIngest).1) source

theorem dropCount_drain (source : CanSource) (call : Call UInt32) :
    (source.drain call.size call.received call.tIngest).1.dropCount =
      (counted call.processed).foldl DropCount.note source.dropCount := by
  simp only [drain, Call.processed]
  by_cases nothing : min call.size kBatch = 0
  · rw [if_pos nothing, nothing]
    cases call.received <;> rfl
  · rw [if_neg nothing]
    cases call.received with
    | failed wouldBlock => cases wouldBlock <;> rfl
    | messages messages => exact dropCount_receiveAll source call.tIngest _

theorem counted_append (left right : List (Message counter)) :
    counted (left ++ right) = counted left ++ counted right := by
  rw [counted, List.filter_append, reports, List.flatMap_append]
  rfl

theorem dropCount_drainAll (source : CanSource) (calls : List (Call UInt32)) :
    (source.drainAll calls).dropCount =
      (counted (processed calls)).foldl DropCount.note source.dropCount := by
  induction calls generalizing source with
  | nil => rfl
  | cons call calls induction =>
      rw [processed, List.flatMap_cons, counted_append, List.foldl_append, ← dropCount_drain]
      exact induction _

/-! ## The kernel's own counter

It never wraps; of it the code sees the low 32 bits. -/

def deliverControl : Control Nat → Control UInt32
  | .timestamping software => .timestamping software
  | .rxqOvfl total => .rxqOvfl (UInt32.ofNat total)
  | .other => .other

def deliverMessage (message : Message Nat) : Message UInt32 where
  msgLen := message.msgLen
  control := message.control.map deliverControl
  raw := message.raw

def Call.deliver (call : Call Nat) : Call UInt32 where
  size := call.size
  received := match call.received with
    | .failed wouldBlock => .failed wouldBlock
    | .messages messages => .messages (messages.map deliverMessage)
  tIngest := call.tIngest

theorem counted_deliver (messages : List (Message Nat)) :
    counted (messages.map deliverMessage) = (counted messages).map UInt32.ofNat := by
  induction messages with
  | nil => rfl
  | cons message messages induction =>
      rw [List.map_cons, counted_cons, counted_cons message, List.map_append, induction]
      refine congrArg (· ++ _) ?_
      have same : isWellFormed (deliverMessage message) = isWellFormed message := rfl
      rw [counted, counted, List.filter_singleton, List.filter_singleton, same]
      cases isWellFormed message with
      | false => rfl
      | true =>
          simp only [Bool.cond_true, reports, List.flatMap_singleton, deliverMessage, reportsOf,
            List.filterMap_map, List.map_filterMap]
          refine List.filterMap_congr fun control _ => ?_
          cases control <;> rfl

theorem processed_deliver (calls : List (Call Nat)) :
    processed (calls.map Call.deliver) = (processed calls).map deliverMessage := by
  rw [processed, processed, List.flatMap_map, List.map_flatMap]
  refine List.flatMap_congr fun call _ => ?_
  simp only [Call.processed, Call.deliver]
  cases call.received with
  | failed wouldBlock => rfl
  | messages messages => exact List.map_take.symm

/-! ## What is made of the reports -/

def DropCount.after (totals : List Nat) : DropCount where
  kernelDrops := UInt64.ofNat (SampledCounter.gained (2 ^ 32) totals)
  lastOvfl := UInt32.ofNat (totals.getLast?.getD 0)
  haveOvfl := totals.getLast?.isSome

theorem toUInt64_sub_ofNat {earlier later : Nat} (ascending : earlier ≤ later) :
    (UInt32.ofNat later - UInt32.ofNat earlier).toUInt64 =
      UInt64.ofNat ((later - earlier) % 2 ^ 32) := by
  apply UInt64.toNat_inj.mp
  rw [UInt32.toNat_toUInt64, UInt32.toNat_sub, UInt32.toNat_ofNat', UInt32.toNat_ofNat',
    UInt64.toNat_ofNat']
  omega

theorem DropCount.note_after {totals : List Nat} {total : Nat}
    (cumulative : (totals ++ [total]).IsChain fun earlier later => earlier ≤ later) :
    (DropCount.after totals).note (UInt32.ofNat total) = DropCount.after (totals ++ [total]) := by
  cases isLast : totals.getLast? with
  | none =>
      rw [List.getLast?_eq_none_iff.mp isLast]
      rfl
  | some last =>
      have ascending : last ≤ total :=
        (List.isChain_append.mp cumulative).2.2 last isLast total rfl
      simp only [DropCount.note, DropCount.after, isLast, Option.isSome_some, if_true,
        Option.getD_some, toUInt64_sub_ofNat ascending,
        SampledCounter.gained_concat (2 ^ 32) isLast, UInt64.ofNat_add, List.getLast?_concat]

theorem foldl_note (totals : List Nat)
    (cumulative : totals.IsChain fun earlier later => earlier ≤ later) :
    (totals.map UInt32.ofNat).foldl DropCount.note (DropCount.after []) =
      DropCount.after totals := by
  induction totals using List.reverseRecOn with
  | nil => rfl
  | append_singleton totals total induction =>
      rw [List.map_append, List.foldl_append, induction (List.isChain_append.mp cumulative).1]
      exact DropCount.note_after cumulative

/-- The reports that are read suffice for the total of the last one: the first
says 0, no two lie a whole turn of the counter apart, and the last is read. -/
structure Suffices (totals : List Nat) (total : Nat) : Prop where
  representable : total < 2 ^ 64
  fromZero : totals.head?.getD 0 = 0
  close : totals.IsChain fun earlier later => later < earlier + 2 ^ 32
  upToDate : totals.getLast?.getD 0 = total

theorem gained_eq_total_iff {totals : List Nat} {total : Nat}
    (cumulative : totals.IsChain fun earlier later => earlier ≤ later)
    (bounded : totals.getLast?.getD 0 ≤ total) :
    SampledCounter.gained (2 ^ 32) totals % 2 ^ 64 = total ↔ Suffices totals total := by
  cases totals with
  | nil =>
      constructor
      · rintro rfl
        exact ⟨by decide, rfl, List.isChain_nil, rfl⟩
      · exact fun enough => enough.upToDate
  | cons first rest =>
      have isLast : (first :: rest).getLast?.getD 0 =
          (first :: rest).getLast (List.cons_ne_nil _ _) := by
        rw [List.getLast?_eq_getLast_of_ne_nil (List.cons_ne_nil _ _)]
        rfl
      have most := @SampledCounter.gained_le (2 ^ 32) _ _ cumulative
      have all := @SampledCounter.gained_eq_iff (2 ^ 32) (by decide) _ _ cumulative
      rw [isLast] at bounded
      constructor
      · intro same
        have part := Nat.mod_le (SampledCounter.gained (2 ^ 32) (first :: rest)) (2 ^ 64)
        refine ⟨?_, ?_, all.mp (by omega), ?_⟩
        · rw [← same]
          exact Nat.mod_lt _ (by decide)
        · change first = 0
          omega
        · rw [isLast]
          omega
      · rintro ⟨representable, fromZero, close, upToDate⟩
        have sum := all.mpr close
        change first = 0 at fromZero
        rw [isLast] at upToDate
        rw [Nat.mod_eq_of_lt (by omega)]
        omega

/-! ## The drop counter -/

theorem counted_sublist (messages : List (Message counter)) :
    (counted messages).Sublist (reports messages) :=
  List.Sublist.flatMap List.filter_sublist _

theorem getLast_le_of_cumulative {totals : List Nat} {total other : Nat}
    (cumulative : totals.IsChain fun earlier later => earlier ≤ later)
    (isLast : totals.getLast? = some total) (member : other ∈ totals) : other ≤ total := by
  rcases List.getLast?_eq_some_iff.mp isLast with ⟨earlier, rfl⟩
  rcases List.mem_append.mp member with old | same
  · have pairwise := List.isChain_iff_pairwise.mp cumulative
    exact (List.pairwise_append.mp pairwise).2.2 other old total (List.mem_singleton.mpr rfl)
  · exact Nat.le_of_eq (List.mem_singleton.mp same)

/-- Drains on a fresh socket, the last message of which reports `total`. -/
theorem kernelDrops_iff_suffices (srcId : UInt8) (calls : List (Call Nat)) (total : Nat)
    (cumulative : (reports (processed calls)).IsChain fun earlier later => earlier ≤ later)
    {message : Message Nat} (last : (processed calls).getLast? = some message)
    (reported : (reportsOf message.control).getLast? = some total) :
    (drainAll { srcId := srcId } (calls.map Call.deliver)).stats.kernelDrops.toNat = total ↔
      Suffices (counted (processed calls)) total := by
  have sorted := List.isChain_iff_pairwise.mp cumulative
  have chain := List.isChain_iff_pairwise.mpr
    (sorted.sublist (counted_sublist (processed calls)))
  have count := dropCount_drainAll { srcId := srcId } (calls.map Call.deliver)
  rw [processed_deliver, counted_deliver,
    show dropCount { srcId := srcId } = DropCount.after [] from rfl, foldl_note _ chain] at count
  have drops := congrArg DropCount.kernelDrops count
  simp only [dropCount, DropCount.after] at drops
  have isLast : (reports (processed calls)).getLast? = some total := by
    rcases List.getLast?_eq_some_iff.mp last with ⟨earlier, split⟩
    rw [split, reports, List.flatMap_append, List.flatMap_singleton, List.getLast?_append,
      reported]
    rfl
  have bounded : (counted (processed calls)).getLast?.getD 0 ≤ total := by
    cases counts : (counted (processed calls)).getLast? with
    | none => exact Nat.zero_le _
    | some other =>
        refine getLast_le_of_cumulative cumulative isLast ?_
        exact (counted_sublist _).subset (List.mem_of_getLast? counts)
  rw [drops, UInt64.toNat_ofNat']
  exact gained_eq_total_iff chain bounded

def reporting (messages : List (Nat × Nat)) : Call Nat where
  size := 64
  received := .messages <| messages.map fun message =>
    { msgLen := message.1
      control := [.timestamping ⟨1, 500⟩, .rxqOvfl message.2]
      raw := { canId := 0x123, canDlc := 0, data := Vector.replicate 8 0 } }
  tIngest := 0

/-- A report of 0, one on a malformed message, and the counter past its turn. -/
theorem kernelDrops_across_turn :
    (drainAll { srcId := 0 } (([reporting [(16, 0), (8, 7)],
      reporting [(16, 2 ^ 32 - 1), (16, 2 ^ 32 + 4)]] : List (Call Nat)).map
        Call.deliver)).stats.kernelDrops.toNat = 2 ^ 32 + 4 :=
  (kernelDrops_iff_suffices 0
    [reporting [(16, 0), (8, 7)], reporting [(16, 2 ^ 32 - 1), (16, 2 ^ 32 + 4)]] (2 ^ 32 + 4)
    (by decide) rfl rfl).mpr ⟨by decide, rfl, by decide, rfl⟩

/-- The kernel dropped five frames before the first message got through. -/
theorem first_report_uncounted :
    (reports (processed [reporting [(16, 5)]])).IsChain
        (fun earlier later => earlier ≤ later ∧ later < earlier + 2 ^ 32) ∧
      reports (processed [reporting [(16, 5)]]) = [5] ∧
      (drainAll { srcId := 0 } ([reporting [(16, 5)]].map Call.deliver)).stats.kernelDrops = 0 ∧
      (drainAll { srcId := 0 }
        ([reporting [(16, 5)]].map Call.deliver)).stats.kernelDrops.toNat ≠ 5 :=
  ⟨List.isChain_singleton _, rfl, by decide, by decide⟩

end CanSource

end TelemetryGateway
