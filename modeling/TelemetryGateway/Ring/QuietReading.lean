import TelemetryGateway.Ring.ReadSafety

/-! # Reading while nothing is published

With every ticket published and no producer moving, a reader gets what the ring
still holds from its cursor on, and moves past the rest as missed. -/

namespace TelemetryGateway.BroadcastRing

namespace Core

/-- Every frame published so far as it is read. -/
def stream (core : Core geometry Producer) : List Frame :=
  core.issued.mapIdx fun pos entry => { entry.2 with seq := UInt64.ofNat pos }

theorem carries_iff {core : Core geometry Producer} {pos : Nat} {frame : Frame} :
    core.Carries pos frame ↔ core.stream[pos]? = some frame := by
  rw [stream, List.getElem?_mapIdx, Option.map_eq_some_iff]
  constructor
  · rintro ⟨producer, original, issued, rfl⟩
    exact ⟨(producer, original), issued, rfl⟩
  · rintro ⟨⟨producer, original⟩, issued, rfl⟩
    exact ⟨producer, original, issued, rfl⟩

theorem Tickets.length_stream {core : Core geometry Producer} (tickets : core.Tickets) :
    core.stream.length = core.writePos := by
  rw [stream, List.length_mapIdx, tickets.counted]

def Quiet (core : Core geometry Producer) : Prop :=
  ∀ pos, pos < core.writePos → pos ∈ core.published

theorem Tickets.quiet {core : Core geometry Producer} (tickets : core.Tickets)
    (none : ∀ producer, (core.producers producer).ticket = none) : core.Quiet := by
  intro pos issued
  by_contra missing
  rcases tickets.outstanding pos issued missing with ⟨producer, ticket, held, _⟩
  rw [none producer] at held
  cases held

theorem Quiet.lapped {core : Core geometry Producer} (quiet : core.Quiet)
    (consistent : core.Consistent) {pos : Nat} (behind : pos + geometry.capacity < core.writePos) :
    2 * pos + 2 < core.seqAt pos := by
  have atLeastTwo := geometry.atLeastTwo
  have later := (consistent.claims.complete _).mp (quiet _ behind)
  have same : geometry.slot (pos + geometry.capacity) = geometry.slot pos := by
    rw [Geometry.slot_eq_iff, Nat.add_mod_right]
  rw [seqAt, same] at later
  rw [seqAt]
  omega

def readFrom (core : Core geometry Producer) (next : Nat) : Nat :=
  max next (core.writePos - geometry.capacity)

/-- The frames that can be read from `next` on, up to `size` of them. -/
def batchFrom (core : Core geometry Producer) (next size : Nat) : List Frame :=
  (core.stream.drop (core.readFrom next)).take size

/-- A cursor that has read `count` frames since it stood at `begin`. -/
def cursorAfter (core : Core geometry Producer) (begin : Cursor) (count : Nat) : Cursor where
  next := core.readFrom begin.next + count
  missed := begin.missed + (core.readFrom begin.next - begin.next)

theorem readFrom_le {core : Core geometry Producer} {next : Nat} (inside : next ≤ core.writePos) :
    core.readFrom next ≤ core.writePos := by
  unfold readFrom
  omega

end Core

theorem prefix_concat {left stream : List Frame} {frame : Frame} (before : left <+: stream)
    (next : stream[left.length]? = some frame) : left ++ [frame] <+: stream := by
  rcases before with ⟨rest, rfl⟩
  rw [List.getElem?_append_right (Nat.le_refl _), Nat.sub_self] at next
  cases rest with
  | nil => cases next
  | cons first others =>
      cases next
      exact ⟨others, List.append_assoc left [frame] others⟩

/-! ## One call of `read_batch` -/

def ReaderPhase.call? : ReaderPhase → Option ReadCall
  | .loadSeq call => some call
  | .loadWord call _ _ _ => some call
  | .reloadSeq call _ _ => some call
  | .countInconsistent call => some call
  | .lap call => some call
  | _ => none

def ReaderPhase.toReturn : ReaderPhase → Nat
  | .loadSeq _ => 9
  | .loadWord _ _ index _ => 8 - index.val
  | .reloadSeq _ _ _ => 3
  | .lap _ => 2
  | _ => 0

namespace Reader

/-- Steps to the end of a `read_batch` in a ring with that write position, at
most. -/
def toFetch (writePos : Nat) (reader : Reader) : Nat :=
  10 * (writePos + 1 - reader.cursor.next) + reader.phase.toReturn

/-- Inside a `read_batch` that found the cursor at `begin`, with the frames of
`out` read so far. The jump over what was lost comes before the first of them. -/
structure Fetching (core : Core geometry Producer) (begin : Cursor) (size : Nat)
    (out : List Frame) (reader : Reader) : Prop where
  call : ∃ missedBefore, reader.phase.call? = some (.readBatch size out missedBefore)
  room : out.length < size
  cursor : (out = [] ∧ reader.cursor = begin) ∨
    reader.cursor = core.cursorAfter begin out.length
  frames : out <+: core.stream.drop (core.readFrom begin.next)

structure Fetched (core : Core geometry Producer) (begin : Cursor) (size : Nat)
    (out : List Frame) (reader : Reader) : Prop where
  phase : ∃ missed, reader.phase = .done (.readBatch out missed)
  cursor : reader.cursor = core.cursorAfter begin out.length
  frames : out = core.batchFrom begin.next size

theorem Fetching.length_le {core : Core geometry Producer} {begin : Cursor} {size : Nat}
    {out : List Frame} {reader : Reader} (fetching : reader.Fetching core begin size out)
    (tickets : core.Tickets) : out.length ≤ core.writePos - core.readFrom begin.next := by
  have shorter := fetching.frames.length_le
  rw [List.length_drop, tickets.length_stream] at shorter
  exact shorter

theorem Fetching.next_le {core : Core geometry Producer} {begin : Cursor} {size : Nat}
    {out : List Frame} {reader : Reader} (fetching : reader.Fetching core begin size out)
    (tickets : core.Tickets) (inside : begin.next ≤ core.writePos) :
    reader.cursor.next ≤ core.writePos := by
  have shorter := fetching.length_le tickets
  have from_le := Core.readFrom_le inside
  rcases fetching.cursor with ⟨_, same⟩ | moved
  · rw [same]
    exact inside
  · rw [moved]
    change core.readFrom begin.next + out.length ≤ core.writePos
    omega

theorem Fetching.setPhase {core : Core geometry Producer} {begin : Cursor} {size : Nat}
    {out : List Frame} {reader : Reader} (fetching : reader.Fetching core begin size out)
    {phase : ReaderPhase} (same : phase.call? = reader.phase.call?) :
    ({ reader with phase := phase } : Reader).Fetching core begin size out :=
  ⟨by rw [same]; exact fetching.call, fetching.room, fetching.cursor, fetching.frames⟩

theorem Fetching.caught_up {core : Core geometry Producer} {begin : Cursor} {size : Nat}
    {out : List Frame} {reader : Reader} (fetching : reader.Fetching core begin size out)
    (here : core.writePos ≤ reader.cursor.next + geometry.capacity) :
    reader.cursor = core.cursorAfter begin out.length := by
  rcases fetching.cursor with ⟨empty, same⟩ | moved
  · have all : core.readFrom begin.next = begin.next := by
      rw [same] at here
      unfold Core.readFrom
      omega
    rw [same, empty, Core.cursorAfter, all, Nat.sub_self]
    rfl
  · exact moved

theorem Fetching.returnEmpty {core : Core geometry Producer} {begin : Cursor} {size : Nat}
    {out : List Frame} {reader : Reader} (fetching : reader.Fetching core begin size out)
    (tickets : core.Tickets) (beyond : core.writePos ≤ reader.cursor.next) {missedBefore : Nat} :
    (reader.returnEmpty (.readBatch size out missedBefore)).Fetched core begin size out := by
  have shorter := fetching.length_le tickets
  have cursor := fetching.caught_up (Nat.le_trans beyond (Nat.le_add_right _ _))
  have all : out.length = (core.stream.drop (core.readFrom begin.next)).length := by
    rw [cursor] at beyond
    change core.writePos ≤ core.readFrom begin.next + out.length at beyond
    rw [List.length_drop, tickets.length_stream]
    omega
  refine ⟨⟨_, rfl⟩, cursor, ?_⟩
  rw [Core.batchFrom, List.take_of_length_le (all ▸ Nat.le_of_lt fetching.room)]
  exact fetching.frames.eq_of_length all

theorem Fetching.returnFrame {core : Core geometry Producer} {begin : Cursor} {size : Nat}
    {out : List Frame} {reader : Reader} (fetching : reader.Fetching core begin size out)
    (here : core.writePos ≤ reader.cursor.next + geometry.capacity)
    {words : Fin kFrameWords → UInt64}
    (carried : core.Carries reader.cursor.next (Frame.ofWords words)) {missedBefore : Nat} :
    (reader.returnFrame (.readBatch size out missedBefore) words).Fetching core begin size
        (out ++ [Frame.ofWords words]) ∨
      (reader.returnFrame (.readBatch size out missedBefore) words).Fetched core begin size
        (out ++ [Frame.ofWords words]) := by
  have cursor := fetching.caught_up here
  have length : (out ++ [Frame.ofWords words]).length = out.length + 1 := List.length_append
  have stepped : ({ reader.cursor with next := reader.cursor.next + 1 } : Cursor) =
      core.cursorAfter begin (out ++ [Frame.ofWords words]).length := by
    rw [cursor, length]
    rfl
  have frames : out ++ [Frame.ofWords words] <+:
      core.stream.drop (core.readFrom begin.next) := by
    refine prefix_concat fetching.frames ?_
    rw [cursor] at carried
    rw [List.getElem?_drop]
    exact Core.carries_iff.mp carried
  unfold Reader.returnFrame
  by_cases more : (out ++ [Frame.ofWords words]).length < size
  · refine Or.inl ⟨⟨missedBefore, ?_⟩, more, Or.inr stepped, frames⟩
    change (if (out ++ [Frame.ofWords words]).length < size then ReaderPhase.loadSeq _
      else _).call? = _
    rw [if_pos more]
    rfl
  · refine Or.inr ⟨⟨reader.cursor.missed - missedBefore, ?_⟩, stepped, ?_⟩
    · exact if_neg more
    · have full : (out ++ [Frame.ofWords words]).length = size := by
        have room := fetching.room
        omega
      rw [Core.batchFrom, ← full]
      exact List.prefix_iff_eq_take.mp frames

theorem Fetching.lapTo {core : Core geometry Producer} {begin : Cursor} {size : Nat}
    {out : List Frame} {reader : Reader} (fetching : reader.Fetching core begin size out)
    (overtaken : reader.cursor.next + geometry.capacity < core.writePos) {missedBefore : Nat} :
    (reader.lapTo (.readBatch size out missedBefore) (geometry.oldest core.writePos)).Fetching
      core begin size out := by
  rcases lapTo_ahead (.readBatch size out missedBefore) overtaken with ⟨_, equal⟩
  have oldest : geometry.oldest core.writePos = core.writePos - geometry.capacity := by
    unfold Geometry.oldest
    split <;> omega
  rw [equal]
  refine ⟨⟨missedBefore, rfl⟩, fetching.room, Or.inr ?_, fetching.frames⟩
  dsimp only
  rcases fetching.cursor with ⟨empty, same⟩ | moved
  · have jump : core.readFrom begin.next = core.writePos - geometry.capacity := by
      rw [same] at overtaken
      unfold Core.readFrom
      omega
    rw [same, empty, Core.cursorAfter, jump, oldest]
    rfl
  · have behind : core.writePos - geometry.capacity ≤ core.readFrom begin.next :=
      Nat.le_max_right ..
    rw [moved] at overtaken
    change core.readFrom begin.next + out.length + geometry.capacity < _ at overtaken
    omega

end Reader

theorem Core.Tickets.cursorAfter_nothing {core : Core geometry Producer} (tickets : core.Tickets)
    {begin : Cursor} {size : Nat} (positive : 0 < size) (inside : begin.next ≤ core.writePos)
    (nothing : core.batchFrom begin.next size = []) : core.cursorAfter begin 0 = begin := by
  have empty : core.stream.drop (core.readFrom begin.next) = [] := by
    rcases List.take_eq_nil_iff.mp nothing with none | empty
    · omega
    · exact empty
  have all := List.drop_eq_nil_iff.mp empty
  rw [tickets.length_stream] at all
  have still : core.readFrom begin.next = begin.next := by
    have atLeastTwo := geometry.atLeastTwo
    unfold Core.readFrom at all ⊢
    omega
  rw [Core.cursorAfter, still, Nat.sub_self]
  rfl

theorem Reader.Fetched.nothing {core : Core geometry Producer} {begin : Cursor} {size : Nat}
    {reader : Reader} (fetched : reader.Fetched core begin size []) (tickets : core.Tickets)
    (positive : 0 < size) (inside : begin.next ≤ core.writePos) : reader.cursor = begin :=
  fetched.cursor.trans (tickets.cursorAfter_nothing positive inside fetched.frames.symm)

/-! ## One step -/

namespace Reader

/-- The call goes on or has returned, and is closer to its end than `before`. -/
def Fetches (core : Core geometry Producer) (begin : Cursor) (size : Nat)
    (before reader : Reader) : Prop :=
  ((∃ out, reader.Fetching core begin size out) ∨ ∃ out, reader.Fetched core begin size out) ∧
    reader.toFetch core.writePos < before.toFetch core.writePos

theorem Fetching.advance {core : Core geometry Producer} {begin : Cursor} {size : Nat}
    {out : List Frame} {reader : Reader} (fetching : reader.Fetching core begin size out)
    {phase : ReaderPhase} (same : phase.call? = reader.phase.call?)
    (closer : phase.toReturn < reader.phase.toReturn) :
    Fetches core begin size reader { reader with phase := phase } :=
  ⟨Or.inl ⟨out, fetching.setPhase same⟩, Nat.add_lt_add_left closer _⟩

theorem toReturn_resume_le (call : ReadCall) (cursor : Cursor) (status : ReadStatus)
    (frame : Option Frame) : (call.resume cursor status frame).toReturn ≤ 9 := by
  cases call with
  | tryRead => exact Nat.zero_le 9
  | readBatch size out missedBefore =>
      cases status with
      | kOk =>
          simp only [ReadCall.resume]
          split
          · exact Nat.le_refl 9
          · exact Nat.zero_le 9
      | kEmpty => exact Nat.zero_le 9
      | kLapped => exact Nat.le_refl 9

theorem closer_of_moved {writePos : Nat} {before reader : Reader}
    (ahead : before.cursor.next < reader.cursor.next) (inside : before.cursor.next ≤ writePos)
    (short : reader.phase.toReturn ≤ 9) :
    reader.toFetch writePos < before.toFetch writePos := by
  unfold toFetch
  omega

theorem Fetching.loadSeq {core : Core geometry Producer} (consistent : core.Consistent)
    (quiet : core.Quiet) {begin : Cursor} {size : Nat} {out : List Frame} {reader : Reader}
    (fetching : reader.Fetching core begin size out) {call : ReadCall}
    (loading : reader.phase = .loadSeq call) :
    Fetches core begin size reader (reader.loadSeq call (core.seqAt reader.cursor.next)) := by
  rcases fetching.call with ⟨missedBefore, calling⟩
  rw [loading] at calling
  cases calling
  rcases loadSeq_cases consistent reader (.readBatch size out missedBefore) with
    ⟨missing, equal⟩ | ⟨_, _, equal⟩ | ⟨_, _, equal⟩
  · have beyond : core.writePos ≤ reader.cursor.next :=
      Nat.not_lt.mp fun issued => missing (quiet _ issued)
    rw [equal]
    refine ⟨Or.inr ⟨out, fetching.returnEmpty consistent.tickets beyond⟩, ?_⟩
    rw [toFetch, toFetch, loading]
    exact Nat.add_lt_add_left (show 0 < 9 by decide) _
  · rw [equal]
    exact fetching.advance (by rw [loading]; rfl) (by rw [loading]; exact (by decide : 2 < 9))
  · rw [equal]
    exact fetching.advance (by rw [loading]; rfl) (by rw [loading]; exact (by decide : 8 < 9))

theorem Fetching.loadWord {core : Core geometry Producer} {begin : Cursor} {size : Nat}
    {out : List Frame} {reader : Reader} (fetching : reader.Fetching core begin size out)
    {call : ReadCall} {s1 : Nat} {index : Fin kFrameWords} {words : Fin kFrameWords → UInt64}
    (loading : reader.phase = .loadWord call s1 index words) (word : UInt64) :
    Fetches core begin size reader { reader with
      phase := if more : index.val + 1 < kFrameWords then
          .loadWord call s1 ⟨index.val + 1, more⟩ (Function.update words index word)
        else .reloadSeq call s1 (Function.update words index word) } := by
  have bounded : index.val < 5 := index.isLt
  apply fetching.advance
  · rw [loading]
    split <;> rfl
  · rw [loading]
    split <;> simp only [ReaderPhase.toReturn] <;> omega

theorem Fetching.reloadSeq {core : Core geometry Producer} (consistent : core.Consistent)
    (quiet : core.Quiet) {begin : Cursor} {size : Nat} {out : List Frame} {reader : Reader}
    (fetching : reader.Fetching core begin size out) (sound : reader.Sound core)
    (inside : begin.next ≤ core.writePos) {call : ReadCall} {s1 : Nat}
    {words : Fin kFrameWords → UInt64} (reloading : reader.phase = .reloadSeq call s1 words) :
    Fetches core begin size reader
      (reader.reloadSeq call s1 words (core.seqAt reader.cursor.next)) := by
  rcases fetching.call with ⟨missedBefore, calling⟩
  rw [reloading] at calling
  cases calling
  rcases sound.reloadSeq_cases consistent reloading with ⟨_, equal⟩ | ⟨complete, equal⟩
  · rw [equal]
    exact fetching.advance (by rw [reloading]; rfl) (by rw [reloading]; exact (by decide : 2 < 3))
  · -- the ring has not come around to this cell again, so nothing was lost here
    have here : core.writePos ≤ reader.cursor.next + geometry.capacity := by
      by_contra behind
      have later := quiet.lapped consistent (Nat.not_le.mp behind)
      omega
    rw [equal]
    constructor
    · rcases fetching.returnFrame here (consistent.carries_complete complete) with
        more | finished
      · exact Or.inl ⟨_, more⟩
      · exact Or.inr ⟨_, finished⟩
    · have short := toReturn_resume_le (.readBatch size out missedBefore)
        { reader.cursor with next := reader.cursor.next + 1 } .kOk
        (some (Frame.ofWords (core.wordsAt reader.cursor.next)))
      exact closer_of_moved (Nat.lt_succ_self _) (fetching.next_le consistent.tickets inside) short

theorem Fetching.lap {core : Core geometry Producer} (consistent : core.Consistent)
    {begin : Cursor} {size : Nat} {out : List Frame} {reader : Reader}
    (fetching : reader.Fetching core begin size out) (sound : reader.Sound core)
    (inside : begin.next ≤ core.writePos) {call : ReadCall} (lapping : reader.phase = .lap call) :
    Fetches core begin size reader (reader.lapTo call (geometry.oldest core.writePos)) := by
  have overtaken := sound.phase
  rw [lapping] at overtaken
  rcases fetching.call with ⟨missedBefore, calling⟩
  rw [lapping] at calling
  cases calling
  rcases lapTo_ahead (.readBatch size out missedBefore) overtaken with ⟨ahead, equal⟩
  refine ⟨Or.inl ⟨out, fetching.lapTo overtaken⟩, ?_⟩
  rw [equal]
  exact closer_of_moved ahead (fetching.next_le consistent.tickets inside) (Nat.le_refl 9)

end Reader

namespace State

/-- The reader's own step is always enabled inside `read_batch`, and touches
nothing but the reader. -/
theorem Sound.fetch [DecidableEq ReaderId] {state : State geometry Producer ReaderId}
    (sound : state.Sound) (quiet : state.core.Quiet) {id : ReaderId} {begin : Cursor} {size : Nat}
    {out : List Frame} (inside : begin.next ≤ state.core.writePos)
    (fetching : (state.readers id).Fetching state.core begin size out) :
    ∃ reader, state.readStep id = some (state.setReader id reader) ∧
      Reader.Fetches state.core begin size (state.readers id) reader := by
  have reader := sound.readers id
  rcases fetching.call with ⟨missedBefore, calling⟩
  cases phase : (state.readers id).phase with
  | loadSeq call =>
      exact ⟨_, by simp only [State.readStep, phase]; rfl, fetching.loadSeq sound.core quiet phase⟩
  | loadWord call s1 index words =>
      refine ⟨_, ?_, fetching.loadWord phase
        (state.core.wordsAt (state.readers id).cursor.next index)⟩
      simp only [State.readStep, phase]
      rfl
  | reloadSeq call s1 words =>
      exact ⟨_, by simp only [State.readStep, phase]; rfl,
        fetching.reloadSeq sound.core quiet reader inside phase⟩
  | countInconsistent call =>
      have impossible := reader.phase
      rw [phase] at impossible
      exact impossible.elim
  | lap call =>
      exact ⟨_, by simp only [State.readStep, phase], fetching.lap sound.core reader inside phase⟩
  | _ =>
      rw [phase] at calling
      cases calling

end State

end TelemetryGateway.BroadcastRing
