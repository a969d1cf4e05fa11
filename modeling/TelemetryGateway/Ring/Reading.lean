import Mathlib.Data.List.Induction
import TelemetryGateway.Ring.BroadcastRing
import TelemetryGateway.Ring.CoreSteps

/-! # Reads are exact and losses are counted

A reader never writes the cells, so its invariant only has to survive what the
producers do: sequence words grow, and a complete cell keeps its words for as
long as its sequence word stands still. -/

namespace TelemetryGateway.BroadcastRing

/-! ## What a producer step leaves to the readers -/

namespace Core

structure Extends (before after : Core geometry Producer) : Prop where
  writePos : before.writePos ≤ after.writePos
  seq : ∀ pos, before.seqAt pos ≤ after.seqAt pos
  words : ∀ pos, before.seqAt pos = 2 * pos + 2 → after.seqAt pos = before.seqAt pos →
    after.wordsAt pos = before.wordsAt pos
  issued : before.issued <+: after.issued

theorem Extends.ofSame {before after : Core geometry Producer}
    (cells : after.cells = before.cells) (writePos : after.writePos = before.writePos)
    (issued : after.issued = before.issued) : before.Extends after := by
  have seq (pos : Nat) : after.seqAt pos = before.seqAt pos := by
    rw [seqAt, cells]
    rfl
  refine ⟨Nat.le_of_eq writePos.symm, fun pos => Nat.le_of_eq (seq pos).symm, ?_, ?_⟩
  · intro pos _ _
    rw [wordsAt, cells]
    rfl
  · exact issued ▸ List.prefix_refl _

theorem extends_setSeq {core after : Core geometry Producer} {target seq : Nat}
    (cells : after.cells = (core.setSeq target seq).cells)
    (writePos : after.writePos = core.writePos) (issued : after.issued = core.issued)
    (raises : core.seqAt target ≤ seq) : core.Extends after := by
  have seqAfter (pos : Nat) : after.seqAt pos = (core.setSeq target seq).seqAt pos := by
    rw [seqAt, cells]
    rfl
  refine ⟨Nat.le_of_eq writePos.symm, ?_, ?_, issued ▸ List.prefix_refl _⟩
  · intro pos
    rw [seqAfter]
    by_cases same : geometry.slot pos = geometry.slot target
    · rw [seqAt_setSeq_same core seq same, seqAt, same]
      exact raises
    · rw [seqAt_setSeq_other core seq same]
  · intro pos _ _
    rw [wordsAt, cells]
    exact wordsAt_setSeq core pos target seq

section

variable {geometry : Geometry} {Producer : Type} [DecidableEq Producer]

theorem Extends.setProducer (core : Core geometry Producer) (producer : Producer)
    (phase : ProducerPhase) : core.Extends (core.setProducer producer phase) :=
  .ofSame rfl rfl rfl

theorem extends_take {core after : Core geometry Producer} {producer : Producer}
    {frames : List Frame} (taken : core.take producer frames = some after) :
    core.Extends after := by
  unfold Core.take at taken
  split at taken
  · cases taken
    exact .ofSame rfl rfl rfl
  · split at taken
    · cases taken
      exact ⟨Nat.le_add_right _ _, fun _ => Nat.le_refl _, fun _ _ _ => rfl,
        List.prefix_append _ _⟩
    · cases taken
  · cases taken

theorem Consistent.extends_advance {core after : Core geometry Producer}
    (consistent : core.Consistent) {producer : Producer} {spurious : Bool}
    (stepped : core.advance producer spurious = some after) : core.Extends after := by
  unfold Core.advance at stepped
  split at stepped
  · rename_i ticket claiming
    split at stepped
    · rename_i matched
      cases stepped
      refine extends_setSeq rfl rfl rfl ?_
      rw [seqAt, matched.1]
      exact geometry.expected_le_claimed ticket.pos
    · cases stepped
      exact .ofSame rfl rfl rfl
  · cases stepped
    exact .ofSame rfl rfl rfl
  · rename_i ticket index storing
    cases stepped
    have seq := consistent.claims.claimed producer ticket (by rw [storing]; rfl)
    refine ⟨Nat.le_refl _, fun pos => Nat.le_of_eq (seqAt_setWord core pos _ _ _).symm, ?_,
      List.prefix_refl _⟩
    intro pos complete _
    -- the cell being stored into carries an odd word
    have apart : geometry.slot pos ≠ geometry.slot ticket.pos := by
      intro same
      rw [seqAt, same] at complete
      rw [seqAt, complete] at seq
      omega
    exact wordsAt_setWord_other core index _ apart
  · rename_i ticket publishing
    cases stepped
    refine extends_setSeq rfl rfl rfl ?_
    rw [consistent.claims.claimed producer ticket (by rw [publishing]; rfl)]
    omega
  · cases stepped
  · cases stepped
  · cases stepped

end

/-- A cell that has moved on past `pos` was claimed for a position at least one
lap later, whose ticket is out. -/
theorem Consistent.overwritten {core : Core geometry Producer} (consistent : core.Consistent)
    {pos : Nat} (later : 2 * pos + 2 < core.seqAt pos) :
    pos + geometry.capacity < core.writePos := by
  rcases consistent.claims.shape (geometry.slot pos) with never | ⟨holder, same, held⟩
  · rw [seqAt, never] at later
    omega
  · have heldThere : core.seqAt holder = 2 * holder + 1 ∨ core.seqAt holder = 2 * holder + 2 := by
      rw [seqAt, same]
      exact held
    have issued := consistent.lt_writePos_of_seq heldThere
    have ahead : pos < holder := by
      rw [seqAt] at later
      omega
    have lap := geometry.capacity_le_of_slot_eq same.symm ahead
    omega

/-- The frame a reader gets from position `pos`: what its owner passed to
`publish`, with the position as its sequence. -/
def Carries (core : Core geometry Producer) (pos : Nat) (frame : Frame) : Prop :=
  ∃ producer original, core.issued[pos]? = some (producer, original) ∧
    frame = { original with seq := UInt64.ofNat pos }

theorem Carries.unique {core : Core geometry Producer} {pos : Nat} {left right : Frame}
    (leftCarried : core.Carries pos left) (rightCarried : core.Carries pos right) :
    left = right := by
  rcases leftCarried with ⟨_, _, leftIssued, rfl⟩
  rcases rightCarried with ⟨_, _, rightIssued, rfl⟩
  rw [leftIssued] at rightIssued
  cases rightIssued
  rfl

theorem Carries.extend {before after : Core geometry Producer} {pos : Nat} {frame : Frame}
    (carried : before.Carries pos frame) (extension : before.Extends after) :
    after.Carries pos frame := by
  rcases carried with ⟨producer, original, issued, equal⟩
  rcases extension.issued with ⟨suffix, appended⟩
  refine ⟨producer, original, ?_, equal⟩
  rw [← appended, List.getElem?_append_left (List.getElem?_eq_some_iff.mp issued).1]
  exact issued

theorem Consistent.carries_complete {core : Core geometry Producer}
    (consistent : core.Consistent) {pos : Nat} (complete : core.seqAt pos = 2 * pos + 2) :
    core.Carries pos (Frame.ofWords (core.wordsAt pos)) := by
  rcases consistent.claims.payload pos complete with ⟨producer, original, issued, words⟩
  exact ⟨producer, original, issued, by rw [words, Frame.ofWords_toWords]⟩

end Core

/-! ## Replaying a cursor

What a cursor is for: it only moves past positions it has returned or counted
as missed. -/

/-- The cursor after an event, when a `try_read` may do that from there. -/
def ReadEvent.apply (cursor : Cursor) : ReadEvent → Option Cursor
  | .ok pos _ missed =>
      if pos = cursor.next ∧ missed = cursor.missed then
        some { cursor with next := cursor.next + 1 }
      else none
  | .empty pos => if pos = cursor.next then some cursor else none
  | .lapped first target =>
      if first = cursor.next ∧ first < target then
        some { next := target, missed := cursor.missed + (target - first) }
      else none

theorem ReadEvent.apply_ok {cursor after : Cursor} {pos missed : Nat} {frame : Frame} :
    (ReadEvent.ok pos frame missed).apply cursor = some after ↔
      (pos = cursor.next ∧ missed = cursor.missed) ∧
        { cursor with next := cursor.next + 1 } = after := by
  simp [ReadEvent.apply]

theorem ReadEvent.apply_empty {cursor after : Cursor} {pos : Nat} :
    (ReadEvent.empty pos).apply cursor = some after ↔ pos = cursor.next ∧ cursor = after := by
  simp [ReadEvent.apply]

theorem ReadEvent.apply_lapped {cursor after : Cursor} {first target : Nat} :
    (ReadEvent.lapped first target).apply cursor = some after ↔
      (first = cursor.next ∧ first < target) ∧
        { next := target, missed := cursor.missed + (target - first) } = after := by
  simp [ReadEvent.apply]

def replay (start : Nat) (log : List ReadEvent) : Option Cursor :=
  log.foldlM ReadEvent.apply { next := start }

theorem replay_concat {start : Nat} {log : List ReadEvent} {event : ReadEvent}
    {after : Cursor} : replay start (log ++ [event]) = some after ↔
      ∃ cursor, replay start log = some cursor ∧ event.apply cursor = some after := by
  unfold replay
  rw [List.foldlM_append]
  simp [Option.bind_eq_some_iff]

def ReadEvent.isOk : ReadEvent → Bool
  | .ok _ _ _ => true
  | _ => false

def ReadEvent.frame? : ReadEvent → Option Frame
  | .ok _ frame _ => some frame
  | _ => none

def ReadEvent.position? : ReadEvent → Option Nat
  | .ok pos _ _ => some pos
  | _ => none

theorem replay_accounts {start : Nat} {log : List ReadEvent} {cursor : Cursor}
    (replayed : replay start log = some cursor) :
    cursor.next = start + log.countP ReadEvent.isOk + cursor.missed := by
  induction log using List.reverseRecOn generalizing cursor with
  | nil =>
      cases replayed
      rfl
  | append_singleton log event induction =>
      rcases replay_concat.mp replayed with ⟨before, earlier, applied⟩
      have accounted := induction earlier
      rw [List.countP_append, List.countP_singleton]
      cases event with
      | ok pos frame missed =>
          rcases ReadEvent.apply_ok.mp applied with ⟨_, rfl⟩
          simp only [ReadEvent.isOk, if_true]
          omega
      | empty pos =>
          rcases ReadEvent.apply_empty.mp applied with ⟨_, rfl⟩
          simpa [ReadEvent.isOk] using accounted
      | lapped first target =>
          rcases ReadEvent.apply_lapped.mp applied with ⟨⟨rfl, ahead⟩, rfl⟩
          simp only [ReadEvent.isOk, Bool.false_eq_true, if_false]
          omega

theorem replay_increasing {start : Nat} {log : List ReadEvent} {cursor : Cursor}
    (replayed : replay start log = some cursor) :
    (log.filterMap ReadEvent.position?).Pairwise (· < ·) ∧
      ∀ pos ∈ log.filterMap ReadEvent.position?, pos < cursor.next := by
  induction log using List.reverseRecOn generalizing cursor with
  | nil => exact ⟨List.Pairwise.nil, by simp⟩
  | append_singleton log event induction =>
      rcases replay_concat.mp replayed with ⟨before, earlier, applied⟩
      rcases induction earlier with ⟨increasing, behind⟩
      rw [List.filterMap_append]
      cases event with
      | ok pos frame missed =>
          rcases ReadEvent.apply_ok.mp applied with ⟨⟨rfl, _⟩, rfl⟩
          simp only [List.filterMap_cons, ReadEvent.position?, List.filterMap_nil]
          constructor
          · refine List.pairwise_append.mpr ⟨increasing, List.pairwise_singleton _ _, ?_⟩
            intro pos member last found
            rw [List.mem_singleton.mp found]
            exact behind pos member
          · intro pos member
            rcases List.mem_append.mp member with old | new
            · exact Nat.lt_succ_of_lt (behind pos old)
            · rw [List.mem_singleton.mp new]
              exact Nat.lt_succ_self _
      | empty pos =>
          rcases ReadEvent.apply_empty.mp applied with ⟨_, rfl⟩
          simp only [List.filterMap_cons, ReadEvent.position?, List.filterMap_nil,
            List.append_nil]
          exact ⟨increasing, behind⟩
      | lapped first target =>
          rcases ReadEvent.apply_lapped.mp applied with ⟨⟨rfl, ahead⟩, rfl⟩
          simp only [List.filterMap_cons, ReadEvent.position?, List.filterMap_nil,
            List.append_nil]
          exact ⟨increasing, fun pos member => Nat.lt_trans (behind pos member) ahead⟩

/-! ## The invariant of a reader -/

/-- What a reader inside `try_read` knows about the cell of its position. A
copy in progress is still that cell's, unless its sequence word has moved; no
reader ever gets to count an inconsistent read; and a reader about to lap has
been overtaken by a ticket that is already out. -/
def ReaderPhase.Sound (core : Core geometry Producer) (next : Nat) : ReaderPhase → Prop
  | .loadWord _ s1 index words =>
      s1 = 2 * next + 2 ∧ s1 ≤ core.seqAt next ∧
        (core.seqAt next = s1 → ∀ earlier, earlier < index →
          words earlier = core.wordsAt next earlier)
  | .reloadSeq _ s1 words =>
      s1 = 2 * next + 2 ∧ s1 ≤ core.seqAt next ∧
        (core.seqAt next = s1 → words = core.wordsAt next)
  | .countInconsistent _ => False
  | .lap _ => next + geometry.capacity < core.writePos
  | _ => True

def ReaderPhase.midRead : ReaderPhase → Bool
  | .loadWord _ _ _ _ => true
  | .reloadSeq _ _ _ => true
  | .countInconsistent _ => true
  | .lap _ => true
  | _ => false

theorem ReaderPhase.sound_of_outside {phase : ReaderPhase} (outside : phase.midRead = false)
    (core : Core geometry Producer) (next : Nat) : phase.Sound core next := by
  cases phase <;> trivial

def ReaderPhase.parked : ReaderPhase → Bool
  | .testClosed => true
  | .waitCheck _ => true
  | .waitRegister _ => true
  | .waitRecheck _ => true
  | .waitLock _ => true
  | .waitPredicate _ _ => true
  | .waitBlock _ => true
  | .blocked _ => true
  | .waitRelock _ _ => true
  | .waitUnlock _ => true
  | .waitUnregister _ => true
  | _ => false

def ReaderPhase.settled : ReaderPhase → Bool
  | .idle => true
  | .done _ => true
  | phase => phase.parked

def ReaderPhase.waits : ReaderPhase → Bool
  | .waitCheck _ => true
  | .waitRegister _ => true
  | .waitRecheck _ => true
  | .waitLock _ => true
  | .waitPredicate _ _ => true
  | .waitBlock _ => true
  | .blocked _ => true
  | .waitRelock _ _ => true
  | .waitUnlock _ => true
  | .waitUnregister _ => true
  | _ => false

def ReaderPhase.resting : ReaderPhase → Bool
  | .idle => true
  | .done _ => true
  | _ => false

def Request.entry (missed : Nat) : Request → ReaderPhase
  | .tryRead => .loadSeq .tryRead
  | .readBatch size =>
      if 0 < size then .loadSeq (.readBatch size [] missed) else .done (.readBatch [] 0)
  | .attach => .attach
  | .waitForData known => .waitCheck known
  | .closed => .testClosed

theorem State.call_resting [DecidableEq ReaderId] {state : State geometry Producer ReaderId}
    {id : ReaderId} (resting : (state.readers id).phase.resting = true) (request : Request) :
    state.call id request =
      some (state.setPhase id (request.entry (state.readers id).cursor.missed)) := by
  unfold State.call
  cases phase : (state.readers id).phase with
  | idle => cases request <;> rfl
  | done outcome => cases request <;> rfl
  | _ =>
      rw [phase] at resting
      cases resting

theorem State.call_cases [DecidableEq ReaderId] {state after : State geometry Producer ReaderId}
    {id : ReaderId} {request : Request} (called : state.call id request = some after) :
    (state.readers id).phase.resting = true ∧
      after = state.setPhase id (request.entry (state.readers id).cursor.missed) := by
  have resting : (state.readers id).phase.resting = true := by
    unfold State.call at called
    split at called
    · rename_i idle
      rw [idle]
      rfl
    · rename_i outcome done
      rw [done]
      rfl
    · cases called
  rw [State.call_resting resting] at called
  cases called
  exact ⟨resting, rfl⟩

def ReadEvent.status : ReadEvent → ReadStatus
  | .ok _ _ _ => .kOk
  | .empty _ => .kEmpty
  | .lapped _ _ => .kLapped

/-- The frames `read_batch` has in hand are the latest ones of the log. -/
def ReadCall.Reports (log : List ReadEvent) : ReadCall → Prop
  | .tryRead => True
  | .readBatch _ out _ => out <:+ log.filterMap ReadEvent.frame?

def ReaderPhase.Reports (log : List ReadEvent) : ReaderPhase → Prop
  | .loadSeq call => call.Reports log
  | .loadWord call _ _ _ => call.Reports log
  | .reloadSeq call _ _ => call.Reports log
  | .countInconsistent call => call.Reports log
  | .lap call => call.Reports log
  | .done (.tryRead status frame) =>
      ∃ event, log.getLast? = some event ∧ event.status = status ∧ event.frame? = frame
  | .done (.readBatch out _) => out <:+ log.filterMap ReadEvent.frame?
  | .done .attached => log = []
  | _ => True

structure Reader.Sound (core : Core geometry Producer) (reader : Reader) : Prop where
  replayed : replay reader.start reader.log = some reader.cursor
  phase : reader.phase.Sound core reader.cursor.next
  reports : reader.phase.Reports reader.log
  frames : ∀ pos frame missed, .ok pos frame missed ∈ reader.history → core.Carries pos frame

theorem Reader.Sound.log_of_attached {core : Core geometry Producer} {reader : Reader}
    (sound : reader.Sound core) (attached : reader.phase = .done .attached) : reader.log = [] := by
  have reports := sound.reports
  rw [attached] at reports
  exact reports

theorem ReaderPhase.Sound.extend {before after : Core geometry Producer} {next : Nat}
    {phase : ReaderPhase} (extension : before.Extends after)
    (sound : phase.Sound before next) : phase.Sound after next := by
  have seq := extension.seq next
  -- an unchanged sequence word after the step was unchanged before it too
  have still {s1 : Nat} (complete : s1 = 2 * next + 2) (lower : s1 ≤ before.seqAt next)
      (now : after.seqAt next = s1) :
      before.seqAt next = s1 ∧ after.wordsAt next = before.wordsAt next := by
    have unmoved : before.seqAt next = s1 := by omega
    exact ⟨unmoved, extension.words next (unmoved.trans complete) (now.trans unmoved.symm)⟩
  cases phase with
  | loadWord call s1 index words =>
      rcases sound with ⟨complete, lower, copied⟩
      refine ⟨complete, Nat.le_trans lower seq, ?_⟩
      intro now
      rcases still complete lower now with ⟨unmoved, words⟩
      rw [words]
      exact copied unmoved
  | reloadSeq call s1 words =>
      rcases sound with ⟨complete, lower, copied⟩
      refine ⟨complete, Nat.le_trans lower seq, ?_⟩
      intro now
      rcases still complete lower now with ⟨unmoved, words⟩
      rw [words]
      exact copied unmoved
  | countInconsistent call => exact sound
  | lap call => exact Nat.lt_of_lt_of_le sound extension.writePos
  | _ => trivial

theorem ReadCall.resume_outside (call : ReadCall) (cursor : Cursor) (status : ReadStatus)
    (frame : Option Frame) : (call.resume cursor status frame).midRead = false := by
  cases call with
  | tryRead => rfl
  | readBatch size out missedBefore =>
      cases status with
      | kOk =>
          simp only [ReadCall.resume]
          split <;> rfl
      | kEmpty => rfl
      | kLapped => rfl

theorem ReadCall.Reports.resume {call : ReadCall} {log : List ReadEvent}
    (reports : call.Reports log) (cursor : Cursor) (event : ReadEvent) :
    (call.resume cursor event.status event.frame?).Reports (log ++ [event]) := by
  cases call with
  | tryRead => exact ⟨event, List.getLast?_concat .., rfl, rfl⟩
  | readBatch size out missedBefore =>
      have extended : out ++ event.frame?.toList <:+
          (log ++ [event]).filterMap ReadEvent.frame? := by
        rcases reports with ⟨earlier, frames⟩
        refine ⟨earlier, ?_⟩
        rw [List.filterMap_append, ← frames, List.append_assoc]
        cases event <;> rfl
      cases event with
      | ok pos frame missed =>
          simp only [ReadCall.resume, ReadEvent.status]
          split <;> exact extended
      | empty pos =>
          change out ++ [] <:+ _ at extended
          rw [List.append_nil] at extended
          exact extended
      | lapped first target =>
          change out ++ [] <:+ _ at extended
          rw [List.append_nil] at extended
          exact extended

namespace Reader

/-- The sequences a caller sees grow strictly: fewer than `2 ^ 63` tickets are
out, so no position wraps. -/
theorem Sound.sequences_increase {core : Core geometry Producer} {reader : Reader}
    (sound : reader.Sound core) (consistent : core.Consistent)
    (limit : core.writePos < Core.kTicketLimit) :
    (reader.log.filterMap ReadEvent.frame?).Pairwise (fun left right => left.seq < right.seq) := by
  have increasing := (replay_increasing sound.replayed).1
  rw [List.pairwise_filterMap] at increasing ⊢
  have sequence {event : ReadEvent} (member : event ∈ reader.log) {frame : Frame}
      (returned : event.frame? = some frame) :
      ∃ pos, event.position? = some pos ∧ frame.seq.toNat = pos := by
    cases event with
    | ok pos original missed =>
        cases returned
        rcases sound.frames pos _ missed (List.mem_append_right _ member) with
          ⟨producer, passed, issued, rfl⟩
        have inside := (List.getElem?_eq_some_iff.mp issued).1
        rw [consistent.tickets.counted] at inside
        refine ⟨pos, rfl, UInt64.toNat_ofNat_of_lt' ?_⟩
        exact Nat.lt_trans (Nat.lt_trans inside limit) (by decide)
    | empty pos => cases returned
    | lapped first target => cases returned
  refine increasing.imp_of_mem ?_
  intro left right leftMember rightMember ordered leftFrame leftReturned rightFrame rightReturned
  rcases sequence leftMember leftReturned with ⟨leftPos, leftAt, leftSeq⟩
  rcases sequence rightMember rightReturned with ⟨rightPos, rightAt, rightSeq⟩
  rw [UInt64.lt_iff_toNat_lt, leftSeq, rightSeq]
  exact ordered leftPos leftAt rightPos rightAt

theorem Sound.extend {before after : Core geometry Producer} {reader : Reader}
    (extension : before.Extends after) (sound : reader.Sound before) : reader.Sound after :=
  ⟨sound.replayed, sound.phase.extend extension, sound.reports,
    fun pos frame missed member => (sound.frames pos frame missed member).extend extension⟩

theorem Sound.setPhase {core : Core geometry Producer} {reader : Reader}
    (sound : reader.Sound core) (phase : ReaderPhase)
    (fits : phase.Sound core reader.cursor.next) (reports : phase.Reports reader.log) :
    ({ reader with phase := phase } : Reader).Sound core :=
  ⟨sound.replayed, fits, reports, sound.frames⟩

/-- An event that the cursor explains keeps the reader sound; a frame it
returns has to be the one the position carries. -/
theorem Sound.record {core : Core geometry Producer} {reader : Reader}
    (sound : reader.Sound core) {cursor : Cursor} {call : ReadCall} {event : ReadEvent}
    (applied : event.apply reader.cursor = some cursor) (reports : call.Reports reader.log)
    (carried : ∀ pos frame missed, event = .ok pos frame missed → core.Carries pos frame) :
    ({ reader with
      cursor := cursor
      phase := call.resume cursor event.status event.frame?
      log := reader.log ++ [event] } : Reader).Sound core := by
  refine ⟨replay_concat.mpr ⟨reader.cursor, sound.replayed, applied⟩,
    ReaderPhase.sound_of_outside (call.resume_outside _ _ _) _ _, reports.resume cursor event, ?_⟩
  intro pos frame missed member
  change _ ∈ reader.past ++ (reader.log ++ [event]) at member
  rw [← List.append_assoc, List.mem_append, List.mem_singleton] at member
  rcases member with old | new
  · exact sound.frames pos frame missed old
  · exact carried pos frame missed new.symm

theorem Sound.returnEmpty {core : Core geometry Producer} {reader : Reader}
    (sound : reader.Sound core) {call : ReadCall} (reports : call.Reports reader.log) :
    (reader.returnEmpty call).Sound core :=
  sound.record (ReadEvent.apply_empty.mpr ⟨rfl, rfl⟩) reports fun _ _ _ equal => nomatch equal

theorem Sound.returnFrame {core : Core geometry Producer} {reader : Reader}
    (sound : reader.Sound core) {call : ReadCall} (reports : call.Reports reader.log)
    {words : Fin kFrameWords → UInt64}
    (carried : core.Carries reader.cursor.next (Frame.ofWords words)) :
    (reader.returnFrame call words).Sound core := by
  refine sound.record (ReadEvent.apply_ok.mpr ⟨⟨rfl, rfl⟩, rfl⟩) reports ?_
  intro pos frame missed equal
  cases equal
  exact carried

theorem lapTo_ahead {geometry : Geometry} {reader : Reader} {writePos : Nat} (call : ReadCall)
    (overtaken : reader.cursor.next + geometry.capacity < writePos) :
    reader.cursor.next < geometry.oldest writePos ∧
      reader.lapTo call (geometry.oldest writePos) =
        { reader with
          cursor := {
            next := geometry.oldest writePos
            missed := reader.cursor.missed + (geometry.oldest writePos - reader.cursor.next) }
          phase := call.resume {
            next := geometry.oldest writePos
            missed := reader.cursor.missed + (geometry.oldest writePos - reader.cursor.next) }
            .kLapped none
          log := reader.log ++ [.lapped reader.cursor.next (geometry.oldest writePos)] } := by
  have ahead : reader.cursor.next < geometry.oldest writePos := by
    unfold Geometry.oldest
    split <;> omega
  refine ⟨ahead, ?_⟩
  simp only [lapTo, if_pos ahead]

theorem Sound.lapTo {core : Core geometry Producer} {reader : Reader}
    (sound : reader.Sound core) {call : ReadCall} (lapping : reader.phase = .lap call)
    (overtaken : reader.cursor.next + geometry.capacity < core.writePos) :
    (reader.lapTo call (geometry.oldest core.writePos)).Sound core := by
  have reports := sound.reports
  rw [lapping] at reports
  rcases lapTo_ahead call overtaken with ⟨ahead, equal⟩
  rw [equal]
  exact sound.record (ReadEvent.apply_lapped.mpr ⟨⟨rfl, ahead⟩, rfl⟩) reports
    fun _ _ _ impossible => nomatch impossible

/-- The first load: either the position is not there yet, or it is complete,
or a later ticket has taken its cell. -/
theorem loadSeq_cases {core : Core geometry Producer} (consistent : core.Consistent)
    (reader : Reader) (call : ReadCall) :
    (reader.cursor.next ∉ core.published ∧
      reader.loadSeq call (core.seqAt reader.cursor.next) = reader.returnEmpty call) ∨
    (reader.cursor.next ∈ core.published ∧
      2 * reader.cursor.next + 2 < core.seqAt reader.cursor.next ∧
      reader.loadSeq call (core.seqAt reader.cursor.next) = { reader with phase := .lap call }) ∨
    (reader.cursor.next ∈ core.published ∧
      core.seqAt reader.cursor.next = 2 * reader.cursor.next + 2 ∧
      reader.loadSeq call (core.seqAt reader.cursor.next) =
        { reader with
          phase := .loadWord call (2 * reader.cursor.next + 2) 0 fun _ => 0 }) := by
  rw [consistent.claims.complete]
  unfold loadSeq
  generalize core.seqAt reader.cursor.next = s1
  generalize reader.cursor.next = next
  by_cases unpublished : s1 < 2 * next + 2
  · refine Or.inl ⟨Nat.not_le.mpr unpublished, ?_⟩
    split
    · rfl
    · split
      · rfl
      · rw [if_neg (by omega), if_pos (by omega)]
  · by_cases later : 2 * next + 2 < s1
    · refine Or.inr (Or.inl ⟨by omega, later, ?_⟩)
      rw [if_neg (by omega), if_neg (by omega), if_pos (by omega)]
    · have equal : s1 = 2 * next + 2 := by omega
      subst equal
      refine Or.inr (Or.inr ⟨by omega, rfl, ?_⟩)
      rw [if_neg (by omega), if_neg (by omega), if_neg (by omega), if_neg (by omega)]

theorem loadSeq_cursor (reader : Reader) (call : ReadCall) (s1 : Nat) :
    (reader.loadSeq call s1).cursor = reader.cursor := by
  unfold loadSeq
  repeat' split
  all_goals rfl

/-- The second load never answers that a position is empty, and counts no loss
by itself. -/
theorem reloadSeq_effect (reader : Reader) (call : ReadCall) (s1 : Nat)
    (words : Fin kFrameWords → UInt64) (s2 : Nat) :
    (reader.reloadSeq call s1 words s2).cursor.missed = reader.cursor.missed ∧
      ((reader.reloadSeq call s1 words s2).log = reader.log ∨
        ∃ frame, (reader.reloadSeq call s1 words s2).log =
          reader.log ++ [.ok reader.cursor.next frame reader.cursor.missed]) := by
  unfold reloadSeq
  split
  · exact ⟨rfl, Or.inl rfl⟩
  · split
    · exact ⟨rfl, Or.inl rfl⟩
    · exact ⟨rfl, Or.inr ⟨_, rfl⟩⟩

theorem Sound.loadSeq {core : Core geometry Producer} (consistent : core.Consistent)
    {reader : Reader} (sound : reader.Sound core) {call : ReadCall}
    (loading : reader.phase = .loadSeq call) :
    (reader.loadSeq call (core.seqAt reader.cursor.next)).Sound core := by
  have reports := sound.reports
  rw [loading] at reports
  rcases loadSeq_cases consistent reader call with ⟨_, equal⟩ | ⟨_, later, equal⟩ |
    ⟨_, complete, equal⟩
  · rw [equal]
    exact sound.returnEmpty reports
  · rw [equal]
    exact sound.setPhase (.lap call) (consistent.overwritten later) reports
  · rw [equal]
    refine sound.setPhase (.loadWord call _ 0 _) ⟨rfl, Nat.le_of_eq complete.symm, ?_⟩ reports
    intro _ earlier below
    exact absurd below (Nat.not_lt_zero _)

theorem Sound.loadWord {core : Core geometry Producer} {reader : Reader}
    (sound : reader.Sound core) {call : ReadCall} {s1 : Nat} {index : Fin kFrameWords}
    {words : Fin kFrameWords → UInt64} (loading : reader.phase = .loadWord call s1 index words) :
    ({ reader with
      phase := if more : index.val + 1 < kFrameWords then
          .loadWord call s1 ⟨index.val + 1, more⟩
            (Function.update words index (core.wordsAt reader.cursor.next index))
        else .reloadSeq call s1
          (Function.update words index (core.wordsAt reader.cursor.next index)) } :
      Reader).Sound core := by
  have fits := sound.phase
  have reports := sound.reports
  rw [loading] at fits reports
  rcases fits with ⟨complete, lower, copied⟩
  have copies (unmoved : core.seqAt reader.cursor.next = s1) (earlier : Fin kFrameWords)
      (below : earlier.val < index.val + 1) :
      Function.update words index (core.wordsAt reader.cursor.next index) earlier =
        core.wordsAt reader.cursor.next earlier := by
    by_cases equal : earlier = index
    · subst equal
      rw [Function.update_self]
    · have apart : earlier.val ≠ index.val := fun same => equal (Fin.ext same)
      rw [Function.update_of_ne equal]
      exact copied unmoved earlier (Fin.lt_def.mpr (by omega))
  apply sound.setPhase _
  · split
    · exact ⟨complete, lower, fun unmoved earlier below => copies unmoved earlier below⟩
    · refine ⟨complete, lower, ?_⟩
      intro unmoved
      funext earlier
      exact copies unmoved earlier (by omega)
  · split <;> exact reports

/-- The second load: an unchanged word means that the copy is the complete
cell, so the payload carries the position. -/
theorem Sound.reloadSeq_cases {core : Core geometry Producer} (consistent : core.Consistent)
    {reader : Reader} (sound : reader.Sound core) {call : ReadCall} {s1 : Nat}
    {words : Fin kFrameWords → UInt64} (reloading : reader.phase = .reloadSeq call s1 words) :
    (2 * reader.cursor.next + 2 < core.seqAt reader.cursor.next ∧
      reader.reloadSeq call s1 words (core.seqAt reader.cursor.next) =
        { reader with phase := .lap call }) ∨
    (core.seqAt reader.cursor.next = 2 * reader.cursor.next + 2 ∧
      reader.reloadSeq call s1 words (core.seqAt reader.cursor.next) =
        reader.returnFrame call (core.wordsAt reader.cursor.next)) := by
  have fits := sound.phase
  rw [reloading] at fits
  rcases fits with ⟨complete, lower, copied⟩
  unfold Reader.reloadSeq
  split
  · exact Or.inl ⟨by omega, rfl⟩
  · rename_i unmoved
    have same : core.seqAt reader.cursor.next = s1 := Decidable.not_not.mp unmoved
    rcases consistent.claims.payload _ (same.trans complete) with ⟨producer, original, _, payload⟩
    have first : core.wordsAt reader.cursor.next 0 = UInt64.ofNat reader.cursor.next := by
      rw [payload]
      rfl
    rw [copied same, if_neg (by rw [first]; exact fun differ => differ rfl)]
    exact Or.inr ⟨same.trans complete, rfl⟩

theorem Sound.reloadSeq {core : Core geometry Producer} (consistent : core.Consistent)
    {reader : Reader} (sound : reader.Sound core) {call : ReadCall} {s1 : Nat}
    {words : Fin kFrameWords → UInt64} (reloading : reader.phase = .reloadSeq call s1 words) :
    (reader.reloadSeq call s1 words (core.seqAt reader.cursor.next)).Sound core := by
  have reports := sound.reports
  rw [reloading] at reports
  rcases sound.reloadSeq_cases consistent reloading with ⟨later, equal⟩ | ⟨complete, equal⟩
  · rw [equal]
    exact sound.setPhase (.lap call) (consistent.overwritten later) reports
  · rw [equal]
    exact sound.returnFrame reports (consistent.carries_complete complete)

end Reader

end TelemetryGateway.BroadcastRing
