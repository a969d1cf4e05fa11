import TelemetryGateway.Ring.QuietReading

/-! # A producer that stalls in the middle of a write

A cell that a producer has claimed and not yet published answers `kEmpty`, and
`kEmpty` does not move the cursor. Which positions a reader comes to while
nothing is published is therefore settled by the cells: it steps over what is
complete, jumps to the oldest position from what has been overwritten, and stays
at everything else. -/

namespace TelemetryGateway.BroadcastRing

namespace Core

/-- Published and not overwritten. -/
def Readable (core : Core geometry Producer) (pos : Nat) : Prop :=
  core.seqAt pos = 2 * pos + 2

def Overwritten (core : Core geometry Producer) (pos : Nat) : Prop :=
  2 * pos + 2 < core.seqAt pos

theorem Consistent.readable_iff {core : Core geometry Producer} (consistent : core.Consistent)
    {pos : Nat} : core.Readable pos ↔ pos ∈ core.published ∧ ¬ core.Overwritten pos := by
  rw [consistent.claims.complete, Overwritten, Readable]
  omega

def oldest (core : Core geometry Producer) : Nat :=
  geometry.oldest core.writePos

/-- Every position from `lower` up to `upper` can be read. -/
def Gapless (core : Core geometry Producer) (lower upper : Nat) : Prop :=
  ∀ pos, lower ≤ pos → pos < upper → core.Readable pos

theorem Gapless.nothing (core : Core geometry Producer) (pos : Nat) : core.Gapless pos pos := by
  intro between lower upper
  omega

theorem Gapless.succ {core : Core geometry Producer} {lower upper : Nat}
    (gapless : core.Gapless lower upper) (readable : core.Readable upper) :
    core.Gapless lower (upper + 1) := by
  intro pos above below
  rcases Nat.lt_succ_iff_lt_or_eq.mp below with inside | rfl
  · exact gapless pos above inside
  · exact readable

/-- The positions a reader comes to from `start`. -/
inductive Visits (core : Core geometry Producer) (start : Nat) : Nat → Prop
  | here : Visits core start start
  | read : Visits core start pos → core.Readable pos → Visits core start (pos + 1)
  | lap : Visits core start pos → core.Overwritten pos → Visits core start core.oldest

theorem Consistent.before_oldest {core : Core geometry Producer} (consistent : core.Consistent)
    {pos : Nat} (overwritten : core.Overwritten pos) : pos < core.oldest := by
  have overtaken := consistent.overwritten overwritten
  unfold oldest Geometry.oldest
  split <;> omega

/-- A reader laps once at most: from the oldest position on nothing has been
overwritten. -/
theorem Visits.legs {core : Core geometry Producer} (consistent : core.Consistent)
    {start pos : Nat} (visits : core.Visits start pos) :
    (start ≤ pos ∧ core.Gapless start pos) ∨
    (∃ lost, start ≤ lost ∧ core.Gapless start lost ∧ core.Overwritten lost ∧
      core.oldest ≤ pos ∧ core.Gapless core.oldest pos) := by
  induction visits with
  | here => exact .inl ⟨Nat.le_refl _, .nothing core start⟩
  | read visits readable induction =>
      rcases induction with ⟨ahead, first⟩ | ⟨lost, after, first, overwritten, ahead, second⟩
      · exact .inl ⟨Nat.le_succ_of_le ahead, first.succ readable⟩
      · exact .inr ⟨lost, after, first, overwritten, Nat.le_succ_of_le ahead,
          second.succ readable⟩
  | lap visits overwritten induction =>
      have nothing := Gapless.nothing core core.oldest
      rcases induction with ⟨ahead, first⟩ | ⟨lost, after, first, earlier, ahead, _⟩
      · exact .inr ⟨_, ahead, first, overwritten, Nat.le_refl _, nothing⟩
      · exact absurd (consistent.before_oldest overwritten) (Nat.not_lt.mpr ahead)

/-- The reader finds that it has been overtaken before it comes to `claimed`,
and the jump leads beyond it. -/
structure Jumps (core : Core geometry Producer) (start claimed : Nat) : Prop where
  overtaken : ∃ lost, start ≤ lost ∧ lost < claimed ∧ core.Gapless start lost ∧
    core.Overwritten lost
  beyond : claimed < core.oldest

theorem Visits.jumps {core : Core geometry Producer} (consistent : core.Consistent)
    {start claimed pos : Nat} (visits : core.Visits start pos)
    (stalled : core.seqAt claimed = 2 * claimed + 1) (before : start ≤ claimed)
    (behind : claimed < pos) :
    core.Jumps start claimed ∧ core.oldest ≤ pos ∧ core.Gapless core.oldest pos := by
  have unreadable : ¬ core.Readable claimed := by
    unfold Readable
    omega
  rcases visits.legs consistent with ⟨_, all⟩ | ⟨lost, after, first, overwritten, ahead, second⟩
  · exact absurd (all claimed before behind) unreadable
  · have apart : lost ≠ claimed := by
      rintro rfl
      unfold Overwritten at overwritten
      omega
    have earlier : lost < claimed := by
      by_contra later
      exact unreadable (first claimed before (by omega))
    have beyond : claimed < core.oldest := by
      by_contra within
      exact unreadable (second claimed (Nat.not_lt.mp within) behind)
    exact ⟨⟨⟨lost, after, earlier, first, overwritten⟩, beyond⟩, ahead, second⟩

end Core

/-! ## One step of a reader -/

def ReaderPhase.reads (phase : ReaderPhase) : Bool :=
  phase.resting || phase.call?.isSome

/-- How a `try_read` ends: what it writes down and where it leaves the cursor. -/
inductive Core.Answers (core : Core geometry Producer) (pos : Nat) : ReadEvent → Nat → Prop
  | ok (readable : core.Readable pos) : Answers core pos (.ok pos frame missed) (pos + 1)
  | lapped (overwritten : core.Overwritten pos) :
      Answers core pos (.lapped pos core.oldest) core.oldest
  | empty (missing : core.seqAt pos < 2 * pos + 2) : Answers core pos (.empty pos) pos

theorem Core.Visits.answers {core : Core geometry Producer} {start pos next : Nat}
    {event : ReadEvent} (visits : core.Visits start pos) (answers : core.Answers pos event next) :
    core.Visits start next := by
  cases answers with
  | ok readable => exact visits.read readable
  | lapped overwritten => exact visits.lap overwritten
  | empty missing => exact visits

theorem Core.Answers.position {core : Core geometry Producer} {pos next at' missed : Nat}
    {frame : Frame} (answers : core.Answers pos (.ok at' frame missed) next) : at' = pos := by
  cases answers
  rfl

theorem Core.Answers.read {core : Core geometry Producer} {pos next : Nat} {event : ReadEvent}
    (answers : core.Answers pos event next) (readable : core.Readable pos) :
    next = pos + 1 ∧ ∃ frame missed, event = .ok pos frame missed := by
  unfold Readable at readable
  cases answers with
  | ok _ => exact ⟨rfl, _, _, rfl⟩
  | lapped overwritten =>
      unfold Overwritten at overwritten
      omega
  | empty missing => omega

theorem Core.Answers.lap {core : Core geometry Producer} {pos next : Nat} {event : ReadEvent}
    (answers : core.Answers pos event next) (overwritten : core.Overwritten pos) :
    next = core.oldest ∧ event = .lapped pos core.oldest := by
  unfold Overwritten at overwritten
  cases answers with
  | ok readable =>
      unfold Readable at readable
      omega
  | lapped _ => exact ⟨rfl, rfl⟩
  | empty missing => omega

/-- What a step inside `try_read` does to the reader. -/
inductive Reader.Advances (core : Core geometry Producer) (before after : Reader) : Prop
  | onward (cursor : after.cursor = before.cursor) (log : after.log = before.log)
      (call : after.phase.call?.isSome = true)
      (closer : after.phase.toReturn < before.phase.toReturn)
  | ends (event : ReadEvent)
      (answers : core.Answers before.cursor.next event after.cursor.next)
      (log : after.log = before.log ++ [event]) (reads : after.phase.reads = true)

theorem ReadCall.resume_reads (call : ReadCall) (cursor : Cursor) (status : ReadStatus)
    (frame : Option Frame) : (call.resume cursor status frame).reads = true := by
  cases call with
  | tryRead => rfl
  | readBatch size out missedBefore =>
      cases status with
      | kOk =>
          simp only [ReadCall.resume]
          split <;> rfl
      | kEmpty => rfl
      | kLapped => rfl

namespace Reader

def Overtaken (core : Core geometry Producer) (reader : Reader) : Prop :=
  ∀ call, reader.phase = .lap call → core.Overwritten reader.cursor.next

theorem Advances.loadSeq {core : Core geometry Producer} (consistent : core.Consistent)
    {reader : Reader} {call : ReadCall} (loading : reader.phase = .loadSeq call) :
    reader.Advances core (reader.loadSeq call (core.seqAt reader.cursor.next)) := by
  rcases loadSeq_cases consistent reader call with ⟨missing, equal⟩ | ⟨_, later, equal⟩ |
    ⟨_, complete, equal⟩
  · rw [equal]
    rw [consistent.claims.complete, Nat.not_le] at missing
    exact .ends (.empty reader.cursor.next) (.empty missing) rfl (call.resume_reads _ _ _)
  · rw [equal]
    exact .onward rfl rfl rfl (by rw [loading]; exact (by decide : 2 < 9))
  · rw [equal]
    exact .onward rfl rfl rfl (by rw [loading]; exact (by decide : 8 < 9))

theorem Advances.loadWord {core : Core geometry Producer} {reader : Reader} {call : ReadCall}
    {s1 : Nat} {index : Fin kFrameWords} {words : Fin kFrameWords → UInt64}
    (loading : reader.phase = .loadWord call s1 index words) (word : UInt64) :
    reader.Advances core { reader with
      phase := if more : index.val + 1 < kFrameWords then
          .loadWord call s1 ⟨index.val + 1, more⟩ (Function.update words index word)
        else .reloadSeq call s1 (Function.update words index word) } := by
  have bounded : index.val < 5 := index.isLt
  refine .onward rfl rfl ?_ ?_
  · dsimp only
    split <;> rfl
  · rw [loading]
    dsimp only
    split <;> simp only [ReaderPhase.toReturn] <;> omega

theorem Advances.reloadSeq {core : Core geometry Producer} (consistent : core.Consistent)
    {reader : Reader} (sound : reader.Sound core) {call : ReadCall} {s1 : Nat}
    {words : Fin kFrameWords → UInt64} (reloading : reader.phase = .reloadSeq call s1 words) :
    reader.Advances core (reader.reloadSeq call s1 words (core.seqAt reader.cursor.next)) := by
  rcases sound.reloadSeq_cases consistent reloading with ⟨_, equal⟩ | ⟨complete, equal⟩
  · rw [equal]
    exact .onward rfl rfl rfl (by rw [reloading]; exact (by decide : 2 < 3))
  · rw [equal]
    exact .ends _ (.ok complete) rfl (call.resume_reads _ _ _)

theorem Advances.lap {core : Core geometry Producer} {reader : Reader} (sound : reader.Sound core)
    (overtaken : reader.Overtaken core) {call : ReadCall} (lapping : reader.phase = .lap call) :
    reader.Advances core (reader.lapTo call (geometry.oldest core.writePos)) := by
  have behind := sound.phase
  rw [lapping] at behind
  rcases lapTo_ahead call behind with ⟨_, equal⟩
  rw [equal]
  exact .ends (.lapped reader.cursor.next core.oldest) (.lapped (overtaken call lapping)) rfl
    (call.resume_reads reader.cursor .kLapped none)

end Reader

namespace State

theorem overtaken_readStep [DecidableEq ReaderId] {state after : State geometry Producer ReaderId}
    (sound : state.Sound) {id : ReaderId} (stepped : state.readStep id = some after) :
    (after.readers id).Overtaken state.core := by
  have outside {reader : Reader} (midRead : reader.phase.midRead = false) :
      reader.Overtaken state.core := by
    intro call lapping
    rw [lapping] at midRead
    cases midRead
  rcases readStep_cases stepped with ⟨call, loading, rfl⟩ | ⟨call, s1, index, words, loading, rfl⟩ |
    ⟨call, s1, words, reloading, rfl⟩ | ⟨call, counting, _⟩ | ⟨call, lapping, rfl⟩ | ⟨_, rfl⟩
  · rw [setReader_self]
    rcases Reader.loadSeq_cases sound.core (state.readers id) call with ⟨_, equal⟩ |
      ⟨_, later, equal⟩ | ⟨_, _, equal⟩
    · rw [equal]
      exact outside (call.resume_outside _ _ _)
    · rw [equal]
      exact fun _ _ => later
    · rw [equal]
      exact fun _ impossible => nomatch impossible
  · rw [setPhase, setReader_self]
    intro call lapping
    dsimp only at lapping
    split at lapping <;> cases lapping
  · rw [setReader_self]
    rcases (sound.readers id).reloadSeq_cases sound.core reloading with ⟨later, equal⟩ |
      ⟨_, equal⟩
    · rw [equal]
      exact fun _ _ => later
    · rw [equal]
      exact outside (call.resume_outside _ _ _)
  · have impossible := (sound.readers id).phase
    rw [counting] at impossible
    exact impossible.elim
  · rw [setReader_self]
    exact outside (call.resume_outside (state.readers id).cursor .kLapped none)
  · rw [setReader_self]
    exact outside rfl

section

variable {geometry : Geometry} {Producer ReaderId : Type} [DecidableEq Producer]
  [DecidableEq ReaderId]

theorem Sound.overtaken_step {state after : State geometry Producer ReaderId} (sound : state.Sound)
    {label : Label Producer ReaderId} (stepped : state.step label = some after) {id : ReaderId}
    (overtaken : (state.readers id).Overtaken state.core) :
    (after.readers id).Overtaken after.core := by
  rcases step_reader stepped id with ⟨rfl, read⟩ | ⟨phase, equal, reason⟩
  · rw [step_core stepped rfl]
    exact overtaken_readStep sound read
  · rw [equal]
    intro call lapping
    dsimp only at lapping ⊢
    rcases reason with same | ⟨request, rfl⟩ | ⟨_, settled⟩
    · exact Nat.lt_of_lt_of_le (overtaken call (same.symm.trans lapping))
        ((sound.extends stepped).seq _)
    · rcases call_moves stepped with ⟨entered, moves⟩
      have phases : phase = entered := by
        have readers := congrFun moves.readers id
        rw [Function.update_self, equal] at readers
        exact congrArg Reader.phase readers
      have outside := moves.outside
      rw [← phases, lapping] at outside
      cases outside
    · rw [lapping] at settled
      cases settled

theorem overtaken_of_reachable {state : State geometry Producer ReaderId}
    (reached : (system geometry Producer ReaderId).Reachable state) (id : ReaderId) :
    (state.readers id).Overtaken state.core := by
  refine reached.invariant (fun state => (state.readers id).Overtaken state.core) ?_ ?_
  · rintro state ⟨start, rfl⟩
    exact fun _ impossible => nomatch impossible
  · intro state label after before _ overtaken stepped
    exact (sound_of_reachable before).overtaken_step stepped overtaken

end

theorem Sound.readStep_advances [DecidableEq ReaderId] {state : State geometry Producer ReaderId}
    (sound : state.Sound) {id : ReaderId} (overtaken : (state.readers id).Overtaken state.core)
    (calling : (state.readers id).phase.call?.isSome = true) :
    ∃ reader, state.readStep id = some (state.setReader id reader) ∧
      (state.readers id).Advances state.core reader := by
  have reader := sound.readers id
  cases phase : (state.readers id).phase with
  | loadSeq call =>
      exact ⟨_, by simp only [State.readStep, phase]; rfl, .loadSeq sound.core phase⟩
  | loadWord call s1 index words =>
      refine ⟨_, ?_, .loadWord phase (state.core.wordsAt (state.readers id).cursor.next index)⟩
      simp only [State.readStep, phase]
      rfl
  | reloadSeq call s1 words =>
      exact ⟨_, by simp only [State.readStep, phase]; rfl, .reloadSeq sound.core reader phase⟩
  | countInconsistent call =>
      have impossible := reader.phase
      rw [phase] at impossible
      exact impossible.elim
  | lap call =>
      exact ⟨_, by simp only [State.readStep, phase], .lap reader overtaken phase⟩
  | _ =>
      rw [phase] at calling
      cases calling

end State

/-! ## A reader alone -/

/-- Whether it is a step of that reader's `try_read` or `read_batch`. -/
def Label.readsAs [DecidableEq ReaderId] (id : ReaderId) : Label Producer ReaderId → Bool
  | .call caller .tryRead => caller = id
  | .call caller (.readBatch _) => caller = id
  | .reader mover => mover = id
  | _ => false

def Reader.Turns (core : Core geometry Producer) (before after : Reader) : Prop :=
  (after.cursor = before.cursor ∧ after.log = before.log) ∨
    ∃ event, core.Answers before.cursor.next event after.cursor.next ∧
      after.log = before.log ++ [event]

structure State.Ready (id : ReaderId) (state : State geometry Producer ReaderId) : Prop where
  sound : state.Sound
  overtaken : (state.readers id).Overtaken state.core
  reads : (state.readers id).phase.reads = true

namespace State

section

variable {geometry : Geometry} {Producer ReaderId : Type} [DecidableEq Producer]
  [DecidableEq ReaderId]

theorem Ready.advances {state after : State geometry Producer ReaderId} {id : ReaderId}
    (ready : state.Ready id) (stepped : state.step (.reader id) = some after) :
    (state.readers id).phase.call?.isSome = true ∧
      (state.readers id).Advances state.core (after.readers id) := by
  have calling : (state.readers id).phase.call?.isSome = true := by
    have reads := ready.reads
    unfold ReaderPhase.reads at reads
    cases resting : (state.readers id).phase.resting with
    | false =>
        rw [resting] at reads
        exact reads
    | true =>
        -- between two calls there is no step to take
        exfalso
        cases phase : (state.readers id).phase with
        | idle =>
            simp only [State.step, State.readStep, State.idleStep, phase] at stepped
            cases stepped
        | done outcome =>
            simp only [State.step, State.readStep, State.idleStep, phase] at stepped
            cases stepped
        | _ =>
            rw [phase] at resting
            cases resting
  rcases ready.sound.readStep_advances ready.overtaken calling with ⟨reader, read, advances⟩
  simp only [State.step, read, Option.some.injEq] at stepped
  rw [← stepped, setReader_self]
  exact ⟨calling, advances⟩

theorem Ready.call {state after : State geometry Producer ReaderId} {id : ReaderId}
    (ready : state.Ready id) {request : Request}
    (entry : (request.entry (state.readers id).cursor.missed).reads = true)
    (stepped : state.step (.call id request) = some after) :
    after.Ready id ∧ after.core = state.core ∧
      (state.readers id).Turns state.core (after.readers id) := by
  have called : state.call id request = some after := stepped
  have sound := ready.sound.step stepped
  have overtaken := ready.sound.overtaken_step stepped ready.overtaken
  rcases State.call_cases called with ⟨_, rfl⟩
  refine ⟨⟨sound, overtaken, ?_⟩, rfl, .inl ?_⟩
  · rw [setPhase, setReader_self]
    exact entry
  · rw [setPhase, setReader_self]
    exact ⟨rfl, rfl⟩

theorem Ready.step {state after : State geometry Producer ReaderId} {id : ReaderId}
    (ready : state.Ready id) {label : Label Producer ReaderId} (own : label.readsAs id = true)
    (stepped : state.step label = some after) :
    after.Ready id ∧ after.core = state.core ∧
      (state.readers id).Turns state.core (after.readers id) := by
  cases label with
  | call caller request =>
      cases request with
      | tryRead =>
          have same : caller = id := of_decide_eq_true own
          subst same
          exact ready.call rfl stepped
      | readBatch size =>
          have same : caller = id := of_decide_eq_true own
          subst same
          refine ready.call ?_ stepped
          unfold Request.entry
          dsimp only
          split <;> rfl
      | _ => cases own
  | reader mover =>
      have same : mover = id := of_decide_eq_true own
      subst same
      have sound := ready.sound.step stepped
      have overtaken := ready.sound.overtaken_step stepped ready.overtaken
      have core := step_core stepped rfl
      rcases ready.advances stepped with ⟨_, ⟨cursor, log, call, _⟩ | ⟨event, answers, log, reads⟩⟩
      · refine ⟨⟨sound, overtaken, ?_⟩, core, .inl ⟨cursor, log⟩⟩
        unfold ReaderPhase.reads
        rw [call, Bool.or_true]
      · exact ⟨⟨sound, overtaken, reads⟩, core, .inr ⟨event, answers, log⟩⟩
  | _ => cases own

/-! ## What the reader receives -/

def Solo (id : ReaderId) (state after : State geometry Producer ReaderId) : Prop :=
  ∃ schedule, (∀ label ∈ schedule, label.readsAs id = true) ∧
    (system geometry Producer ReaderId).run state schedule = some after

theorem Solo.refl (id : ReaderId) (state : State geometry Producer ReaderId) :
    Solo id state state :=
  ⟨[], fun _ member => (nomatch member), rfl⟩

theorem Solo.trans {id : ReaderId} {state middle after : State geometry Producer ReaderId}
    (first : Solo id state middle) (second : Solo id middle after) : Solo id state after := by
  rcases first with ⟨left, leftOwn, leftRan⟩
  rcases second with ⟨right, rightOwn, rightRan⟩
  refine ⟨left ++ right, ?_, ?_⟩
  · intro label member
    rcases List.mem_append.mp member with old | new
    · exact leftOwn label old
    · exact rightOwn label new
  · rw [System.run_append, leftRan]
    exact rightRan

theorem Solo.single {id : ReaderId} {state after : State geometry Producer ReaderId}
    {label : Label Producer ReaderId} (own : label.readsAs id = true)
    (stepped : state.step label = some after) : Solo id state after := by
  refine ⟨[label], ?_, ?_⟩
  · intro other member
    rw [List.mem_singleton.mp member]
    exact own
  · exact Option.bind_eq_some_iff.mpr ⟨after, stepped, rfl⟩

structure Walked (core : Core geometry Producer) (begin : Reader) (events : List ReadEvent)
    (id : ReaderId) (state : State geometry Producer ReaderId) : Prop where
  ready : state.Ready id
  same : state.core = core
  log : (state.readers id).log = begin.log ++ events
  visits : core.Visits begin.cursor.next (state.readers id).cursor.next
  received : ∀ pos frame missed, .ok pos frame missed ∈ events →
    core.Visits begin.cursor.next pos

theorem Walked.step {core : Core geometry Producer} {begin : Reader} {events : List ReadEvent}
    {id : ReaderId} {state after : State geometry Producer ReaderId}
    (walked : state.Walked core begin events id) {label : Label Producer ReaderId}
    (own : label.readsAs id = true) (stepped : state.step label = some after) :
    ∃ events, after.Walked core begin events id := by
  rcases walked.ready.step own stepped with ⟨ready, same, ⟨cursor, log⟩ | ⟨event, answers, log⟩⟩
  · refine ⟨events, ready, same.trans walked.same, log.trans walked.log, ?_, walked.received⟩
    rw [cursor]
    exact walked.visits
  · rw [walked.same] at answers
    have visits := walked.visits
    refine ⟨events ++ [event], ready, same.trans walked.same, ?_, ?_, ?_⟩
    · rw [log, walked.log, List.append_assoc]
    · exact visits.answers answers
    · intro pos frame missed member
      rcases List.mem_append.mp member with old | new
      · exact walked.received pos frame missed old
      · rw [← List.mem_singleton.mp new] at answers
        rw [answers.position]
        exact visits

theorem Ready.walks {state after : State geometry Producer ReaderId} {id : ReaderId}
    (ready : state.Ready id) (solo : Solo id state after) :
    ∃ events, after.Walked state.core (state.readers id) events id := by
  rcases solo with ⟨schedule, own, ran⟩
  refine System.run_keeps
    (fun after => ∃ events, after.Walked state.core (state.readers id) events id) ?_ ?_ ran
  · rintro before label next member ⟨events, walked⟩ stepped
    exact walked.step (own label member) stepped
  · exact ⟨[], ready, rfl, (List.append_nil _).symm, .here, fun _ _ _ member => nomatch member⟩

/-- The reader has ended a `try_read` by its own steps. -/
structure Ends (id : ReaderId) (state : State geometry Producer ReaderId) (event : ReadEvent)
    (after : State geometry Producer ReaderId) : Prop where
  solo : Solo id state after
  ready : after.Ready id
  core : after.core = state.core
  answers : state.core.Answers (state.readers id).cursor.next event
    (after.readers id).cursor.next
  log : (after.readers id).log = (state.readers id).log ++ [event]

theorem Ends.prepend {id : ReaderId} {state middle after : State geometry Producer ReaderId}
    {event : ReadEvent} (ends : Ends id middle event after)
    {label : Label Producer ReaderId} (own : label.readsAs id = true)
    (stepped : state.step label = some middle) (core : middle.core = state.core)
    (cursor : (middle.readers id).cursor = (state.readers id).cursor)
    (log : (middle.readers id).log = (state.readers id).log) : Ends id state event after where
  solo := (Solo.single own stepped).trans ends.solo
  ready := ends.ready
  core := ends.core.trans core
  answers := by
    rw [← core, ← cursor]
    exact ends.answers
  log := by
    rw [← log]
    exact ends.log

theorem Ready.ends_call {state : State geometry Producer ReaderId} {id : ReaderId}
    (ready : state.Ready id) (calling : (state.readers id).phase.call?.isSome = true) :
    ∃ after event, Ends id state event after := by
  induction steps : (state.readers id).phase.toReturn using Nat.strong_induction_on
    generalizing state with
  | _ steps induction =>
      rcases ready.sound.readStep_advances ready.overtaken calling with ⟨reader, read, advances⟩
      have own : (Label.reader id : Label Producer ReaderId).readsAs id = true :=
        decide_eq_true rfl
      have stepped : state.step (.reader id) = some (state.setReader id reader) := by
        simp only [State.step, read]
      have next := (ready.step own stepped).1
      have here : (state.setReader id reader).readers id = reader := setReader_self ..
      cases advances with
      | onward cursor log call closer =>
          rcases induction reader.phase.toReturn (steps ▸ closer) next (here.symm ▸ call)
            (congrArg (fun reader => reader.phase.toReturn) here) with ⟨after, event, ends⟩
          exact ⟨after, event, ends.prepend own stepped rfl (here.symm ▸ cursor) (here.symm ▸ log)⟩
      | ends event answers log reads =>
          exact ⟨_, event, .single own stepped, next, rfl, here.symm ▸ answers, here.symm ▸ log⟩

theorem Ready.ends {state : State geometry Producer ReaderId} {id : ReaderId}
    (ready : state.Ready id) : ∃ after event, Ends id state event after := by
  cases resting : (state.readers id).phase.resting with
  | false =>
      have reads := ready.reads
      unfold ReaderPhase.reads at reads
      rw [resting] at reads
      exact ready.ends_call reads
  | true =>
      have own : (Label.call id .tryRead : Label Producer ReaderId).readsAs id = true :=
        decide_eq_true rfl
      have stepped : state.step (.call id .tryRead) =
          some (state.setPhase id (.loadSeq .tryRead)) := State.call_resting resting .tryRead
      have next := (ready.step own stepped).1
      have here : (state.setPhase id (.loadSeq .tryRead)).readers id =
          { state.readers id with phase := .loadSeq .tryRead } := setReader_self ..
      rcases next.ends_call (by rw [here]; rfl) with ⟨after, event, ends⟩
      exact ⟨after, event, ends.prepend own stepped rfl (by rw [here]) (by rw [here])⟩

structure Comes (id : ReaderId) (state : State geometry Producer ReaderId)
    (events : List ReadEvent) (after : State geometry Producer ReaderId) : Prop where
  solo : Solo id state after
  ready : after.Ready id
  core : after.core = state.core
  log : (after.readers id).log = (state.readers id).log ++ events

theorem Ends.comes {id : ReaderId} {state after : State geometry Producer ReaderId}
    {event : ReadEvent} (ends : Ends id state event after) : Comes id state [event] after :=
  ⟨ends.solo, ends.ready, ends.core, ends.log⟩

theorem Comes.trans {id : ReaderId} {state middle after : State geometry Producer ReaderId}
    {left right : List ReadEvent} (first : Comes id state left middle)
    (second : Comes id middle right after) : Comes id state (left ++ right) after where
  solo := first.solo.trans second.solo
  ready := second.ready
  core := second.core.trans first.core
  log := by rw [second.log, first.log, List.append_assoc]

theorem Ready.reads_range {state : State geometry Producer ReaderId} {id : ReaderId}
    (ready : state.Ready id) (count : Nat)
    (gapless : state.core.Gapless (state.readers id).cursor.next
      ((state.readers id).cursor.next + count)) :
    ∃ events after, Comes id state events after ∧
      (after.readers id).cursor.next = (state.readers id).cursor.next + count ∧
      ∀ pos, (state.readers id).cursor.next ≤ pos →
        pos < (state.readers id).cursor.next + count →
        ∃ frame missed, .ok pos frame missed ∈ events := by
  induction count with
  | zero =>
      refine ⟨[], state, ⟨.refl id state, ready, rfl, (List.append_nil _).symm⟩, rfl, ?_⟩
      intro pos lower upper
      omega
  | succ count induction =>
      have shorter : state.core.Gapless (state.readers id).cursor.next
          ((state.readers id).cursor.next + count) :=
        fun pos lower upper => gapless pos lower (Nat.lt_succ_of_lt upper)
      rcases induction shorter with ⟨events, middle, comes, next, received⟩
      rcases comes.ready.ends with ⟨after, event, ends⟩
      have readable : middle.core.Readable (middle.readers id).cursor.next := by
        rw [comes.core, next]
        exact gapless _ (Nat.le_add_right _ _) (Nat.lt_succ_self _)
      rcases ends.answers.read readable with ⟨moved, frame, missed, rfl⟩
      refine ⟨events ++ [.ok (middle.readers id).cursor.next frame missed], after,
        comes.trans ends.comes, by rw [moved, next]; rfl, ?_⟩
      intro pos lower upper
      by_cases last : pos = (middle.readers id).cursor.next
      · subst last
        exact ⟨frame, missed, List.mem_append_right _ (List.mem_singleton.mpr rfl)⟩
      · rcases received pos lower (by omega) with ⟨frame, missed, member⟩
        exact ⟨frame, missed, List.mem_append_left _ member⟩

/-- By its own steps the reader can receive the frame of `pos`, having reported
`claimed` as missed. -/
def Receives (id : ReaderId) (state : State geometry Producer ReaderId) (claimed pos : Nat) :
    Prop :=
  ∃ after events, Solo id state after ∧
    (after.readers id).log = (state.readers id).log ++ events ∧
    (∃ frame missed, .ok pos frame missed ∈ events ∧ state.core.Carries pos frame) ∧
    ∃ first target, .lapped first target ∈ events ∧ first ≤ claimed ∧ claimed < target

theorem Ready.jumps_of_receives {state : State geometry Producer ReaderId} {id : ReaderId}
    (ready : state.Ready id) {claimed pos : Nat}
    (stalled : state.core.seqAt claimed = 2 * claimed + 1)
    (before : (state.readers id).cursor.next ≤ claimed) (behind : claimed < pos)
    (receives : Receives id state claimed pos) :
    state.core.Jumps (state.readers id).cursor.next claimed ∧ state.core.oldest ≤ pos ∧
      state.core.Gapless state.core.oldest pos := by
  rcases receives with ⟨after, events, solo, log, ⟨frame, missed, member, _⟩, _⟩
  rcases ready.walks solo with ⟨walkedEvents, walked⟩
  have same : walkedEvents = events := List.append_cancel_left (walked.log.symm.trans log)
  have visits := walked.received pos frame missed (same ▸ member)
  exact visits.jumps ready.sound.core stalled before behind

theorem Ready.receives {state : State geometry Producer ReaderId} {id : ReaderId}
    (ready : state.Ready id) {claimed pos : Nat}
    (jumps : state.core.Jumps (state.readers id).cursor.next claimed)
    (ahead : state.core.oldest ≤ pos) (gapless : state.core.Gapless state.core.oldest pos)
    (readable : state.core.Readable pos) : Receives id state claimed pos := by
  rcases jumps with ⟨⟨lost, start, earlier, first, overwritten⟩, beyond⟩
  -- up to the position it has lost
  rcases ready.reads_range (lost - (state.readers id).cursor.next)
      (by rw [Nat.add_sub_cancel' start]; exact first) with ⟨left, there, comes, arrived, _⟩
  rw [Nat.add_sub_cancel' start] at arrived
  -- over the claimed one
  rcases comes.ready.ends with ⟨landed, event, ends⟩
  rcases ends.answers.lap (by rw [comes.core, arrived]; exact overwritten) with ⟨jumped, rfl⟩
  rw [comes.core] at jumped
  have core : landed.core = state.core := ends.core.trans comes.core
  -- and on to the frame itself
  have distance : state.core.oldest + (pos + 1 - state.core.oldest) = pos + 1 := by omega
  rcases ends.ready.reads_range (pos + 1 - state.core.oldest)
      (by rw [core, jumped, distance]; exact gapless.succ readable) with
    ⟨right, after, goes, _, received⟩
  rw [jumped, distance] at received
  rcases received pos ahead (Nat.lt_succ_self _) with ⟨frame, missed, member⟩
  have whole := comes.trans (ends.comes.trans goes)
  refine ⟨after, _, whole.solo, whole.log, ⟨frame, missed, ?_, ?_⟩,
    lost, state.core.oldest, ?_, Nat.le_of_lt earlier, beyond⟩
  · exact List.mem_append_right _ (List.mem_append_right _ member)
  · have carried := (goes.ready.sound.readers id).frames pos frame missed
      (List.mem_append_right _ (goes.log ▸ List.mem_append_right _ member))
    rw [goes.core, core] at carried
    exact carried
  · refine List.mem_append_right _ (List.mem_append_left _ ?_)
    rw [arrived, comes.core]
    exact List.mem_singleton.mpr rfl

/-- A producer stalled at `claimed` keeps nothing else from the reader: it can
go on to every frame published behind it and not yet overwritten. -/
def CostsOneSlot (id : ReaderId) (state : State geometry Producer ReaderId) (claimed : Nat) :
    Prop :=
  ∀ pos, claimed < pos → pos ∈ state.core.published → ¬ state.core.Overwritten pos →
    Receives id state claimed pos

/-- A reader comes past the claimed cell only by a jump that an overwritten
position before it brings about, and only to where the jump leads. -/
theorem costsOneSlot_iff {state : State geometry Producer ReaderId}
    (reached : (system geometry Producer ReaderId).Reachable state) {id : ReaderId}
    (reads : (state.readers id).phase.reads = true) {producer : Producer} {ticket : Ticket}
    (stalled : (state.core.producers producer).writing = some ticket)
    (before : (state.readers id).cursor.next ≤ ticket.pos) :
    CostsOneSlot id state ticket.pos ↔
      (∀ pos, ticket.pos < pos → ¬ state.core.Readable pos) ∨
      (state.core.Jumps (state.readers id).cursor.next ticket.pos ∧
        ∀ pos, ticket.pos < pos → state.core.Readable pos →
          state.core.oldest ≤ pos ∧ state.core.Gapless state.core.oldest pos) := by
  have sound := sound_of_reachable reached
  have ready : state.Ready id := ⟨sound, overtaken_of_reachable reached id, reads⟩
  have claimed := sound.core.claims.claimed producer ticket stalled
  constructor
  · intro costs
    have escapes (pos : Nat) (behind : ticket.pos < pos) (readable : state.core.Readable pos) := by
      rcases sound.core.readable_iff.mp readable with ⟨published, kept⟩
      exact ready.jumps_of_receives claimed before behind (costs pos behind published kept)
    by_cases some : ∃ pos, ticket.pos < pos ∧ state.core.Readable pos
    · rcases some with ⟨pos, behind, readable⟩
      exact .inr ⟨(escapes pos behind readable).1, fun pos behind readable =>
        (escapes pos behind readable).2⟩
    · exact .inl fun pos behind readable => some ⟨pos, behind, readable⟩
  · intro condition pos behind published kept
    have readable := sound.core.readable_iff.mpr ⟨published, kept⟩
    rcases condition with none | ⟨jumps, leads⟩
    · exact absurd readable (none pos behind)
    · rcases leads pos behind readable with ⟨ahead, gapless⟩
      exact ready.receives jumps ahead gapless readable

end

end State

/-- The steps from a ticket to its publication, with nobody else about. -/
def publishing (producer : Bool) : List (Label Bool Unit) :=
  .publish producer Frame.zero :: List.replicate 8 (.producer producer false)

/-- The second position stalls while the ring goes around once more. -/
def stallAndLap : List (Label Bool Unit) :=
  publishing false ++ [.publish true Frame.zero, .producer true false] ++ publishing false ++
    [.publish false Frame.zero]

theorem costsOneSlot_stallAndLap : ∃ state : State .smallest Bool Unit,
    (system .smallest Bool Unit).run (.empty fun _ => 0) stallAndLap = some state ∧
    (state.core.producers true).writing = some ⟨1, Frame.zero, []⟩ ∧
    State.CostsOneSlot () state 1 ∧ state.core.Readable 2 := by
  obtain ⟨state, ran, stalled, reads, next, writePos, even, odd⟩ :
      ∃ state : State .smallest Bool Unit,
        (system .smallest Bool Unit).run (.empty fun _ => 0) stallAndLap = some state ∧
        (state.core.producers true).writing = some ⟨1, Frame.zero, []⟩ ∧
        (state.readers ()).phase.reads = true ∧ (state.readers ()).cursor.next = 0 ∧
        state.core.writePos = 4 ∧ state.core.seqAt 0 = 6 ∧ state.core.seqAt 1 = 3 :=
    ⟨_, rfl, rfl, rfl, rfl, rfl, rfl, rfl⟩
  have oldest : state.core.oldest = 2 := by
    rw [Core.oldest, writePos]
    rfl
  -- the other position holds the claim
  have only (pos : Nat) (readable : state.core.Readable pos) : pos = 2 := by
    have cell (other : Nat) (same : pos % 2 = other % 2) :
        state.core.seqAt pos = state.core.seqAt other := by
      unfold Core.seqAt
      rw [(Geometry.smallest.slot_eq_iff pos other).mpr same]
    unfold Core.Readable at readable
    rcases Nat.mod_two_eq_zero_or_one pos with parity | parity
    · rw [cell 0 parity, even] at readable
      omega
    · rw [cell 1 parity, odd] at readable
      omega
  have readable : state.core.Readable 2 := even
  refine ⟨state, ran, stalled, ?_, readable⟩
  refine (State.costsOneSlot_iff (.execute (.start ⟨fun _ => 0, rfl⟩) stallAndLap ran) reads stalled
    (next ▸ Nat.zero_le 1)).mpr (.inr ⟨⟨⟨0, ?_, Nat.one_pos, ?_, ?_⟩, ?_⟩, ?_⟩)
  · rw [next]
  · rw [next]
    exact .nothing _ 0
  · rw [Core.Overwritten, even]
    decide
  · rw [oldest]
    decide
  · intro pos _ readable
    rw [only pos readable, oldest]
    exact ⟨Nat.le_refl 2, .nothing _ 2⟩

def stallFirst : List (Label Bool Unit) :=
  [.publish true Frame.zero, .producer true false] ++ publishing false

theorem stall_blocks_reader : ∃ state : State .smallest Bool Unit,
    (system .smallest Bool Unit).Reachable state ∧
    (state.core.producers true).writing = some ⟨0, Frame.zero, []⟩ ∧
    (state.readers ()).phase.reads = true ∧ (state.readers ()).cursor.next = 0 ∧
    ¬ State.CostsOneSlot () state 0 := by
  have reached : (system .smallest Bool Unit).Reachable _ :=
    .execute (.start ⟨fun _ => 0, rfl⟩) stallFirst rfl
  refine ⟨_, reached, rfl, rfl, rfl, ?_⟩
  intro costs
  have ready : State.Ready () _ :=
    ⟨State.sound_of_reachable reached, State.overtaken_of_reachable reached (), rfl⟩
  have receives := costs 1 Nat.one_pos (by decide) (by unfold Core.Overwritten; decide)
  rcases ready.jumps_of_receives rfl (Nat.le_refl 0) Nat.one_pos receives with
    ⟨⟨⟨lost, _, impossible, _⟩, _⟩, _⟩
  exact Nat.not_lt_zero lost impossible

end TelemetryGateway.BroadcastRing
