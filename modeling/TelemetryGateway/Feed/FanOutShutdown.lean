import TelemetryGateway.Feed.FanOutThread

/-! # Stopping the fan-out thread

A source is a queue of frames that is readable while it holds any and of which a
drain takes the first ones. Once `stop` is called the next turn of the loop is
the last. It drains each source once, and one drain takes no more than a batch. -/

namespace TelemetryGateway.FanOut.Shutdown

structure State (sources sinks : Nat) where
  thread : Thread.State sources sinks
  ledger : Thread.Ledger sources sinks
  /-- what the sources hold that has not been drained -/
  backlog : Fin sources → List BusFrame
  /-- the stop descriptor is readable -/
  stopped : Bool

inductive Label (sources sinks : Nat)
  | arrive (source : Fin sources) (frames : List BusFrame)
  | stop
  | thread (label : Thread.Label sources sinks)

namespace State

def create (sources : Nat) (capacity : Fin sinks → Nat) : State sources sinks where
  thread := Thread.State.create sources capacity
  ledger := Thread.Ledger.fresh
  backlog := fun _ => []
  stopped := false

def current (state : State sources sinks) : Option (Fin sources) :=
  match state.thread.place with
  | .source _ _ i => if inside : i < sources then some ⟨i, inside⟩ else none
  | _ => none

/-- The answers that the sources and the stop descriptor give. A call of `poll`
that neither fails nor finds anything times out. -/
def permits (state : State sources sinks) : Thread.Label sources sinks → Bool
  | .poll (.ready readable stop) =>
      decide (∀ source, readable source = !(state.backlog source).isEmpty) &&
        (stop == state.stopped && (stop || decide (∃ source, readable source = true)))
  | .poll .timedOut =>
      !state.stopped && decide (∀ source, (state.backlog source).isEmpty = true)
  | .drain batch =>
      match state.current with
      | some source => batch == (state.backlog source).take kDrainBatch
      | none => false
  | _ => true

/-- What a step leaves in the sources. -/
def drained (state : State sources sinks) :
    Thread.Label sources sinks → Fin sources → List BusFrame
  | .drain _ =>
      match state.current with
      | some source => Function.update state.backlog source
          ((state.backlog source).drop kDrainBatch)
      | none => state.backlog
  | _ => state.backlog

def step (state : State sources sinks) : Label sources sinks → Option (State sources sinks)
  | .arrive source frames =>
      if state.stopped then none
      else some { state with
        backlog := Function.update state.backlog source (state.backlog source ++ frames) }
  | .stop => some { state with stopped := true }
  | .thread label =>
      if state.permits label then
        (state.thread.step label).map fun after =>
          { state with
            thread := after
            ledger := state.ledger.note state.thread label after
            backlog := state.drained label }
      else none

end State

def system (sources : Nat) (capacity : Fin sinks → Nat) :
    System (State sources sinks) (Label sources sinks) where
  initial := fun state => state = State.create sources capacity
  step := State.step

/-! ## One step of the thread -/

inductive Turns (thread after : Thread.State sources sinks) : Thread.Label sources sinks → Prop
  /-- `poll` found nothing, or failed -/
  | waits (here : thread.place = .poll) (place : after.place = .poll)
      (phase : after.core.phase = thread.core.phase) : Turns thread after (.poll answer)
  | begins (here : thread.place = .poll) (place : after.place = .source readable stop 0)
      (phase : after.core.phase = thread.core.phase) :
      Turns thread after (.poll (.ready readable stop))
  | passes (source : Fin sources) (here : thread.place = .source readable stop source.val)
      (polling : thread.core.phase = .poll) (unreadable : readable source = false)
      (place : after.place = .source readable stop (source.val + 1))
      (phase : after.core.phase = .poll) : Turns thread after .pass
  | ends (here : thread.place = .source readable stop i) (polling : thread.core.phase = .poll)
      (all : sources ≤ i) (place : after.place = if stop then .returned else .poll)
      (phase : after.core.phase = .poll) : Turns thread after .pass
  /-- a drain that returned nothing -/
  | empty (source : Fin sources) (here : thread.place = .source readable stop source.val)
      (polling : thread.core.phase = .poll) (found : readable source = true)
      (place : after.place = .source readable stop (source.val + 1))
      (phase : after.core.phase = .poll) : Turns thread after (.drain [])
  | drains (source : Fin sources) (here : thread.place = .source readable stop source.val)
      (polling : thread.core.phase = .poll) (found : readable source = true)
      (place : after.place = .source readable stop source.val)
      (phase : after.core.phase = .push produced sink) : Turns thread after (.drain batch)
  | pushes (here : thread.place = .source readable stop i)
      (pushing : thread.core.phase = .push produced sink)
      (place : after.place = .source readable stop i)
      (phase : after.core.phase = .push produced next) : Turns thread after .push
  | pushed (here : thread.place = .source readable stop i)
      (pushing : thread.core.phase = .push produced sink)
      (place : after.place = .source readable stop (i + 1))
      (phase : after.core.phase = .poll) : Turns thread after .push
  | pops (place : after.place = thread.place) (phase : after.core.phase = thread.core.phase) :
      Turns thread after (.pop sink size)
  | closes (place : after.place = thread.place) (phase : after.core.phase = thread.core.phase) :
      Turns thread after (.close sink)

theorem step_turns {thread after : Thread.State sources sinks} {label : Thread.Label sources sinks}
    (stepped : thread.step label = some after) : Turns thread after label := by
  cases label with
  | poll answer =>
      simp only [Thread.State.step] at stepped
      split at stepped
      · rename_i here
        cases stepped
        cases answer with
        | interrupted => exact .waits here here rfl
        | failed => exact .waits here here rfl
        | timedOut => exact .waits here here rfl
        | ready readable stop => exact .begins here rfl rfl
      · cases stepped
  | pass =>
      simp only [Thread.State.step] at stepped
      split at stepped
      · rename_i readable stop i here polling
        split at stepped
        · rename_i inside
          split at stepped
          · cases stepped
          · rename_i unreadable
            cases stepped
            exact .passes ⟨i, inside⟩ here polling (Bool.not_eq_true _ ▸ unreadable) rfl polling
        · rename_i beyond
          cases stepped
          exact .ends here polling (Nat.not_lt.mp beyond) rfl polling
      · cases stepped
  | drain batch =>
      simp only [Thread.State.step] at stepped
      split at stepped
      · rename_i readable stop i here polling
        split at stepped
        · rename_i inside
          split at stepped
          · rename_i found
            split at stepped
            · rename_i nothing
              cases stepped
              rw [List.length_eq_zero_iff.mp nothing]
              exact .empty ⟨i, inside⟩ here polling found rfl polling
            · rcases Option.map_eq_some_iff.mp stepped with ⟨core, drained, rfl⟩
              simp only [FanOut.State.step, polling] at drained
              split at drained <;> cases drained
              exact .drains ⟨i, inside⟩ here polling found here rfl
          · cases stepped
        · cases stepped
      · cases stepped
  | push =>
      simp only [Thread.State.step] at stepped
      split at stepped
      · rename_i readable stop i produced sink here pushing
        cases stepped
        by_cases more : sink < sinks
        · have same : thread.push readable stop i produced sink =
              { thread with core := thread.core.push produced sink } := if_pos more
          rw [same]
          have phase : (thread.core.push produced sink).phase = .push produced (sink + 1) := by
            rw [FanOut.State.push, dif_pos more]
          exact .pushes here pushing here phase
        · have same : thread.push readable stop i produced sink = _ := if_neg more
          have phase : (thread.core.push produced sink).phase = .poll := by
            rw [FanOut.State.push, dif_neg more]
          rw [same]
          exact .pushed here pushing rfl phase
      · cases stepped
  | pop sink size =>
      cases stepped
      exact .pops rfl rfl
  | close sink =>
      cases stepped
      exact .closes rfl rfl

def Settled (thread : Thread.State sources sinks) : Prop :=
  (thread.place = .poll ∨ thread.place = .returned) → thread.core.phase = .poll

theorem Settled.step {thread after : Thread.State sources sinks}
    {label : Thread.Label sources sinks} (settled : Settled thread)
    (turns : Turns thread after label) : Settled after := by
  intro outside
  cases turns with
  | waits here place phase => rw [phase]; exact settled (.inl here)
  | begins here place phase => rw [phase]; exact settled (.inl here)
  | passes source here polling unreadable place phase => exact phase
  | ends here polling all place phase => exact phase
  | empty source here polling found place phase => exact phase
  | drains source here polling found place phase =>
      rw [place] at outside
      rcases outside with impossible | impossible <;> cases impossible
  | pushes here pushing place phase =>
      rw [place] at outside
      rcases outside with impossible | impossible <;> cases impossible
  | pushed here pushing place phase => exact phase
  | pops place phase => rw [phase]; rw [place] at outside; exact settled outside
  | closes place phase => rw [phase]; rw [place] at outside; exact settled outside

/-! ## What the thread still drains -/

def upcoming (thread : Thread.State sources sinks) : Nat :=
  match thread.place, thread.core.phase with
  | .source _ _ i, .poll => i
  | .source _ _ i, .push _ _ => i + 1
  | _, _ => sources

/-- How often a source is drained before the thread returns, when `stop` is
called now: once in the turn that sees it, and once in the turn under way if
that has still to come to the source and found it readable. -/
def drainsLeft (thread : Thread.State sources sinks) (source : Fin sources) : Nat :=
  match thread.place with
  | .poll => 1
  | .source readable stop _ =>
      (if readable source = true ∧ upcoming thread ≤ source.val then 1 else 0) +
        (if stop then 0 else 1)
  | .returned => 0

def drainedBy (ledger : Thread.Ledger sources sinks) (source : Fin sources) : List BusFrame :=
  (ledger.drained.filter fun entry => entry.1 = source).map Prod.snd

theorem drainedBy_append (ledger : Thread.Ledger sources sinks) (current source : Fin sources)
    (batch : List BusFrame) :
    drainedBy { ledger with drained := ledger.drained ++ batch.map fun frame => (current, frame) }
        source =
      drainedBy ledger source ++ if current = source then batch else [] := by
  unfold drainedBy
  rw [List.filter_append, List.map_append]
  congr 1
  split
  · rename_i same
    simp [same, List.filter_map, Function.comp_def]
  · rename_i apart
    simp [apart, List.filter_map, Function.comp_def]

theorem drainedBy_note {ledger : Thread.Ledger sources sinks}
    {thread after : Thread.State sources sinks} {label : Thread.Label sources sinks}
    (other : ∀ batch, label ≠ .drain batch)
    (source : Fin sources) :
    drainedBy (ledger.note thread label after) source = drainedBy ledger source := by
  cases label with
  | drain batch => exact absurd rfl (other batch)
  | push =>
      change drainedBy (ledger.noteOffer thread.core.phase) source = _
      unfold Thread.Ledger.noteOffer
      split
      · split <;> rfl
      · rfl
  | _ => rfl

/-- What has been drained of a source, together with what the remaining drains
take of it. -/
def State.promised (state : State sources sinks) (source : Fin sources) : List BusFrame :=
  drainedBy state.ledger source ++
    (state.backlog source).take (kDrainBatch * drainsLeft state.thread source)

section

variable {thread after : Thread.State sources sinks} {readable : Fin sources → Bool} {stop : Bool}
  {i : Nat}

theorem upcoming_poll (here : thread.place = .source readable stop i)
    (polling : thread.core.phase = .poll) : upcoming thread = i := by
  simp only [upcoming, here, polling]

theorem upcoming_push (here : thread.place = .source readable stop i)
    (pushing : thread.core.phase = .push produced sink) : upcoming thread = i + 1 := by
  simp only [upcoming, here, pushing]

theorem drainsLeft_poll (here : thread.place = .poll) (source : Fin sources) :
    drainsLeft thread source = 1 := by
  rw [drainsLeft, here]

theorem drainsLeft_returned (here : thread.place = .returned) (source : Fin sources) :
    drainsLeft thread source = 0 := by
  rw [drainsLeft, here]

theorem drainsLeft_source (here : thread.place = .source readable stop i) (source : Fin sources) :
    drainsLeft thread source =
      (if readable source = true ∧ upcoming thread ≤ source.val then 1 else 0) +
        (if stop then 0 else 1) := by
  rw [drainsLeft, here]

/-- The turn goes on, and comes to the same sources of those that were found
readable. -/
theorem drainsLeft_onward {j : Nat} (here : thread.place = .source readable stop i)
    (place : after.place = .source readable stop j) {source : Fin sources}
    (same : readable source = true → (upcoming after ≤ source.val ↔ upcoming thread ≤ source.val)) :
    drainsLeft after source = drainsLeft thread source := by
  rw [drainsLeft_source here, drainsLeft_source place]
  by_cases found : readable source = true
  · simp only [found, true_and, same found]
  · simp [found]

theorem drainsLeft_same (place : after.place = thread.place)
    (phase : after.core.phase = thread.core.phase) (source : Fin sources) :
    drainsLeft after source = drainsLeft thread source := by
  have next : upcoming after = upcoming thread := by
    rw [upcoming, upcoming, place, phase]
  rw [drainsLeft, drainsLeft, place, next]

end

/-- Where a step other than a drain takes the thread after `stop`, each source
that holds frames is drained as often from there on as before. -/
theorem Turns.drainsLeft {state : State sources sinks} {after : Thread.State sources sinks}
    {label : Thread.Label sources sinks} (turns : Turns state.thread after label)
    (settled : Settled state.thread) (stopped : state.stopped = true)
    (permitted : state.permits label = true)
    (other : ∀ batch, label ≠ .drain batch) (source : Fin sources)
    (holds : state.backlog source ≠ []) :
    drainsLeft after source = drainsLeft state.thread source := by
  cases turns with
  | waits here place phase => rw [drainsLeft_poll here, drainsLeft_poll place]
  | @begins readable stop here place phase =>
      simp only [State.permits, Bool.and_eq_true, decide_eq_true_eq, beq_iff_eq, stopped]
        at permitted
      rcases permitted with ⟨answers, stopping, _⟩
      have found : readable source = true := by
        rw [answers source]
        simpa using holds
      have ahead : upcoming after ≤ source.val := by
        rw [upcoming_poll place (phase.trans (settled (.inl here)))]
        exact Nat.zero_le _
      rw [drainsLeft_poll here, drainsLeft_source place, stopping, if_pos ⟨found, ahead⟩, if_pos rfl]
  | passes current here polling unreadable place phase =>
      apply drainsLeft_onward here place
      intro found
      rw [upcoming_poll here polling, upcoming_poll place phase]
      have apart : current.val ≠ source.val := by
        intro same
        rw [Fin.ext same, found] at unreadable
        cases unreadable
      omega
  | @ends readable stop i here polling all place phase =>
      have past : ¬ upcoming state.thread ≤ source.val := by
        rw [upcoming_poll here polling]
        omega
      rw [drainsLeft_source here]
      cases stop with
      | true => simp [drainsLeft_returned place, past]
      | false => simp [drainsLeft_poll place, past]
  | empty current here polling found place phase => exact absurd rfl (other _)
  | drains current here polling found place phase => exact absurd rfl (other _)
  | pushes here pushing place phase =>
      apply drainsLeft_onward here place
      intro _
      rw [upcoming_push here pushing, upcoming_push place phase]
  | pushed here pushing place phase =>
      apply drainsLeft_onward here place
      intro _
      rw [upcoming_push here pushing, upcoming_poll place phase]
  | pops place phase => exact drainsLeft_same place phase source
  | closes place phase => exact drainsLeft_same place phase source

theorem take_promised (frames : List BusFrame) (drains : Nat) :
    frames.take (kDrainBatch * (1 + drains)) =
      frames.take kDrainBatch ++ (frames.drop kDrainBatch).take (kDrainBatch * drains) := by
  rw [Nat.mul_add, Nat.mul_one, List.take_add]

/-- After a drain, also one that returned nothing, the turn comes to the next
source. -/
theorem drain_turns {thread after : Thread.State sources sinks} {batch : List BusFrame}
    (turns : Turns thread after (.drain batch)) :
    ∃ readable stop, ∃ current : Fin sources, ∃ j,
      thread.place = .source readable stop current.val ∧ upcoming thread = current.val ∧
        readable current = true ∧ after.place = .source readable stop j ∧
          upcoming after = current.val + 1 := by
  cases turns with
  | empty current here polling found place phase =>
      exact ⟨_, _, current, _, here, upcoming_poll here polling, found, place,
        upcoming_poll place phase⟩
  | drains current here polling found place phase =>
      exact ⟨_, _, current, _, here, upcoming_poll here polling, found, place,
        upcoming_push place phase⟩

theorem State.promised_drain {state : State sources sinks} {after : Thread.State sources sinks}
    {batch : List BusFrame} (stepped : state.thread.step (.drain batch) = some after)
    (permitted : state.permits (.drain batch) = true) (source : Fin sources) :
    State.promised { state with
        thread := after
        ledger := state.ledger.note state.thread (.drain batch) after
        backlog := state.drained (.drain batch) } source = state.promised source := by
  rcases drain_turns (step_turns stepped) with
    ⟨readable, stop, current, j, here, upcoming, found, place, onward⟩
  have standing : state.current = some current := by
    rw [State.current, here]
    exact dif_pos current.isLt
  have first : batch = (state.backlog current).take kDrainBatch := by
    simpa [State.permits, standing] using permitted
  have noted : state.ledger.note state.thread (.drain batch) after =
      { state.ledger with
        drained := state.ledger.drained ++ batch.map fun frame => (current, frame) } := by
    simp [Thread.Ledger.note, Thread.Ledger.noteDrain, here]
  have left : state.drained (.drain batch) =
      Function.update state.backlog current ((state.backlog current).drop kDrainBatch) := by
    simp only [State.drained, standing]
  unfold State.promised
  dsimp only
  rw [noted, left, drainedBy_append]
  by_cases own : source = current
  · subst own
    have before : drainsLeft state.thread source = 1 + drainsLeft after source := by
      rw [drainsLeft_source here, drainsLeft_source place, upcoming, onward]
      simp [found]
    rw [before, take_promised, if_pos rfl, ← first, Function.update_self, List.append_assoc]
  · have same : drainsLeft after source = drainsLeft state.thread source := by
      apply drainsLeft_onward here place
      intro _
      have apart : source.val ≠ current.val := fun equal => own (Fin.ext equal)
      rw [upcoming, onward]
      omega
    rw [if_neg (Ne.symm own), List.append_nil, Function.update_of_ne own, same]

theorem State.promised_step {state after : State sources sinks} {label : Label sources sinks}
    (settled : Settled state.thread) (stopped : state.stopped = true)
    (stepped : state.step label = some after) (source : Fin sources) :
    after.promised source = state.promised source := by
  cases label with
  | arrive source frames =>
      simp only [State.step, stopped] at stepped
      cases stepped
  | stop =>
      cases stepped
      rfl
  | thread label =>
      simp only [State.step] at stepped
      split at stepped
      · rename_i permitted
        rcases Option.map_eq_some_iff.mp stepped with ⟨thread, moved, rfl⟩
        by_cases drain : ∃ batch, label = .drain batch
        · rcases drain with ⟨batch, rfl⟩
          exact State.promised_drain moved permitted source
        · have other : ∀ batch, label ≠ .drain batch := fun batch same => drain ⟨batch, same⟩
          have backlog : state.drained label = state.backlog := by
            cases label with
            | drain batch => exact absurd rfl (other batch)
            | _ => rfl
          unfold State.promised
          dsimp only
          rw [drainedBy_note other, backlog]
          by_cases holds : state.backlog source = []
          · rw [holds, List.take_nil, List.take_nil]
          · rw [(step_turns moved).drainsLeft settled stopped permitted other source holds]
      · cases stepped

/-! ## The last turn -/

structure Stopping (promised : Fin sources → List BusFrame) (state : State sources sinks) :
    Prop where
  settled : Settled state.thread
  sound : Thread.Sound state.thread.core state.ledger
  stopped : state.stopped = true
  kept : ∀ source, state.promised source = promised source

theorem State.step_keeps {state after : State sources sinks} {label : Label sources sinks}
    (settled : Settled state.thread) (sound : Thread.Sound state.thread.core state.ledger)
    (stepped : state.step label = some after) :
    Settled after.thread ∧ Thread.Sound after.thread.core after.ledger ∧
      (state.stopped = true → after.stopped = true) := by
  cases label with
  | arrive source frames =>
      simp only [State.step] at stepped
      split at stepped <;> cases stepped
      exact ⟨settled, sound, id⟩
  | stop =>
      cases stepped
      exact ⟨settled, sound, fun _ => rfl⟩
  | thread label =>
      simp only [State.step] at stepped
      split at stepped
      · rcases Option.map_eq_some_iff.mp stepped with ⟨thread, moved, rfl⟩
        exact ⟨settled.step (step_turns moved),
          sound.move (Thread.State.step_move moved state.ledger), id⟩
      · cases stepped

theorem Stopping.step {promised : Fin sources → List BusFrame} {state after : State sources sinks}
    {label : Label sources sinks} (stopping : Stopping promised state)
    (stepped : state.step label = some after) : Stopping promised after := by
  have ⟨settled, sound, stopped⟩ := State.step_keeps stopping.settled stopping.sound stepped
  refine ⟨settled, sound, stopped stopping.stopped, ?_⟩
  intro source
  rw [State.promised_step stopping.settled stopping.stopped stepped source]
  exact stopping.kept source

end TelemetryGateway.FanOut.Shutdown
