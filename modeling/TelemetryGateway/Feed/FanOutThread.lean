import Mathlib.Data.List.Infix
import TelemetryGateway.Feed.FanOut
import TelemetryGateway.Foundation.Execution

/-! # The loop of the fan-out thread

`run` polls its sources and the stop descriptor, drains every readable source
in turn, and honours a stop only after the turn. The kernel's answer to `poll`
and what a drain returns are part of the label; so is what the consumers do to
their queues meanwhile. -/

namespace TelemetryGateway

namespace FanOut

/-- What `poll` answers: a failure by its `errno`, or the descriptors that are
readable. -/
inductive PollAnswer (sources : Nat)
  | interrupted
  | failed
  | timedOut
  | ready (readable : Fin sources → Bool) (stop : Bool)

def Phase.polls : Phase → Bool
  | .poll => true
  | .push _ _ => false

namespace Thread

inductive Place (sources : Nat)
  | poll
  /-- about to look at the source of that index -/
  | source (readable : Fin sources → Bool) (stop : Bool) (i : Nat)
  | returned

structure State (sources sinks : Nat) where
  core : FanOut.State sinks
  place : Place sources
  frames : UInt64
  batches : UInt64
  pollErrors : UInt64

inductive Label (sources sinks : Nat)
  | poll (answer : PollAnswer sources)
  /-- a source that is not readable, or the end of the loop over the sources -/
  | pass
  | drain (batch : List BusFrame)
  | push
  | pop (sink : Fin sinks) (size : Nat)
  | close (sink : Fin sinks)

namespace State

def create (sources : Nat) (capacity : Fin sinks → Nat) : State sources sinks where
  core := FanOut.State.create capacity
  place := .poll
  frames := 0
  batches := 0
  pollErrors := 0

def poll (state : State sources sinks) : PollAnswer sources → State sources sinks
  | .interrupted => state
  | .failed => { state with pollErrors := state.pollErrors + 1 }
  | .timedOut => state
  | .ready readable stop => { state with place := .source readable stop 0 }

/-- A push to the next sink; after the last one the batch is counted and the
loop moves to the next source. -/
def push (state : State sources sinks) (readable : Fin sources → Bool) (stop : Bool) (i : Nat)
    (produced : List Frame) (sink : Nat) : State sources sinks :=
  if sink < sinks then { state with core := state.core.push produced sink }
  else
    { state with
      core := state.core.push produced sink
      place := .source readable stop (i + 1)
      frames := state.frames + UInt64.ofNat produced.length
      batches := state.batches + 1 }

def step (state : State sources sinks) : Label sources sinks → Option (State sources sinks)
  | .poll answer =>
      match state.place with
      | .poll => some (state.poll answer)
      | _ => none
  | .pass =>
      match state.place, state.core.phase with
      | .source readable stop i, .poll =>
          if inside : i < sources then
            if readable ⟨i, inside⟩ then none
            else some { state with place := .source readable stop (i + 1) }
          else some { state with place := if stop then .returned else .poll }
      | _, _ => none
  | .drain batch =>
      match state.place, state.core.phase with
      | .source readable stop i, .poll =>
          if inside : i < sources then
            if readable ⟨i, inside⟩ then
              if batch.length = 0 then some { state with place := .source readable stop (i + 1) }
              else (state.core.step (.drain batch)).map fun core => { state with core }
            else none
          else none
      | _, _ => none
  | .push =>
      match state.place, state.core.phase with
      | .source readable stop i, .push produced sink =>
          some (state.push readable stop i produced sink)
      | _, _ => none
  | .pop sink size => (state.core.step (.pop sink size)).map fun core => { state with core }
  | .close sink => (state.core.step (.close sink)).map fun core => { state with core }

end State

def system (sources : Nat) (capacity : Fin sinks → Nat) :
    System (State sources sinks) (Label sources sinks) where
  initial := fun state => state = State.create sources capacity
  step := State.step

/-! ## The observer -/

/-- What has been drained and by which source, what each sink was offered, and
what its consumer got. -/
structure Ledger (sources sinks : Nat) where
  drained : List (Fin sources × BusFrame)
  offered : Fin sinks → List Frame
  delivered : Fin sinks → List Frame

namespace Ledger

def fresh : Ledger sources sinks where
  drained := []
  offered := fun _ => []
  delivered := fun _ => []

def noteDrain (ledger : Ledger sources sinks) (place : Place sources) (batch : List BusFrame) :
    Ledger sources sinks :=
  match place with
  | .source _ _ i =>
      if inside : i < sources then
        { ledger with drained := ledger.drained ++ batch.map fun frame => (⟨i, inside⟩, frame) }
      else ledger
  | _ => ledger

def noteOffer (ledger : Ledger sources sinks) : Phase → Ledger sources sinks
  | .push produced sink =>
      if inside : sink < sinks then
        { ledger with
          offered := Function.update ledger.offered ⟨sink, inside⟩
            (ledger.offered ⟨sink, inside⟩ ++ produced) }
      else ledger
  | .poll => ledger

def note (ledger : Ledger sources sinks) (before : State sources sinks) :
    Label sources sinks → State sources sinks → Ledger sources sinks
  | .drain batch, _ => ledger.noteDrain before.place batch
  | .push, _ => ledger.noteOffer before.core.phase
  | .pop sink size, _ =>
      { ledger with
        delivered := Function.update ledger.delivered sink
          (ledger.delivered sink ++ ((before.core.queues sink).popBatch size).2) }
  | _, _ => ledger

def numbered (ledger : Ledger sources sinks) : List Frame :=
  stamp 0 (ledger.drained.map Prod.snd)

end Ledger

def observed (sources : Nat) (capacity : Fin sinks → Nat) :
    System (State sources sinks × Ledger sources sinks) (Label sources sinks) :=
  (system sources capacity).observed Ledger.fresh Ledger.note

/-! ## One step -/

inductive Move (state : State sources sinks) (ledger : Ledger sources sinks) :
    Label sources sinks → FanOut.State sinks → Ledger sources sinks → Prop
  | idle : Move state ledger label state.core ledger
  | drain (place : state.place = .source readable stop source.val)
      (polling : state.core.phase = .poll) :
      Move state ledger (.drain batch) (state.core.drain batch)
        { ledger with drained := ledger.drained ++ batch.map fun frame => (source, frame) }
  | push (pushing : state.core.phase = .push produced sink) :
      Move state ledger .push (state.core.push produced sink)
        (ledger.noteOffer (.push produced sink))
  | pop (sink : Fin sinks) (size : Nat) :
      Move state ledger (.pop sink size)
        (state.core.setQueue sink ((state.core.queues sink).popBatch size).1)
        { ledger with
          delivered := Function.update ledger.delivered sink
            (ledger.delivered sink ++ ((state.core.queues sink).popBatch size).2) }
  | close (sink : Fin sinks) :
      Move state ledger (.close sink)
        (state.core.setQueue sink (state.core.queues sink).close) ledger

theorem State.core_push (state : State sources sinks) (readable : Fin sources → Bool)
    (stop : Bool) (i : Nat) (produced : List Frame) (sink : Nat) :
    (state.push readable stop i produced sink).core = state.core.push produced sink := by
  unfold State.push
  split <;> rfl

theorem State.step_move {state after : State sources sinks} {label : Label sources sinks}
    (stepped : state.step label = some after) (ledger : Ledger sources sinks) :
    Move state ledger label after.core (ledger.note state label after) := by
  cases label with
  | poll answer =>
      simp only [State.step] at stepped
      split at stepped <;> cases stepped
      cases answer <;> exact .idle
  | pass =>
      simp only [State.step] at stepped
      split at stepped
      · split at stepped
        · split at stepped <;> cases stepped
          exact .idle
        · cases stepped
          exact .idle
      · cases stepped
  | drain batch =>
      simp only [State.step] at stepped
      split at stepped
      · rename_i readable stop i place polling
        split at stepped
        · rename_i inside
          have noted : ledger.note state (.drain batch) after =
              { ledger with
                drained := ledger.drained ++ batch.map fun frame => (⟨i, inside⟩, frame) } := by
            simp [Ledger.note, Ledger.noteDrain, place, inside]
          rw [noted]
          split at stepped
          · split at stepped
            · rename_i nothing
              cases stepped
              rw [List.length_eq_zero_iff.mp nothing, List.map_nil, List.append_nil]
              exact .idle
            · rcases Option.map_eq_some_iff.mp stepped with ⟨core, drained, rfl⟩
              simp only [FanOut.State.step, polling] at drained
              split at drained <;> cases drained
              have here : state.place = .source readable stop (⟨i, inside⟩ : Fin sources).val :=
                place
              exact .drain here polling
          · cases stepped
        · cases stepped
      · cases stepped
  | push =>
      simp only [State.step] at stepped
      split at stepped
      · rename_i readable stop i produced sink place pushing
        cases stepped
        rw [State.core_push, Ledger.note, pushing]
        exact .push pushing
      · cases stepped
  | pop sink size =>
      cases stepped
      exact .pop sink size
  | close sink =>
      cases stepped
      exact .close sink

/-! ## What the sinks have been offered -/

/-- What the current batch still has to bring to the sink. -/
def pending (core : FanOut.State sinks) (sink : Fin sinks) : List Frame :=
  match core.phase with
  | .poll => []
  | .push produced next => if next ≤ sink.val then produced else []

structure Sound (core : FanOut.State sinks) (ledger : Ledger sources sinks) : Prop where
  nextSeq : core.nextSeq = UInt64.ofNat ledger.drained.length
  offered : ∀ sink, ledger.offered sink ++ pending core sink = ledger.numbered
  serves : ∀ sink, (core.queues sink).Serves (ledger.offered sink) (ledger.delivered sink)

theorem create_sound (capacity : Fin sinks → Nat) :
    Sound (FanOut.State.create capacity) (Ledger.fresh : Ledger sources sinks) where
  nextSeq := rfl
  offered := fun _ => rfl
  serves := fun _ => ⟨List.infix_rfl, fun _ => List.suffix_rfl, List.Sublist.refl _⟩

theorem Sound.drain {core : FanOut.State sinks} {ledger : Ledger sources sinks}
    (sound : Sound core ledger) (polling : core.phase = .poll) (source : Fin sources)
    (batch : List BusFrame) :
    Sound (core.drain batch)
      { ledger with drained := ledger.drained ++ batch.map fun frame => (source, frame) } where
  nextSeq := by
    change core.nextSeq + UInt64.ofNat batch.length = _
    rw [sound.nextSeq, List.length_append, List.length_map, UInt64.ofNat_add]
  offered := by
    intro sink
    have before := sound.offered sink
    rw [pending, polling, List.append_nil] at before
    have under : pending (core.drain batch) sink = stamp core.nextSeq batch := by
      change (if 0 ≤ sink.val then stamp core.nextSeq batch else []) = _
      rw [if_pos (Nat.zero_le _)]
    change ledger.offered sink ++ _ = _
    rw [under, before, Ledger.numbered, Ledger.numbered, List.map_append, stamp_append,
      List.length_map, UInt64.zero_add, sound.nextSeq]
    simp
  serves := sound.serves

theorem Sound.pushSink {core : FanOut.State sinks} {ledger : Ledger sources sinks}
    (sound : Sound core ledger) {produced : List Frame} {next : Fin sinks}
    (pushing : core.phase = .push produced next.val) :
    Sound
      { core.setQueue next ((core.queues next).pushBatch produced).1 with
        phase := .push produced (next.val + 1) }
      { ledger with
        offered := Function.update ledger.offered next (ledger.offered next ++ produced) } where
  nextSeq := sound.nextSeq
  offered := by
    intro sink
    have before := sound.offered sink
    rw [pending, pushing] at before
    dsimp only at before
    change Function.update ledger.offered next _ sink ++
      (if next.val + 1 ≤ sink.val then produced else []) = ledger.numbered
    by_cases own : sink = next
    · subst own
      rw [if_pos (Nat.le_refl _)] at before
      rw [Function.update_self, if_neg (Nat.not_succ_le_self _), List.append_nil, before]
    · have apart : sink.val ≠ next.val := fun same => own (Fin.ext same)
      rw [Function.update_of_ne own, ← before]
      split <;> split <;> first | rfl | omega
  serves := by
    intro sink
    change (Function.update core.queues next _ sink).Serves
      (Function.update ledger.offered next _ sink) (ledger.delivered sink)
    by_cases own : sink = next
    · subst own
      rw [Function.update_self, Function.update_self]
      exact (sound.serves sink).push produced
    · rw [Function.update_of_ne own, Function.update_of_ne own]
      exact sound.serves sink

theorem Sound.push {core : FanOut.State sinks} {ledger : Ledger sources sinks}
    (sound : Sound core ledger) {produced : List Frame} {next : Nat}
    (pushing : core.phase = .push produced next) :
    Sound (core.push produced next) (ledger.noteOffer (.push produced next)) := by
  unfold FanOut.State.push Ledger.noteOffer
  dsimp only
  split
  · rename_i inside
    have here : core.phase = .push produced (⟨next, inside⟩ : Fin sinks).val := pushing
    exact sound.pushSink here
  · rename_i beyond
    refine ⟨sound.nextSeq, ?_, sound.serves⟩
    intro sink
    have before := sound.offered sink
    have passed : ¬ next ≤ sink.val := by
      have bound := sink.isLt
      omega
    rw [pending, pushing] at before
    dsimp only at before
    rw [if_neg passed] at before
    exact before

theorem Sound.pop {core : FanOut.State sinks} {ledger : Ledger sources sinks}
    (sound : Sound core ledger) (sink : Fin sinks) (size : Nat) :
    Sound (core.setQueue sink ((core.queues sink).popBatch size).1)
      { ledger with
        delivered := Function.update ledger.delivered sink
          (ledger.delivered sink ++ ((core.queues sink).popBatch size).2) } where
  nextSeq := sound.nextSeq
  offered := sound.offered
  serves := by
    intro other
    change (Function.update core.queues sink _ other).Serves (ledger.offered other)
      (Function.update ledger.delivered sink _ other)
    by_cases own : other = sink
    · subst own
      rw [Function.update_self, Function.update_self]
      exact (sound.serves other).pop size
    · rw [Function.update_of_ne own, Function.update_of_ne own]
      exact sound.serves other

theorem Sound.close {core : FanOut.State sinks} {ledger : Ledger sources sinks}
    (sound : Sound core ledger) (sink : Fin sinks) :
    Sound (core.setQueue sink (core.queues sink).close) ledger where
  nextSeq := sound.nextSeq
  offered := sound.offered
  serves := by
    intro other
    change (Function.update core.queues sink _ other).Serves (ledger.offered other)
      (ledger.delivered other)
    by_cases own : other = sink
    · subst own
      rw [Function.update_self]
      exact (sound.serves other).close
    · rw [Function.update_of_ne own]
      exact sound.serves other

theorem Sound.move {state : State sources sinks} {ledger recorded : Ledger sources sinks}
    {label : Label sources sinks} {core : FanOut.State sinks} (sound : Sound state.core ledger)
    (move : Move state ledger label core recorded) : Sound core recorded := by
  cases move with
  | idle => exact sound
  | drain place polling => exact sound.drain polling _ _
  | push pushing => exact sound.push pushing
  | pop sink size => exact sound.pop sink size
  | close sink => exact sound.close sink

theorem reachable_sound {capacity : Fin sinks → Nat} {guard}
    {state : State sources sinks × Ledger sources sinks}
    (reached : (observed sources capacity).ReachableUnder guard state) :
    Sound state.1.core state.2 := by
  refine reached.invariant (fun state => Sound state.1.core state.2) ?_ ?_
  · rintro ⟨state, ledger⟩ ⟨rfl, rfl⟩
    exact create_sound capacity
  · rintro ⟨state, ledger⟩ label after _ _ sound stepped
    rcases Option.map_eq_some_iff.mp stepped with ⟨moved, step, rfl⟩
    exact sound.move (State.step_move step ledger)

/-! ## Dense and identical for all -/

end Thread

end FanOut

end TelemetryGateway
