import Mathlib.Data.UInt
import TelemetryGateway.Egress.Reports

/-! # The markers a step sends

Only `note_gap` makes a marker, and only there and in `drop_client` does a
decision about reasons change. -/

namespace TelemetryGateway.Egress

theorem Phase.detached_of_batch {phase : Phase} (filled : phase.batch ≠ []) :
    phase.detached = false := by
  cases phase <;> first | rfl | exact absurd rfl filled

namespace State

theorem Drops.attached {state : State} {event : Event} (drops : state.Drops event) :
    state.phase.detached = false := by
  cases drops with
  | failed site flushing =>
      rw [flushing]
      rfl
  | pollFailed site parked =>
      rw [parked]
      rfl
  | stopped site parked stopping ready =>
      rw [parked]
      rfl
  | gone testing =>
      rw [testing]
      rfl

/-- The markers among the records that a step gives the connection. -/
def markers (state after : State) : List Frame :=
  (after.records.drop state.records.length).filter Wire.isGap

theorem markers_same {state after : State} (same : after.records = state.records) :
    state.markers after = [] := by
  rw [markers, same, List.drop_length, List.filter_nil]

theorem markers_dropAndContinue (state : State) : state.markers state.dropAndContinue = [] := by
  have fresh : state.dropAndContinue.records = [] := rfl
  rw [markers, fresh, List.drop_nil, List.filter_nil]

theorem markers_sendEcho {state : State} {n : Nat} (probing : state.phase = .sendEcho n)
    (now : UInt64) : state.markers { state with
      phase := .encode n
      egress := state.egress.maybeSendEcho now } = [] := by
  rcases records_sendEcho probing now with ⟨probe, records⟩
  rw [markers, records, List.drop_left]
  cases probe with
  | none => rfl
  | some nonce =>
      rw [Option.toList_some, List.map_singleton, List.filter_singleton, Wire.isGap_makeEcho]
      rfl

theorem markers_noteGap {state : State} {front : Frame} {rest : List Frame}
    (noting : state.phase = .noteGap (front :: rest))
    (bus : ∀ frame ∈ front :: rest, Wire.isControl frame = false) (now : UInt64) :
    state.markers (state.noteGap (front :: rest) now) =
      (state.egress.gapBefore front).toList.map fun gap =>
        Wire.makeGap gap.1 gap.2 state.egress.gapReason now := by
  have batch : (front :: rest).filter Wire.isGap = [] := by
    refine List.filter_eq_nil_iff.mpr ?_
    intro frame member
    rw [(Wire.isControl_eq_false.mp (bus frame member)).1]
    exact Bool.false_ne_true
  rw [markers, records_noting noting]
  change ((state.history.current.messages.flatten ++
    (state.egress.noteGap (front :: rest) now).outgoing).drop _).filter _ = _
  rw [List.drop_left, outgoing_noteGap, List.filter_append, batch, List.append_nil]
  refine List.filter_eq_self.mpr ?_
  intro record member
  rcases List.mem_map.mp member with ⟨gap, _, rfl⟩
  exact Wire.isGap_makeGap ..

/-! ## Outline of a step -/

structure Kept (state after : State) : Prop where
  popped : after.history.popped = state.history.popped
  batch : after.phase.batch = state.phase.batch
  haveSeq : after.egress.haveSeq = state.egress.haveSeq
  nextSeq : after.egress.nextSeq = state.egress.nextSeq
  unreported : state.Unreported after
  markers : state.markers after = []

inductive Outline (state : State) : Event → State → Prop
  | keep (kept : state.Kept after) (nothing : event.frames = []) : Outline state event after
  | drop (drops : state.Drops event) : Outline state event state.dropAndContinue
  | pop (frames : List Frame) (filled : frames ≠ []) (pops : state.Pops frames after)
      (unreported : state.Unreported after) : Outline state (.pop frames) after
  | noteGap (batch : List Frame) (noting : state.phase = .noteGap batch) (now : UInt64) :
      Outline state (.clock now) (state.noteGap batch now)

theorem step_outline {state after : State} {event : Event}
    (stepped : state.step event = some after) : state.Outline event after := by
  cases step_report stepped with
  | drop drops => exact .drop drops
  | noteGap batch noting now => exact .noteGap batch noting now
  | none unreported =>
      cases step_effect stepped with
      | quiet quiet nothing =>
          exact .keep ⟨quiet.popped, quiet.batch, quiet.haveSeq, quiet.nextSeq, unreported,
            markers_same (records_quiet quiet)⟩ nothing
      | drop drops => exact .drop drops
      | pop frames pops =>
          by_cases filled : frames = []
          · subst filled
            refine .keep ⟨?_, ?_, pops.haveSeq, pops.nextSeq, unreported,
              markers_same (records_pops pops)⟩ rfl
            · rw [pops.history]
              exact List.append_nil _
            · rw [pops.batch, List.append_nil]
          · exact .pop frames filled pops unreported
      | noteGap batch noting now => exact .noteGap batch noting now
      | sendEcho n probing now =>
          rcases maybeSendEcho_numbers state.egress now with ⟨haveSeq, nextSeq⟩
          exact .keep ⟨rfl, by rw [probing]; rfl, haveSeq, nextSeq, unreported,
            markers_sendEcho probing now⟩ rfl
      | encode n encoding =>
          exact .keep ⟨rfl, by rw [encoding]; rfl, rfl, rfl, unreported,
            markers_same (records_encode encoding)⟩ rfl

/-! ## What the markers count -/

theorem framesLost_noteGap (egress : Egress) (front : Frame) (rest : List Frame) (now : UInt64) :
    (egress.noteGap (front :: rest) now).counters.framesLost = egress.counters.framesLost +
      ((egress.gapBefore front).toList.map fun gap =>
        if egress.gapReason.isFault then gap.2 else 0).sum := by
  simp only [Egress.noteGap, List.head?_cons,
    List.getLast?_eq_some_getLast (List.cons_ne_nil front rest)]
  cases egress.gapBefore front with
  | none => exact (UInt64.add_zero _).symm
  | some gap =>
      rw [Option.toList_some, List.map_singleton, List.sum_singleton]

theorem framesLost_dropAndContinue (state : State) :
    state.dropAndContinue.egress.counters.framesLost = state.egress.counters.framesLost := by
  change state.egress.dropClient.counters.framesLost = _
  unfold dropClient
  split <;> rfl

theorem reconnected_dropAndContinue {state : State} (client : state.egress.clientFd ≠ none) :
    state.dropAndContinue.egress.reconnected = true := by
  rcases Option.ne_none_iff_exists'.mp client with ⟨fd, connected⟩
  change state.egress.dropClient.reconnected = true
  rw [dropClient, connected]

end State

end TelemetryGateway.Egress
