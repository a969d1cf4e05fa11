import TelemetryGateway.Egress.Run

/-! # What a step does to frames and records

Most steps of the thread leave the frames in hand, the records given to the
connections and the numbering alone. The invariants about those only have to
look at the few that do not. -/

namespace TelemetryGateway.Egress

/-- The frames taken from the feed that `note_gap` has not seen yet. -/
def Phase.batch : Phase → List Frame
  | .coalesce batch => batch
  | .linger batch _ _ => batch
  | .popMore batch _ _ => batch
  | .noteGap batch => batch
  | _ => []

def Phase.unsent (egress : Egress) : Phase → List Frame
  | .sendEcho _ => egress.outgoing
  | .encode _ => egress.outgoing
  | _ => []

namespace State

structure Quiet (state after : State) : Prop where
  past : after.history.past = state.history.past
  messages : after.history.current.messages = state.history.current.messages
  popped : after.history.popped = state.history.popped
  gaps : after.history.gaps = state.history.gaps
  batch : after.phase.batch = state.phase.batch
  unsent : after.phase.unsent after.egress = state.phase.unsent state.egress
  haveSeq : after.egress.haveSeq = state.egress.haveSeq
  nextSeq : after.egress.nextSeq = state.egress.nextSeq

inductive Drops (state : State) : Event → Prop
  | failed (site : FlushSite) (flushing : state.phase = .send site) : Drops state (.send .failed)
  | pollFailed (site : FlushSite) (parked : state.phase = .pollWritable site) :
      Drops state (.poll .failed)
  | stopped (site : FlushSite) (parked : state.phase = .pollWritable site)
      (stopping : state.stopping = true) (ready : Bool) : Drops state (.poll (.answered ready))
  | gone (testing : state.phase = .testGone) : Drops state (.peer true)

theorem Drops.nothing_in_hand {state : State} {event : Event} (drops : state.Drops event) :
    state.phase.batch = [] ∧ state.phase.unsent state.egress = [] := by
  cases drops with
  | failed site flushing =>
      rw [flushing]
      exact ⟨rfl, rfl⟩
  | pollFailed site parked =>
      rw [parked]
      exact ⟨rfl, rfl⟩
  | stopped site parked stopping ready =>
      rw [parked]
      exact ⟨rfl, rfl⟩
  | gone testing =>
      rw [testing]
      exact ⟨rfl, rfl⟩

theorem pollWritable_cases {state : State} {site : FlushSite}
    (parked : state.phase = .pollWritable site) (result : PollResult) :
    state.pollWritable site result = { state with phase := .send site } ∨
      (state.pollWritable site result = state.dropAndContinue ∧ state.Drops (.poll result)) := by
  cases result with
  | interrupted => exact Or.inl rfl
  | failed => exact Or.inr ⟨rfl, .pollFailed site parked⟩
  | answered ready =>
      simp only [State.pollWritable]
      split
      · exact Or.inr ⟨rfl, .stopped site parked ‹_› ready⟩
      · exact Or.inl rfl

structure Pops (state : State) (frames : List Frame) (after : State) : Prop where
  history : after.history = (state.recordPop frames).history
  batch : after.phase.batch = state.phase.batch ++ frames
  before : state.phase.unsent state.egress = []
  unsent : after.phase.unsent after.egress = []
  haveSeq : after.egress.haveSeq = state.egress.haveSeq
  nextSeq : after.egress.nextSeq = state.egress.nextSeq

inductive Effect (state : State) : Event → State → Prop
  | quiet (quiet : state.Quiet after) (nothing : event.frames = []) : Effect state event after
  | drop (drops : state.Drops event) : Effect state event state.dropAndContinue
  | pop (frames : List Frame) (pops : state.Pops frames after) : Effect state (.pop frames) after
  | noteGap (batch : List Frame) (noting : state.phase = .noteGap batch) (now : UInt64) :
      Effect state (.clock now) (state.noteGap batch now)
  | sendEcho (n : Nat) (probing : state.phase = .sendEcho n) (now : UInt64) :
      Effect state (.clock now) { state with
        phase := .encode n
        egress := state.egress.maybeSendEcho now }
  | encode (n : Nat) (encoding : state.phase = .encode n) : Effect state .proceed (state.encode n)

theorem step_effect {state after : State} {event : Event}
    (stepped : state.step event = some after) : state.Effect event after := by
  -- a step between two phases that hold nothing
  have plain {phase : Phase} {next : State} (there : state.phase = phase)
      (batch : phase.batch = next.phase.batch)
      (unsent : phase.unsent state.egress = next.phase.unsent next.egress)
      (history : next.history = state.history)
      (haveSeq : next.egress.haveSeq = state.egress.haveSeq)
      (nextSeq : next.egress.nextSeq = state.egress.nextSeq) : state.Quiet next :=
    ⟨by rw [history], by rw [history], by rw [history], by rw [history],
      by rw [there]; exact batch.symm, by rw [there]; exact unsent.symm, haveSeq, nextSeq⟩
  have same : state.Quiet state := ⟨rfl, rfl, rfl, rfl, rfl, rfl, rfl, rfl⟩
  cases step_cases stepped with
  | stop => exact .quiet ⟨rfl, rfl, rfl, rfl, rfl, rfl, rfl, rfl⟩ rfl
  | keepClient waiting client => exact .quiet (plain waiting rfl rfl rfl rfl rfl) rfl
  | pollListen waiting client result =>
      refine .quiet ?_ rfl
      rcases state.waitForClient_cases result with stays | leaves | accepts
      · rw [stays]
        exact same
      · rw [leaves]
        exact plain waiting rfl rfl rfl rfl rfl
      · rw [accepts]
        exact plain waiting rfl rfl rfl rfl rfl
  | accept accepting fd =>
      cases fd with
      | none => exact .quiet (plain accepting rfl rfl rfl rfl rfl) rfl
      | some fd => exact .quiet (plain accepting rfl rfl rfl rfl rfl) rfl
  | testPending testing =>
      by_cases empty : state.egress.pending = []
      · rw [if_pos empty]
        exact .quiet (plain testing rfl rfl rfl rfl rfl) rfl
      · rw [if_neg empty]
        exact .quiet (plain testing rfl rfl rfl rfl rfl) rfl
  | sent site flushing bytes taken =>
      unfold State.sent at taken
      dsimp only at taken
      split at taken <;> cases taken
      exact .quiet ⟨rfl, rfl, rfl, rfl, by rw [flushing], by rw [flushing]; rfl, rfl, rfl⟩ rfl
  | wouldBlock site flushing blocked =>
      cases blocked
      exact .quiet (plain flushing rfl rfl rfl rfl rfl) rfl
  | interrupted site flushing => exact .quiet same rfl
  | failed site flushing _ => exact .drop (.failed site flushing)
  | finishFlush site flushing done => exact .quiet (plain flushing rfl rfl rfl rfl rfl) rfl
  | pollWritable site parked result =>
      rcases pollWritable_cases parked result with again | ⟨dropped, drops⟩
      · rw [again]
        exact .quiet (plain parked rfl rfl rfl rfl rfl) rfl
      · rw [dropped]
        exact .drop drops
  | afterFlush site flushed =>
      cases site with
      | head => exact .quiet (plain flushed rfl rfl rfl rfl rfl) rfl
      | batch n => exact .quiet (plain flushed rfl rfl rfl rfl rfl) rfl
  | peerGone testing => exact .drop (.gone testing)
  | peerThere testing => exact .quiet (plain testing rfl rfl rfl rfl rfl) rfl
  | recv receiving bytes _ _ =>
      exact .quiet ⟨rfl, rfl, rfl, rfl, rfl, by rw [receiving]; rfl, rfl, rfl⟩ rfl
  | recvEnd receiving => exact .quiet (plain receiving rfl rfl rfl rfl rfl) rfl
  | parse parsing now =>
      exact .quiet (plain parsing rfl rfl rfl
        (view_parseReplies (fun egress => egress.haveSeq) (fun _ _ _ => rfl) (fun _ _ => rfl) ..)
        (view_parseReplies (fun egress => egress.nextSeq) (fun _ _ _ => rfl) (fun _ _ => rfl) ..))
        rfl
  | pop popping frames size =>
      refine .pop frames ⟨rfl, ?_, by rw [popping]; rfl, ?_, rfl, rfl⟩
      · rw [popping]
        dsimp only
        split
        · rename_i empty
          rw [empty]
          rfl
        · rfl
      · dsimp only
        split <;> rfl
  | coalesce batch coalescing now =>
      refine .quiet (plain coalescing ?_ ?_ rfl rfl rfl) rfl
      all_goals
        rw [State.coalesce]
        dsimp only
        split <;> rfl
  | linger batch deadline waited lingering now =>
      refine .quiet ?_ rfl
      rcases state.linger_cases batch deadline waited now with leaves | goesOn
      · rw [leaves]
        exact plain lingering rfl rfl rfl rfl rfl
      · rw [goesOn]
        exact plain lingering rfl rfl rfl rfl rfl
  | popNothing batch deadline waited popping =>
      refine .pop [] ⟨?_, ?_, by rw [popping]; rfl, rfl, rfl, rfl⟩
      · rw [State.recordPop, List.append_nil]
        rfl
      · rw [popping, List.append_nil]
        rfl
  | popMore batch deadline waited popping frame rest _ =>
      exact .pop (frame :: rest) ⟨rfl, by rw [popping]; rfl, by rw [popping]; rfl, rfl, rfl, rfl⟩
  | testClosed testing answer =>
      cases answer with
      | true => exact .quiet (plain testing rfl rfl rfl rfl rfl) rfl
      | false => exact .quiet (plain testing rfl rfl rfl rfl rfl) rfl
  | noteGap batch noting now => exact .noteGap batch noting now
  | sendEcho n probing now => exact .sendEcho n probing now
  | encode n encoding => exact .encode n encoding

theorem popped_step {state after : State} {event : Event}
    (stepped : state.step event = some after) :
    after.history.popped = state.history.popped ++ event.frames := by
  cases step_effect stepped with
  | quiet quiet nothing =>
      rw [nothing, List.append_nil]
      exact quiet.popped
  | drop drops => cases drops <;> exact (List.append_nil _).symm
  | pop frames pops =>
      rw [pops.history]
      rfl
  | noteGap batch noting now => exact (List.append_nil _).symm
  | sendEcho n probing now => exact (List.append_nil _).symm
  | encode n encoding => exact (List.append_nil _).symm

theorem batch_step {state after : State} {event : Event} (notPop : ∀ frames, event ≠ .pop frames)
    (stepped : state.step event = some after) :
    after.phase.batch = state.phase.batch ∨ after.phase.batch = [] := by
  cases step_effect stepped with
  | quiet quiet nothing => exact Or.inl quiet.batch
  | drop drops => exact Or.inr rfl
  | pop frames pops => exact absurd rfl (notPop frames)
  | noteGap batch noting now => exact Or.inr rfl
  | sendEcho n probing now => exact Or.inr rfl
  | encode n encoding => exact Or.inr rfl

end State

end TelemetryGateway.Egress
