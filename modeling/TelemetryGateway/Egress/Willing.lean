import TelemetryGateway.Egress.Reports

/-! # A client that stays and takes everything

As long as no send is refused and the client does not leave, one connection is
given every frame that was popped, in that order. Markers and probes are the
only other records. -/

namespace TelemetryGateway.Egress

/-- The client stays connected, and a send is accepted, in parts or interrupted
at most. -/
def Event.willing : Event → Bool
  | .send .wouldBlock => false
  | .send .failed => false
  | .peer true => false
  | _ => true

def busFrames (records : List Frame) : List Frame :=
  records.filter fun record => !Wire.isControl record

theorem busFrames_append (left right : List Frame) :
    busFrames (left ++ right) = busFrames left ++ busFrames right :=
  List.filter_append ..

theorem busFrames_bus {frames : List Frame}
    (bus : ∀ frame ∈ frames, Wire.isControl frame = false) : busFrames frames = frames := by
  refine List.filter_eq_self.mpr ?_
  intro frame member
  rw [bus frame member]
  rfl

theorem busFrames_control {records : List Frame}
    (control : ∀ record ∈ records, Wire.isControl record = true) : busFrames records = [] := by
  refine List.filter_eq_nil_iff.mpr ?_
  intro record member
  rw [control record member]
  exact Bool.false_ne_true

def Phase.leaving : Phase → Bool
  | .pollWritable _ => true
  | .testClosed => true
  | .returned => true
  | _ => false

def Phase.awaits : Phase → Bool
  | .pop => true
  | .popMore _ _ _ => true
  | .testClosed => true
  | _ => false

namespace State

/-! ## How the thread leaves its loop -/

inductive Leaves (state : State) : Event → State → Prop
  | stop : Leaves state .stop { state with stopping := true }
  | park (parked : after.phase = .pollWritable site) : Leaves state (.send .wouldBlock) after
  /-- an empty pop leads to the question whether the feed is closed -/
  | testClosed (popping : state.phase = .pop) (testing : after.phase = .testClosed) :
      Leaves state (.pop []) after
  | feedClosed (testing : state.phase = .testClosed) (returned : after.phase = .returned) :
      Leaves state (.closed true) after
  | noClient (client : after.egress.clientFd = none) (returned : after.phase = .returned) :
      Leaves state event after

theorem step_leaves {state after : State} {event : Event}
    (stepped : state.step event = some after) :
    state.Leaves event after ∨ after.phase.leaving = false := by
  cases step_cases stepped with
  | stop => exact .inl .stop
  | pollListen waiting client result =>
      rcases state.waitForClient_cases result with same | same | same
      · rw [same, waiting]
        exact .inr rfl
      · rw [same]
        exact .inl (.noClient client rfl)
      · rw [same]
        exact .inr rfl
  | accept accepting fd => cases fd <;> exact .inr rfl
  | testPending testing =>
      dsimp only
      split <;> exact .inr rfl
  | sent site flushing bytes taken =>
      unfold State.sent at taken
      dsimp only at taken
      split at taken <;> cases taken
      exact .inr rfl
  | wouldBlock site flushing blocked =>
      cases blocked
      exact .inl (.park rfl)
  | interrupted site flushing =>
      rw [flushing]
      exact .inr rfl
  | pollWritable site parked result =>
      rcases pollWritable_cases parked result with same | ⟨same, _⟩
      · rw [same]
        exact .inr rfl
      · rw [same]
        exact .inr rfl
  | afterFlush site flushed => cases site <;> exact .inr rfl
  | recv receiving bytes filled size =>
      dsimp only
      rw [receiving]
      exact .inr rfl
  | pop popping frames size =>
      by_cases empty : frames = []
      · subst empty
        exact .inl (.testClosed popping rfl)
      · rw [if_neg empty]
        exact .inr rfl
  | coalesce batch coalescing now =>
      unfold State.coalesce
      dsimp only
      split <;> exact .inr rfl
  | linger batch deadline waited lingering now =>
      rcases state.linger_cases batch deadline waited now with same | same
      · rw [same]
        exact .inr rfl
      · rw [same]
        exact .inr rfl
  | testClosed testing answer =>
      cases answer with
      | true => exact .inl (.feedClosed testing rfl)
      | false => exact .inr rfl
  | _ => exact .inr rfl

theorem step_testClosed {state after : State} {event : Event}
    (stepped : state.step event = some after) (testing : after.phase = .testClosed) :
    (event = .stop ∧ state.phase = .testClosed) ∨ (event = .pop [] ∧ state.phase = .pop) := by
  rcases step_leaves stepped with leaves | stays
  · cases leaves with
    | stop => exact .inl ⟨rfl, testing⟩
    | park parked => cases testing.symm.trans parked
    | testClosed popping _ => exact .inr ⟨rfl, popping⟩
    | feedClosed _ returned => cases testing.symm.trans returned
    | noClient _ returned => cases testing.symm.trans returned
  · rw [testing] at stays
    cases stays

theorem step_returned {state after : State} {event : Event}
    (stepped : state.step event = some after) (returned : after.phase = .returned)
    (client : after.egress.clientFd ≠ none) :
    (event = .stop ∧ state.phase = .returned ∧ state.egress.clientFd ≠ none) ∨
      (event = .closed true ∧ state.phase = .testClosed) := by
  rcases step_leaves stepped with leaves | stays
  · cases leaves with
    | stop => exact .inl ⟨rfl, returned, client⟩
    | park parked => cases returned.symm.trans parked
    | testClosed _ testing => cases returned.symm.trans testing
    | feedClosed testing _ => exact .inr ⟨rfl, testing⟩
    | noClient none _ => exact absurd none client
  · rw [returned] at stays
    cases stays

theorem step_awaits {state after : State} {event : Event} (awaits : state.phase.awaits = true)
    (own : event.fromFeed = false) (stepped : state.step event = some after) :
    event = .stop ∧ after = { state with stopping := true } := by
  cases step_cases stepped with
  | stop => exact ⟨rfl, rfl⟩
  | pop _ _ _ => cases own
  | popNothing _ _ _ _ => cases own
  | popMore _ _ _ _ _ _ _ => cases own
  | testClosed _ _ => cases own
  | _ => simp [*, Phase.awaits] at awaits

theorem unparked_step {state after : State} {event : Event} (willing : event.willing = true)
    (unparked : ∀ site, state.phase ≠ .pollWritable site)
    (stepped : state.step event = some after) (site : FlushSite) :
    after.phase ≠ .pollWritable site := by
  intro parked
  rcases step_leaves stepped with leaves | stays
  · cases leaves with
    | stop => exact unparked site parked
    | park _ => cases willing
    | testClosed _ testing => cases parked.symm.trans testing
    | feedClosed _ returned => cases parked.symm.trans returned
    | noClient _ returned => cases parked.symm.trans returned
  · rw [parked] at stays
    cases stays

theorem requests_something {tuning : Tuning} {guard : State → Event → Prop} {state : State}
    (reached : (system tuning).ReachableUnder guard state) :
    0 < state.egress.tuning.maxFrames := by
  refine reached.invariant (fun state => 0 < state.egress.tuning.maxFrames) ?_ ?_
  · rintro state ⟨listenFd, stopFd, egress, created, rfl⟩
    unfold create at created
    split at created <;> cases created
    rename_i sizes
    exact Nat.pos_of_ne_zero (not_or.mp sizes).1
  · intro state event after _ _ positive stepped
    rw [tuning_step stepped]
    exact positive

/-! ## What the connection is given -/

/-- The connection has been given the frames popped so far, but for those in
hand. -/
structure Forwarding (state : State) : Prop where
  single : state.history.past = []
  unparked : ∀ site, state.phase ≠ .pollWritable site
  bus : ∀ frame ∈ state.history.popped, Wire.isControl frame = false
  forwarded : busFrames state.records ++ state.phase.batch = state.history.popped

theorem Drops.unwilling {state : State} {event : Event} (drops : state.Drops event)
    (unparked : ∀ site, state.phase ≠ .pollWritable site) : event.willing = false := by
  cases drops with
  | failed site flushing => rfl
  | pollFailed site parked => exact absurd parked (unparked site)
  | stopped site parked stopping ready => exact absurd parked (unparked site)
  | gone testing => rfl

theorem Forwarding.noteGap {state : State} (forwarding : state.Forwarding) {batch : List Frame}
    (noting : state.phase = .noteGap batch) (filled : batch ≠ []) (now : UInt64) :
    (state.noteGap batch now).Forwarding := by
  have inHand : state.phase.batch = batch := by rw [noting]; rfl
  have before : state.records = state.history.current.messages.flatten := by
    rw [records, noting]
    exact List.append_nil _
  have forwarded := forwarding.forwarded
  rw [before, inHand] at forwarded
  refine ⟨forwarding.single, ?_, forwarding.bus, ?_⟩
  · intro site parked
    cases parked
  cases batch with
  | nil => exact absurd rfl filled
  | cons front rest =>
      have ordinary : ∀ frame ∈ front :: rest, Wire.isControl frame = false := by
        intro frame member
        apply forwarding.bus
        rw [← forwarded]
        exact List.mem_append_right _ member
      have marker : ∀ record ∈ (state.egress.gapBefore front).toList.map fun gap =>
          Wire.makeGap gap.1 gap.2 state.egress.gapReason now, Wire.isControl record = true := by
        intro record member
        rcases List.mem_map.mp member with ⟨gap, _, rfl⟩
        exact Wire.isControl_makeGap ..
      change busFrames (state.history.current.messages.flatten ++
        (state.egress.noteGap (front :: rest) now).outgoing) ++ [] = state.history.popped
      rw [List.append_nil, outgoing_noteGap, busFrames_append, busFrames_append,
        busFrames_control marker, busFrames_bus ordinary]
      exact forwarded

theorem Forwarding.sendEcho {state : State} (forwarding : state.Forwarding) {n : Nat}
    (probing : state.phase = .sendEcho n) (now : UInt64) :
    ({ state with
      phase := .encode n
      egress := state.egress.maybeSendEcho now } : State).Forwarding := by
  rcases records_sendEcho probing now with ⟨probe, records⟩
  have probes : ∀ record ∈ probe.toList.map fun nonce => Wire.makeEcho nonce now,
      Wire.isControl record = true := by
    intro record member
    rcases List.mem_map.mp member with ⟨nonce, _, rfl⟩
    exact Wire.isControl_makeEcho ..
  have forwarded := forwarding.forwarded
  rw [probing] at forwarded
  refine ⟨forwarding.single, nofun, forwarding.bus, ?_⟩
  rw [records, busFrames_append, busFrames_control probes, List.append_nil]
  exact forwarded

theorem Forwarding.step {state after : State} (forwarding : state.Forwarding)
    (framed : state.Framed) {event : Event} (willing : event.willing = true)
    (bus : ∀ frame ∈ event.frames, Wire.isControl frame = false)
    (stepped : state.step event = some after) : after.Forwarding := by
  have unparked := unparked_step willing forwarding.unparked stepped
  cases step_effect stepped with
  | quiet quiet nothing =>
      refine ⟨quiet.past.trans forwarding.single, unparked, ?_, ?_⟩
      · rw [quiet.popped]
        exact forwarding.bus
      · rw [records_quiet quiet, quiet.batch, quiet.popped]
        exact forwarding.forwarded
  | drop drops =>
      rw [drops.unwilling forwarding.unparked] at willing
      cases willing
  | pop frames pops =>
      have popped : after.history.popped = state.history.popped ++ frames := by
        rw [pops.history]
        rfl
      refine ⟨?_, unparked, ?_, ?_⟩
      · rw [pops.history]
        exact forwarding.single
      · intro frame member
        rw [popped] at member
        rcases List.mem_append.mp member with old | new
        · exact forwarding.bus frame old
        · exact bus frame new
      · rw [records_pops pops, pops.batch, popped, ← List.append_assoc, forwarding.forwarded]
  | noteGap batch noting now =>
      have filled := framed.fits
      rw [noting] at filled
      exact forwarding.noteGap noting filled.1 now
  | sendEcho n probing now => exact forwarding.sendEcho probing now
  | encode n encoding =>
      refine ⟨forwarding.single, unparked, forwarding.bus, ?_⟩
      have forwarded := forwarding.forwarded
      rw [encoding] at forwarded
      rw [records_encode encoding]
      exact forwarded

theorem initial_forwarding (egress : Egress) : (State.initial egress).Forwarding :=
  ⟨rfl, nofun, (fun _ member => nomatch member), rfl⟩

structure Sent (state : State) : Prop where
  single : state.history.connections = [state.history.current]
  written : state.history.current.written =
    (state.history.current.messages.map Wire.messageBytes).flatten
  frames : busFrames state.history.current.messages.flatten = state.history.popped

theorem Forwarding.sent {state : State} (forwarding : state.Forwarding) (framed : state.Framed)
    (returned : state.phase = .returned) : state.Sent := by
  have quiet := framed.quiet (by rw [returned]; rfl)
  refine ⟨?_, ?_, ?_⟩
  · rw [History.connections, forwarding.single]
    rfl
  · have current := framed.current
    rw [quiet.1, List.drop_nil, List.append_nil] at current
    exact current
  · have forwarded := forwarding.forwarded
    rw [records, returned] at forwarded
    change busFrames (_ ++ []) ++ [] = _ at forwarded
    rw [List.append_nil, List.append_nil] at forwarded
    exact forwarded

end State

end TelemetryGateway.Egress
