import TelemetryGateway.Egress.Egress
import TelemetryGateway.Foundation.Execution

/-! # The egress thread

`Egress::run` as a machine: one step for each system call, clock reading and
call of the feed, with the answer in the label. What the feed answers is left
open here: `Gateway` puts the thread behind a queue or a ring. -/

namespace TelemetryGateway.Egress

/-! ## What the thread is told -/

/-- `poll` on one descriptor and on `stop_fd_`. Whether the stop descriptor is
readable is part of the state, since nobody ever reads it. -/
inductive PollResult
  | interrupted
  | failed
  | answered (ready : Bool)
  deriving DecidableEq, Repr

inductive SendResult
  | sent (bytes : Nat)
  | wouldBlock
  | interrupted
  /-- any other error, or nothing sent -/
  | failed
  deriving DecidableEq, Repr

inductive Event
  /-- `stop` wrote to `stop_fd_` -/
  | stop
  /-- the thread goes on by itself -/
  | proceed
  | poll (result : PollResult)
  | accept (fd : Option Nat)
  | send (result : SendResult)
  /-- whether `POLLRDHUP`, `POLLHUP`, `POLLERR` or `POLLNVAL` was reported -/
  | peer (gone : Bool)
  /-- the bytes of one `recv`, none when it returned `0` or an error -/
  | recv (bytes : List UInt8)
  | clock (now : UInt64)
  | pop (frames : List Frame)
  | closed (answer : Bool)
  deriving DecidableEq

/-! ## Where the thread stands -/

/-- Which of the two calls of `flush_pending` is running: the one at the head
of the loop, or the one for the batch just encoded. -/
inductive FlushSite
  | head
  | batch (n : Nat)
  deriving DecidableEq, Repr

inductive Phase
  | waitForClient
  | accept
  /-- the head of the loop, with a client -/
  | testPending
  | send (site : FlushSite)
  /-- `EAGAIN`: parked on `POLLOUT` -/
  | pollWritable (site : FlushSite)
  /-- `flush_pending` is about to return true -/
  | flushed (site : FlushSite)
  | testGone
  | recv
  | parse
  | pop
  /-- `coalesce`, about to compute the deadline -/
  | coalesce (batch : List Frame)
  /-- the loop of `coalesce`, about to read the clock -/
  | linger (batch : List Frame) (deadline : UInt64) (waited : Bool)
  | popMore (batch : List Frame) (deadline : UInt64) (waited : Bool)
  | testClosed
  | noteGap (batch : List Frame)
  | sendEcho (n : Nat)
  | encode (n : Nat)
  | returned
  deriving DecidableEq

/-! ## History

Nothing reads it: what each connection was given to send and which bytes the
socket took, and what was popped and found missing. -/

structure Connection where
  messages : List (List Frame)
  written : List UInt8
  deriving DecidableEq

def Connection.opened : Connection where
  messages := []
  written := []

structure History where
  past : List Connection
  current : Connection
  popped : List Frame
  /-- the first sequence and the length of each gap `note_gap` found -/
  gaps : List (UInt64 × UInt64)
  deriving DecidableEq

def History.connections (history : History) : List Connection :=
  history.past ++ [history.current]

def History.none : History where
  past := []
  current := .opened
  popped := []
  gaps := []

structure State where
  egress : Egress
  phase : Phase
  stopping : Bool
  history : History
  deriving DecidableEq

def State.initial (egress : Egress) : State where
  egress := egress
  phase := .waitForClient
  stopping := false
  history := .none

namespace State

/-- `drop_client(); continue`. The connection becomes part of the past. -/
def dropAndContinue (state : State) : State :=
  { state with
    egress := state.egress.dropClient
    phase := .waitForClient
    history := { state.history with
      past := state.history.past ++ [state.history.current]
      current := .opened } }

/-! ## `wait_for_client` -/

def waitForClient (state : State) (result : PollResult) : State :=
  match result with
  | .interrupted => state
  | .failed => { state with phase := .returned }
  | .answered ready =>
      if state.stopping then { state with phase := .returned }
      else if ready then { state with phase := .accept }
      else state

theorem waitForClient_cases (state : State) (result : PollResult) :
    state.waitForClient result = state ∨
      state.waitForClient result = { state with phase := .returned } ∨
      state.waitForClient result = { state with phase := .accept } := by
  unfold waitForClient
  split
  · exact Or.inl rfl
  · exact Or.inr (Or.inl rfl)
  · split
    · exact Or.inr (Or.inl rfl)
    · split
      · exact Or.inr (Or.inr rfl)
      · exact Or.inl rfl

def acceptClient (state : State) (fd : Option Nat) : State :=
  match fd with
  | some fd => { state with egress := state.egress.acceptClient fd, phase := .testPending }
  | none => { state with phase := .waitForClient }

/-! ## `flush_pending` -/

def sending (state : State) : Bool :=
  state.egress.pendingOffset < state.egress.pending.length

def sent (state : State) (site : FlushSite) (bytes : Nat) : Option State :=
  let remaining := state.egress.pending.length - state.egress.pendingOffset
  if 0 < bytes ∧ bytes ≤ remaining then
    some { state with
      phase := .send site
      egress := { state.egress with
        pendingOffset := state.egress.pendingOffset + bytes
        counters := { state.egress.counters with
          bytesSent := state.egress.counters.bytesSent + UInt64.ofNat bytes
          partialWrites := state.egress.counters.partialWrites +
            (if bytes < remaining then 1 else 0) } }
      history := { state.history with
        current := { state.history.current with
          written := state.history.current.written ++
            (state.egress.pending.drop state.egress.pendingOffset).take bytes } } }
  else none

def trySend (state : State) (site : FlushSite) (result : SendResult) : Option State :=
  match result with
  | .sent bytes => state.sent site bytes
  | .wouldBlock =>
      some { state with
        phase := .pollWritable site
        egress := { state.egress with
          counters := { state.egress.counters with
            wouldBlock := state.egress.counters.wouldBlock + 1 } } }
  | .interrupted => some state
  | .failed => some state.dropAndContinue

def pollWritable (state : State) (site : FlushSite) (result : PollResult) : State :=
  match result with
  | .interrupted => { state with phase := .send site }
  | .failed => state.dropAndContinue
  | .answered _ =>
      if state.stopping then state.dropAndContinue else { state with phase := .send site }

def finishFlush (state : State) (site : FlushSite) : State :=
  { state with
    phase := .flushed site
    egress := { state.egress with pending := [], pendingOffset := 0 } }

def afterFlush (state : State) (site : FlushSite) : State :=
  match site with
  | .head => { state with phase := .testGone }
  | .batch n =>
      { state with
        phase := .waitForClient
        egress := { state.egress with
          counters := { state.egress.counters with
            framesSent := state.egress.counters.framesSent + UInt64.ofNat n
            batchesSent := state.egress.counters.batchesSent + 1 } } }

/-! ## Filling a batch -/

def recordPop (state : State) (frames : List Frame) : State :=
  { state with history := { state.history with popped := state.history.popped ++ frames } }

/-- The first `pop_batch`, and the tests around `coalesce`. -/
def pop (state : State) (frames : List Frame) : Option State :=
  if state.egress.tuning.maxFrames < frames.length then none
  else
    some { state.recordPop frames with
      phase := if frames = [] then .testClosed else .coalesce frames }

def coalesce (state : State) (batch : List Frame) (now : UInt64) : State :=
  { state with
    phase :=
      if state.egress.tuning.lingerUs = 0 ∨ state.egress.tuning.maxFrames ≤ batch.length then
        .noteGap batch
      else .linger batch (now + state.egress.tuning.lingerUs.toUInt64 * 1000) false }

def leaveCoalesce (state : State) (batch : List Frame) (waited : Bool) : State :=
  { state with
    phase := .noteGap batch
    egress := { state.egress with
      counters := { state.egress.counters with
        lingered := state.egress.counters.lingered + (if waited then 1 else 0) } } }

def linger (state : State) (batch : List Frame) (deadline : UInt64) (waited : Bool)
    (now : UInt64) : State :=
  if batch.length < state.egress.tuning.maxFrames then
    if deadline ≤ now then state.leaveCoalesce batch waited
    else { state with phase := .popMore batch deadline waited }
  else state.leaveCoalesce batch waited

theorem linger_cases (state : State) (batch : List Frame) (deadline : UInt64) (waited : Bool)
    (now : UInt64) :
    state.linger batch deadline waited now = state.leaveCoalesce batch waited ∨
      state.linger batch deadline waited now =
        { state with phase := .popMore batch deadline waited } := by
  unfold linger
  split
  · split
    · exact Or.inl rfl
    · exact Or.inr rfl
  · exact Or.inl rfl

def popMore (state : State) (batch : List Frame) (deadline : UInt64) (waited : Bool)
    (frames : List Frame) : Option State :=
  if state.egress.tuning.maxFrames - batch.length < frames.length then none
  else
    match frames with
    | [] => some (state.leaveCoalesce batch waited)
    | frame :: rest =>
        some { state.recordPop (frame :: rest) with
          phase := .linger (batch ++ frame :: rest) deadline true }

/-! ## Sending a batch -/

def noteGap (state : State) (batch : List Frame) (now : UInt64) : State :=
  { state with
    phase := .sendEcho batch.length
    egress := state.egress.noteGap batch now
    history := { state.history with
      gaps := state.history.gaps ++ (batch.head?.bind state.egress.gapBefore).toList } }

def encode (state : State) (n : Nat) : State :=
  { state with
    phase := .send (.batch n)
    egress := state.egress.encodeBatch state.egress.outgoing
    history := { state.history with
      current := { state.history.current with
        messages := state.history.current.messages ++ [state.egress.outgoing] } } }

theorem encode_eq (state : State) (n : Nat) :
    state.encode n = { state with
      phase := .send (.batch n)
      egress := { state.egress with
        pending := Wire.messageBytes state.egress.outgoing
        pendingOffset := 0 }
      history := { state.history with
        current := { state.history.current with
          messages := state.history.current.messages ++ [state.egress.outgoing] } } } := by
  rw [encode, encodeBatch_eq]

/-! ## One step -/

def step (state : State) (event : Event) : Option State :=
  match state.phase, event with
  | _, .stop => some { state with stopping := true }
  | .waitForClient, .proceed =>
      if state.egress.clientFd = none then none else some { state with phase := .testPending }
  | .waitForClient, .poll result =>
      if state.egress.clientFd = none then some (state.waitForClient result) else none
  | .accept, .accept fd => some (state.acceptClient fd)
  | .testPending, .proceed =>
      some { state with phase := if state.egress.pending = [] then .testGone else .send .head }
  | .send site, .send result => if state.sending then state.trySend site result else none
  | .send site, .proceed => if state.sending then none else some (state.finishFlush site)
  | .pollWritable site, .poll result => some (state.pollWritable site result)
  | .flushed site, .proceed => some (state.afterFlush site)
  | .testGone, .peer gone =>
      some (if gone then state.dropAndContinue else { state with phase := .recv })
  | .recv, .recv bytes =>
      if 512 < bytes.length then none
      else if bytes = [] then some { state with phase := .parse }
      else some { state with egress := state.egress.receive bytes }
  | .parse, .clock now =>
      some { state with
        phase := .pop
        egress := parseReplies now state.egress.replyBuf.length state.egress }
  | .pop, .pop frames => state.pop frames
  | .coalesce batch, .clock now => some (state.coalesce batch now)
  | .linger batch deadline waited, .clock now => some (state.linger batch deadline waited now)
  | .popMore batch deadline waited, .pop frames => state.popMore batch deadline waited frames
  | .testClosed, .closed answer =>
      some { state with phase := if answer then .returned else .waitForClient }
  | .noteGap batch, .clock now => some (state.noteGap batch now)
  | .sendEcho n, .clock now =>
      some { state with phase := .encode n, egress := state.egress.maybeSendEcho now }
  | .encode n, .proceed => some (state.encode n)
  | _, _ => none

inductive Step (state : State) : Event → State → Prop
  | stop : Step state .stop { state with stopping := true }
  | keepClient (waiting : state.phase = .waitForClient) (client : state.egress.clientFd ≠ none) :
      Step state .proceed { state with phase := .testPending }
  | pollListen (waiting : state.phase = .waitForClient) (client : state.egress.clientFd = none)
      (result : PollResult) : Step state (.poll result) (state.waitForClient result)
  | accept (accepting : state.phase = .accept) (fd : Option Nat) :
      Step state (.accept fd) (state.acceptClient fd)
  | testPending (testing : state.phase = .testPending) :
      Step state .proceed { state with
        phase := if state.egress.pending = [] then .testGone else .send .head }
  | sent (site : FlushSite) (flushing : state.phase = .send site) (bytes : Nat)
      (taken : state.sent site bytes = some after) : Step state (.send (.sent bytes)) after
  | wouldBlock (site : FlushSite) (flushing : state.phase = .send site)
      (blocked : state.trySend site .wouldBlock = some after) :
      Step state (.send .wouldBlock) after
  | interrupted (site : FlushSite) (flushing : state.phase = .send site) :
      Step state (.send .interrupted) state
  | failed (site : FlushSite) (flushing : state.phase = .send site)
      (sending : state.sending = true) : Step state (.send .failed) state.dropAndContinue
  | finishFlush (site : FlushSite) (flushing : state.phase = .send site)
      (done : state.sending = false) : Step state .proceed (state.finishFlush site)
  | pollWritable (site : FlushSite) (parked : state.phase = .pollWritable site)
      (result : PollResult) : Step state (.poll result) (state.pollWritable site result)
  | afterFlush (site : FlushSite) (flushed : state.phase = .flushed site) :
      Step state .proceed (state.afterFlush site)
  | peerGone (testing : state.phase = .testGone) : Step state (.peer true) state.dropAndContinue
  | peerThere (testing : state.phase = .testGone) :
      Step state (.peer false) { state with phase := .recv }
  | recv (receiving : state.phase = .recv) (bytes : List UInt8) (filled : bytes ≠ [])
      (size : bytes.length ≤ 512) :
      Step state (.recv bytes) { state with egress := state.egress.receive bytes }
  | recvEnd (receiving : state.phase = .recv) : Step state (.recv []) { state with phase := .parse }
  | parse (parsing : state.phase = .parse) (now : UInt64) :
      Step state (.clock now) { state with
        phase := .pop
        egress := parseReplies now state.egress.replyBuf.length state.egress }
  | pop (popping : state.phase = .pop) (frames : List Frame)
      (size : frames.length ≤ state.egress.tuning.maxFrames) :
      Step state (.pop frames) { state.recordPop frames with
        phase := if frames = [] then .testClosed else .coalesce frames }
  | coalesce (batch : List Frame) (coalescing : state.phase = .coalesce batch) (now : UInt64) :
      Step state (.clock now) (state.coalesce batch now)
  | linger (batch : List Frame) (deadline : UInt64) (waited : Bool)
      (lingering : state.phase = .linger batch deadline waited) (now : UInt64) :
      Step state (.clock now) (state.linger batch deadline waited now)
  | popNothing (batch : List Frame) (deadline : UInt64) (waited : Bool)
      (popping : state.phase = .popMore batch deadline waited) :
      Step state (.pop []) (state.leaveCoalesce batch waited)
  | popMore (batch : List Frame) (deadline : UInt64) (waited : Bool)
      (popping : state.phase = .popMore batch deadline waited) (frame : Frame)
      (rest : List Frame)
      (size : (frame :: rest).length ≤ state.egress.tuning.maxFrames - batch.length) :
      Step state (.pop (frame :: rest)) { state.recordPop (frame :: rest) with
        phase := .linger (batch ++ frame :: rest) deadline true }
  | testClosed (testing : state.phase = .testClosed) (answer : Bool) :
      Step state (.closed answer) { state with
        phase := if answer then .returned else .waitForClient }
  | noteGap (batch : List Frame) (noting : state.phase = .noteGap batch) (now : UInt64) :
      Step state (.clock now) (state.noteGap batch now)
  | sendEcho (n : Nat) (probing : state.phase = .sendEcho n) (now : UInt64) :
      Step state (.clock now) { state with
        phase := .encode n
        egress := state.egress.maybeSendEcho now }
  | encode (n : Nat) (encoding : state.phase = .encode n) : Step state .proceed (state.encode n)

theorem step_cases {state after : State} {event : Event}
    (stepped : state.step event = some after) : state.Step event after := by
  unfold step at stepped
  split at stepped
  · cases stepped
    exact .stop
  · rename_i waiting
    split at stepped <;> cases stepped
    exact .keepClient waiting ‹_›
  · rename_i waiting
    split at stepped <;> cases stepped
    exact .pollListen waiting ‹_› _
  · cases stepped
    exact .accept ‹_› _
  · cases stepped
    exact .testPending ‹_›
  · rename_i site result flushing
    split at stepped
    · cases result with
      | sent bytes => exact .sent site flushing bytes stepped
      | wouldBlock => exact .wouldBlock site flushing stepped
      | interrupted =>
          cases stepped
          exact .interrupted site flushing
      | failed =>
          cases stepped
          exact .failed site flushing ‹_›
    · cases stepped
  · rename_i flushing
    split at stepped <;> cases stepped
    exact .finishFlush _ flushing (Bool.not_eq_true _ ▸ ‹_›)
  · cases stepped
    exact .pollWritable _ ‹_› _
  · cases stepped
    exact .afterFlush _ ‹_›
  · rename_i gone testing
    cases stepped
    cases gone with
    | true => exact .peerGone testing
    | false => exact .peerThere testing
  · rename_i bytes receiving
    split at stepped
    · cases stepped
    · split at stepped <;> cases stepped
      · rename_i empty
        subst empty
        exact .recvEnd receiving
      · exact .recv receiving bytes ‹_› (Nat.not_lt.mp ‹_›)
  · cases stepped
    exact .parse ‹_› _
  · unfold State.pop at stepped
    split at stepped <;> cases stepped
    exact .pop ‹_› _ (Nat.not_lt.mp ‹_›)
  · cases stepped
    exact .coalesce _ ‹_› _
  · cases stepped
    exact .linger _ _ _ ‹_› _
  · rename_i popping
    unfold State.popMore at stepped
    split at stepped
    · cases stepped
    · split at stepped <;> cases stepped
      · exact .popNothing _ _ _ popping
      · exact .popMore _ _ _ popping _ _ (Nat.not_lt.mp ‹_›)
  · cases stepped
    exact .testClosed ‹_› _
  · cases stepped
    exact .noteGap _ ‹_› _
  · cases stepped
    exact .sendEcho _ ‹_› _
  · cases stepped
    exact .encode _ ‹_›
  · cases stepped

end State

/-! ## The feed's part -/

/-- The frames an event takes from the feed. -/
def Event.frames : Event → List Frame
  | .pop frames => frames
  | _ => []

theorem Event.frames_of_not_pop {event : Event} (notPop : ∀ frames, event ≠ .pop frames) :
    event.frames = [] := by
  cases event with
  | pop frames => exact absurd rfl (notPop frames)
  | _ => rfl

def Event.fromFeed : Event → Bool
  | .pop _ => true
  | .closed _ => true
  | _ => false

/-- The size of the buffer the thread is about to pass to `pop_batch`. -/
def State.requested (state : State) : Option Nat :=
  match state.phase with
  | .pop => some state.egress.tuning.maxFrames
  | .popMore batch _ _ => some (state.egress.tuning.maxFrames - batch.length)
  | _ => none

/-- Runs of the thread of an `Egress` that `create` returned. -/
def system (tuning : Tuning) : System State Event where
  initial := fun state => ∃ listenFd stopFd egress,
    create tuning (.ok listenFd) (.ok stopFd) = .ok egress ∧ state = State.initial egress
  step := State.step

end TelemetryGateway.Egress
