import TelemetryGateway.Foundation.Execution
import TelemetryGateway.Ring.Cells

/-! # The broadcast ring with its readers and its idle path

Readers hold private cursors and copy cells word by word. The idle path parks a
reader that finds nothing on a condition variable; it is the only part that
takes a mutex, and producers never take it. -/

namespace TelemetryGateway.BroadcastRing

/-! ## Readers -/

inductive ReadStatus
  | kOk
  | kEmpty
  | kLapped
  deriving DecidableEq, Repr

structure Cursor where
  next : Nat := 0
  missed : Nat := 0
  deriving DecidableEq, Repr

/-- The call a `try_read` in progress belongs to: a bare one, or the loop of
`read_batch` with the frames it has produced so far. -/
inductive ReadCall
  | tryRead
  | readBatch (size : Nat) (out : List Frame) (missedBefore : Nat)

inductive Outcome
  | tryRead (status : ReadStatus) (frame : Option Frame)
  | readBatch (out : List Frame) (missed : Nat)
  | attached
  | waited (woken : Bool)
  | closed (answer : Bool)

inductive ReaderPhase
  | idle
  /-- about to load the sequence word for the first time -/
  | loadSeq (call : ReadCall)
  | loadWord (call : ReadCall) (s1 : Nat) (index : Fin kFrameWords)
      (words : Fin kFrameWords → UInt64)
  /-- past the fence, about to load the sequence word again -/
  | reloadSeq (call : ReadCall) (s1 : Nat) (words : Fin kFrameWords → UInt64)
  | countInconsistent (call : ReadCall)
  /-- about to load the write position in `oldest` -/
  | lap (call : ReadCall)
  | attach
  | testClosed
  | waitCheck (known : Nat)
  | waitRegister (known : Nat)
  | waitRecheck (known : Nat)
  | waitLock (known : Nat)
  /-- holding the mutex, about to evaluate the predicate of the wait -/
  | waitPredicate (known : Nat) (timedOut : Bool)
  /-- the predicate was false, about to release the mutex and block -/
  | waitBlock (known : Nat)
  | blocked (known : Nat)
  | waitRelock (known : Nat) (timedOut : Bool)
  | waitUnlock (woken : Bool)
  | waitUnregister (woken : Bool)
  | done (outcome : Outcome)

/-- History of one cursor: what each `try_read` on it did. A frame is recorded
with the cursor's `missed` at that moment. -/
inductive ReadEvent
  | ok (pos : Nat) (frame : Frame) (missed : Nat)
  | empty (pos : Nat)
  | lapped (first target : Nat)

/-- A reader thread. `start` and `log` are history: where the cursor began and
what its reads returned; `past` holds the logs of the cursors before it. -/
structure Reader where
  cursor : Cursor
  phase : ReaderPhase
  start : Nat
  log : List ReadEvent
  past : List ReadEvent

/-- Everything a reader's calls of `try_read` ever did. -/
def Reader.history (reader : Reader) : List ReadEvent :=
  reader.past ++ reader.log

/-- A reader that has just been given a cursor at `start`. -/
def Reader.fresh (start : Nat) : Reader where
  cursor := { next := start }
  phase := .idle
  start := start
  log := []
  past := []

/-- Where the caller goes on once `try_read` has returned; `cursor` is the
cursor it left. -/
def ReadCall.resume (call : ReadCall) (cursor : Cursor) (status : ReadStatus)
    (frame : Option Frame) : ReaderPhase :=
  match call with
  | .tryRead => .done (.tryRead status frame)
  | .readBatch size out missedBefore =>
      match status with
      | .kOk =>
          let out := out ++ frame.toList
          if out.length < size then .loadSeq (.readBatch size out missedBefore)
          else .done (.readBatch out (cursor.missed - missedBefore))
      | .kLapped => .loadSeq (.readBatch size out missedBefore)
      | .kEmpty => .done (.readBatch out (cursor.missed - missedBefore))

inductive Request
  | tryRead
  | readBatch (size : Nat)
  | attach
  | waitForData (known : Nat)
  | closed

/-! ## The whole ring -/

/-- `closing` counts the calls of `close` that have set the flag and not yet
notified. -/
structure State (geometry : Geometry) (Producer ReaderId : Type) where
  core : Core geometry Producer
  inconsistentReads : Nat
  waiters : Nat
  idleMutex : Option ReaderId
  closed : Bool
  closing : Nat
  readers : ReaderId → Reader

inductive Label (Producer ReaderId : Type)
  | publish (producer : Producer) (frame : Frame)
  | publishBatch (producer : Producer) (frames : List Frame)
  | producer (producer : Producer) (spurious : Bool)
  | call (reader : ReaderId) (request : Request)
  | reader (reader : ReaderId)
  /-- a blocked reader wakes by itself, because its time is up or spuriously -/
  | wakeup (reader : ReaderId) (timedOut : Bool)
  | close
  | closeNotify

/-- The oldest position still in the ring when `writePos` tickets are out. -/
def Geometry.oldest (geometry : Geometry) (writePos : Nat) : Nat :=
  if geometry.capacity < writePos then writePos - geometry.capacity else 0

namespace Reader

/-- `lap`: move the cursor past what has been overwritten. -/
def lapTo (reader : Reader) (call : ReadCall) (target : Nat) : Reader :=
  let cursor : Cursor :=
    if reader.cursor.next < target then
      { next := target, missed := reader.cursor.missed + (target - reader.cursor.next) }
    else
      { next := reader.cursor.next + 1, missed := reader.cursor.missed + 1 }
  { reader with
    cursor := cursor
    phase := call.resume cursor .kLapped none
    log := reader.log ++ [.lapped reader.cursor.next cursor.next] }

def returnEmpty (reader : Reader) (call : ReadCall) : Reader :=
  { reader with
    phase := call.resume reader.cursor .kEmpty none
    log := reader.log ++ [.empty reader.cursor.next] }

def returnFrame (reader : Reader) (call : ReadCall)
    (words : Fin kFrameWords → UInt64) : Reader :=
  let cursor : Cursor := { reader.cursor with next := reader.cursor.next + 1 }
  let frame := Frame.ofWords words
  { reader with
    cursor := cursor
    phase := call.resume cursor .kOk (some frame)
    log := reader.log ++ [.ok reader.cursor.next frame reader.cursor.missed] }

def loadSeq (reader : Reader) (call : ReadCall) (s1 : Nat) : Reader :=
  if s1 = 0 then reader.returnEmpty call
  else if (s1 - 1) / 2 < reader.cursor.next then reader.returnEmpty call
  else if reader.cursor.next < (s1 - 1) / 2 then { reader with phase := .lap call }
  else if s1 % 2 = 1 then reader.returnEmpty call
  else { reader with phase := .loadWord call s1 0 fun _ => 0 }

def reloadSeq (reader : Reader) (call : ReadCall) (s1 : Nat)
    (words : Fin kFrameWords → UInt64) (s2 : Nat) : Reader :=
  if s2 ≠ s1 then { reader with phase := .lap call }
  else if words 0 ≠ UInt64.ofNat reader.cursor.next then
    { reader with phase := .countInconsistent call }
  else reader.returnFrame call words

end Reader

namespace State

section

variable {geometry : Geometry} {Producer ReaderId : Type} [DecidableEq Producer]
  [DecidableEq ReaderId]

def empty (start : ReaderId → Nat) : State geometry Producer ReaderId where
  core := Core.empty
  inconsistentReads := 0
  waiters := 0
  idleMutex := none
  closed := false
  closing := 0
  readers := fun reader => Reader.fresh (start reader)

def setReader (state : State geometry Producer ReaderId) (id : ReaderId)
    (reader : Reader) : State geometry Producer ReaderId :=
  { state with readers := Function.update state.readers id reader }

def setPhase (state : State geometry Producer ReaderId) (id : ReaderId)
    (phase : ReaderPhase) : State geometry Producer ReaderId :=
  state.setReader id { state.readers id with phase := phase }

def wake (reader : Reader) : Reader :=
  match reader.phase with
  | .blocked known => { reader with phase := .waitRelock known false }
  | _ => reader

/-- `notify_all` wakes the threads that are blocked at this instant. -/
def notifyAll (state : State geometry Producer ReaderId) : State geometry Producer ReaderId :=
  { state with readers := fun id => wake (state.readers id) }

def wakeReaders (state : State geometry Producer ReaderId) (producer : Producer) :
    Option (State geometry Producer ReaderId) :=
  match state.core.producers producer with
  | .loadWaiters =>
      some { state with
        core := state.core.setProducer producer
          (if state.waiters = 0 then .idle else .notifyAll) }
  | .notifyAll =>
      some { state.notifyAll with core := state.core.setProducer producer .idle }
  | _ => none

def call (state : State geometry Producer ReaderId) (id : ReaderId) (request : Request) :
    Option (State geometry Producer ReaderId) :=
  match (state.readers id).phase with
  | .idle | .done _ =>
      match request with
      | .tryRead => some (state.setPhase id (.loadSeq .tryRead))
      | .readBatch size =>
          let missed := (state.readers id).cursor.missed
          some (state.setPhase id
            (if 0 < size then .loadSeq (.readBatch size [] missed)
              else .done (.readBatch [] 0)))
      | .attach => some (state.setPhase id .attach)
      | .waitForData known => some (state.setPhase id (.waitCheck known))
      | .closed => some (state.setPhase id .testClosed)
  | _ => none

def readStep (state : State geometry Producer ReaderId) (id : ReaderId) :
    Option (State geometry Producer ReaderId) :=
  let reader := state.readers id
  let cell := state.core.cells (geometry.slot reader.cursor.next)
  match reader.phase with
  | .loadSeq call => some (state.setReader id (reader.loadSeq call cell.seq))
  | .loadWord call s1 index words =>
      let words := Function.update words index (cell.words index)
      some (state.setPhase id
        (if more : index.val + 1 < kFrameWords then
            .loadWord call s1 ⟨index.val + 1, more⟩ words
          else .reloadSeq call s1 words))
  | .reloadSeq call s1 words =>
      some (state.setReader id (reader.reloadSeq call s1 words cell.seq))
  | .countInconsistent call =>
      some { (state.setPhase id (.lap call)) with
        inconsistentReads := state.inconsistentReads + 1 }
  | .lap call =>
      some (state.setReader id
        (reader.lapTo call (geometry.oldest state.core.writePos)))
  | .attach =>
      let start := geometry.oldest state.core.writePos
      some (state.setReader id { Reader.fresh start with
        phase := .done .attached
        past := reader.history })
  | _ => none

/-- The next step of a reader inside `wait_for_data` or `closed`. A step that
needs the mutex is disabled while another thread holds it. -/
def idleStep (state : State geometry Producer ReaderId) (id : ReaderId) :
    Option (State geometry Producer ReaderId) :=
  match (state.readers id).phase with
  | .testClosed =>
      if state.idleMutex = none then some (state.setPhase id (.done (.closed state.closed)))
      else none
  | .waitCheck known =>
      some (state.setPhase id
        (if known < state.core.writePos then .done (.waited true) else .waitRegister known))
  | .waitRegister known =>
      some { (state.setPhase id (.waitRecheck known)) with waiters := state.waiters + 1 }
  | .waitRecheck known =>
      some (state.setPhase id
        (if known < state.core.writePos then .waitUnregister true else .waitLock known))
  | .waitLock known =>
      if state.idleMutex = none then
        some { (state.setPhase id (.waitPredicate known false)) with idleMutex := some id }
      else none
  | .waitPredicate known timedOut =>
      some (state.setPhase id
        (if known < state.core.writePos ∨ state.closed = true then .waitUnlock true
          else if timedOut then .waitUnlock false
          else .waitBlock known))
  | .waitBlock known =>
      some { (state.setPhase id (.blocked known)) with idleMutex := none }
  | .waitRelock known timedOut =>
      if state.idleMutex = none then
        some { (state.setPhase id (.waitPredicate known timedOut)) with idleMutex := some id }
      else none
  | .waitUnlock woken =>
      some { (state.setPhase id (.waitUnregister woken)) with idleMutex := none }
  | .waitUnregister woken =>
      some { (state.setPhase id (.done (.waited woken))) with waiters := state.waiters - 1 }
  | _ => none

def wakeup (state : State geometry Producer ReaderId) (id : ReaderId) (timedOut : Bool) :
    Option (State geometry Producer ReaderId) :=
  match (state.readers id).phase with
  | .blocked known => some (state.setPhase id (.waitRelock known timedOut))
  | _ => none

def step (state : State geometry Producer ReaderId) :
    Label Producer ReaderId → Option (State geometry Producer ReaderId)
  | .publish producer frame =>
      (state.core.take producer [frame]).map fun core => { state with core := core }
  | .publishBatch producer frames =>
      (state.core.take producer frames).map fun core => { state with core := core }
  | .producer producer spurious =>
      match state.core.advance producer spurious with
      | some core => some { state with core := core }
      | none => state.wakeReaders producer
  | .call id request => state.call id request
  | .reader id =>
      match state.readStep id with
      | some after => some after
      | none => state.idleStep id
  | .wakeup id timedOut => state.wakeup id timedOut
  -- the critical section of `close` is one step: nothing else is in it
  | .close =>
      if state.idleMutex = none then
        some { state with closed := true, closing := state.closing + 1 }
      else none
  | .closeNotify =>
      if 0 < state.closing then some { state.notifyAll with closing := state.closing - 1 }
      else none

inductive Step (state : State geometry Producer ReaderId) :
    Label Producer ReaderId → State geometry Producer ReaderId → Prop
  | publish (producer : Producer) (frame : Frame) (core : Core geometry Producer)
      (taken : state.core.take producer [frame] = some core) :
      Step state (.publish producer frame) { state with core := core }
  | publishBatch (producer : Producer) (frames : List Frame) (core : Core geometry Producer)
      (taken : state.core.take producer frames = some core) :
      Step state (.publishBatch producer frames) { state with core := core }
  | advance (producer : Producer) (spurious : Bool) (core : Core geometry Producer)
      (advanced : state.core.advance producer spurious = some core) :
      Step state (.producer producer spurious) { state with core := core }
  | wakeReaders (producer : Producer) (spurious : Bool)
      (woken : state.wakeReaders producer = some after) :
      Step state (.producer producer spurious) after
  | call (id : ReaderId) (request : Request) (called : state.call id request = some after) :
      Step state (.call id request) after
  | read (id : ReaderId) (moved : state.readStep id = some after) : Step state (.reader id) after
  | idle (id : ReaderId) (moved : state.idleStep id = some after) : Step state (.reader id) after
  | wakeup (id : ReaderId) (timedOut : Bool) (woken : state.wakeup id timedOut = some after) :
      Step state (.wakeup id timedOut) after
  | close (free : state.idleMutex = none) :
      Step state .close { state with closed := true, closing := state.closing + 1 }
  | closeNotify (closing : 0 < state.closing) :
      Step state .closeNotify { state.notifyAll with closing := state.closing - 1 }

theorem step_cases {state after : State geometry Producer ReaderId}
    {label : Label Producer ReaderId} (stepped : state.step label = some after) :
    state.Step label after := by
  cases label with
  | publish producer frame =>
      rcases Option.map_eq_some_iff.mp stepped with ⟨core, taken, rfl⟩
      exact .publish producer frame core taken
  | publishBatch producer frames =>
      rcases Option.map_eq_some_iff.mp stepped with ⟨core, taken, rfl⟩
      exact .publishBatch producer frames core taken
  | producer producer spurious =>
      simp only [State.step] at stepped
      split at stepped
      · rename_i core advanced
        cases stepped
        exact .advance producer spurious core advanced
      · exact .wakeReaders producer spurious stepped
  | call id request => exact .call id request stepped
  | reader id =>
      simp only [State.step] at stepped
      split at stepped
      · rename_i moved
        cases stepped
        exact .read id moved
      · exact .idle id stepped
  | wakeup id timedOut => exact .wakeup id timedOut stepped
  | close =>
      simp only [State.step] at stepped
      split at stepped <;> cases stepped
      exact .close ‹_›
  | closeNotify =>
      simp only [State.step] at stepped
      split at stepped <;> cases stepped
      exact .closeNotify ‹_›

end

theorem wakeReaders_cases [DecidableEq Producer] {state after : State geometry Producer ReaderId}
    {producer : Producer}
    (stepped : state.wakeReaders producer = some after) :
    (state.core.producers producer = .loadWaiters ∧
      after = { state with
        core := state.core.setProducer producer
          (if state.waiters = 0 then .idle else .notifyAll) }) ∨
    (state.core.producers producer = .notifyAll ∧
      after = { state.notifyAll with core := state.core.setProducer producer .idle }) := by
  unfold State.wakeReaders at stepped
  split at stepped
  · rename_i loading
    cases stepped
    exact .inl ⟨loading, rfl⟩
  · rename_i notifying
    cases stepped
    exact .inr ⟨notifying, rfl⟩
  · cases stepped

end State

/-- Runs of a ring of the given geometry. A cursor is a plain structure that its
owner may set, so readers may start anywhere. -/
def system (geometry : Geometry) (Producer ReaderId : Type) [DecidableEq Producer]
    [DecidableEq ReaderId] :
    System (State geometry Producer ReaderId) (Label Producer ReaderId) where
  initial := fun state => ∃ start, state = State.empty start
  step := State.step

end TelemetryGateway.BroadcastRing
