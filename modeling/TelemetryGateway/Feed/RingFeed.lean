import TelemetryGateway.Egress.Run
import TelemetryGateway.Ring.ReadSafety

/-! # Topology B: a cursor into the shared ring

`RingFeed::pop_batch` reads, and when nothing was there it asks whether the ring
is closed, parks, and reads once more. Every call of the ring takes many steps
of its own, with the rest of the system in between. -/

namespace TelemetryGateway

inductive RingFeed.Phase
  | idle
  /-- inside `pop_batch`, in its first `read_batch` -/
  | firstRead (size : Nat)
  | testClosed (size : Nat)
  | wait (size : Nat)
  | secondRead (size : Nat)
  /-- inside `closed` -/
  | closed
  deriving DecidableEq

/-- The feed's cursor is its reader's; the counters are what `stats` reports. -/
structure RingFeed where
  phase : RingFeed.Phase := .idle
  delivered : UInt64 := 0
  missed : UInt64 := 0
  position : UInt64 := 0

namespace RingFeed

open BroadcastRing

def publishStats (feed : RingFeed) (cursor : Cursor) (count : Nat) : RingFeed :=
  { feed with
    delivered := feed.delivered + UInt64.ofNat count
    missed := UInt64.ofNat cursor.missed
    position := UInt64.ofNat cursor.next }

/-- What the feed does once the ring has answered: call it again, or return to
the egress thread. -/
inductive Move
  | call (request : Request) (feed : RingFeed)
  | answer (event : Egress.Event) (feed : RingFeed)

def resume (feed : RingFeed) (cursor : Cursor) (outcome : Outcome) : Option Move :=
  match feed.phase, outcome with
  | .firstRead size, .readBatch out _ =>
      if out = [] then some (.call .closed { feed with phase := .testClosed size })
      else some (.answer (.pop out) { feed.publishStats cursor out.length with phase := .idle })
  | .testClosed size, .closed answer =>
      if answer then some (.answer (.pop []) { feed with phase := .idle })
      else some (.call (.waitForData cursor.next) { feed with phase := .wait size })
  | .wait size, .waited _ =>
      some (.call (.readBatch size) { feed with phase := .secondRead size })
  | .secondRead _, .readBatch out _ =>
      some (.answer (.pop out) { feed.publishStats cursor out.length with phase := .idle })
  | .closed, .closed answer => some (.answer (.closed answer) { feed with phase := .idle })
  | _, _ => none

def Phase.reading : Phase → Bool
  | .firstRead _ => true
  | .secondRead _ => true
  | _ => false

@[reducible] def Phase.Makes (phase : Phase) : Request → Prop
  | .readBatch _ => phase.reading = true
  | .closed => phase.reading = false
  | .waitForData _ => phase.reading = false
  | _ => False

theorem resume_cases {feed : RingFeed} {cursor : Cursor} {outcome : Outcome} {move : Move}
    (resumed : feed.resume cursor outcome = some move) :
    (∃ out missed next, feed.phase.reading = true ∧ outcome = .readBatch out missed ∧
      next.phase.reading = false ∧ move = .answer (.pop out) next) ∨
    (∃ event next, feed.phase.reading = false ∧ event.frames = [] ∧
      next.phase.reading = false ∧ move = .answer event next) ∨
    (∃ missed next, feed.phase.reading = true ∧ outcome = .readBatch [] missed ∧
      next.phase.reading = false ∧ move = .call .closed next) ∨
    (∃ known next, feed.phase.reading = false ∧ next.phase.reading = false ∧
      move = .call (.waitForData known) next) ∨
    (∃ size next, feed.phase.reading = false ∧ next.phase.reading = true ∧
      move = .call (.readBatch size) next) := by
  unfold resume at resumed
  split at resumed
  · rename_i reading
    rw [reading]
    split at resumed <;> cases resumed
    · rename_i empty
      subst empty
      exact Or.inr (Or.inr (Or.inl ⟨_, _, rfl, rfl, rfl, rfl⟩))
    · exact Or.inl ⟨_, _, _, rfl, rfl, rfl, rfl⟩
  · rename_i asking
    rw [asking]
    split at resumed <;> cases resumed
    · exact Or.inr (Or.inl ⟨_, _, rfl, rfl, rfl, rfl⟩)
    · exact Or.inr (Or.inr (Or.inr (Or.inl ⟨_, _, rfl, rfl, rfl⟩)))
  · rename_i waiting
    rw [waiting]
    cases resumed
    exact Or.inr (Or.inr (Or.inr (Or.inr ⟨_, _, rfl, rfl, rfl⟩)))
  · rename_i reading
    rw [reading]
    cases resumed
    exact Or.inl ⟨_, _, _, rfl, rfl, rfl, rfl⟩
  · rename_i asking
    rw [asking]
    cases resumed
    exact Or.inr (Or.inl ⟨_, _, rfl, rfl, rfl, rfl⟩)
  · cases resumed

end RingFeed

/-! ## What a reader has taken -/

namespace BroadcastRing

/-- The position, the frame and the cursor's `missed` of a successful read. -/
def ReadEvent.ok? : ReadEvent → Option (Nat × Frame × Nat)
  | .ok pos frame missed => some (pos, frame, missed)
  | _ => none

/-- The successful reads of a cursor, the oldest first. -/
def Reader.taken (reader : Reader) : List (Nat × Frame × Nat) :=
  reader.log.filterMap ReadEvent.ok?

def Reader.takenFrames (reader : Reader) : List Frame :=
  reader.taken.map fun read => read.2.1

/-- `missed` of the cursor when the last frame was taken. -/
def Reader.missedAtLast (reader : Reader) : Option Nat :=
  reader.taken.getLast?.map fun read => read.2.2

theorem Reader.mem_log_of_taken {reader : Reader} {pos missed : Nat} {frame : Frame}
    (member : (pos, frame, missed) ∈ reader.taken) : .ok pos frame missed ∈ reader.log := by
  rcases List.mem_filterMap.mp member with ⟨event, found, equal⟩
  cases event with
  | ok otherPos otherFrame otherMissed =>
      cases equal
      exact found
  | empty pos => cases equal
  | lapped first target => cases equal

/-- Since the last frame was taken the cursor has moved only past what it
counted as missed. -/
theorem replay_last {start : Nat} {log : List ReadEvent} {cursor : Cursor}
    (replayed : replay start log = some cursor) {pos missed : Nat} {frame : Frame}
    (last : (log.filterMap ReadEvent.ok?).getLast? = some (pos, frame, missed)) :
    cursor.next + missed = pos + 1 + cursor.missed := by
  induction log using List.reverseRecOn generalizing cursor with
  | nil => cases last
  | append_singleton log event induction =>
      rcases replay_concat.mp replayed with ⟨before, earlier, applied⟩
      rw [List.filterMap_append] at last
      cases event with
      | ok otherPos otherFrame otherMissed =>
          rcases ReadEvent.apply_ok.mp applied with ⟨⟨rfl, rfl⟩, rfl⟩
          change (_ ++ [(before.next, otherFrame, before.missed)]).getLast? = _ at last
          rw [List.getLast?_concat] at last
          cases last
          rfl
      | empty otherPos =>
          rcases ReadEvent.apply_empty.mp applied with ⟨_, rfl⟩
          change (_ ++ []).getLast? = _ at last
          rw [List.append_nil] at last
          exact induction earlier last
      | lapped first target =>
          rcases ReadEvent.apply_lapped.mp applied with ⟨⟨rfl, ahead⟩, rfl⟩
          change (_ ++ []).getLast? = _ at last
          rw [List.append_nil] at last
          have position := induction earlier last
          dsimp only
          omega

/-! ## Inside `read_batch` -/

def ReadCall.out? : ReadCall → Option (List Frame)
  | .tryRead => none
  | .readBatch _ out _ => some out

/-- The frames `read_batch` has produced, while it runs and once it is done. -/
def ReaderPhase.out? : ReaderPhase → Option (List Frame)
  | .loadSeq call => call.out?
  | .loadWord call _ _ _ => call.out?
  | .reloadSeq call _ _ => call.out?
  | .countInconsistent call => call.out?
  | .lap call => call.out?
  | .done (.readBatch out _) => some out
  | _ => none

/-- `read_batch` is about to load the sequence word again: the frames it has
produced and the word it found first. -/
def ReaderPhase.reloading : ReaderPhase → Option (List Frame × Nat)
  | .reloadSeq (.readBatch _ out _) s1 _ => some (out, s1)
  | _ => none

theorem ReadCall.out_resume {call : ReadCall} {out : List Frame} (running : call.out? = some out)
    (cursor : Cursor) (event : ReadEvent) :
    (call.resume cursor event.status event.frame?).out? = some (out ++ event.frame?.toList) := by
  cases call with
  | tryRead => cases running
  | readBatch size before missedBefore =>
      cases running
      cases event with
      | ok pos frame missed =>
          simp only [ReadCall.resume, ReadEvent.status]
          split <;> rfl
      | empty pos => exact congrArg some (List.append_nil _).symm
      | lapped first target => exact congrArg some (List.append_nil _).symm

theorem ReaderPhase.out_of_parked {phase : ReaderPhase} (parked : phase.parked = true) :
    phase.out? = none := by
  cases phase <;> first | rfl | cases parked

theorem State.readStep_settled [DecidableEq ReaderId] {state : State geometry Producer ReaderId}
    {id : ReaderId} (settled : (state.readers id).phase.settled = true) :
    state.readStep id = none := by
  cases read : state.readStep id with
  | none => rfl
  | some after =>
      rcases readStep_cases read with ⟨_, inside, _⟩ | ⟨_, _, _, _, inside, _⟩ |
        ⟨_, _, _, inside, _⟩ | ⟨_, inside, _⟩ | ⟨_, inside, _⟩ | ⟨inside, _⟩
      all_goals
        rw [inside] at settled
        cases settled

/-- A call of `read_batch` begins with nothing in hand, and the calls of the
idle path take nothing. -/
theorem State.call_out [DecidableEq ReaderId] {state after : State geometry Producer ReaderId}
    {id : ReaderId} {request : Request} (called : state.call id request = some after) :
    ∃ phase, after.readers id = { state.readers id with phase := phase } ∧
      match request with
      | .readBatch _ => phase.out? = some []
      | .closed => phase.settled = true
      | .waitForData _ => phase.settled = true
      | _ => True := by
  rcases call_cases called with ⟨_, rfl⟩
  refine ⟨_, setReader_self .., ?_⟩
  cases request with
  | tryRead => trivial
  | readBatch size =>
      simp only [Request.entry]
      split <;> rfl
  | attach => trivial
  | waitForData known => rfl
  | closed => rfl

theorem Reader.taken_record (reader : Reader) {event : ReadEvent} (none : event.ok? = none)
    (cursor : Cursor) (phase : ReaderPhase) :
    ({ reader with cursor := cursor, phase := phase, log := reader.log ++ [event] } :
      Reader).taken = reader.taken := by
  change (reader.log ++ [event]).filterMap ReadEvent.ok? = reader.log.filterMap ReadEvent.ok?
  rw [List.filterMap_append, List.filterMap_cons_none none, List.filterMap_nil, List.append_nil]

theorem Reader.loadSeq_out {reader : Reader} {call : ReadCall} {out : List Frame}
    (running : call.out? = some out) (s1 : Nat) :
    (reader.loadSeq call s1).taken = reader.taken ∧
      (reader.loadSeq call s1).phase.out? = some out := by
  have empty : (reader.returnEmpty call).taken = reader.taken ∧
      (reader.returnEmpty call).phase.out? = some out := by
    refine ⟨reader.taken_record rfl _ _, ?_⟩
    exact (ReadCall.out_resume running _ (.empty 0)).trans (congrArg some (List.append_nil _))
  unfold Reader.loadSeq
  split
  · exact empty
  · split
    · exact empty
    · split
      · exact ⟨rfl, running⟩
      · split
        · exact empty
        · exact ⟨rfl, running⟩

/-- One step inside `read_batch` either takes no frame, or it is the second
load of the sequence word, which found it unchanged. -/
theorem State.readStep_out [DecidableEq ReaderId] {state after : State geometry Producer ReaderId}
    {id : ReaderId} {out : List Frame} (read : state.readStep id = some after)
    (running : (state.readers id).phase.out? = some out) :
    ((after.readers id).taken = (state.readers id).taken ∧
      (after.readers id).phase.out? = some out) ∨
    (∃ frame, (state.readers id).phase.reloading =
        some (out, state.core.seqAt (state.readers id).cursor.next) ∧
      (after.readers id).taken = (state.readers id).taken ++
        [((state.readers id).cursor.next, frame, (state.readers id).cursor.missed)] ∧
      (after.readers id).phase.out? = some (out ++ [frame])) := by
  rcases readStep_cases read with ⟨call, loading, rfl⟩ | ⟨call, s1, index, words, loading, rfl⟩ |
    ⟨call, s1, words, reloading, rfl⟩ | ⟨call, counting, rfl⟩ | ⟨call, lapping, rfl⟩ |
    ⟨attaching, rfl⟩
  · rw [loading] at running
    rw [setReader_self]
    exact Or.inl (Reader.loadSeq_out running _)
  · rw [loading] at running
    rw [setPhase, setReader_self]
    refine Or.inl ⟨rfl, ?_⟩
    dsimp only
    split <;> exact running
  · rw [reloading] at running
    rw [setReader_self]
    unfold Reader.reloadSeq
    split
    · exact Or.inl ⟨rfl, running⟩
    · rename_i unmoved
      split
      · exact Or.inl ⟨rfl, running⟩
      · cases call with
        | tryRead => cases running
        | readBatch size before missedBefore =>
            cases running
            refine Or.inr ⟨Frame.ofWords words, ?_, ?_, ?_⟩
            · rw [reloading, Decidable.not_not.mp unmoved]
              rfl
            · exact List.filterMap_append
            · have whole : (ReadCall.readBatch size out missedBefore).out? = some out := rfl
              exact ReadCall.out_resume whole _ (.ok 0 (Frame.ofWords words) 0)
  · rw [counting] at running
    refine Or.inl ?_
    change ((state.setReader id _).readers id).taken = _ ∧
      ((state.setReader id _).readers id).phase.out? = _
    rw [setReader_self]
    exact ⟨rfl, running⟩
  · rw [lapping] at running
    rw [setReader_self]
    refine Or.inl ⟨(state.readers id).taken_record rfl _ _, ?_⟩
    have returned := ReadCall.out_resume running
      ((state.readers id).lapTo call (geometry.oldest state.core.writePos)).cursor (.lapped 0 0)
    exact returned.trans (congrArg some (List.append_nil _))
  · rw [attaching] at running
    cases running

/-! ## Only bus frames are published -/

def Label.frames : Label Producer ReaderId → List Frame
  | .publish _ frame => [frame]
  | .publishBatch _ frames => frames
  | _ => []

def Label.calls [DecidableEq ReaderId] (reader : ReaderId) : Label Producer ReaderId → Bool
  | .call id _ => id = reader
  | _ => false

def Label.Bus (label : Label Producer ReaderId) : Prop :=
  ∀ frame ∈ label.frames, Wire.isControl frame = false

instance (label : Label Producer ReaderId) : Decidable label.Bus :=
  inferInstanceAs (Decidable (∀ frame ∈ label.frames, Wire.isControl frame = false))

def Label.issues : Label Producer ReaderId → List (Producer × Frame)
  | .publish owner frame => [(owner, frame)]
  | .publishBatch owner frames => frames.map fun frame => (owner, frame)
  | _ => []

theorem Label.frame_of_issues {label : Label Producer ReaderId} {entry : Producer × Frame}
    (member : entry ∈ label.issues) : entry.2 ∈ label.frames := by
  cases label with
  | publish producer frame =>
      rw [List.mem_singleton.mp member]
      exact List.mem_singleton.mpr rfl
  | publishBatch producer frames =>
      rcases List.mem_map.mp member with ⟨frame, found, rfl⟩
      exact found
  | _ => cases member

theorem issued_take [DecidableEq Producer] {core after : Core geometry Producer}
    {producer : Producer} {frames : List Frame} (taken : core.take producer frames = some after) :
    after.issued = core.issued ++ frames.map fun frame => (producer, frame) := by
  unfold Core.take at taken
  split at taken
  · cases taken
    exact (List.append_nil _).symm
  · split at taken <;> cases taken
    rfl
  · cases taken

theorem issued_advance [DecidableEq Producer] {core after : Core geometry Producer}
    {producer : Producer} {spurious : Bool}
    (advanced : core.advance producer spurious = some after) : after.issued = core.issued := by
  unfold Core.advance at advanced
  split at advanced
  · split at advanced <;> cases advanced <;> rfl
  all_goals
    cases advanced
    try rfl

theorem State.issued_step [DecidableEq Producer] [DecidableEq ReaderId]
    {state after : State geometry Producer ReaderId} {label : Label Producer ReaderId}
    (stepped : state.step label = some after) :
    after.core.issued = state.core.issued ++ label.issues := by
  by_cases reading : label.producer? = none
  · have nothing : label.issues = [] := by
      cases label <;> first | rfl | cases reading
    rw [step_core stepped reading, nothing, List.append_nil]
  · cases step_cases stepped with
    | publish producer frame core taken => exact issued_take taken
    | publishBatch producer frames core taken => exact issued_take taken
    | advance producer spurious core advanced =>
        exact (issued_advance advanced).trans (List.append_nil _).symm
    | wakeReaders producer spurious woken =>
        rcases wakeReaders_cases woken with ⟨_, rfl⟩ | ⟨_, rfl⟩
        all_goals exact (List.append_nil _).symm
    | _ => exact absurd rfl reading

def State.CarriesBus (state : State geometry Producer ReaderId) : Prop :=
  ∀ entry ∈ state.core.issued, Wire.isControl entry.2 = false

theorem State.CarriesBus.step [DecidableEq Producer] [DecidableEq ReaderId]
    {state after : State geometry Producer ReaderId} (carries : state.CarriesBus)
    {label : Label Producer ReaderId} (bus : label.Bus) (stepped : state.step label = some after) :
    after.CarriesBus := by
  intro entry member
  rw [issued_step stepped] at member
  rcases List.mem_append.mp member with old | new
  · exact carries entry old
  · exact bus entry.2 (Label.frame_of_issues new)

theorem State.carriesBus_of_reachable [DecidableEq Producer] [DecidableEq ReaderId]
    {state : State geometry Producer ReaderId}
    (reached : (system geometry Producer ReaderId).ReachableUnder (fun _ label => label.Bus)
      state) : state.CarriesBus := by
  refine reached.invariant State.CarriesBus ?_ ?_
  · intro state initial
    rcases initial with ⟨start, rfl⟩
    exact fun _ member => nomatch member
  · intro state label after _ bus carries stepped
    exact carries.step bus stepped

/-! ## What a reader takes -/

theorem State.Sound.taken_position {state : State geometry Producer ReaderId}
    (sound : state.Sound) {id : ReaderId} {pos missed : Nat} {frame : Frame}
    (member : (pos, frame, missed) ∈ (state.readers id).taken) :
    frame.seq.toNat = pos ∧ pos < Core.kTicketLimit ∧
      ∃ entry ∈ state.core.issued, Wire.isControl entry.2 = Wire.isControl frame := by
  rcases (sound.readers id).frames pos frame missed
    (List.mem_append_right _ (Reader.mem_log_of_taken member)) with
    ⟨producer, original, issued, rfl⟩
  have inside := (List.getElem?_eq_some_iff.mp issued).1
  rw [sound.core.tickets.counted] at inside
  have small : pos < Core.kTicketLimit := Nat.lt_trans inside sound.limit
  exact ⟨UInt64.toNat_ofNat_of_lt' (Nat.lt_trans small (by decide)), small,
    (producer, original), List.mem_of_getElem? issued, rfl⟩

theorem State.Sound.positions_increase {state : State geometry Producer ReaderId}
    (sound : state.Sound) (id : ReaderId) :
    ((state.readers id).taken.map Prod.fst).Pairwise (· < ·) := by
  have positions : (state.readers id).taken.map Prod.fst =
      (state.readers id).log.filterMap ReadEvent.position? := by
    rw [Reader.taken, List.map_filterMap]
    refine List.filterMap_congr ?_
    intro event _
    cases event <;> rfl
  rw [positions]
  exact (replay_increasing (sound.readers id).replayed).1

theorem State.Sound.taken_ordinary {state : State geometry Producer ReaderId}
    (sound : state.Sound) (carries : state.CarriesBus) {id : ReaderId} {frame : Frame}
    (member : frame ∈ (state.readers id).takenFrames) : Wire.Ordinary frame := by
  rcases List.mem_map.mp member with ⟨⟨pos, frame, missed⟩, found, rfl⟩
  rcases sound.taken_position found with ⟨seq, small, entry, issued, same⟩
  refine ⟨same ▸ carries entry issued, ?_⟩
  rw [seq]
  have limit : Core.kTicketLimit = 2 ^ 63 := rfl
  omega

theorem Reader.takenFrames_eq (reader : Reader) :
    reader.takenFrames = reader.log.filterMap ReadEvent.frame? := by
  rw [takenFrames, taken, List.map_filterMap]
  refine List.filterMap_congr ?_
  intro event _
  cases event <;> rfl

theorem State.Sound.taken_increasing {state : State geometry Producer ReaderId}
    (sound : state.Sound) (id : ReaderId) : Wire.Increasing (state.readers id).takenFrames := by
  rw [Reader.takenFrames_eq]
  exact ((sound.readers id).sequences_increase sound.core sound.limit).imp
    UInt64.lt_iff_toNat_lt.mp

end BroadcastRing

end TelemetryGateway
