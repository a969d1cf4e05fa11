import Mathlib.Data.List.Rotate
import TelemetryGateway.View.PageHistory

/-! # The seconds of the page

The loop closes a second with the first round that ends after it, and starts the
next one there. Of the seconds closed the ring has the last sixty, and before
there are so many it has zeros. -/

namespace TelemetryGateway

/-! ## Rings that overwrite their oldest cell -/

/-- The cell at the cursor is the oldest; after it is overwritten it is the
newest. -/
theorem rotate_set {T : Type u} {ring : List T} {cursor : Nat} (inside : cursor < ring.length)
    (value : T) :
    (ring.set cursor value).rotate (cursor + 1) = (ring.rotate cursor).tail ++ [value] := by
  have oldest : ring.rotate cursor =
      ring[cursor] :: (ring.drop (cursor + 1) ++ ring.take cursor) := by
    rw [List.rotate_eq_drop_append_take (Nat.le_of_lt inside), List.drop_eq_getElem_cons inside,
      List.cons_append]
  have room : cursor + 1 ≤ (ring.set cursor value).length := by
    rw [List.length_set]
    exact inside
  have written : (ring.set cursor value)[cursor]? = some value := by
    rw [List.getElem?_set_self inside]
  rw [oldest, List.tail_cons, List.rotate_eq_drop_append_take room, List.take_add_one, written,
    List.drop_set_of_lt (Nat.lt_succ_self cursor), List.take_set_of_le (Nat.le_refl cursor),
    List.append_assoc]
  rfl

theorem tail_rtake_concat {T : Type u} {items : List T} {size : Nat}
    (many : (items.rtake size).length = size) (some : 0 < size) (item : T) :
    (items.rtake size).tail ++ [item] = (items ++ [item]).rtake size := by
  rw [← rtake_rtake_append]
  generalize items.rtake size = kept at many ⊢
  have one : (kept ++ [item]).length - size = 1 := by
    rw [List.length_append, List.length_singleton]
    omega
  rw [List.rtake, one, ← List.tail_append_of_ne_nil]
  · exact List.drop_one.symm
  · intro none
    rw [none, List.length_nil] at many
    omega

namespace View

/-! ## What the ring is to show -/

/-- What the frames of each second that is closed were, and those since. -/
structure Seconds where
  closed : List (List Sighting) := []
  current : List Sighting := []
  nextTick : UInt64

def Seconds.note (seconds : Seconds) : Loop.Event → Seconds
  | .round status batch now =>
      let current := seconds.current ++ sightings status batch.frames now
      if status = .kClosed then seconds
      else if seconds.nextTick ≤ now then
        { closed := seconds.closed ++ [current], current := [], nextTick := now + Loop.second }
      else { seconds with current := current }
  | _ => seconds

def Seconds.ofEvents (nextTick : UInt64) (events : List Loop.Event) : Seconds :=
  events.foldl note { nextTick := nextTick }

def State.rateOldestFirst (state : State) : List UInt64 :=
  (List.range kRateWindow).map state.rateAt

def Seconds.counts (seconds : Seconds) : List UInt64 :=
  (List.replicate kRateWindow (0 : UInt64) ++
    seconds.closed.map fun (frames : List Sighting) => UInt64.ofNat frames.length).rtake
      kRateWindow

/-- The seconds are those of the frames received, the ring has the last of them,
and what is counted at the cursor since is the current second. -/
structure Loop.Counts (loop : Loop) (seconds : Seconds) (history : List Sighting) : Prop where
  all : seconds.closed.flatten ++ seconds.current = history
  nextTick : loop.nextTick = seconds.nextTick
  rate : loop.state.rateOldestFirst = seconds.counts
  current : loop.state.frames - loop.state.framesAtTick = UInt64.ofNat seconds.current.length

/-! ## One more second -/

theorem State.rateOldestFirst_eq (state : State) :
    state.rateOldestFirst = state.rate.toList.rotate state.ratePos.val := by
  apply List.ext_getElem
  · rw [State.rateOldestFirst, List.length_map, List.length_range, List.length_rotate,
      Vector.length_toList]
  · intro i _ _
    simp only [State.rateOldestFirst, State.rateAt, List.getElem_map, List.getElem_range,
      List.getElem_rotate, Vector.getElem_toList, Vector.length_toList, Nat.add_comm i]
    rfl

theorem State.rateOldestFirst_tick (state : State) :
    state.tick.rateOldestFirst =
      state.rateOldestFirst.tail ++ [state.frames - state.framesAtTick] := by
  have inside : state.ratePos.val < state.rate.toList.length := by
    rw [Vector.length_toList]
    exact state.ratePos.isLt
  have wraps (ring : List UInt64) (length : ring.length = kRateWindow) (cursor : Nat) :
      ring.rotate (cursor % kRateWindow) = ring.rotate cursor := by
    rw [← length, List.rotate_mod]
  rw [State.rateOldestFirst_eq, State.rateOldestFirst_eq, ← rotate_set inside, State.tick,
    Vector.toList_set]
  apply wraps
  rw [List.length_set, Vector.length_toList]

theorem Seconds.length_counts (seconds : Seconds) : seconds.counts.length = kRateWindow := by
  rw [Seconds.counts, length_rtake, List.length_append, List.length_replicate]
  exact Nat.min_eq_right (Nat.le_add_right _ _)

theorem Seconds.counts_concat (seconds : Seconds) (current rest : List Sighting)
    (nextTick : UInt64) :
    Seconds.counts
        { closed := seconds.closed ++ [current], current := rest, nextTick := nextTick } =
      seconds.counts.tail ++ [UInt64.ofNat current.length] := by
  rw [Seconds.counts, List.map_append, ← List.append_assoc]
  exact (tail_rtake_concat seconds.length_counts (by decide) _).symm

section

variable {loop : Loop} {seconds : Seconds} {history : List Sighting}

theorem Loop.Counts.more (counts : loop.Counts seconds history) (shows : loop.state.Shows history)
    {state : State} {frames : List Sighting} (later : state.Shows (history ++ frames))
    (same : state.framesAtTick = loop.state.framesAtTick) :
    state.frames - state.framesAtTick =
      UInt64.ofNat (seconds.current ++ frames).length := by
  have more : state.frames = loop.state.frames + UInt64.ofNat frames.length := by
    rw [later.frames, shows.frames, List.length_append, UInt64.ofNat_add]
  rw [same, more, List.length_append, UInt64.ofNat_add, ← counts.current,
    UInt64.sub_eq_add_neg, UInt64.sub_eq_add_neg, UInt64.add_assoc, UInt64.add_assoc,
    UInt64.add_comm (UInt64.ofNat frames.length)]

structure SameTick (before after : State) : Prop where
  framesAtTick : after.framesAtTick = before.framesAtTick
  rate : after.rate = before.rate
  ratePos : after.ratePos = before.ratePos

theorem SameTick.refl (state : State) : SameTick state state :=
  ⟨rfl, rfl, rfl⟩

theorem SameTick.trans {before middle after : State} (first : SameTick before middle)
    (second : SameTick middle after) : SameTick before after :=
  ⟨second.framesAtTick.trans first.framesAtTick, second.rate.trans first.rate,
    second.ratePos.trans first.ratePos⟩

theorem State.sameTick_record {state after : State} {now : UInt64} {frame : Frame}
    (recorded : state.record now frame = some after) : SameTick state after := by
  unfold State.record at recorded
  split at recorded
  · cases recorded
    exact .refl state
  · dsimp only at recorded
    split at recorded
    · rcases Option.map_eq_some_iff.mp recorded with ⟨delay, _, rfl⟩
      exact ⟨rfl, rfl, rfl⟩
    · cases recorded
      exact ⟨rfl, rfl, rfl⟩

theorem State.sameTick_records {state after : State} {now : UInt64} {batch : List Frame}
    (recorded : batch.foldlM (State.record now) state = some after) : SameTick state after := by
  refine foldlM_keeps (fun _ later => SameTick state later) ?_ (.refl state) recorded
  intro _ middle frame later same recorded
  exact same.trans (State.sameTick_record recorded)

theorem State.sameTick_receive {state after : State} {status : FrameStream.Status}
    {batch : List Frame} {now : UInt64} (received : state.receive status batch now = some after) :
    SameTick state after := by
  unfold State.receive at received
  split at received
  · cases received
    exact ⟨rfl, rfl, rfl⟩
  · split at received
    · cases received
      exact .refl state
    · have same := State.sameTick_records received
      exact ⟨same.framesAtTick, same.rate, same.ratePos⟩
  · cases received
    exact .refl state

theorem Loop.Counts.round {after : Loop} (counts : loop.Counts seconds history)
    (shows : loop.state.Shows history) {status : FrameStream.Status} {batch : FrameStream.Batch}
    {now : UInt64} (turned : loop.round status batch now = some after) :
    after.Counts (seconds.note (.round status batch now))
      (history ++ sightings status batch.frames now) := by
  have all : seconds.closed.flatten ++ (seconds.current ++ sightings status batch.frames now) =
      history ++ sightings status batch.frames now := by
    rw [← List.append_assoc, counts.all]
  unfold Loop.round at turned
  unfold Seconds.note
  dsimp only
  split at turned
  · rename_i closed
    cases turned
    rw [if_pos closed, closed, sightings_other (by decide), List.append_nil]
    exact ⟨counts.all, counts.nextTick, counts.rate, counts.current⟩
  · rename_i open_
    rcases Option.map_eq_some_iff.mp turned with ⟨state, received, rfl⟩
    have same := State.sameTick_receive received
    have current := counts.more shows (shows.receive received) same.framesAtTick
    have shown : state.rateOldestFirst = seconds.counts := by
      rw [← counts.rate, State.rateOldestFirst_eq, State.rateOldestFirst_eq, same.rate,
        same.ratePos]
    rw [if_neg open_, counts.nextTick]
    split
    · constructor
      · rw [List.flatten_append, List.flatten_singleton, List.append_nil]
        exact all
      · rfl
      · rw [State.rateOldestFirst_tick, shown, current, Seconds.counts_concat]
      · exact UInt64.sub_self _
    · exact ⟨all, rfl, shown, current⟩

theorem Loop.Counts.perform {after : Loop} (counts : loop.Counts seconds history)
    (shows : loop.state.Shows history) {event : Loop.Event}
    (performed : loop.perform event = some after) :
    after.Counts (seconds.note event) (history ++ seen [event]) := by
  cases event with
  | connect =>
      cases performed
      have nothing : history ++ seen [.connect] = history := List.append_nil _
      rw [nothing]
      exact ⟨counts.all, counts.nextTick, counts.rate, counts.current⟩
  | round status batch now =>
      have only : seen [.round status batch now] = sightings status batch.frames now :=
        List.append_nil _
      rw [only]
      exact counts.round shows performed
  | leave =>
      cases performed
      have nothing : history ++ seen [.leave] = history := List.append_nil _
      rw [nothing]
      exact ⟨counts.all, counts.nextTick, counts.rate, counts.current⟩

theorem Loop.counts_run {startedNs nextTick : UInt64} {after : Loop} {events : List Loop.Event}
    (counts : loop.Counts seconds history) (shows : loop.state.Shows history)
    (final : (Loop.system startedNs nextTick).run loop events = some after) :
    after.Counts (events.foldl Seconds.note seconds) (history ++ seen events) := by
  induction events generalizing loop seconds history with
  | nil =>
      cases final
      exact (List.append_nil history).symm ▸ counts
  | cons event events induction =>
      rcases Option.bind_eq_some_iff.mp final with ⟨middle, stepped, remaining⟩
      rcases Loop.step_eq_some.mp stepped with ⟨_, performed⟩
      rw [seen_cons, ← List.append_assoc, List.foldl_cons]
      exact induction (counts.perform shows performed) (Loop.shows_perform shows performed)
        remaining

end

/-- The chart has the frames of the last sixty seconds that are closed, the
oldest first, and no frame received is missing from the seconds or in two of
them. -/
theorem Loop.rate_of_history {startedNs nextTick : UInt64} {events : List Loop.Event} {loop : Loop}
    (final : (Loop.system startedNs nextTick).run (Loop.start startedNs nextTick) events =
      some loop) :
    loop.Counts (Seconds.ofEvents nextTick events) (seen events) := by
  have zeros : State.rateOldestFirst {} = Seconds.counts { nextTick := 0 } := by decide
  have fresh : (Loop.start startedNs nextTick).Counts { nextTick := nextTick } [] :=
    ⟨rfl, rfl, zeros, UInt64.sub_self 0⟩
  exact Loop.counts_run fresh (State.shows_start startedNs nextTick) final

/-- The connection breaks in a round that closes a second. -/
theorem Loop.rate_of_history_brokenConnection :
    ∃ loop, (Loop.system 0 1000).run (Loop.start 0 1000) brokenConnection = some loop ∧
      loop.Counts (Seconds.ofEvents 1000 brokenConnection) (seen brokenConnection) := by
  rcases brokenConnection_runs with ⟨loop, final⟩
  exact ⟨loop, final, Loop.rate_of_history final⟩

end View

end TelemetryGateway
