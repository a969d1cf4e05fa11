import Mathlib.Logic.Function.Basic
import Mathlib.Data.Nat.Bitwise
import Mathlib.Data.Nat.ModEq
import TelemetryGateway.Frame

/-! # The cells of the broadcast ring and the producers that write them

Every atomic load, store, `fetch_add` and compare-exchange of the source is one
step of the model, and threads interleave between them (sequential
consistency). A producer is its program counter together with the local values
that are live there. Positions are natural numbers: runs are limited to fewer
than `2 ^ 63` tickets, below which `2 * pos + 2` does not wrap.

`spins` and `sched_yield` only pace the retry loop and are left out. -/

namespace TelemetryGateway.BroadcastRing

/-! ## Geometry -/

/-- The capacity of a constructed ring: rounded up to a power of two, so that
an index is a mask and not a division. -/
structure Geometry where
  capacity : Nat
  isPowerOfTwo : ∃ exponent, capacity = 2 ^ exponent
  atLeastTwo : 2 ≤ capacity

namespace Geometry

/-- What `BroadcastRing(0)` and `BroadcastRing(2)` construct. -/
def smallest : Geometry := ⟨2, ⟨1, rfl⟩, Nat.le_refl 2⟩

def mask (geometry : Geometry) : Nat := geometry.capacity - 1

theorem and_mask (geometry : Geometry) (pos : Nat) :
    pos &&& geometry.mask = pos % geometry.capacity := by
  rcases geometry.isPowerOfTwo with ⟨exponent, power⟩
  rw [mask, power]
  exact Nat.and_two_pow_sub_one_eq_mod pos exponent

def slot (geometry : Geometry) (pos : Nat) : Fin geometry.capacity :=
  ⟨pos &&& geometry.mask, by
    rw [and_mask]
    exact Nat.mod_lt _ (Nat.lt_of_lt_of_le (by decide) geometry.atLeastTwo)⟩

theorem slot_eq_iff (geometry : Geometry) (left right : Nat) :
    geometry.slot left = geometry.slot right ↔
      left % geometry.capacity = right % geometry.capacity := by
  rw [Fin.ext_iff]
  simp only [slot, and_mask]

theorem capacity_le_of_slot_eq (geometry : Geometry) {left right : Nat}
    (same : geometry.slot left = geometry.slot right) (earlier : left < right) :
    left + geometry.capacity ≤ right := by
  have congruent := (geometry.slot_eq_iff left right).mp same
  have divides : geometry.capacity ∣ right - left :=
    (Nat.modEq_iff_dvd' (Nat.le_of_lt earlier)).mp congruent
  have lap := Nat.le_of_dvd (by omega) divides
  omega

theorem slot_sub_capacity (geometry : Geometry) {pos : Nat}
    (lapped : geometry.capacity ≤ pos) :
    geometry.slot (pos - geometry.capacity) = geometry.slot pos := by
  rw [slot_eq_iff]
  exact (Nat.mod_eq_sub_mod lapped).symm

def expected (geometry : Geometry) (pos : Nat) : Nat :=
  if pos < geometry.capacity then 0 else 2 * (pos - geometry.capacity) + 2

end Geometry

/-! ## Cells -/

/-- `seq` is `0` for a cell never written, `2 * pos + 1` while position `pos`
is being written and `2 * pos + 2` once it is complete. -/
structure Cell where
  seq : Nat
  words : Fin kFrameWords → UInt64

/-! ## Producers -/

/-- One turn of the loop of `publish_batch`: the frame at ticket `pos` and the
frames that follow it at the next tickets. -/
structure Ticket where
  pos : Nat
  frame : Frame
  rest : List Frame

def Ticket.stored (ticket : Ticket) : Frame :=
  { ticket.frame with seq := UInt64.ofNat ticket.pos }

def Ticket.words (ticket : Ticket) : Fin kFrameWords → UInt64 :=
  Function.update ticket.frame.toWords 0 (UInt64.ofNat ticket.pos)

theorem Ticket.words_eq_stored (ticket : Ticket) :
    ticket.words = ticket.stored.toWords := by
  funext index
  match index with
  | 0 => rfl
  | 1 => rfl
  | 2 => rfl
  | 3 => rfl
  | 4 => rfl

/-- Where a producer stands in `publish` or `publish_batch`. -/
inductive ProducerPhase
  | idle
  /-- about to run `compare_exchange_weak` -/
  | claim (ticket : Ticket)
  /-- the exchange failed, about to count the retry -/
  | retry (ticket : Ticket)
  | store (ticket : Ticket) (index : Fin kFrameWords)
  /-- about to store the even sequence word -/
  | publish (ticket : Ticket)
  /-- `wake_readers`: about to load `waiters_` -/
  | loadWaiters
  | notifyAll

def ProducerPhase.ticket : ProducerPhase → Option Ticket
  | .idle => none
  | .claim ticket => some ticket
  | .retry ticket => some ticket
  | .store ticket _ => some ticket
  | .publish ticket => some ticket
  | .loadWaiters => none
  | .notifyAll => none

/-- The ticket a producer holds the claim of: between the exchange and the
publishing store. -/
def ProducerPhase.writing : ProducerPhase → Option Ticket
  | .store ticket _ => some ticket
  | .publish ticket => some ticket
  | _ => none

/-! ## The lock-free part of the ring

`issued` and `published` are history: who took each ticket with which frame,
and the positions published so far. Nothing reads them. -/

structure Core (geometry : Geometry) (Producer : Type) where
  writePos : Nat
  cells : Fin geometry.capacity → Cell
  claimRetries : UInt64
  producers : Producer → ProducerPhase
  issued : List (Producer × Frame)
  published : List Nat

namespace Core

section

variable {geometry : Geometry} {Producer : Type} [DecidableEq Producer]

def kTicketLimit : Nat := 2 ^ 63

def empty : Core geometry Producer where
  writePos := 0
  cells := fun _ => { seq := 0, words := fun _ => 0 }
  claimRetries := 0
  producers := fun _ => .idle
  issued := []
  published := []

def setProducer (core : Core geometry Producer) (producer : Producer)
    (phase : ProducerPhase) : Core geometry Producer :=
  { core with producers := Function.update core.producers producer phase }

def setSeq (core : Core geometry Producer) (pos seq : Nat) : Core geometry Producer :=
  { core with
    cells := Function.update core.cells (geometry.slot pos)
      { core.cells (geometry.slot pos) with seq := seq } }

def setWord (core : Core geometry Producer) (pos : Nat) (index : Fin kFrameWords)
    (word : UInt64) : Core geometry Producer :=
  { core with
    cells := Function.update core.cells (geometry.slot pos)
      { core.cells (geometry.slot pos) with
        words := Function.update (core.cells (geometry.slot pos)).words index word } }

/-- The `fetch_add` of `publish` and `publish_batch`. An empty batch only loads
the counter. -/
def take (core : Core geometry Producer) (producer : Producer)
    (frames : List Frame) : Option (Core geometry Producer) :=
  match core.producers producer, frames with
  | .idle, [] => some core
  | .idle, frame :: rest =>
      if core.writePos + (frame :: rest).length < kTicketLimit then
        some { (core.setProducer producer (.claim ⟨core.writePos, frame, rest⟩)) with
          writePos := core.writePos + (frame :: rest).length
          issued := core.issued ++ (frame :: rest).map fun frame => (producer, frame) }
      else none
  | _, _ => none

/-- The next step of `write_at`, or of the loop around it. `spurious` lets a
weak compare-exchange fail although the word matches. -/
def advance (core : Core geometry Producer) (producer : Producer)
    (spurious : Bool) : Option (Core geometry Producer) :=
  match core.producers producer with
  | .claim ticket =>
      if (core.cells (geometry.slot ticket.pos)).seq = geometry.expected ticket.pos ∧
          spurious = false then
        some ((core.setSeq ticket.pos (2 * ticket.pos + 1)).setProducer producer
          (.store ticket 0))
      else
        some (core.setProducer producer (.retry ticket))
  | .retry ticket =>
      some { (core.setProducer producer (.claim ticket)) with
        claimRetries := core.claimRetries + 1 }
  | .store ticket index =>
      some ((core.setWord ticket.pos index (ticket.words index)).setProducer producer
        (if more : index.val + 1 < kFrameWords then .store ticket ⟨index.val + 1, more⟩
          else .publish ticket))
  | .publish ticket =>
      some { (core.setSeq ticket.pos (2 * ticket.pos + 2)).setProducer producer
          (match ticket.rest with
            | [] => .loadWaiters
            | frame :: rest => .claim ⟨ticket.pos + 1, frame, rest⟩) with
        published := core.published ++ [ticket.pos] }
  | .idle => none
  | .loadWaiters => none
  | .notifyAll => none

end

end Core

end TelemetryGateway.BroadcastRing
