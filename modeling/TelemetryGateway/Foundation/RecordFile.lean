import Mathlib.Algebra.GroupWithZero.Nat
import Mathlib.Data.List.Forall2

/-! # Files of counted records

A file is read as a header that says how many records follow, those records,
and the next header. What headers and records are is left to a format. Two
readers of one file agree when they agree about every header and record that
one of them comes to. -/

namespace TelemetryGateway

structure RecordFormat (headerSize recordSize : Nat) (ε ρ : Type) where
  /-- the number of records that follow -/
  header : List UInt8 → Except ε Nat
  record : List UInt8 → Except ε ρ

namespace RecordFormat

variable {headerSize recordSize : Nat} {ε δ ρ σ : Type}

inductive Ending (ε : Type)
  | done
  /-- the file ends inside a message of which so many bytes are there -/
  | truncated (size : Nat)
  /-- refused at this place in the file -/
  | badHeader (offset : Nat) (error : ε)
  | badRecord (offset : Nat) (error : ε)

/-- The records up to the ending, from a place where `pending` records are still
to come before the next header. -/
def read [NeZero headerSize] (format : RecordFormat headerSize recordSize ε ρ)
    (offset pending : Nat) (bytes : List UInt8) : List ρ × Ending ε :=
  match pending with
  | pending + 1 =>
      match format.record (bytes.take recordSize) with
      | .error error => ([], .badRecord offset error)
      | .ok record =>
          let rest := format.read (offset + recordSize) pending (bytes.drop recordSize)
          (record :: rest.1, rest.2)
  | 0 =>
      if bytes = [] then ([], .done)
      else if bytes.length < headerSize then ([], .truncated bytes.length)
      else
        match format.header (bytes.take headerSize) with
        | .error error => ([], .badHeader offset error)
        | .ok count =>
            if (bytes.drop headerSize).length < count * recordSize then
              ([], .truncated bytes.length)
            else
              format.read (offset + headerSize) count (bytes.drop headerSize)
termination_by (bytes.length, pending)
decreasing_by
  · simp only [List.length_drop]
    rcases Nat.eq_or_lt_of_le (Nat.sub_le bytes.length recordSize) with same | less
    · rw [same]
      exact .right _ (Nat.lt_succ_self _)
    · exact .left _ _ less
  · have positive := Nat.pos_of_neZero headerSize
    simp only [List.length_drop]
    exact .left _ _ (by omega)

/-! ## What a reader comes to -/

inductive Piece
  | header (bytes : List UInt8)
  | record (bytes : List UInt8)

def visited [NeZero headerSize] (format : RecordFormat headerSize recordSize ε ρ)
    (pending : Nat) (bytes : List UInt8) : List Piece :=
  match pending with
  | pending + 1 =>
      .record (bytes.take recordSize) ::
        match format.record (bytes.take recordSize) with
        | .error _ => []
        | .ok _ => format.visited pending (bytes.drop recordSize)
  | 0 =>
      if bytes.length < headerSize then []
      else
        .header (bytes.take headerSize) ::
          match format.header (bytes.take headerSize) with
          | .error _ => []
          | .ok count =>
              if (bytes.drop headerSize).length < count * recordSize then []
              else format.visited count (bytes.drop headerSize)
termination_by (bytes.length, pending)
decreasing_by
  · simp only [List.length_drop]
    rcases Nat.eq_or_lt_of_le (Nat.sub_le bytes.length recordSize) with same | less
    · rw [same]
      exact .right _ (Nat.lt_succ_self _)
    · exact .left _ _ less
  · have positive := Nat.pos_of_neZero headerSize
    simp only [List.length_drop]
    exact .left _ _ (by omega)

def Piece.accepted (format : RecordFormat headerSize recordSize ε ρ) : Piece → Bool
  | .header bytes => (format.header bytes).isOk
  | .record bytes => (format.record bytes).isOk

def Piece.value? (format : RecordFormat headerSize recordSize ε ρ) : Piece → Option ρ
  | .header _ => none
  | .record bytes => (format.record bytes).toOption

def Ending.refused : Ending ε → Bool
  | .done => false
  | .truncated _ => false
  | .badHeader _ _ => true
  | .badRecord _ _ => true

theorem read_eq_visited [NeZero headerSize] (format : RecordFormat headerSize recordSize ε ρ)
    (offset pending : Nat) (bytes : List UInt8) :
    (format.read offset pending bytes).1 =
        (format.visited pending bytes).filterMap (fun piece => piece.value? format) ∧
      (format.read offset pending bytes).2.refused =
        !(format.visited pending bytes).all (fun piece => piece.accepted format) := by
  fun_induction format.read offset pending bytes with
  | case1 offset bytes pending error refused =>
      rw [visited, refused]
      simp [Piece.value?, Piece.accepted, refused, Except.toOption, Except.isOk, Except.toBool,
        Ending.refused]
  | case2 offset bytes pending record accepted rest induction =>
      rw [visited, accepted]
      simp [Piece.value?, Piece.accepted, accepted, Except.toOption, Except.isOk, Except.toBool,
        rest, induction]
  | case3 offset =>
      have short : ([] : List UInt8).length < headerSize := Nat.pos_of_neZero headerSize
      rw [visited, if_pos short]
      exact ⟨rfl, rfl⟩
  | case4 offset bytes some short =>
      rw [visited, if_pos short]
      exact ⟨rfl, rfl⟩
  | case5 offset bytes some long error refused =>
      rw [visited, if_neg long, refused]
      simp [Piece.value?, Piece.accepted, refused, Except.isOk, Except.toBool, Ending.refused]
  | case6 offset bytes some long count accepted lacking =>
      rw [visited, if_neg long, accepted]
      simp only [if_pos lacking]
      simp [Piece.value?, Piece.accepted, accepted, Except.isOk, Except.toBool, Ending.refused]
  | case7 offset bytes some long count accepted enough induction =>
      rw [visited, if_neg long, accepted]
      simp only [if_neg enough]
      simp [Piece.value?, Piece.accepted, accepted, Except.isOk, Except.toBool, induction]

def Piece.Fits (headerSize recordSize : Nat) : Piece → Prop
  | .header bytes => bytes.length = headerSize
  | .record bytes => bytes.length = recordSize

theorem visited_fits [NeZero headerSize] (format : RecordFormat headerSize recordSize ε ρ)
    (pending : Nat) (bytes : List UInt8) (there : pending * recordSize ≤ bytes.length) :
    ∀ piece ∈ format.visited pending bytes, piece.Fits headerSize recordSize := by
  have takes {size : Nat} {bytes : List UInt8} (long : size ≤ bytes.length) :
      (bytes.take size).length = size := by
    rw [List.length_take]
    exact Nat.min_eq_left long
  induction pending, bytes using @visited.induct headerSize recordSize _ with
  | case1 bytes pending induction =>
      rw [Nat.succ_mul] at there
      rw [visited]
      refine List.forall_mem_cons.mpr ⟨takes (by omega), ?_⟩
      split
      · exact fun _ member => (nomatch member)
      · refine induction ?_
        rw [List.length_drop]
        omega
  | case2 bytes short =>
      rw [visited, if_pos short]
      exact fun _ member => (nomatch member)
  | case3 bytes long induction =>
      rw [visited, if_neg long]
      refine List.forall_mem_cons.mpr ⟨takes (Nat.not_lt.mp long), ?_⟩
      split
      · exact fun _ member => (nomatch member)
      · rename_i count _
        split
        · exact fun _ member => (nomatch member)
        · rename_i enough
          exact induction count (Nat.not_lt.mp enough)

/-! ## Two readers -/

def Ending.Alike : Ending ε → Ending δ → Prop
  | .done, .done => True
  | .truncated left, .truncated right => left = right
  | .badHeader left _, .badHeader right _ => left = right
  | .badRecord left _, .badRecord right _ => left = right
  | _, _ => False

/-- The same records and the same ending, refusals at the same place. -/
structure Alike (related : ρ → σ → Prop) (left : List ρ × Ending ε)
    (right : List σ × Ending δ) : Prop where
  records : List.Forall₂ related left.1 right.1
  ending : left.2.Alike right.2

def Agree (related : ρ → σ → Prop) : Except ε ρ → Except δ σ → Prop
  | .ok left, .ok right => related left right
  | .error _, .error _ => True
  | _, _ => False

def Piece.Alike (related : ρ → σ → Prop) (left : RecordFormat headerSize recordSize ε ρ)
    (right : RecordFormat headerSize recordSize δ σ) : Piece → Prop
  | .header bytes => Agree Eq (left.header bytes) (right.header bytes)
  | .record bytes => Agree related (left.record bytes) (right.record bytes)

variable [NeZero headerSize]

theorem le_of_badHeader (format : RecordFormat headerSize recordSize ε ρ)
    (offset pending : Nat) (bytes : List UInt8) {place : Nat} {error : ε}
    (refused : (format.read offset pending bytes).2 = .badHeader place error) :
    offset ≤ place := by
  fun_induction format.read offset pending bytes with
  | case1 => cases refused
  | case2 offset bytes pending record accepted rest induction =>
      exact Nat.le_trans (Nat.le_add_right _ _) (induction refused)
  | case3 => cases refused
  | case4 => cases refused
  | case5 =>
      cases refused
      exact Nat.le_refl _
  | case6 => cases refused
  | case7 offset bytes some long count accepted enough induction =>
      exact Nat.le_trans (Nat.le_add_right _ _) (induction refused)

theorem not_alike_of_badHeader (format : RecordFormat headerSize recordSize ε ρ)
    (offset pending : Nat) (bytes : List UInt8) {place : Nat} (earlier : place < offset)
    (error : δ) :
    ¬ (format.read offset pending bytes).2.Alike (Ending.badHeader place error) := by
  cases ending : (format.read offset pending bytes).2 with
  | badHeader other _ =>
      have later := format.le_of_badHeader offset pending bytes ending
      intro same
      have equal : other = place := same
      omega
  | done => exact id
  | truncated size => exact id
  | badRecord other _ => exact id

theorem Ending.Alike.symm {left : Ending ε} {right : Ending δ} (alike : left.Alike right) :
    right.Alike left := by
  cases left <;> cases right <;> first | exact alike | exact Eq.symm alike

section

variable {related : ρ → σ → Prop} {left : RecordFormat headerSize recordSize ε ρ}
  {right : RecordFormat headerSize recordSize δ σ} {offset pending : Nat} {bytes : List UInt8}

theorem read_alike_record (step : ∀ record, left.record (bytes.take recordSize) = .ok record →
      (Alike related
          (left.read (offset + recordSize) pending (bytes.drop recordSize))
          (right.read (offset + recordSize) pending (bytes.drop recordSize)) ↔
        ∀ piece ∈ left.visited pending (bytes.drop recordSize), piece.Alike related left right)) :
    Alike related (left.read offset (pending + 1) bytes) (right.read offset (pending + 1) bytes) ↔
      ∀ piece ∈ left.visited (pending + 1) bytes, piece.Alike related left right := by
  rw [read, read, visited]
  cases onLeft : left.record (bytes.take recordSize) with
  | error leftError =>
      cases onRight : right.record (bytes.take recordSize) with
      | error rightError =>
          simp only [List.mem_singleton, forall_eq, Piece.Alike, onLeft, onRight, Agree, iff_true]
          exact ⟨.nil, rfl⟩
      | ok record =>
          simp only [List.mem_singleton, forall_eq, Piece.Alike, onLeft, onRight, Agree, iff_false]
          exact fun alike => nomatch alike.records
  | ok record =>
      cases onRight : right.record (bytes.take recordSize) with
      | error rightError =>
          simp only [List.forall_mem_cons, Piece.Alike, onLeft, onRight, Agree, false_and,
            iff_false]
          exact fun alike => nomatch alike.records
      | ok other =>
          rw [List.forall_mem_cons, ← step record onLeft]
          simp only [Piece.Alike, onLeft, onRight, Agree]
          constructor
          · rintro ⟨records, ending⟩
            cases records with
            | cons first others => exact ⟨first, others, ending⟩
          · rintro ⟨first, others, ending⟩
            exact ⟨.cons first others, ending⟩

theorem read_alike_header
    (counts : ¬ bytes.length < headerSize → ∀ leftCount rightCount,
      left.header (bytes.take headerSize) = .ok leftCount →
      right.header (bytes.take headerSize) = .ok rightCount → leftCount = rightCount)
    (step : ∀ count, bytes ≠ [] → ¬ bytes.length < headerSize →
      left.header (bytes.take headerSize) = .ok count →
      ¬ (bytes.drop headerSize).length < count * recordSize →
      (Alike related
          (left.read (offset + headerSize) count (bytes.drop headerSize))
          (right.read (offset + headerSize) count (bytes.drop headerSize)) ↔
        ∀ piece ∈ left.visited count (bytes.drop headerSize), piece.Alike related left right)) :
    Alike related (left.read offset 0 bytes) (right.read offset 0 bytes) ↔
      ∀ piece ∈ left.visited 0 bytes, piece.Alike related left right := by
  have positive := Nat.pos_of_neZero headerSize
  rw [read, read, visited]
  by_cases empty : bytes = []
  · have short : bytes.length < headerSize := by
      rw [empty]
      exact positive
    rw [if_pos empty, if_pos empty, if_pos short]
    exact ⟨fun _ _ member => (nomatch member), fun _ => ⟨.nil, trivial⟩⟩
  · rw [if_neg empty, if_neg empty]
    by_cases short : bytes.length < headerSize
    · rw [if_pos short, if_pos short, if_pos short]
      exact ⟨fun _ _ member => (nomatch member), fun _ => ⟨.nil, rfl⟩⟩
    · rw [if_neg short, if_neg short, if_neg short]
      cases onLeft : left.header (bytes.take headerSize) with
      | error leftError =>
          cases onRight : right.header (bytes.take headerSize) with
          | error rightError =>
              simp only [List.mem_singleton, forall_eq, Piece.Alike, onLeft, onRight, Agree,
                iff_true]
              exact ⟨.nil, rfl⟩
          | ok count =>
              simp only [List.mem_singleton, forall_eq, Piece.Alike, onLeft, onRight, Agree,
                iff_false]
              rintro ⟨_, ending⟩
              split at ending
              · exact ending
              · exact not_alike_of_badHeader right _ _ _ (by omega) leftError ending.symm
      | ok count =>
          cases onRight : right.header (bytes.take headerSize) with
          | error rightError =>
              simp only [List.forall_mem_cons, Piece.Alike, onLeft, onRight, Agree, false_and,
                iff_false]
              rintro ⟨_, ending⟩
              split at ending
              · exact ending
              · exact not_alike_of_badHeader left _ _ _ (by omega) rightError ending
          | ok other =>
              cases counts short count other onLeft onRight
              have agree : (Piece.header (bytes.take headerSize)).Alike related left right := by
                simp only [Piece.Alike, onLeft, onRight, Agree]
              simp only [List.forall_mem_cons, agree, true_and]
              by_cases lacking : (bytes.drop headerSize).length < count * recordSize
              · rw [if_pos lacking, if_pos lacking, if_pos lacking]
                exact ⟨fun _ _ member => (nomatch member), fun _ => ⟨.nil, rfl⟩⟩
              · rw [if_neg lacking, if_neg lacking, if_neg lacking]
                exact step count empty short onLeft lacking

end

/-- The readers agree when they agree about every piece that one of them comes
to. -/
theorem read_alike_iff (related : ρ → σ → Prop) (left : RecordFormat headerSize recordSize ε ρ)
    (right : RecordFormat headerSize recordSize δ σ)
    (counts : ∀ bytes leftCount rightCount, bytes.length = headerSize →
      left.header bytes = .ok leftCount → right.header bytes = .ok rightCount →
      leftCount = rightCount)
    (offset pending : Nat) (bytes : List UInt8) :
    Alike related (left.read offset pending bytes) (right.read offset pending bytes) ↔
      ∀ piece ∈ left.visited pending bytes, piece.Alike related left right := by
  have counted {bytes : List UInt8} (long : ¬ bytes.length < headerSize) (leftCount rightCount : Nat)
      (onLeft : left.header (bytes.take headerSize) = .ok leftCount)
      (onRight : right.header (bytes.take headerSize) = .ok rightCount) :
      leftCount = rightCount := by
    refine counts _ _ _ ?_ onLeft onRight
    rw [List.length_take]
    exact Nat.min_eq_left (Nat.not_lt.mp long)
  induction offset, pending, bytes using read.induct left with
  | case1 offset bytes pending error refused =>
      exact read_alike_record fun record accepted => by rw [refused] at accepted; cases accepted
  | case2 offset bytes pending record accepted induction =>
      exact read_alike_record fun _ _ => induction
  | case3 offset =>
      exact read_alike_header counted fun _ nonempty => absurd rfl nonempty
  | case4 offset bytes nonempty short =>
      exact read_alike_header counted fun _ _ long => absurd short long
  | case5 offset bytes nonempty long error refused =>
      refine read_alike_header counted fun count _ _ accepted => ?_
      rw [refused] at accepted
      cases accepted
  | case6 offset bytes nonempty long count accepted lacking =>
      refine read_alike_header counted fun other _ _ again enough => ?_
      rw [accepted] at again
      cases again
      exact absurd lacking enough
  | case7 offset bytes nonempty long count accepted enough induction =>
      refine read_alike_header counted fun other _ _ again _ => ?_
      rw [accepted] at again
      cases again
      exact induction

end RecordFormat

end TelemetryGateway
