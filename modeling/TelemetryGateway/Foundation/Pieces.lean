import Mathlib.Data.List.Basic

/-! # Lists that come in pieces

A reader puts pieces together until it has enough. What it then has depends on
how the list was cut, within bounds. -/

namespace TelemetryGateway

variable {T : Type*}

/-! ## Searching -/

section

variable [DecidableEq T]

def findPart (part : List T) : List T → Option Nat
  | [] => if part = [] then some 0 else none
  | item :: rest =>
      if part <+: item :: rest then some 0 else (findPart part rest).map (· + 1)

variable {part shorter whole : List T}

theorem findPart_take (found : part ≠ []) (size : Nat) :
    findPart part (whole.take size) =
      (findPart part whole).filter fun start => start + part.length ≤ size := by
  induction whole generalizing size with
  | nil => simp [findPart, found]
  | cons item rest induction =>
      have positive : 0 < part.length := List.length_pos_iff.mpr found
      cases size with
      | zero =>
          have none : ∀ start, ¬ start + part.length ≤ 0 := fun start => by omega
          simp [findPart, found, none]
      | succ size =>
          rw [List.take_succ_cons, findPart, findPart, induction, ← List.take_succ_cons]
          simp only [List.prefix_take_iff]
          by_cases here : part <+: item :: rest
          · by_cases ends : part.length ≤ size + 1
            · rw [if_pos ⟨here, ends⟩, if_pos here, Option.filter_some_pos (by simpa using ends)]
            · have later : ∀ start, ¬ start + part.length ≤ size := fun start => by omega
              simp [here, ends, later, Option.filter_some]
          · have same : ∀ start, start + 1 + part.length ≤ size + 1 ↔
                start + part.length ≤ size := fun start => by omega
            rw [if_neg here, if_neg (fun both => here both.1)]
            cases findPart part rest with
            | none => simp
            | some start => simp [Option.filter_some, same]

theorem isSome_findPart_take (found : part ≠ []) (size : Nat) :
    (findPart part (whole.take size)).isSome ↔
      ∃ start, findPart part whole = some start ∧ start + part.length ≤ size := by
  rw [findPart_take found]
  cases findPart part whole with
  | none => simp
  | some start => simp [Option.filter_some]

theorem findPart_le {start : Nat} (found : findPart part whole = some start) :
    start + part.length ≤ whole.length := by
  induction whole generalizing start with
  | nil =>
      rw [findPart] at found
      split at found
      · rename_i empty
        cases found
        simp [empty]
      · cases found
  | cons item rest induction =>
      rw [findPart] at found
      split at found
      · rename_i here
        cases found
        simpa using here.length_le
      · rcases Option.map_eq_some_iff.mp found with ⟨later, foundLater, rfl⟩
        have inside := induction foundLater
        rw [List.length_cons]
        omega

theorem findPart_prefix {start : Nat} (found : findPart part whole = some start)
    (begins : shorter <+: part) : ∃ earlier ≤ start, findPart shorter whole = some earlier := by
  induction whole generalizing start with
  | nil =>
      rw [findPart] at found
      split at found
      · rename_i empty
        rw [empty, List.prefix_nil] at begins
        exact ⟨0, Nat.zero_le _, by simp [findPart, begins]⟩
      · cases found
  | cons item rest induction =>
      rw [findPart] at found
      by_cases here : shorter <+: item :: rest
      · exact ⟨0, Nat.zero_le _, by rw [findPart, if_pos here]⟩
      · rw [if_neg (fun whole => here (begins.trans whole))] at found
        rcases Option.map_eq_some_iff.mp found with ⟨later, foundLater, rfl⟩
        rcases induction foundLater with ⟨earlier, before, foundEarlier⟩
        refine ⟨earlier + 1, Nat.succ_le_succ before, ?_⟩
        rw [findPart, if_neg here, foundEarlier, Option.map_some]

end

/-! ## Gathering -/

structure Pieces (limit : Nat) (whole : List T) (pieces : List (List T)) : Prop where
  joined : pieces.flatten = whole
  sizes : ∀ piece ∈ pieces, 0 < piece.length ∧ piece.length ≤ limit

def gather (enough : List T → Bool) : List T → List (List T) → Option (List T)
  | got, [] => if enough got then some got else none
  | got, piece :: rest => if enough got then some got else gather enough (got ++ piece) rest

def EnoughFrom (enough : List T → Bool) (whole : List T) (least : Nat) : Prop :=
  ∀ size ≤ whole.length, enough (whole.take size) ↔ least ≤ size

section

variable {enough : List T → Bool} {whole : List T} {pieces : List (List T)}
  {least limit size got : Nat}

theorem gather_enough {begun : List T} (already : enough begun) (pieces : List (List T)) :
    gather enough begun pieces = some begun := by
  cases pieces with
  | nil => rw [gather, if_pos already]
  | cons piece rest => rw [gather, if_pos already]

theorem gather_from (decides : EnoughFrom enough whole least) (reached : least ≤ whole.length)
    (joined : pieces.flatten = whole.drop got) (fits : ∀ piece ∈ pieces, piece.length ≤ limit)
    (inside : got ≤ whole.length) (before : got < least + limit) :
    ∃ size, least ≤ size ∧ size < least + limit ∧ size ≤ whole.length ∧
      gather enough (whole.take got) pieces = some (whole.take size) := by
  induction pieces generalizing got with
  | nil =>
      have complete : whole.length ≤ got := List.drop_eq_nil_iff.mp joined.symm
      refine ⟨got, Nat.le_trans reached complete, before, inside, ?_⟩
      rw [gather, if_pos ((decides got inside).mpr (Nat.le_trans reached complete))]
  | cons piece rest induction =>
      rw [gather]
      by_cases stops : least ≤ got
      · rw [if_pos ((decides got inside).mpr stops)]
        exact ⟨got, stops, before, inside, rfl⟩
      · rw [if_neg (fun already => stops ((decides got inside).mp already))]
        have size := fits piece List.mem_cons_self
        have split : piece ++ rest.flatten = whole.drop got := joined
        have more : whole.take got ++ piece = whole.take (got + piece.length) := by
          rw [List.take_add, ← split, List.take_left]
        have left : rest.flatten = whole.drop (got + piece.length) := by
          rw [← List.drop_drop, ← split, List.drop_left]
        have total := congrArg List.length split
        rw [List.length_append, List.length_drop] at total
        rw [more]
        apply induction left (fun other member => fits other (List.mem_cons_of_mem _ member))
        · omega
        · omega

def singles (items : List T) : List (List T) := items.map fun item => [item]

theorem flatten_singles (items : List T) : (singles items).flatten = items := by
  induction items with
  | nil => rfl
  | cons item rest induction => simpa [singles] using induction

theorem gather_singles (decides : EnoughFrom enough whole least) (steps : Nat)
    (before : got + steps < least) (inside : least ≤ whole.length) (rest : List (List T)) :
    gather enough (whole.take got) (singles ((whole.drop got).take steps) ++ rest) =
      gather enough (whole.take (got + steps)) rest := by
  induction steps generalizing got with
  | zero => simp [singles]
  | succ steps induction =>
      have here : got < whole.length := by omega
      have stop : ¬ enough (whole.take got) := fun already =>
        absurd ((decides got (by omega)).mp already) (by omega)
      have next := induction (show got + 1 + steps < least by omega)
      rw [List.drop_eq_getElem_cons here, List.take_succ_cons, singles, List.map_cons,
        List.cons_append, gather, if_neg stop, List.take_append_getElem here]
      rw [singles] at next
      rw [next, Nat.add_right_comm, Nat.add_assoc]

/-- Items up to `least` one by one, the piece that brings too many, and the
rest. -/
def cutAt (whole : List T) (least size : Nat) : List (List T) :=
  singles (whole.take (least - 1)) ++
    ((whole.drop (least - 1)).take (size - (least - 1)) :: singles (whole.drop size))

theorem pieces_cutAt (positive : 0 < least) (above : least ≤ size) (below : size < least + limit)
    (inside : size ≤ whole.length) : Pieces limit whole (cutAt whole least size) := by
  constructor
  case joined =>
    have rejoined : (whole.drop (least - 1)).take (size - (least - 1)) ++ whole.drop size =
        whole.drop (least - 1) := by
      have rest : whole.drop size = (whole.drop (least - 1)).drop (size - (least - 1)) := by
        rw [List.drop_drop]
        congr 1
        omega
      rw [rest, List.take_append_drop]
    simp [cutAt, flatten_singles, rejoined]
  case sizes =>
    intro piece member
    rw [cutAt, List.mem_append, List.mem_cons] at member
    have single : ∀ items : List T, piece ∈ singles items →
        0 < piece.length ∧ piece.length ≤ limit := by
      intro items found
      rcases List.mem_map.mp found with ⟨item, _, rfl⟩
      simp only [List.length_singleton]
      omega
    rcases member with first | rfl | last
    · exact single _ first
    · rw [List.length_take, List.length_drop]
      omega
    · exact single _ last

theorem Pieces.gathered (cut : Pieces limit whole pieces) (decides : EnoughFrom enough whole least)
    (positive : 0 < least) (reached : least ≤ whole.length) :
    ∃ size, least ≤ size ∧ size < least + limit ∧ size ≤ whole.length ∧
      gather enough [] pieces = some (whole.take size) := by
  have fits : ∀ piece ∈ pieces, piece.length ≤ limit := fun piece member =>
    (cut.sizes piece member).2
  have early : 0 < least + limit := Nat.lt_of_lt_of_le positive (Nat.le_add_right ..)
  exact gather_from decides reached cut.joined fits (Nat.zero_le _) early

theorem exists_pieces (decides : EnoughFrom enough whole least) (positive : 0 < least)
    (above : least ≤ size) (below : size < least + limit) (inside : size ≤ whole.length) :
    ∃ pieces, Pieces limit whole pieces ∧ gather enough [] pieces = some (whole.take size) := by
  refine ⟨_, pieces_cutAt positive above below inside, ?_⟩
  have one : 0 + (least - 1) < least := by omega
  have singly := gather_singles decides (least - 1) one (Nat.le_trans above inside)
  simp only [List.drop_zero, List.take_zero, Nat.zero_add] at singly
  have stop : ¬ enough (whole.take (least - 1)) := fun already =>
    absurd ((decides _ (by omega)).mp already) (by omega)
  have brought : whole.take (least - 1) ++ (whole.drop (least - 1)).take (size - (least - 1)) =
      whole.take size := by
    rw [← List.take_add]
    congr 1
    omega
  have enoughNow := (decides size inside).mpr above
  rw [cutAt, singly, gather, if_neg stop, brought, gather_enough enoughNow]

end

end TelemetryGateway
