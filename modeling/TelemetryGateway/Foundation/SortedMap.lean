import Mathlib.Data.List.Pairwise

/-! # Maps in the order of their keys

An ordered map is the list of its entries, the smallest key first; the order is
part of the map. -/

namespace TelemetryGateway

structure SortedMap (K : Type u) (V : Type v) [LT K] where
  entries : List (K × V)
  sorted : entries.Pairwise fun left right => left.1 < right.1

namespace SortedMap

section

variable {K : Type u} {V : Type v} [DecidableEq K]

def findEntry (key : K) : List (K × V) → Option V
  | [] => none
  | entry :: rest => if entry.1 = key then some entry.2 else findEntry key rest

def modifyEntry (key : K) (change : V → V) (entry : K × V) : K × V :=
  if entry.1 = key then (entry.1, change entry.2) else entry

def insertEntry [LT K] [DecidableLT K] (key : K) (value : V) : List (K × V) → List (K × V)
  | [] => [(key, value)]
  | entry :: rest =>
      if key < entry.1 then (key, value) :: entry :: rest
      else if entry.1 = key then entry :: rest
      else entry :: insertEntry key value rest

theorem fst_modifyEntry (key : K) (change : V → V) (entry : K × V) :
    (modifyEntry key change entry).1 = entry.1 := by
  rw [modifyEntry]
  split <;> rfl

theorem findEntry_eq_none {key : K} {entries : List (K × V)}
    (absent : ∀ entry ∈ entries, entry.1 ≠ key) : findEntry key entries = none := by
  induction entries with
  | nil => rfl
  | cons entry rest induction =>
      rw [findEntry, if_neg (absent entry List.mem_cons_self)]
      exact induction fun other member => absent other (List.mem_cons_of_mem _ member)

theorem findEntry_map_modifyEntry (key other : K) (change : V → V) (entries : List (K × V)) :
    findEntry other (entries.map (modifyEntry key change)) =
      if other = key then (findEntry key entries).map change else findEntry other entries := by
  induction entries with
  | nil =>
      rw [List.map_nil, findEntry, findEntry]
      exact (ite_self _).symm
  | cons entry rest induction =>
      rw [List.map_cons, findEntry, fst_modifyEntry, induction]
      by_cases same : other = key
      · rw [if_pos same, if_pos same, same, findEntry]
        by_cases found : entry.1 = key
        · rw [if_pos found, if_pos found, modifyEntry, if_pos found, Option.map_some]
        · rw [if_neg found, if_neg found]
      · rw [if_neg same, if_neg same, findEntry]
        by_cases found : entry.1 = other
        · rw [if_pos found, if_pos found, modifyEntry, if_neg (found ▸ same)]
        · rw [if_neg found, if_neg found]

theorem findEntry_of_mem {entries : List (K × V)} {entry : K × V}
    (distinct : entries.Pairwise fun left right => left.1 ≠ right.1) (member : entry ∈ entries) :
    findEntry entry.1 entries = some entry.2 := by
  induction entries with
  | nil => cases member
  | cons first rest induction =>
      rcases List.pairwise_cons.mp distinct with ⟨before, others⟩
      rw [findEntry]
      rcases List.mem_cons.mp member with rfl | member
      · rw [if_pos rfl]
      · rw [if_neg (before entry member)]
        exact induction others member

section

variable [LT K] [DecidableLT K]

theorem mem_insertEntry {key : K} {value : V} {entry : K × V} {entries : List (K × V)}
    (member : entry ∈ insertEntry key value entries) : entry = (key, value) ∨ entry ∈ entries := by
  induction entries with
  | nil => exact .inl (List.mem_singleton.mp member)
  | cons first rest induction =>
      rw [insertEntry] at member
      split at member
      · rcases List.mem_cons.mp member with same | member
        · exact .inl same
        · exact .inr member
      · split at member
        · exact .inr member
        · rcases List.mem_cons.mp member with same | member
          · exact .inr (List.mem_cons.mpr (.inl same))
          · rcases induction member with same | member
            · exact .inl same
            · exact .inr (List.mem_cons_of_mem _ member)

theorem length_insertEntry {entries : List (K × V)} {key : K} (value : V)
    (absent : findEntry key entries = none) :
    (insertEntry key value entries).length = entries.length + 1 := by
  induction entries with
  | nil => rfl
  | cons entry rest induction =>
      rw [findEntry] at absent
      by_cases same : entry.1 = key
      · rw [if_pos same] at absent
        cases absent
      · rw [if_neg same] at absent
        rw [insertEntry, if_neg same]
        split
        · rfl
        · rw [List.length_cons, induction absent, List.length_cons]

end

section

variable [LE K] [LT K] [DecidableLT K] [Std.IsLinearOrder K] [Std.LawfulOrderLT K]

theorem sorted_insertEntry {entries : List (K × V)} (key : K) (value : V)
    (sorted : entries.Pairwise fun left right => left.1 < right.1) :
    (insertEntry key value entries).Pairwise fun left right => left.1 < right.1 := by
  induction entries with
  | nil => exact List.pairwise_singleton _ _
  | cons entry rest induction =>
      rcases List.pairwise_cons.mp sorted with ⟨before, others⟩
      rw [insertEntry]
      split
      · rename_i smaller
        refine List.pairwise_cons.mpr ⟨?_, sorted⟩
        intro other member
        rcases List.mem_cons.mp member with rfl | member
        · exact smaller
        · exact Std.lt_trans smaller (before other member)
      · rename_i notSmaller
        split
        · exact sorted
        · rename_i different
          refine List.pairwise_cons.mpr ⟨?_, induction others⟩
          intro other member
          rcases mem_insertEntry member with rfl | member
          · rcases Std.lt_trichotomy entry.1 key with larger | same | smaller
            · exact larger
            · exact absurd same different
            · exact absurd smaller notSmaller
          · exact before other member

theorem findEntry_insertEntry {entries : List (K × V)} (key other : K) (value : V)
    (sorted : entries.Pairwise fun left right => left.1 < right.1) :
    findEntry other (insertEntry key value entries) =
      if other = key then some ((findEntry key entries).getD value)
      else findEntry other entries := by
  have first (rest : List (K × V)) : findEntry other ((key, value) :: rest) =
      if other = key then some value else findEntry other rest := by
    rw [findEntry]
    exact if_congr eq_comm rfl rfl
  induction entries with
  | nil => exact first []
  | cons entry rest induction =>
      rcases List.pairwise_cons.mp sorted with ⟨before, others⟩
      rw [insertEntry]
      split
      · rename_i smaller
        have absent : findEntry key (entry :: rest) = none := by
          apply findEntry_eq_none
          intro found member
          rcases List.mem_cons.mp member with rfl | member
          · exact (Std.ne_of_lt smaller).symm
          · exact (Std.ne_of_lt (Std.lt_trans smaller (before found member))).symm
        rw [absent, first]
        rfl
      · split
        · rename_i found
          by_cases same : other = key
          · rw [if_pos same, same, findEntry, if_pos found]
            rfl
          · rw [if_neg same]
        · rename_i different
          rw [findEntry, induction others]
          by_cases same : other = key
          · rw [if_pos same, if_pos same, same, if_neg different, findEntry, if_neg different]
          · rw [if_neg same, if_neg same, findEntry]

end

/-! ## Maps -/

variable [LT K]

def empty : SortedMap K V where
  entries := []
  sorted := .nil

def size (map : SortedMap K V) : Nat := map.entries.length

def find? (map : SortedMap K V) (key : K) : Option V := findEntry key map.entries

def modify (map : SortedMap K V) (key : K) (change : V → V) : SortedMap K V where
  entries := map.entries.map (modifyEntry key change)
  sorted := by
    apply List.pairwise_map.mpr
    apply map.sorted.imp
    intro left right ordered
    rw [fst_modifyEntry, fst_modifyEntry]
    exact ordered

theorem find?_modify (map : SortedMap K V) (key other : K) (change : V → V) :
    (map.modify key change).find? other =
      if other = key then (map.find? key).map change else map.find? other :=
  findEntry_map_modifyEntry key other change map.entries

theorem size_modify (map : SortedMap K V) (key : K) (change : V → V) :
    (map.modify key change).size = map.size := List.length_map ..

variable [LE K] [DecidableLT K] [Std.IsLinearOrder K] [Std.LawfulOrderLT K]

def emplace (map : SortedMap K V) (key : K) (value : V) : SortedMap K V where
  entries := insertEntry key value map.entries
  sorted := sorted_insertEntry key value map.sorted

theorem find?_emplace (map : SortedMap K V) (key other : K) (value : V) :
    (map.emplace key value).find? other =
      if other = key then some ((map.find? key).getD value) else map.find? other :=
  findEntry_insertEntry key other value map.sorted

theorem size_emplace {map : SortedMap K V} {key : K} (value : V)
    (absent : map.find? key = none) : (map.emplace key value).size = map.size + 1 :=
  length_insertEntry value absent

omit [DecidableLT K] [Std.IsLinearOrder K] in
theorem find?_of_mem {map : SortedMap K V} {entry : K × V} (member : entry ∈ map.entries) :
    map.find? entry.1 = some entry.2 :=
  findEntry_of_mem (map.sorted.imp fun ordered => Std.ne_of_lt ordered) member

end

end SortedMap

end TelemetryGateway
