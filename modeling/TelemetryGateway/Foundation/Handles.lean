import Mathlib.Logic.Basic
import Mathlib.Data.Option.Basic

/-! # Programs that hold handles

A handle is what an environment gives out and takes back: a file descriptor, the
address of an object. A program is the calls it makes on its handles and what it
does with each answer, so that every path through it is there. The environment
may fail any call that can fail, and may give out again what has been released. -/

namespace TelemetryGateway.Handles

abbrev Table (Handle Mode : Type) := Handle → Option Mode

namespace Table

variable {Handle Mode : Type}

def empty : Table Handle Mode :=
  fun _ => none

def beside (own shared : Table Handle Mode) : Table Handle Mode :=
  fun handle => (own handle).or (shared handle)

theorem beside_of_some {own shared : Table Handle Mode} {handle : Handle} {mode : Mode}
    (live : own handle = some mode) : own.beside shared handle = some mode := by
  rw [beside, live, Option.some_or]

theorem beside_of_none {own shared : Table Handle Mode} {handle : Handle}
    (free : own handle = none) : own.beside shared handle = shared handle := by
  rw [beside, free, Option.none_or]

theorem beside_of_apart {own shared : Table Handle Mode}
    (apart : ∀ handle, own handle = none ∨ shared handle = none) {handle : Handle} {mode : Mode}
    (live : shared handle = some mode) : own.beside shared handle = some mode := by
  rw [beside_of_none, live]
  apply (apart handle).resolve_right
  rw [live]
  exact Option.some_ne_none mode

@[simp] theorem empty_beside (shared : Table Handle Mode) : empty.beside shared = shared :=
  rfl

variable [DecidableEq Handle]

def set (table : Table Handle Mode) (handle : Handle) (mode : Mode) : Table Handle Mode :=
  fun other => if other = handle then some mode else table other

def erase (table : Table Handle Mode) (handle : Handle) : Table Handle Mode :=
  fun other => if other = handle then none else table other

def without (table : Table Handle Mode) (handles : List Handle) : Table Handle Mode :=
  fun other => if other ∈ handles then none else table other

@[simp] theorem set_self (table : Table Handle Mode) (handle : Handle) (mode : Mode) :
    table.set handle mode handle = some mode :=
  if_pos rfl

theorem set_of_ne (table : Table Handle Mode) {handle other : Handle} (mode : Mode)
    (different : other ≠ handle) : table.set handle mode other = table other :=
  if_neg different

@[simp] theorem erase_self (table : Table Handle Mode) (handle : Handle) :
    table.erase handle handle = none :=
  if_pos rfl

theorem erase_of_ne (table : Table Handle Mode) {handle other : Handle}
    (different : other ≠ handle) : table.erase handle other = table other :=
  if_neg different

theorem apart_set {own shared : Table Handle Mode}
    (apart : ∀ handle, own handle = none ∨ shared handle = none) {handle : Handle}
    (free : shared handle = none) (mode : Mode) (other : Handle) :
    own.set handle mode other = none ∨ shared other = none := by
  by_cases same : other = handle
  · rw [same]
    exact Or.inr free
  · rw [set_of_ne _ _ same]
    exact apart other

theorem erase_set {table : Table Handle Mode} {handle : Handle} (fresh : table handle = none)
    (mode : Mode) : (table.set handle mode).erase handle = table := by
  funext other
  by_cases same : other = handle
  · rw [same, erase_self, fresh]
  · rw [erase_of_ne _ same, set_of_ne _ _ same]

theorem erase_set_of_ne (table : Table Handle Mode) {handle other : Handle} (mode : Mode)
    (different : handle ≠ other) :
    (table.set other mode).erase handle = (table.erase handle).set other mode := by
  funext each
  by_cases same : each = handle
  · rw [same, erase_self, set_of_ne _ _ different, erase_self]
  · rw [erase_of_ne _ same]
    by_cases here : each = other
    · rw [here, set_self, set_self]
    · rw [set_of_ne _ _ here, set_of_ne _ _ here, erase_of_ne _ same]

@[simp] theorem without_nil (table : Table Handle Mode) : table.without [] = table := by
  funext other
  exact if_neg List.not_mem_nil

theorem without_cons (table : Table Handle Mode) (handle : Handle) (rest : List Handle) :
    table.without (handle :: rest) = (table.erase handle).without rest := by
  funext other
  unfold without
  by_cases later : other ∈ rest
  · rw [if_pos later, if_pos (List.mem_cons_of_mem _ later)]
  · rw [if_neg later]
    by_cases same : other = handle
    · rw [same, if_pos List.mem_cons_self, erase_self]
    · rw [erase_of_ne _ same, if_neg]
      intro member
      exact (List.mem_cons.mp member).elim same later

theorem without_eq_empty {table : Table Handle Mode} {handles : List Handle}
    (all : ∀ handle mode, table handle = some mode → handle ∈ handles) :
    table.without handles = empty := by
  funext other
  unfold without
  split
  · rfl
  · rename_i outside
    exact Option.eq_none_iff_forall_ne_some.mpr fun mode live => outside (all other mode live)

/-! ### Tables that are written out -/

def ofList : List (Handle × Mode) → Table Handle Mode
  | [] => empty
  | entry :: rest => (ofList rest).set entry.1 entry.2

theorem ofList_eq_none {entries : List (Handle × Mode)} {handle : Handle} :
    ofList entries handle = none ↔ handle ∉ entries.map Prod.fst := by
  induction entries with
  | nil => exact ⟨fun _ => List.not_mem_nil, fun _ => rfl⟩
  | cons entry rest induction =>
      rw [ofList, List.map_cons, List.mem_cons, not_or]
      by_cases same : handle = entry.1
      · rw [same, set_self]
        constructor
        · intro impossible
          cases impossible
        · exact fun both => absurd rfl both.1
      · rw [set_of_ne _ _ same, induction]
        exact ⟨fun outside => ⟨same, outside⟩, And.right⟩

theorem ofList_of_mem {entries : List (Handle × Mode)} {handle : Handle} {mode : Mode}
    (distinct : (entries.map Prod.fst).Nodup) (member : (handle, mode) ∈ entries) :
    ofList entries handle = some mode := by
  induction entries with
  | nil => cases member
  | cons entry rest induction =>
      rw [List.map_cons, List.nodup_cons] at distinct
      rw [ofList]
      rcases List.mem_cons.mp member with rfl | later
      · exact set_self ..
      · rw [set_of_ne]
        · exact induction distinct.2 later
        · intro same
          exact distinct.1 (same ▸ List.mem_map_of_mem later)

theorem ofList_insert {first second : List (Handle × Mode)} {handle : Handle} (mode : Mode)
    (fresh : ofList (first ++ second) handle = none) :
    (ofList (first ++ second)).set handle mode = ofList (first ++ (handle, mode) :: second) := by
  induction first with
  | nil => rfl
  | cons entry rest induction =>
      rw [ofList_eq_none, List.cons_append, List.map_cons, List.mem_cons, not_or,
        ← ofList_eq_none] at fresh
      rw [List.cons_append, List.cons_append, ofList, ofList, ← induction fresh.2]
      funext other
      by_cases same : other = handle
      · rw [same, set_self, set_of_ne _ _ fresh.1, set_self]
      · rw [set_of_ne _ _ same]
        by_cases here : other = entry.1
        · rw [here, set_self, set_self]
        · rw [set_of_ne _ _ here, set_of_ne _ _ here, set_of_ne _ _ same]

structure Listed (table : Table Handle Mode) (entries : List (Handle × Mode)) : Prop where
  distinct : (entries.map Prod.fst).Nodup
  eq : table = ofList entries

namespace Listed

variable {table : Table Handle Mode} {entries : List (Handle × Mode)}

theorem nil : (empty : Table Handle Mode).Listed [] :=
  ⟨List.nodup_nil, rfl⟩

theorem live (listed : table.Listed entries) {handle : Handle} {mode : Mode}
    (member : (handle, mode) ∈ entries) : table handle = some mode := by
  rw [listed.eq]
  exact ofList_of_mem listed.distinct member

theorem mem (listed : table.Listed entries) {handle : Handle} {mode : Mode}
    (live : table handle = some mode) : handle ∈ entries.map Prod.fst := by
  by_contra outside
  rw [listed.eq, ofList_eq_none.mpr outside] at live
  cases live

theorem insert {first second : List (Handle × Mode)} (listed : table.Listed (first ++ second))
    {handle : Handle} (fresh : table handle = none) (mode : Mode) :
    (table.set handle mode).Listed (first ++ (handle, mode) :: second) := by
  rcases listed with ⟨distinct, rfl⟩
  constructor
  · rw [List.map_append, List.map_cons, List.perm_middle.nodup_iff, ← List.map_append,
      List.nodup_cons]
    exact ⟨ofList_eq_none.mp fresh, distinct⟩
  · exact ofList_insert mode fresh

theorem add {before after : List (Handle × Mode)} (listed : table.Listed before)
    (first second : List (Handle × Mode)) {handle : Handle} {mode : Mode}
    (fresh : table handle = none) (was : before = first ++ second)
    (becomes : after = first ++ (handle, mode) :: second) : (table.set handle mode).Listed after := by
  subst was becomes
  exact listed.insert fresh mode

end Listed

end Table

/-- What may be done with a handle depends on what it is and what has been done
with it before. -/
structure Discipline (Call Handle Mode : Type) where
  /-- what a call gives out; nothing when it never gives out such a handle -/
  fresh : Call → Handle → Option Mode
  allows : Call → Mode → Bool
  /-- what has become of the handle when the call has succeeded -/
  after : Call → Mode → Mode

inductive Program (Call Handle Data : Type) (T : Type)
  | done (value : T)
  /-- a call that gives out a handle, or fails with an error number -/
  | creating (call : Call) (on : List Handle)
      (next : Except Nat Handle → Program Call Handle Data T)
  /-- a call that gives out a handle and does not fail -/
  | making (call : Call) (on : List Handle) (next : Handle → Program Call Handle Data T)
  | calling (call : Call) (on : List Handle) (next : Except Nat Data → Program Call Handle Data T)
  | releasing (handle : Handle) (next : Program Call Handle Data T)
  /-- something from outside that takes no handle -/
  | asking (next : Data → Program Call Handle Data T)

/-- What the environment does at a call. -/
inductive Answer (Handle Data : Type)
  | failed (error : Nat)
  | handle (handle : Handle)
  | data (data : Data)
  | released

namespace Program

variable {Call Handle Data Mode T U : Type}

def bind : Program Call Handle Data T → (T → Program Call Handle Data U) →
    Program Call Handle Data U
  | .done value, rest => rest value
  | .creating call on next, rest => .creating call on fun answer => (next answer).bind rest
  | .making call on next, rest => .making call on fun handle => (next handle).bind rest
  | .calling call on next, rest => .calling call on fun answer => (next answer).bind rest
  | .releasing handle next, rest => .releasing handle (next.bind rest)
  | .asking next, rest => .asking fun data => (next data).bind rest

instance : Monad (Program Call Handle Data) where
  pure := .done
  bind := bind

def create (call : Call) (on : List Handle) : Program Call Handle Data (Except Nat Handle) :=
  .creating call on .done

def make (call : Call) (on : List Handle) : Program Call Handle Data Handle :=
  .making call on .done

def use (call : Call) (on : List Handle) : Program Call Handle Data (Except Nat Data) :=
  .calling call on .done

def release (handle : Handle) : Program Call Handle Data Unit :=
  .releasing handle (.done ())

def ask : Program Call Handle Data Data :=
  .asking .done

def releaseAll : List Handle → Program Call Handle Data Unit
  | [] => .done ()
  | handle :: rest => .releasing handle (releaseAll rest)

end Program

/-! ## One call -/

section

variable {Call Handle Mode : Type}

def Discipline.permits (discipline : Discipline Call Handle Mode) (table : Table Handle Mode)
    (call : Call) (on : List Handle) : Bool :=
  on.all fun handle => (table handle).any (discipline.allows call)

theorem Discipline.permits_iff {discipline : Discipline Call Handle Mode}
    {table : Table Handle Mode} {call : Call} {on : List Handle} :
    discipline.permits table call on = true ↔
      ∀ handle ∈ on, ∃ mode, table handle = some mode ∧ discipline.allows call mode = true := by
  simp only [permits, List.all_eq_true, Option.any_eq_true]

variable [DecidableEq Handle]

def Table.advance (discipline : Discipline Call Handle Mode) (table : Table Handle Mode)
    (call : Call) (on : List Handle) : Table Handle Mode :=
  fun other => if other ∈ on then (table other).map (discipline.after call) else table other

def Discipline.give (discipline : Discipline Call Handle Mode) (table : Table Handle Mode)
    (call : Call) (handle : Handle) : Option (Table Handle Mode) :=
  match discipline.fresh call handle with
  | some mode => if (table handle).isNone then some (table.set handle mode) else none
  | none => none

theorem Discipline.give_eq_some {discipline : Discipline Call Handle Mode}
    {table after : Table Handle Mode} {call : Call} {handle : Handle}
    (given : discipline.give table call handle = some after) :
    ∃ mode, discipline.fresh call handle = some mode ∧ table handle = none ∧
      after = table.set handle mode := by
  unfold give at given
  split at given
  · rename_i mode fresh
    split at given
    · cases given
      exact ⟨mode, fresh, Option.isNone_iff_eq_none.mp ‹_›, rfl⟩
    · cases given
  · cases given

variable {Data T U : Type}

def Program.proper (discipline : Discipline Call Handle Mode) (table : Table Handle Mode) :
    Program Call Handle Data T → Bool
  | .done _ => true
  | .creating call on _ => discipline.permits table call on
  | .making call on _ => discipline.permits table call on
  | .calling call on _ => discipline.permits table call on
  | .releasing handle _ => (table handle).isSome
  | .asking _ => true

/-- The next call, with its answer; undefined for an answer that call never has. -/
def Program.step (discipline : Discipline Call Handle Mode) (table : Table Handle Mode) :
    Program Call Handle Data T → Answer Handle Data →
    Option (Table Handle Mode × Program Call Handle Data T)
  | .creating _ _ next, .failed error => some (table, next (.error error))
  | .creating call _ next, .handle handle =>
      (discipline.give table call handle).map fun table => (table, next (.ok handle))
  | .making call _ next, .handle handle =>
      (discipline.give table call handle).map fun table => (table, next handle)
  | .calling _ _ next, .failed error => some (table, next (.error error))
  | .calling call on next, .data data =>
      some (table.advance discipline call on, next (.ok data))
  | .releasing handle next, .released => some (table.erase handle, next)
  | .asking next, .data data => some (table, next data)
  | _, _ => none

end

/-! ## Programs that keep to a discipline -/

section

variable {Call Handle Data Mode T U : Type} [DecidableEq Handle]

/-- Whatever it is answered, the program makes only calls that may be made, on
handles of its own and on shared ones; only its own does it release or change. It
ends with `post` of its result and of the handles it then has. -/
def Program.Safe (discipline : Discipline Call Handle Mode) (shared : Table Handle Mode) :
    Program Call Handle Data T → Table Handle Mode → (T → Table Handle Mode → Prop) → Prop
  | .done value, own, post => post value own
  | .creating call on next, own, post =>
      discipline.permits (own.beside shared) call on = true ∧
        (∀ error, (next (.error error)).Safe discipline shared own post) ∧
        ∀ handle mode, discipline.fresh call handle = some mode →
          own handle = none → shared handle = none →
          (next (.ok handle)).Safe discipline shared (own.set handle mode) post
  | .making call on next, own, post =>
      discipline.permits (own.beside shared) call on = true ∧
        ∀ handle mode, discipline.fresh call handle = some mode →
          own handle = none → shared handle = none →
          (next handle).Safe discipline shared (own.set handle mode) post
  | .calling call on next, own, post =>
      discipline.permits (own.beside shared) call on = true ∧
        (∀ handle ∈ on, own handle = none → ∀ mode, shared handle = some mode →
          discipline.after call mode = mode) ∧
        (∀ error, (next (.error error)).Safe discipline shared own post) ∧
        ∀ data, (next (.ok data)).Safe discipline shared (own.advance discipline call on) post
  | .releasing handle next, own, post =>
      (own handle).isSome = true ∧ next.Safe discipline shared (own.erase handle) post
  | .asking next, own, post => ∀ data, (next data).Safe discipline shared own post

variable {discipline : Discipline Call Handle Mode} {shared own : Table Handle Mode}

namespace Program

/-! ### Rules -/

theorem Safe.mono {program : Program Call Handle Data T}
    {post weaker : T → Table Handle Mode → Prop}
    (implies : ∀ value own, post value own → weaker value own)
    (safe : program.Safe discipline shared own post) :
    program.Safe discipline shared own weaker := by
  induction program generalizing own with
  | done value => exact implies value own safe
  | creating call on next induction =>
      rcases safe with ⟨permitted, failed, given⟩
      exact ⟨permitted, fun error => induction _ (failed error), fun handle mode fresh free free' =>
        induction _ (given handle mode fresh free free')⟩
  | making call on next induction =>
      rcases safe with ⟨permitted, given⟩
      exact ⟨permitted, fun handle mode fresh free free' =>
        induction _ (given handle mode fresh free free')⟩
  | calling call on next induction =>
      rcases safe with ⟨permitted, keeps, failed, answered⟩
      exact ⟨permitted, keeps, fun error => induction _ (failed error),
        fun data => induction _ (answered data)⟩
  | releasing handle next induction => exact ⟨safe.1, induction safe.2⟩
  | asking next induction => exact fun data => induction data (safe data)

theorem safe_bind {program : Program Call Handle Data T} {rest : T → Program Call Handle Data U}
    {post : U → Table Handle Mode → Prop} :
    (program >>= rest).Safe discipline shared own post ↔
      program.Safe discipline shared own fun value own =>
        (rest value).Safe discipline shared own post := by
  change (program.bind rest).Safe _ _ _ _ ↔ _
  induction program generalizing own with
  | done value => rfl
  | creating call on next induction =>
      unfold bind Safe
      simp only [induction]
  | making call on next induction =>
      unfold bind Safe
      simp only [induction]
  | calling call on next induction =>
      unfold bind Safe
      simp only [induction]
  | releasing handle next induction =>
      unfold bind Safe
      simp only [induction]
  | asking next induction =>
      unfold bind Safe
      simp only [induction]

theorem safe_map {program : Program Call Handle Data T} {f : T → U}
    {post : U → Table Handle Mode → Prop} :
    (f <$> program).Safe discipline shared own post ↔
      program.Safe discipline shared own fun value own => post (f value) own := by
  change (program >>= fun value => pure (f value)).Safe _ _ _ _ ↔ _
  exact safe_bind

theorem safe_create {call : Call} {on : List Handle}
    {post : Except Nat Handle → Table Handle Mode → Prop} :
    (create call on : Program Call Handle Data _).Safe discipline shared own post ↔
      discipline.permits (own.beside shared) call on = true ∧
        (∀ error, post (.error error) own) ∧
        ∀ handle mode, discipline.fresh call handle = some mode →
          own handle = none → shared handle = none → post (.ok handle) (own.set handle mode) :=
  Iff.rfl

theorem safe_make {call : Call} {on : List Handle} {post : Handle → Table Handle Mode → Prop} :
    (make call on : Program Call Handle Data _).Safe discipline shared own post ↔
      discipline.permits (own.beside shared) call on = true ∧
        ∀ handle mode, discipline.fresh call handle = some mode →
          own handle = none → shared handle = none → post handle (own.set handle mode) :=
  Iff.rfl

theorem safe_use {call : Call} {on : List Handle}
    {post : Except Nat Data → Table Handle Mode → Prop} :
    (use call on).Safe discipline shared own post ↔
      discipline.permits (own.beside shared) call on = true ∧
        (∀ handle ∈ on, own handle = none → ∀ mode, shared handle = some mode →
          discipline.after call mode = mode) ∧
        (∀ error, post (.error error) own) ∧
        ∀ data, post (.ok data) (own.advance discipline call on) :=
  Iff.rfl

theorem safe_release {handle : Handle} {post : Unit → Table Handle Mode → Prop} :
    (release handle : Program Call Handle Data _).Safe discipline shared own post ↔
      (own handle).isSome = true ∧ post () (own.erase handle) :=
  Iff.rfl

theorem safe_ask {post : Data → Table Handle Mode → Prop} :
    (ask : Program Call Handle Data _).Safe discipline shared own post ↔ ∀ data, post data own :=
  Iff.rfl

theorem permits_set {call : Call} {handle : Handle} {mode : Mode}
    (allowed : discipline.allows call mode = true) :
    discipline.permits ((own.set handle mode).beside shared) call [handle] = true := by
  rw [Discipline.permits_iff]
  intro other member
  rw [List.mem_singleton.mp member]
  exact ⟨mode, Table.beside_of_some (own.set_self handle mode), allowed⟩

omit [DecidableEq Handle] in
theorem permits_shared (apart : ∀ handle, own handle = none ∨ shared handle = none) {call : Call}
    {on : List Handle} (there : ∀ handle ∈ on, ∃ mode, shared handle = some mode ∧
      discipline.allows call mode = true) :
    discipline.permits (own.beside shared) call on = true := by
  rw [Discipline.permits_iff]
  intro handle member
  rcases there handle member with ⟨mode, live, allowed⟩
  exact ⟨mode, Table.beside_of_apart apart live, allowed⟩

theorem advance_set (call : Call) (handle : Handle) (mode : Mode) :
    (own.set handle mode).advance discipline call [handle] =
      own.set handle (discipline.after call mode) := by
  funext other
  unfold Table.advance
  by_cases same : other = handle
  · rw [same, if_pos (List.mem_singleton_self _), Table.set_self, Table.set_self, Option.map_some]
  · rw [if_neg (fun member => same (List.mem_singleton.mp member)), Table.set_of_ne _ _ same,
      Table.set_of_ne _ _ same]

theorem safe_use_set {call : Call} {handle : Handle} {mode : Mode}
    {post : Except Nat Data → Table Handle Mode → Prop}
    (allowed : discipline.allows call mode = true)
    (failed : ∀ error, post (.error error) (own.set handle mode))
    (answered : ∀ data, post (.ok data) (own.set handle (discipline.after call mode))) :
    (use call [handle]).Safe discipline shared (own.set handle mode) post := by
  rw [safe_use, advance_set]
  refine ⟨permits_set allowed, ?_, failed, answered⟩
  intro other member free
  rw [List.mem_singleton.mp member, Table.set_self] at free
  cases free

theorem safe_use_passive {call : Call} {on : List Handle}
    {post : Except Nat Data → Table Handle Mode → Prop}
    (passive : ∀ mode, discipline.after call mode = mode)
    (permitted : discipline.permits (own.beside shared) call on = true)
    (answered : ∀ answer, post answer own) :
    (use call on).Safe discipline shared own post := by
  have same : own.advance discipline call on = own := by
    funext other
    unfold Table.advance
    split
    · cases own other with
      | none => rfl
      | some mode => rw [Option.map_some, passive]
    · rfl
  rw [safe_use, same]
  exact ⟨permitted, fun _ _ _ mode _ => passive mode, fun error => answered _,
    fun data => answered _⟩

theorem safe_releaseAll {handles : List Handle} {post : Unit → Table Handle Mode → Prop}
    (distinct : handles.Nodup) (live : ∀ handle ∈ handles, (own handle).isSome = true)
    (released : post () (own.without handles)) :
    (releaseAll handles : Program Call Handle Data _).Safe discipline shared own post := by
  induction handles generalizing own with
  | nil =>
      rw [Table.without_nil] at released
      exact released
  | cons handle rest induction =>
      rcases List.nodup_cons.mp distinct with ⟨once, others⟩
      refine ⟨live handle List.mem_cons_self, ?_⟩
      apply induction others
      · intro other member
        rw [Table.erase_of_ne]
        · exact live other (List.mem_cons_of_mem _ member)
        · exact fun same => once (same ▸ member)
      · rw [Table.without_cons] at released
        exact released

theorem safe_releaseAll_listed {entries : List (Handle × Mode)}
    {post : Unit → Table Handle Mode → Prop} (listed : own.Listed entries)
    (released : post () Table.empty) :
    (releaseAll (entries.map Prod.fst) : Program Call Handle Data _).Safe
      discipline shared own post := by
  apply safe_releaseAll listed.distinct
  · intro handle member
    rcases List.mem_map.mp member with ⟨entry, inside, rfl⟩
    exact Option.isSome_iff_exists.mpr ⟨entry.2, listed.live inside⟩
  · rw [Table.without_eq_empty fun handle mode => listed.mem]
    exact released

end Program

end

end TelemetryGateway.Handles
