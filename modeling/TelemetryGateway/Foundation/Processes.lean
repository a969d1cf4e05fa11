import Mathlib.Data.Fintype.Basic
import Mathlib.Logic.Function.Basic
import TelemetryGateway.Foundation.Execution
import TelemetryGateway.Foundation.Handles

/-! # Processes and their threads

A process starts up with one thread. What that has set up is then used by a team
of threads, each of which takes one turn of its loop after the other; their calls
come in any order. When all have returned, one thread finishes. -/

namespace TelemetryGateway.Handles

/-! ## Whose the handles are -/

section

variable {Call Handle Mode I : Type}

def Table.Divided (table shared : Table Handle Mode) (owns : I → Table Handle Mode) : Prop :=
  ∀ handle,
    (table handle = none ∧ shared handle = none ∧ ∀ i, owns i handle = none) ∨
    (table handle = shared handle ∧ (shared handle).isSome = true ∧
      ∀ i, owns i handle = none) ∨
    (shared handle = none ∧ ∃ i, (owns i handle).isSome = true ∧
      table handle = owns i handle ∧ ∀ other, other ≠ i → owns other handle = none)

variable {table shared : Table Handle Mode} {owns : I → Table Handle Mode}

namespace Table.Divided

theorem shared_eq (divided : table.Divided shared owns) {handle : Handle} {mode : Mode}
    (live : shared handle = some mode) : table handle = some mode := by
  rcases divided handle with ⟨_, none, _⟩ | ⟨same, _, _⟩ | ⟨none, _⟩
  · rw [none] at live
    cases live
  · rw [same, live]
  · rw [none] at live
    cases live

theorem owned (divided : table.Divided shared owns) {i : I} {handle : Handle} {mode : Mode}
    (live : owns i handle = some mode) :
    table handle = some mode ∧ shared handle = none ∧
      ∀ other, other ≠ i → owns other handle = none := by
  rcases divided handle with ⟨_, _, none⟩ | ⟨_, _, none⟩ | ⟨apart, owner, _, same, alone⟩
  · rw [none i] at live
    cases live
  · rw [none i] at live
    cases live
  · by_cases mine : i = owner
    · rw [← mine] at same alone
      exact ⟨same.trans live, apart, alone⟩
    · rw [alone i mine] at live
      cases live

theorem apart (divided : table.Divided shared owns) {i : I} (handle : Handle) :
    owns i handle = none ∨ shared handle = none := by
  cases mine : owns i handle with
  | none => exact Or.inl rfl
  | some mode => exact Or.inr (divided.owned mine).2.1

theorem beside_eq (divided : table.Divided shared owns) {i : I} {handle : Handle} {mode : Mode}
    (live : (owns i).beside shared handle = some mode) : table handle = some mode := by
  cases mine : owns i handle with
  | none =>
      rw [Table.beside_of_none mine] at live
      exact divided.shared_eq live
  | some own =>
      rw [Table.beside_of_some mine] at live
      cases live
      exact (divided.owned mine).1

theorem free (divided : table.Divided shared owns) {handle : Handle}
    (free : table handle = none) : shared handle = none ∧ ∀ i, owns i handle = none := by
  rcases divided handle with ⟨_, none⟩ | ⟨same, live, _⟩ | ⟨_, i, live, same, _⟩
  · exact none
  · rw [← same, free] at live
    cases live
  · rw [← same, free] at live
    cases live

variable [DecidableEq I]

theorem change (divided : table.Divided shared owns) {i : I} {after own : Table Handle Mode}
    (changes : ∀ handle, (after handle = table handle ∧ own handle = owns i handle) ∨
      (after handle = own handle ∧ shared handle = none ∧
        ∀ other, other ≠ i → owns other handle = none)) :
    after.Divided shared (Function.update owns i own) := by
  intro handle
  rcases changes handle with ⟨sameTable, sameOwn⟩ | ⟨mine, apart, alone⟩
  · have same : ∀ other, Function.update owns i own other handle = owns other handle := by
      intro other
      by_cases this : other = i
      · rw [this, Function.update_self, sameOwn]
      · rw [Function.update_of_ne this]
    simp only [sameTable, same]
    exact divided handle
  · have others : ∀ other, other ≠ i → Function.update owns i own other handle = none := by
      intro other this
      rw [Function.update_of_ne this]
      exact alone other this
    cases value : own handle with
    | none =>
        refine Or.inl ⟨mine.trans value, apart, fun other => ?_⟩
        by_cases this : other = i
        · rw [this, Function.update_self, value]
        · exact others other this
    | some mode =>
        refine Or.inr (Or.inr ⟨apart, i, ?_, ?_, others⟩)
        · rw [Function.update_self, value]
          rfl
        · rw [Function.update_self, mine]

variable [DecidableEq Handle]

theorem set (divided : table.Divided shared owns) (i : I) {handle : Handle}
    (free : table handle = none) (mode : Mode) :
    (table.set handle mode).Divided shared
      (Function.update owns i ((owns i).set handle mode)) := by
  apply divided.change
  intro other
  by_cases same : other = handle
  · rw [same, Table.set_self, Table.set_self]
    exact Or.inr ⟨rfl, (divided.free free).1, fun j _ => (divided.free free).2 j⟩
  · rw [Table.set_of_ne _ _ same, Table.set_of_ne _ _ same]
    exact Or.inl ⟨rfl, rfl⟩

theorem erase (divided : table.Divided shared owns) (i : I) {handle : Handle}
    (live : (owns i handle).isSome = true) :
    (table.erase handle).Divided shared (Function.update owns i ((owns i).erase handle)) := by
  rcases Option.isSome_iff_exists.mp live with ⟨mode, mine⟩
  rcases divided.owned mine with ⟨_, apart, alone⟩
  apply divided.change
  intro other
  by_cases same : other = handle
  · rw [same, Table.erase_self, Table.erase_self]
    exact Or.inr ⟨rfl, apart, alone⟩
  · rw [Table.erase_of_ne _ same, Table.erase_of_ne _ same]
    exact Or.inl ⟨rfl, rfl⟩

theorem advance {discipline : Discipline Call Handle Mode} (divided : table.Divided shared owns)
    (i : I) {call : Call} {on : List Handle}
    (permitted : discipline.permits ((owns i).beside shared) call on = true)
    (keeps : ∀ handle ∈ on, owns i handle = none → ∀ mode, shared handle = some mode →
      discipline.after call mode = mode) :
    (table.advance discipline call on).Divided shared
      (Function.update owns i ((owns i).advance discipline call on)) := by
  apply divided.change
  intro handle
  unfold Table.advance
  by_cases member : handle ∈ on
  · rw [if_pos member, if_pos member]
    cases mine : owns i handle with
    | some mode =>
        rcases divided.owned mine with ⟨same, apart, alone⟩
        rw [same]
        exact Or.inr ⟨rfl, apart, alone⟩
    | none =>
        -- not one's own, so it is shared, and the call does not change it
        rcases Discipline.permits_iff.mp permitted handle member with ⟨mode, live, _⟩
        rw [Table.beside_of_none mine] at live
        rw [divided.shared_eq live, Option.map_some, keeps handle member mine mode live]
        exact Or.inl ⟨rfl, rfl⟩
  · rw [if_neg member, if_neg member]
    exact Or.inl ⟨rfl, rfl⟩

end Table.Divided

/-! ## One call of one thread -/

variable [DecidableEq Handle] {Data T : Type} {discipline : Discipline Call Handle Mode}
  {post : T → Table Handle Mode → Prop} {program : Program Call Handle Data T}

theorem Table.Divided.proper (divided : table.Divided shared owns) {i : I}
    (safe : program.Safe discipline shared (owns i) post) :
    program.proper discipline table = true := by
  have permits {call : Call} {on : List Handle}
      (permitted : discipline.permits ((owns i).beside shared) call on = true) :
      discipline.permits table call on = true := by
    rw [Discipline.permits_iff] at permitted ⊢
    intro handle member
    rcases permitted handle member with ⟨mode, live, allowed⟩
    exact ⟨mode, divided.beside_eq live, allowed⟩
  cases program with
  | done value => rfl
  | creating call on next => exact permits safe.1
  | making call on next => exact permits safe.1
  | calling call on next => exact permits safe.1
  | releasing handle next =>
      rcases Option.isSome_iff_exists.mp safe.1 with ⟨mode, mine⟩
      rw [Program.proper, (divided.owned mine).1]
      rfl
  | asking next => rfl

theorem Table.Divided.step [DecidableEq I] (divided : table.Divided shared owns) {i : I}
    (safe : program.Safe discipline shared (owns i) post) {answer : Answer Handle Data}
    {after : Table Handle Mode} {next : Program Call Handle Data T}
    (stepped : program.step discipline table answer = some (after, next)) :
    ∃ own, after.Divided shared (Function.update owns i own) ∧
      next.Safe discipline shared own post := by
  have unchanged : table.Divided shared (Function.update owns i (owns i)) := by
    rw [Function.update_eq_self]
    exact divided
  have given {call : Call} {handle : Handle}
      (given : discipline.give table call handle = some after) :
      ∃ mode, discipline.fresh call handle = some mode ∧ owns i handle = none ∧
        shared handle = none ∧
        after.Divided shared (Function.update owns i ((owns i).set handle mode)) := by
    rcases Discipline.give_eq_some given with ⟨mode, fresh, free, rfl⟩
    exact ⟨mode, fresh, (divided.free free).2 i, (divided.free free).1, divided.set i free mode⟩
  unfold Program.step at stepped
  split at stepped
  · cases stepped
    exact ⟨_, unchanged, safe.2.1 _⟩
  · rcases Option.map_eq_some_iff.mp stepped with ⟨table', gave, equal⟩
    cases equal
    rcases given gave with ⟨mode, fresh, mine, apart, divided'⟩
    exact ⟨_, divided', safe.2.2 _ mode fresh mine apart⟩
  · rcases Option.map_eq_some_iff.mp stepped with ⟨table', gave, equal⟩
    cases equal
    rcases given gave with ⟨mode, fresh, mine, apart, divided'⟩
    exact ⟨_, divided', safe.2 _ mode fresh mine apart⟩
  · cases stepped
    exact ⟨_, unchanged, safe.2.2.1 _⟩
  · cases stepped
    exact ⟨_, divided.advance i safe.1 safe.2.1, safe.2.2.2 _⟩
  · cases stepped
    exact ⟨_, divided.erase i safe.1, safe.2⟩
  · cases stepped
    exact ⟨_, unchanged, safe _⟩
  · cases stepped

end

/-! ## Handing over -/

namespace Table.Divided

variable {Handle Mode I : Type} {table outside shared own : Table Handle Mode}
  {owns : I → Table Handle Mode}

theorem start (outside : Table Handle Mode) :
    outside.Divided outside fun _ : I => Table.empty := by
  intro handle
  cases live : outside handle with
  | none => exact Or.inl ⟨rfl, rfl, fun _ => rfl⟩
  | some mode => exact Or.inr (Or.inl ⟨rfl, rfl, fun _ => rfl⟩)

theorem nothing_left (divided : table.Divided outside fun _ : I => Table.empty) :
    table = outside := by
  funext handle
  rcases divided handle with ⟨free, none, _⟩ | ⟨same, _⟩ | ⟨_, _, live, _⟩
  · rw [free, none]
  · exact same
  · cases live

theorem update_unit {T : Type} (before after : T) :
    Function.update (fun _ : Unit => before) () after = fun _ => after := by
  funext i
  exact Function.update_self ..

theorem divide (whole : table.Divided outside fun _ : Unit => own)
    (divided : own.Divided shared owns) :
    table.Divided (outside.beside shared) owns ∧
      ∀ handle, outside handle = none ∨ shared handle = none := by
  constructor
  · intro handle
    rcases whole handle with ⟨free, none, nobody⟩ | ⟨same, live, nobody⟩ | ⟨none, _, live, same, _⟩
    · rcases divided.free (nobody ()) with ⟨apart, others⟩
      exact Or.inl ⟨free, (Table.beside_of_none none).trans apart, others⟩
    · rcases divided.free (nobody ()) with ⟨_, others⟩
      rcases Option.isSome_iff_exists.mp live with ⟨mode, here⟩
      have beside := @Table.beside_of_some _ _ _ shared _ _ here
      rw [beside, same, here]
      exact Or.inr (Or.inl ⟨rfl, rfl, others⟩)
    · rw [Table.beside_of_none none, same]
      exact divided handle
  · intro handle
    rcases whole handle with ⟨_, none, _⟩ | ⟨_, _, nobody⟩ | ⟨none, _⟩
    · exact Or.inl none
    · exact Or.inr (divided.free (nobody ())).1
    · exact Or.inl none

theorem gather (divided : table.Divided (outside.beside shared) owns)
    (apart : ∀ handle, outside handle = none ∨ shared handle = none) :
    ∃ own, own.Divided shared owns ∧ table.Divided outside fun _ : Unit => own := by
  refine ⟨fun handle => if (outside handle).isSome then none else table handle, ?_, ?_⟩
  · intro handle
    cases live : outside handle with
    | some mode =>
        have beside := @Table.beside_of_some _ _ _ shared _ _ live
        rcases divided handle with ⟨_, none, _⟩ | ⟨_, _, nobody⟩ | ⟨none, _⟩
        · rw [beside] at none
          cases none
        · refine Or.inl ⟨?_, (apart handle).resolve_left ?_, nobody⟩
          · simp only [live]
            rfl
          · rw [live]
            exact Option.some_ne_none mode
        · rw [beside] at none
          cases none
    | none =>
        have here := divided handle
        rw [Table.beside_of_none live] at here
        simp only [live]
        exact here
  · intro handle
    cases live : outside handle with
    | some mode =>
        refine Or.inr (Or.inl ⟨?_, rfl, fun _ => ?_⟩)
        · rw [divided.shared_eq (Table.beside_of_some live)]
        · simp only [live]
          rfl
    | none =>
        cases held : table handle with
        | none =>
            refine Or.inl ⟨rfl, rfl, fun _ => ?_⟩
            simp only [live]
            exact held
        | some mode =>
            refine Or.inr (Or.inr ⟨rfl, (), ?_⟩)
            simp only [live, held]
            exact ⟨rfl, rfl, fun other different => absurd rfl different⟩

end Table.Divided

/-! ## Processes -/

/-- What each of the threads and the parts before and after them do. A thread
takes its next turn with the state its last turn left, until it returns. -/
structure Process (Call Handle Data Setup Result : Type) (I : Type) (State Return : I → Type) where
  startup : Program Call Handle Data (Except Result Setup)
  first : Setup → (i : I) → State i
  turn : Setup → (i : I) → State i → Program Call Handle Data (State i ⊕ Return i)
  finish : Setup → ((i : I) → Return i) → Program Call Handle Data Result

namespace Process

section

variable {Call Handle Data Mode Setup Result I : Type} {State Return : I → Type}

inductive Stage (_ : Process Call Handle Data Setup Result I State Return)
  | starting (program : Program Call Handle Data (Except Result Setup))
  | running (setup : Setup) (threads : (i : I) → Program Call Handle Data (State i ⊕ Return i))
  | finishing (program : Program Call Handle Data Result)
  | ended (result : Result)

/-- The process and the handles that are live, its own and all others. -/
structure Moment (process : Process Call Handle Data Setup Result I State Return)
    (Mode : Type) where
  table : Table Handle Mode
  stage : process.Stage

inductive Label (Handle Data I : Type)
  /-- the only thread's next call -/
  | call (answer : Answer Handle Data)
  | thread (i : I) (answer : Answer Handle Data)
  /-- a thread begins its next turn -/
  | turn (i : I)
  /-- from one stage to the next -/
  | proceed

variable {process : Process Call Handle Data Setup Result I State Return}

def returned {i : I} : Program Call Handle Data (State i ⊕ Return i) → Option (Return i)
  | .done (.inr value) => some value
  | _ => none

theorem eq_of_returned {i : I} {program : Program Call Handle Data (State i ⊕ Return i)}
    {value : Return i} (done : returned program = some value) : program = .done (.inr value) := by
  unfold returned at done
  split at done
  · cases done
    rfl
  · cases done

variable [DecidableEq Handle] [DecidableEq I] [Fintype I]

def joined (threads : (i : I) → Program Call Handle Data (State i ⊕ Return i)) :
    Option ((i : I) → Return i) :=
  if all : ∀ i, (returned (threads i)).isSome = true then
    some fun i => (returned (threads i)).get (all i)
  else none

def step (discipline : Discipline Call Handle Mode) (moment : process.Moment Mode) :
    Label Handle Data I → Option (process.Moment Mode)
  | .call answer =>
      match moment.stage with
      | .starting program =>
          (program.step discipline moment.table answer).map fun next =>
            { table := next.1, stage := .starting next.2 }
      | .finishing program =>
          (program.step discipline moment.table answer).map fun next =>
            { table := next.1, stage := .finishing next.2 }
      | _ => none
  | .thread i answer =>
      match moment.stage with
      | .running setup threads =>
          ((threads i).step discipline moment.table answer).map fun next =>
            { table := next.1, stage := .running setup (Function.update threads i next.2) }
      | _ => none
  | .turn i =>
      match moment.stage with
      | .running setup threads =>
          match threads i with
          | .done (.inl state) =>
              some { moment with
                stage := .running setup (Function.update threads i (process.turn setup i state)) }
          | _ => none
      | _ => none
  | .proceed =>
      match moment.stage with
      | .starting (.done (.error result)) => some { moment with stage := .ended result }
      | .starting (.done (.ok setup)) =>
          some { moment with
            stage := .running setup fun i => process.turn setup i (process.first setup i) }
      | .running setup threads =>
          (joined threads).map fun values =>
            { moment with stage := .finishing (process.finish setup values) }
      | .finishing (.done result) => some { moment with stage := .ended result }
      | _ => none

def system (process : Process Call Handle Data Setup Result I State Return)
    (discipline : Discipline Call Handle Mode) (outside : Table Handle Mode) :
    System (process.Moment Mode) (Label Handle Data I) where
  initial := fun moment => moment = { table := outside, stage := .starting process.startup }
  step := step discipline

/-- Whether every thread's next call is one that may be made. -/
def Moment.Proper (discipline : Discipline Call Handle Mode) (moment : process.Moment Mode) :
    Prop :=
  match moment.stage with
  | .starting program => program.proper discipline moment.table = true
  | .running _ threads => ∀ i, (threads i).proper discipline moment.table = true
  | .finishing program => program.proper discipline moment.table = true
  | .ended _ => True

/-! ## Why a process is safe -/

omit [DecidableEq I] [Fintype I] in
structure Verified (process : Process Call Handle Data Setup Result I State Return)
    (discipline : Discipline Call Handle Mode) (outside : Table Handle Mode)
    (Valid : Setup → Prop) (shared : Setup → Table Handle Mode)
    (Holds : Setup → (i : I) → State i → Table Handle Mode → Prop)
    (Leaves : Setup → (i : I) → Return i → Table Handle Mode → Prop) : Prop where
  /-- a startup that fails has given everything back; another hands all it has
  to the threads -/
  startup : process.startup.Safe discipline outside Table.empty fun result own =>
    match result with
    | .error _ => own = Table.empty
    | .ok setup => Valid setup ∧ ∃ owns : I → Table Handle Mode,
        own.Divided (shared setup) owns ∧ ∀ i, Holds setup i (process.first setup i) (owns i)
  turn : ∀ setup i state own, Valid setup →
    (∀ handle, outside handle = none ∨ shared setup handle = none) →
    (∀ handle, own handle = none ∨ outside.beside (shared setup) handle = none) →
    Holds setup i state own →
    (process.turn setup i state).Safe discipline (outside.beside (shared setup)) own
      fun result own =>
        match result with
        | .inl state => Holds setup i state own
        | .inr value => Leaves setup i value own
  finish : ∀ setup values own (owns : I → Table Handle Mode), Valid setup →
    own.Divided (shared setup) owns → (∀ i, Leaves setup i (values i) (owns i)) →
    (process.finish setup values).Safe discipline outside own fun _ own => own = Table.empty

namespace Verified

variable {discipline : Discipline Call Handle Mode} {outside : Table Handle Mode}
  {Valid : Setup → Prop} {shared : Setup → Table Handle Mode}
  {Holds : Setup → (i : I) → State i → Table Handle Mode → Prop}
  {Leaves : Setup → (i : I) → Return i → Table Handle Mode → Prop}

def Sound (process : Process Call Handle Data Setup Result I State Return)
    (discipline : Discipline Call Handle Mode) (outside : Table Handle Mode)
    (Valid : Setup → Prop) (shared : Setup → Table Handle Mode)
    (Holds : Setup → (i : I) → State i → Table Handle Mode → Prop)
    (Leaves : Setup → (i : I) → Return i → Table Handle Mode → Prop)
    (moment : process.Moment Mode) : Prop :=
  match moment.stage with
  | .starting program => ∃ own, (moment.table.Divided outside fun _ : Unit => own) ∧
      program.Safe discipline outside own fun result own =>
        match result with
        | .error _ => own = Table.empty
        | .ok setup => Valid setup ∧ ∃ owns : I → Table Handle Mode,
            own.Divided (shared setup) owns ∧ ∀ i, Holds setup i (process.first setup i) (owns i)
  | .running setup threads => Valid setup ∧
      (∀ handle, outside handle = none ∨ shared setup handle = none) ∧
      ∃ owns : I → Table Handle Mode,
        moment.table.Divided (outside.beside (shared setup)) owns ∧
        ∀ i, (threads i).Safe discipline (outside.beside (shared setup)) (owns i)
          fun result own =>
            match result with
            | .inl state => Holds setup i state own
            | .inr value => Leaves setup i value own
  | .finishing program => ∃ own, (moment.table.Divided outside fun _ : Unit => own) ∧
      program.Safe discipline outside own fun _ own => own = Table.empty
  | .ended _ => moment.table = outside

omit [DecidableEq I] [Fintype I] in
theorem Sound.proper {moment : process.Moment Mode}
    (sound : Sound process discipline outside Valid shared Holds Leaves moment) :
    moment.Proper discipline := by
  unfold Sound at sound
  unfold Moment.Proper
  split at sound
  · rcases sound with ⟨own, divided, safe⟩
    exact divided.proper (i := ()) safe
  · rcases sound with ⟨_, _, owns, divided, safe⟩
    exact fun i => divided.proper (safe i)
  · rcases sound with ⟨own, divided, safe⟩
    exact divided.proper (i := ()) safe
  · trivial

omit [DecidableEq I] [Fintype I] in
theorem Sound.untouched {moment : process.Moment Mode}
    (sound : Sound process discipline outside Valid shared Holds Leaves moment) (handle : Handle)
    (mode : Mode) (live : outside handle = some mode) : moment.table handle = some mode := by
  unfold Sound at sound
  split at sound
  · rcases sound with ⟨_, divided, _⟩
    exact divided.shared_eq live
  · rcases sound with ⟨_, _, _, divided, _⟩
    exact divided.shared_eq (Table.beside_of_some live)
  · rcases sound with ⟨_, divided, _⟩
    exact divided.shared_eq live
  · rw [sound, live]

theorem step_alone {T : Type} {program next : Program Call Handle Data T}
    {table after own : Table Handle Mode} {post : T → Table Handle Mode → Prop}
    {answer : Answer Handle Data} (divided : table.Divided outside fun _ : Unit => own)
    (safe : program.Safe discipline outside own post)
    (stepped : program.step discipline table answer = some (after, next)) :
    ∃ own, (after.Divided outside fun _ : Unit => own) ∧
      next.Safe discipline outside own post := by
  rcases divided.step (i := ()) safe stepped with ⟨own, divided, safe⟩
  rw [Table.Divided.update_unit] at divided
  exact ⟨own, divided, safe⟩

omit [DecidableEq Handle] [DecidableEq I] in
theorem joined_eq {threads : (i : I) → Program Call Handle Data (State i ⊕ Return i)}
    {values : (i : I) → Return i} (all : joined threads = some values) (i : I) :
    threads i = .done (.inr (values i)) := by
  unfold joined at all
  split at all
  · rename_i there
    cases all
    exact eq_of_returned (Option.some_get (there i)).symm
  · cases all

variable (verified : process.Verified discipline outside Valid shared Holds Leaves)

include verified

theorem keeps {moment after : process.Moment Mode} {label : Label Handle Data I}
    (sound : Sound process discipline outside Valid shared Holds Leaves moment)
    (stepped : step discipline moment label = some after) :
    Sound process discipline outside Valid shared Holds Leaves after := by
  unfold Sound at sound
  cases label with
  | call answer =>
      unfold step at stepped
      dsimp only at stepped
      split at stepped
      · rename_i stage
        rw [stage] at sound
        rcases sound with ⟨own, divided, safe⟩
        rcases Option.map_eq_some_iff.mp stepped with ⟨next, moved, rfl⟩
        exact step_alone divided safe moved
      · rename_i stage
        rw [stage] at sound
        rcases sound with ⟨own, divided, safe⟩
        rcases Option.map_eq_some_iff.mp stepped with ⟨next, moved, rfl⟩
        exact step_alone divided safe moved
      · cases stepped
  | thread i answer =>
      unfold step at stepped
      dsimp only at stepped
      split at stepped
      · rename_i setup threads stage
        rw [stage] at sound
        rcases sound with ⟨valid, apart, owns, divided, safe⟩
        rcases Option.map_eq_some_iff.mp stepped with ⟨next, moved, rfl⟩
        rcases divided.step (safe i) moved with ⟨own, divided, safe'⟩
        refine ⟨valid, apart, _, divided, fun other => ?_⟩
        by_cases same : other = i
        · rw [same, Function.update_self, Function.update_self]
          exact safe'
        · rw [Function.update_of_ne same, Function.update_of_ne same]
          exact safe other
      · cases stepped
  | turn i =>
      unfold step at stepped
      dsimp only at stepped
      split at stepped
      · rename_i setup threads stage
        rw [stage] at sound
        rcases sound with ⟨valid, apart, owns, divided, safe⟩
        split at stepped
        · rename_i state ended
          cases stepped
          refine ⟨valid, apart, owns, divided, fun other => ?_⟩
          by_cases same : other = i
          · rw [same, Function.update_self]
            have holds := safe i
            rw [ended] at holds
            exact verified.turn setup i state (owns i) valid apart divided.apart holds
          · rw [Function.update_of_ne same]
            exact safe other
        · cases stepped
      · cases stepped
  | proceed =>
      unfold step at stepped
      dsimp only at stepped
      split at stepped
      · rename_i stage
        rw [stage] at sound
        rcases sound with ⟨own, divided, nothing⟩
        cases stepped
        rw [nothing] at divided
        exact divided.nothing_left
      · rename_i setup stage
        rw [stage] at sound
        rcases sound with ⟨own, whole, valid, owns, divided, holds⟩
        cases stepped
        rcases whole.divide divided with ⟨divided, apart⟩
        exact ⟨valid, apart, owns, divided, fun i =>
          verified.turn setup i _ _ valid apart divided.apart (holds i)⟩
      · rename_i setup threads stage
        rw [stage] at sound
        rcases sound with ⟨valid, apart, owns, divided, safe⟩
        rcases Option.map_eq_some_iff.mp stepped with ⟨values, all, rfl⟩
        rcases divided.gather apart with ⟨own, divided, whole⟩
        refine ⟨own, whole, verified.finish setup values own owns valid divided fun i => ?_⟩
        have left := safe i
        rw [joined_eq all i] at left
        exact left
      · rename_i stage
        rw [stage] at sound
        rcases sound with ⟨own, divided, nothing⟩
        cases stepped
        rw [nothing] at divided
        exact divided.nothing_left
      · cases stepped

/-- Whatever the calls answer and however the threads interleave: every call is
one that may be made. -/
theorem sound {moment : process.Moment Mode}
    (reached : (process.system discipline outside).Reachable moment) :
    Sound process discipline outside Valid shared Holds Leaves moment := by
  apply reached.invariant
  · rintro _ rfl
    exact ⟨_, Table.Divided.start outside, verified.startup⟩
  · intro before label after _ _ sound stepped
    exact verified.keeps sound stepped

end Verified

end

end Process

end TelemetryGateway.Handles
