import Mathlib.Data.List.Basic

/-! # Numbered streams with announced gaps

A stream of numbered data may leave numbers out when it says so: a gap in front
of the next piece of data names the first number left out and how many there
are. Anything else in the stream is ignored. -/

namespace TelemetryGateway

inductive Item
  | data (seq : Nat)
  | gap (first count : Nat)
  | other
  deriving DecidableEq, Repr

namespace Item

def isData : Item → Bool
  | data _ => true
  | _ => false

def isOther : Item → Bool
  | other => true
  | _ => false

end Item

/-- Two consecutive pieces of data carry consecutive numbers, or exactly one
gap stands between them and covers exactly the numbers in between. -/
def Announced (items : List Item) : Prop :=
  ∀ before first between second after,
    items.filter (fun item => !item.isOther) =
      before ++ .data first :: (between ++ .data second :: after) →
    (∀ item ∈ between, item.isData = false) →
    (between = [] ∧ second = first + 1) ∨
      ∃ count, between = [.gap (first + 1) count] ∧ second = first + 1 + count

/-! ## Following a stream

What may come next in such a stream. After data it is the next number or a gap
that begins there; after a gap it is the data behind it. -/

inductive Expect
  | anything
  | dataOrGap (next : Nat)
  | data (next : Nat)
  deriving DecidableEq, Repr

namespace Expect

def after : Expect → Item → Option Expect
  | expect, .other => some expect
  | .anything, .data seq => some (.dataOrGap (seq + 1))
  | .anything, .gap first count => some (.data (first + count))
  | .dataOrGap next, .data seq => if seq = next then some (.dataOrGap (seq + 1)) else none
  | .dataOrGap next, .gap first count =>
      if first = next then some (.data (first + count)) else none
  | .data next, .data seq => if seq = next then some (.dataOrGap (seq + 1)) else none
  | .data _, .gap _ _ => none

def follow (expect : Expect) (items : List Item) : Option Expect :=
  items.foldlM after expect

@[simp] theorem follow_nil (expect : Expect) : expect.follow [] = some expect := rfl

theorem follow_cons (expect : Expect) (item : Item) (items : List Item) :
    expect.follow (item :: items) = (expect.after item).bind fun next => next.follow items :=
  List.foldlM_cons

theorem follow_append (expect : Expect) (left right : List Item) :
    expect.follow (left ++ right) = (expect.follow left).bind fun next => next.follow right :=
  List.foldlM_append

theorem follow_trans {expect middle : Expect} {left : List Item}
    (followed : expect.follow left = some middle) (right : List Item) :
    expect.follow (left ++ right) = middle.follow right := by
  rw [follow_append, followed, Option.bind_some]

@[simp] theorem after_other (expect : Expect) : expect.after .other = some expect := by
  cases expect <;> rfl

theorem after_data {expect next : Expect} {seq : Nat}
    (followed : expect.after (.data seq) = some next) : next = .dataOrGap (seq + 1) := by
  cases expect with
  | anything =>
      cases followed
      rfl
  | dataOrGap expected =>
      simp only [after] at followed
      split at followed <;> cases followed
      rfl
  | data expected =>
      simp only [after] at followed
      split at followed <;> cases followed
      rfl

theorem after_gap {expect next : Expect} {first count : Nat}
    (followed : expect.after (.gap first count) = some next) : next = .data (first + count) := by
  cases expect with
  | anything =>
      cases followed
      rfl
  | dataOrGap expected =>
      simp only [after] at followed
      split at followed <;> cases followed
      rfl
  | data expected => cases followed

theorem follow_filter (expect : Expect) (items : List Item) :
    expect.follow (items.filter fun item => !item.isOther) = expect.follow items := by
  induction items generalizing expect with
  | nil => rfl
  | cons item items induction =>
      cases item with
      | other =>
          rw [List.filter_cons_of_neg (by simp [Item.isOther]), follow_cons, after_other,
            Option.bind_some]
          exact induction expect
      | data seq =>
          rw [List.filter_cons_of_pos rfl, follow_cons, follow_cons]
          exact congrArg _ (funext induction)
      | gap first count =>
          rw [List.filter_cons_of_pos rfl, follow_cons, follow_cons]
          exact congrArg _ (funext induction)

/-- What is left of a stream that can be followed to its end can be followed
too. -/
theorem exists_follow_prefix {expect final : Expect} {left right : List Item}
    (followed : expect.follow (left ++ right) = some final) :
    ∃ middle, expect.follow left = some middle ∧ middle.follow right = some final := by
  rw [follow_append] at followed
  exact Option.bind_eq_some_iff.mp followed

theorem follow_between {next seq : Nat} {between after : List Item} {final : Expect}
    (gaps : ∀ item ∈ between, item.isData = false)
    (named : ∀ item ∈ between, item.isOther = false)
    (followed : (dataOrGap next).follow (between ++ .data seq :: after) = some final) :
    (between = [] ∧ seq = next) ∨ ∃ count, between = [.gap next count] ∧ seq = next + count := by
  cases between with
  | nil =>
      rw [List.nil_append, follow_cons] at followed
      rcases Option.bind_eq_some_iff.mp followed with ⟨_, same, _⟩
      simp only [Expect.after] at same
      split at same
      · exact Or.inl ⟨rfl, ‹_›⟩
      · cases same
  | cons item rest =>
      cases item with
      | data _ => exact absurd (gaps _ List.mem_cons_self) (by simp [Item.isData])
      | other => exact absurd (named _ List.mem_cons_self) (by simp [Item.isOther])
      | gap first count =>
          rw [List.cons_append, follow_cons] at followed
          rcases Option.bind_eq_some_iff.mp followed with ⟨expect, marked, rest'⟩
          simp only [Expect.after] at marked
          split at marked
          · rename_i same
            subst same
            cases marked
            -- after a gap nothing but the data behind it is accepted
            cases rest with
            | nil =>
                rw [List.nil_append, follow_cons] at rest'
                rcases Option.bind_eq_some_iff.mp rest' with ⟨_, resumed, _⟩
                simp only [Expect.after] at resumed
                split at resumed
                · exact Or.inr ⟨count, rfl, ‹_›⟩
                · cases resumed
            | cons second others =>
                cases second with
                | data _ =>
                    exact absurd (gaps _ (List.mem_cons_of_mem _ List.mem_cons_self))
                      (by simp [Item.isData])
                | other =>
                    exact absurd (named _ (List.mem_cons_of_mem _ List.mem_cons_self))
                      (by simp [Item.isOther])
                | gap _ _ =>
                    rw [List.cons_append, follow_cons] at rest'
                    cases rest'
          · cases marked

theorem announced_of_follow {expect : Expect} {items : List Item}
    (followed : anything.follow items = some expect) : Announced items := by
  intro before first between second after split gaps
  rw [← follow_filter, split] at followed
  rcases exists_follow_prefix followed with ⟨middle, _, rest⟩
  rw [follow_cons] at rest
  rcases Option.bind_eq_some_iff.mp rest with ⟨next, data, rest⟩
  rw [after_data data] at rest
  refine follow_between gaps ?_ rest
  intro item member
  have kept : item ∈ items.filter fun item => !item.isOther := by
    rw [split]
    exact List.mem_append_right _ (List.mem_cons_of_mem _ (List.mem_append_left _ member))
  simpa using List.of_mem_filter kept

theorem follow_run {expect : Expect} {first : Nat} {rest : List Nat}
    (consecutive : (first :: rest).IsChain fun left right => right = left + 1)
    (admitted : expect.after (.data first) = some (.dataOrGap (first + 1))) :
    expect.follow ((first :: rest).map .data) =
      some (.dataOrGap ((first :: rest).getLast (List.cons_ne_nil _ _) + 1)) := by
  induction rest generalizing expect first with
  | nil =>
      rw [List.map_cons, follow_cons, admitted]
      rfl
  | cons second rest induction =>
      rcases List.isChain_cons_cons.mp consecutive with ⟨rfl, consecutive⟩
      rw [List.map_cons, follow_cons, admitted, Option.bind_some,
        induction consecutive (by simp [after])]
      rfl

end Expect

end TelemetryGateway
