import TelemetryGateway.Foundation.DropOldest

/-! # Items that expire from the front

Of a list in the order of time the newest items are kept, as long as they are
young enough. -/

namespace TelemetryGateway

variable {T : Type*}

def Rising (young : T → Bool) (items : List T) : Prop :=
  items.Pairwise fun older newer => young older → young newer

def recent (young : T → Bool) (limit : Nat) (items : List T) : List T :=
  (items.filter young).rtake limit

def expire (young : T → Bool) (limit : Nat) : List T → List T
  | [] => []
  | front :: rest =>
      if ¬ young front ∨ limit < (front :: rest).length then expire young limit rest
      else front :: rest

section

variable {young younger : T → Bool} {limit : Nat} {items rest : List T} {front item : T}

theorem rtake_cons (few : limit ≤ rest.length) : (front :: rest).rtake limit = rest.rtake limit := by
  simp [List.rtake, Nat.sub_add_comm few]

theorem rtake_all (few : items.length ≤ limit) : items.rtake limit = items := by
  simp [List.rtake, few]

theorem Rising.behind (rising : Rising young (front :: rest)) : Rising young rest :=
  (List.pairwise_cons.mp rising).2

theorem Rising.filter_rest (rising : Rising young (front :: rest)) (fresh : young front) :
    rest.filter young = rest :=
  List.filter_eq_self.mpr fun item member => (List.pairwise_cons.mp rising).1 item member fresh

theorem Rising.filter_rtake (rising : Rising young items) (limit : Nat) :
    (items.rtake limit).filter young = recent young limit items := by
  rw [recent]
  induction items with
  | nil => simp [List.rtake]
  | cons front rest induction =>
      rcases Nat.lt_or_ge rest.length limit with all | few
      · have fits : (front :: rest).length ≤ limit := all
        rw [rtake_all fits, rtake_all]
        exact Nat.le_trans (List.length_filter_le ..) fits
      · rw [rtake_cons few, induction rising.behind]
        cases fresh : young front with
        | true =>
            rw [List.filter_cons_of_pos fresh, rising.filter_rest fresh, rtake_cons few]
        | false => simp [fresh]

theorem Rising.expire_eq (rising : Rising young items) :
    expire young limit items = recent young limit items := by
  induction items with
  | nil => simp [expire, recent, List.rtake]
  | cons front rest induction =>
      rw [expire, induction rising.behind, recent, recent]
      by_cases fresh : young front
      · rw [List.filter_cons_of_pos fresh, rising.filter_rest fresh]
        rcases Nat.lt_or_ge limit (front :: rest).length with many | few
        · rw [if_pos (Or.inr many), rtake_cons (Nat.le_of_lt_succ many)]
        · have stays : ¬ (¬ young front ∨ limit < (front :: rest).length) := by
            rintro (expired | full)
            · exact expired fresh
            · exact Nat.not_lt.mpr few full
          rw [if_neg stays, rtake_all few]
      · rw [if_pos (Or.inl fresh), List.filter_cons_of_neg fresh]

theorem filter_stricter (stricter : ∀ item, younger item → young item) (items : List T) :
    (items.filter young).filter younger = items.filter younger := by
  rw [List.filter_filter]
  apply List.filter_congr
  intro item _
  cases still : younger item with
  | true => simp [stricter item still]
  | false => rfl

theorem recent_recent (rising : Rising younger items)
    (stricter : ∀ item, younger item → young item) (fresh : List T) :
    recent younger limit (recent young limit items ++ fresh) =
      recent younger limit (items ++ fresh) := by
  have part : Rising younger (items.filter young) := List.Pairwise.sublist List.filter_sublist rising
  rw [recent, List.filter_append, recent, part.filter_rtake, recent, filter_stricter stricter,
    rtake_rtake_append,
    ← List.filter_append, recent]

theorem recent_sublist (young : T → Bool) (limit : Nat) (items : List T) :
    (recent young limit items).Sublist items :=
  (List.drop_sublist ..).trans List.filter_sublist

theorem expire_concat (rising : Rising younger (items ++ [item]))
    (stricter : ∀ item, younger item → young item) :
    expire younger limit (recent young limit items ++ [item]) =
      recent younger limit (items ++ [item]) := by
  have before : Rising younger items := (List.pairwise_append.mp rising).1
  have kept : Rising younger (recent young limit items ++ [item]) :=
    List.Pairwise.sublist ((recent_sublist young limit items).append_right [item]) rising
  rw [kept.expire_eq, recent_recent before stricter]

/-- A stricter age leaves out nothing, whatever is shown of the items, if and
only if all that was young still is. -/
theorem recent_map_eq_iff {Shown : Type*} (show_ : T → Shown) (rising : Rising young items)
    (risingToo : Rising younger items) (stricter : ∀ item, younger item → young item) :
    (recent young limit items).map show_ = (recent younger limit items).map show_ ↔
      ∀ item ∈ items.rtake limit, young item → younger item := by
  rw [← rising.filter_rtake, ← risingToo.filter_rtake, ← filter_stricter stricter]
  constructor
  · intro same item member fresh
    have sizes := congrArg List.length same
    rw [List.length_map, List.length_map] at sizes
    apply List.length_filter_eq_length_iff.mp sizes.symm
    exact List.mem_filter.mpr ⟨member, fresh⟩
  · intro still
    have all : ∀ item ∈ (items.rtake limit).filter young, younger item := fun item member =>
      still item (List.mem_filter.mp member).1 (List.mem_filter.mp member).2
    rw [List.filter_eq_self.mpr all]

end

end TelemetryGateway
