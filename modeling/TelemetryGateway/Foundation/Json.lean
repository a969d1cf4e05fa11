import Mathlib.Algebra.Group.Nat.Defs
import Mathlib.Data.List.TakeWhile

/-! # JSON texts

Values, the texts they are written as, and a reader of such texts. White space,
escapes and exponents are left out: a text with any of these is not read. -/

namespace TelemetryGateway

/-! ## Numbers -/

/-- `mantissa` divided by ten as often as there are `places`. -/
structure Decimal where
  mantissa : Int
  places : Nat
  deriving DecidableEq, Repr

namespace Decimal

def digits (n : Nat) : List Char := Nat.toDigits 10 n

def padded (width n : Nat) : List Char :=
  List.replicate (width - (digits n).length) '0' ++ digits n

def fixed (n places : Nat) : List Char :=
  if places = 0 then digits n
  else digits (n / 10 ^ places) ++ '.' :: padded places (n % 10 ^ places)

def render (decimal : Decimal) : List Char :=
  if decimal.mantissa < 0 then '-' :: fixed decimal.mantissa.natAbs decimal.places
  else fixed decimal.mantissa.natAbs decimal.places

def readDigits (input : List Char) : Option (List Char × List Char) :=
  let digits := input.takeWhile Char.isDigit
  if digits.isEmpty then none else some (digits, input.dropWhile Char.isDigit)

def readFixed (input : List Char) : Option ((Nat × Nat) × List Char) :=
  match readDigits input with
  | none => none
  | some (whole, rest) =>
      if 1 < whole.length ∧ whole.head? = some '0' then none
      else if rest.head? = some '.' then
        match readDigits rest.tail with
        | none => none
        | some (fraction, rest) =>
            some ((Nat.ofDigitChars 10 (whole ++ fraction) 0, fraction.length), rest)
      else some ((Nat.ofDigitChars 10 whole 0, 0), rest)

def read (input : List Char) : Option (Decimal × List Char) :=
  if input.head? = some '-' then
    (readFixed input.tail).map fun found =>
      ({ mantissa := -(found.1.1 : Int), places := found.1.2 }, found.2)
  else
    (readFixed input).map fun found =>
      ({ mantissa := found.1.1, places := found.1.2 }, found.2)

def Stops (rest : List Char) : Prop :=
  ∀ next ∈ rest.head?, next.isDigit = false ∧ next ≠ '.'

/-! ### Reading what was written -/

theorem isDigit_of_mem_digits {n : Nat} {digit : Char} (member : digit ∈ digits n) :
    digit.isDigit = true :=
  Nat.isDigit_of_mem_toDigits (by decide) (by decide) member

theorem isDigit_of_mem_padded {width n : Nat} {digit : Char} (member : digit ∈ padded width n) :
    digit.isDigit = true := by
  rcases List.mem_append.mp member with zeros | member
  · rw [List.eq_of_mem_replicate zeros]
    rfl
  · exact isDigit_of_mem_digits member

theorem digits_ne_nil (n : Nat) : digits n ≠ [] := Nat.toDigits_ne_nil

theorem padded_ne_nil (width n : Nat) : padded width n ≠ [] :=
  List.append_ne_nil_of_right_ne_nil _ (digits_ne_nil n)

theorem length_padded {width n : Nat} (positive : 0 < width) (small : n < 10 ^ width) :
    (padded width n).length = width := by
  have short : (digits n).length ≤ width :=
    (Nat.length_toDigits_le_iff (by decide) positive).mpr small
  rw [padded, List.length_append, List.length_replicate]
  exact Nat.sub_add_cancel short

theorem ofDigitChars_padded (width n : Nat) : Nat.ofDigitChars 10 (padded width n) 0 = n := by
  rw [padded, Nat.ofDigitChars_append, Nat.ofDigitChars_replicate_zero, Nat.mul_zero, digits,
    Nat.ofDigitChars_ten_toDigits]

theorem head_digits (n : Nat) : (digits n).length = 1 ∨ (digits n).head? ≠ some '0' := by
  induction n using Nat.strongRecOn with
  | ind n induction =>
      rcases Nat.lt_or_ge n 10 with small | large
      · left
        rw [digits, Nat.toDigits_of_lt_base small]
        rfl
      · right
        have split : digits n = digits (n / 10) ++ [(n % 10).digitChar] :=
          Nat.toDigits_of_base_le (by decide) large
        rw [split, List.head?_append, List.head?_eq_some_head (digits_ne_nil _), Option.some_or,
          ← List.head?_eq_some_head]
        rcases induction (n / 10) (Nat.div_lt_self (by omega) (by decide)) with single | head
        · have small : n / 10 < 10 := by
            have short := (Nat.length_toDigits_le_iff (b := 10) (by decide) Nat.one_pos).mp
              (Nat.le_of_eq single)
            exact short
          have positive : 0 < n / 10 := Nat.div_pos large (by decide)
          rw [digits, Nat.toDigits_of_lt_base small, List.head?_cons]
          intro zero
          have value : (n / 10).digitChar.toNat - 48 = '0'.toNat - 48 :=
            congrArg (fun digit => digit.toNat - 48) (Option.some.inj zero)
          rw [Nat.toNat_digitChar_sub_48_of_lt_ten small] at value
          exact absurd value (Nat.ne_of_gt positive)
        · exact head

theorem readDigits_append {front rest : List Char} (all : ∀ digit ∈ front, digit.isDigit = true)
    (some : front ≠ []) (stops : ∀ next ∈ rest.head?, next.isDigit = false) :
    readDigits (front ++ rest) = .some (front, rest) := by
  have taken : (front ++ rest).takeWhile Char.isDigit = front := by
    rw [List.takeWhile_append_of_pos all]
    cases rest with
    | nil => exact List.append_nil front
    | cons next rest =>
        rw [List.takeWhile_cons_of_neg (by rw [stops next rfl]; exact Bool.false_ne_true),
          List.append_nil]
  have dropped : (front ++ rest).dropWhile Char.isDigit = rest := by
    rw [List.dropWhile_append_of_pos all]
    cases rest with
    | nil => rfl
    | cons next rest =>
        exact List.dropWhile_cons_of_neg (by rw [stops next rfl]; exact Bool.false_ne_true)
  rw [readDigits, taken, dropped, if_neg (by rwa [List.isEmpty_iff])]

theorem readFixed_fixed (n places : Nat) {rest : List Char} (stops : Stops rest) :
    readFixed (fixed n places ++ rest) = some ((n, places), rest) := by
  have head (m : Nat) : ¬(1 < (digits m).length ∧ (digits m).head? = some '0') := by
    rintro ⟨long, zero⟩
    rcases head_digits m with single | different
    · exact absurd single (Nat.ne_of_gt long)
    · exact different zero
  rw [fixed]
  split
  · rename_i none
    have noPoint : rest.head? ≠ some '.' := fun point => (stops '.' point).2 rfl
    rw [readFixed, readDigits_append (fun _ => isDigit_of_mem_digits) (digits_ne_nil n)
      fun next member => (stops next member).1]
    simp only [if_neg (head n), if_neg noPoint]
    rw [digits, Nat.ofDigitChars_ten_toDigits, none]
  · rename_i some
    have positive := Nat.pos_of_ne_zero some
    have small : n % 10 ^ places < 10 ^ places := Nat.mod_lt _ (Nat.pow_pos (by decide))
    have point : ∀ next ∈ ('.' :: (padded places (n % 10 ^ places) ++ rest)).head?,
        next.isDigit = false := by
      intro next member
      cases member
      rfl
    rw [List.append_assoc, List.cons_append, readFixed,
      readDigits_append (fun _ => isDigit_of_mem_digits) (digits_ne_nil _) point]
    simp only [if_neg (head _), List.head?_cons, if_true, List.tail_cons]
    rw [readDigits_append (fun _ => isDigit_of_mem_padded) (padded_ne_nil _ _)
      fun next member => (stops next member).1]
    simp only [length_padded positive small]
    rw [Nat.ofDigitChars_append, Nat.ofDigitChars_eq_ofDigitChars_zero, ofDigitChars_padded,
      length_padded positive small, digits, Nat.ofDigitChars_ten_toDigits, Nat.div_add_mod]

theorem head_fixed (n places : Nat) (rest : List Char) :
    ∃ first, (fixed n places ++ rest).head? = some first ∧ first.isDigit = true := by
  have first (m : Nat) (rest : List Char) :
      ∃ first, (digits m ++ rest).head? = some first ∧ first.isDigit = true := by
    rcases List.exists_cons_of_ne_nil (digits_ne_nil m) with ⟨digit, others, shape⟩
    have member : digit ∈ digits m := by
      rw [shape]
      exact List.mem_cons_self
    exact ⟨digit, by rw [shape]; rfl, isDigit_of_mem_digits member⟩
  rw [fixed]
  split
  · exact first n rest
  · rw [List.append_assoc]
    exact first _ _

theorem read_render (decimal : Decimal) {rest : List Char} (stops : Stops rest) :
    read (decimal.render ++ rest) = some (decimal, rest) := by
  rcases decimal with ⟨mantissa, places⟩
  rw [render]
  split
  · rename_i negative
    have value : -(mantissa.natAbs : Int) = mantissa := by
      rw [Int.ofNat_natAbs_of_nonpos (Int.le_of_lt negative), Int.neg_neg]
    rw [List.cons_append, read, List.head?_cons, if_pos rfl, List.tail_cons,
      readFixed_fixed _ _ stops, Option.map_some, value]
  · rename_i nonnegative
    have value : (mantissa.natAbs : Int) = mantissa :=
      Int.natAbs_of_nonneg (Int.not_lt.mp nonnegative)
    rcases head_fixed mantissa.natAbs places rest with ⟨first, head, isDigit⟩
    have notMinus : (fixed mantissa.natAbs places ++ rest).head? ≠ some '-' := by
      intro minus
      rw [head] at minus
      cases minus
      cases isDigit
    rw [read, if_neg notMinus, readFixed_fixed _ _ stops, Option.map_some, value]

theorem head_render (decimal : Decimal) (rest : List Char) :
    ∃ first, (decimal.render ++ rest).head? = some first ∧
      (first.isDigit = true ∨ first = '-') := by
  rw [render]
  split
  · exact ⟨'-', rfl, .inr rfl⟩
  · rcases head_fixed decimal.mantissa.natAbs decimal.places rest with ⟨first, head, isDigit⟩
    exact ⟨first, head, .inl isDigit⟩

end Decimal

/-! ## Texts -/

def isPlain (character : Char) : Bool :=
  character != '"' && character != '\\' && decide (32 ≤ character.toNat)

structure PlainText where
  chars : List Char
  plain : chars.all isPlain = true

namespace PlainText

/-- Behind the opening quote. -/
def read (input : List Char) : Option (PlainText × List Char) :=
  if (input.dropWhile isPlain).head? = some '"' then
    some ({ chars := input.takeWhile isPlain, plain := List.all_takeWhile },
      (input.dropWhile isPlain).tail)
  else none

theorem read_append (value : PlainText) (rest : List Char) :
    read (value.chars ++ '"' :: rest) = some (value, rest) := by
  have all : ∀ character ∈ value.chars, isPlain character = true := List.all_eq_true.mp value.plain
  have dropped : (value.chars ++ '"' :: rest).dropWhile isPlain = '"' :: rest := by
    rw [List.dropWhile_append_of_pos all]
    rfl
  have taken : (value.chars ++ '"' :: rest).takeWhile isPlain = value.chars := by
    rw [List.takeWhile_append_of_pos all]
    exact List.append_nil _
  simp only [read, dropped, taken, List.head?_cons, if_true, List.tail_cons]

end PlainText

/-! ## Values -/

inductive Json
  | bool (value : Bool)
  | number (value : Decimal)
  | string (value : PlainText)
  | array (items : List Json)
  | object (members : List (PlainText × Json))

namespace Json

mutual

def render : Json → List Char
  | .bool true => ['t', 'r', 'u', 'e']
  | .bool false => ['f', 'a', 'l', 's', 'e']
  | .number value => value.render
  | .string value => '"' :: (value.chars ++ ['"'])
  | .array items => '[' :: (renderItems items ++ [']'])
  | .object members => '{' :: (renderMembers members ++ ['}'])

def renderItems : List Json → List Char
  | [] => []
  | item :: rest => item.render ++ renderMoreItems rest

def renderMoreItems : List Json → List Char
  | [] => []
  | item :: rest => ',' :: (item.render ++ renderMoreItems rest)

def renderMembers : List (PlainText × Json) → List Char
  | [] => []
  | (key, value) :: rest =>
      '"' :: (key.chars ++ '"' :: ':' :: (value.render ++ renderMoreMembers rest))

def renderMoreMembers : List (PlainText × Json) → List Char
  | [] => []
  | (key, value) :: rest =>
      ',' :: '"' :: (key.chars ++ '"' :: ':' :: (value.render ++ renderMoreMembers rest))

end

mutual

/-- Read one value. Every value and every item costs one unit of the fuel. -/
def read : Nat → List Char → Option (Json × List Char)
  | 0, _ => none
  | fuel + 1, input =>
      match input.head? with
      | some '"' => (PlainText.read input.tail).map fun found => (.string found.1, found.2)
      | some '[' =>
          if input.tail.head? = some ']' then some (.array [], input.tail.tail)
          else (readItems fuel input.tail).map fun found => (.array found.1, found.2)
      | some '{' =>
          if input.tail.head? = some '}' then some (.object [], input.tail.tail)
          else (readMembers fuel input.tail).map fun found => (.object found.1, found.2)
      | some 't' =>
          if input.take 4 = ['t', 'r', 'u', 'e'] then some (.bool true, input.drop 4) else none
      | some 'f' =>
          if input.take 5 = ['f', 'a', 'l', 's', 'e'] then some (.bool false, input.drop 5)
          else none
      | _ => (Decimal.read input).map fun found => (.number found.1, found.2)

def readItems : Nat → List Char → Option (List Json × List Char)
  | 0, _ => none
  | fuel + 1, input =>
      match read fuel input with
      | none => none
      | some (item, rest) =>
          if rest.head? = some ',' then
            (readItems fuel rest.tail).map fun found => (item :: found.1, found.2)
          else if rest.head? = some ']' then some ([item], rest.tail)
          else none

def readMembers : Nat → List Char → Option (List (PlainText × Json) × List Char)
  | 0, _ => none
  | fuel + 1, input =>
      if input.head? = some '"' then
        match PlainText.read input.tail with
        | none => none
        | some (key, rest) =>
            if rest.head? = some ':' then
              match read fuel rest.tail with
              | none => none
              | some (value, rest) =>
                  if rest.head? = some ',' then
                    (readMembers fuel rest.tail).map fun found => ((key, value) :: found.1, found.2)
                  else if rest.head? = some '}' then some ([(key, value)], rest.tail)
                  else none
            else none
      else none

end

def parse (input : List Char) : Option Json :=
  match read (input.length + 1) input with
  | some (value, []) => some value
  | _ => none

theorem renderMoreItems_eq (items : List Json) :
    renderMoreItems items = items.flatMap fun item => ',' :: item.render := by
  induction items with
  | nil => rfl
  | cons item items induction =>
      rw [renderMoreItems, induction, List.flatMap_cons]
      rfl

theorem renderMoreMembers_append (left right : List (PlainText × Json)) :
    renderMoreMembers (left ++ right) = renderMoreMembers left ++ renderMoreMembers right := by
  induction left with
  | nil => rfl
  | cons member left induction =>
      rcases member with ⟨key, value⟩
      simp only [List.cons_append, renderMoreMembers, List.append_assoc, induction]

theorem renderMembers_append {left : List (PlainText × Json)} (some : left ≠ [])
    (right : List (PlainText × Json)) :
    renderMembers (left ++ right) = renderMembers left ++ renderMoreMembers right := by
  cases left with
  | nil => exact absurd rfl some
  | cons member left =>
      rcases member with ⟨key, value⟩
      simp only [List.cons_append, renderMembers, List.append_assoc, renderMoreMembers_append]

/-! ### Reading what was written -/

mutual

/-- The fuel that reading a value takes. -/
def weight : Json → Nat
  | .array items => weightItems items + 1
  | .object members => weightMembers members + 1
  | _ => 1

def weightItems : List Json → Nat
  | [] => 0
  | item :: rest => item.weight + weightItems rest + 1

def weightMembers : List (PlainText × Json) → Nat
  | [] => 0
  | (_, value) :: rest => value.weight + weightMembers rest + 1

end

theorem read_number (fuel : Nat) {input : List Char} {first : Char}
    (head : input.head? = some first) (numeric : first.isDigit = true ∨ first = '-') :
    read (fuel + 1) input = (Decimal.read input).map fun found => (.number found.1, found.2) := by
  rw [read, head]
  split
  case h_6 => rfl
  all_goals
    rename_i same
    cases same
    rcases numeric with numeric | numeric <;> cases numeric

theorem head_render_ne (value : Json) (rest : List Char) :
    (value.render ++ rest).head? ≠ some ']' := by
  intro same
  cases value with
  | bool value => cases value <;> cases same
  | number value =>
      rcases value.head_render rest with ⟨first, head, numeric⟩
      rw [render, head] at same
      cases same
      rcases numeric with numeric | numeric <;> cases numeric
  | string value => cases same
  | array items => cases same
  | object members => cases same

theorem stops_cons {next : Char} (rest : List Char) (notDigit : next.isDigit = false)
    (notPoint : next ≠ '.') : Decimal.Stops (next :: rest) := by
  intro other member
  cases member
  exact ⟨notDigit, notPoint⟩

theorem stops_moreItems (items : List Json) (rest : List Char) :
    Decimal.Stops (renderMoreItems items ++ ']' :: rest) := by
  cases items with
  | nil => exact stops_cons _ rfl (by decide)
  | cons item items => exact stops_cons _ rfl (by decide)

theorem stops_moreMembers (members : List (PlainText × Json)) (rest : List Char) :
    Decimal.Stops (renderMoreMembers members ++ '}' :: rest) := by
  cases members with
  | nil => exact stops_cons _ rfl (by decide)
  | cons member members => exact stops_cons _ rfl (by decide)

theorem weight_pos (value : Json) : 0 < value.weight := by
  cases value with
  | array items => exact Nat.succ_pos _
  | object members => exact Nat.succ_pos _
  | _ => exact Nat.one_pos

theorem readMembers_cons (fuel : Nat) (key : PlainText) (input : List Char) :
    readMembers (fuel + 1) ('"' :: (key.chars ++ '"' :: ':' :: input)) =
      match read fuel input with
      | none => none
      | some (value, rest) =>
          if rest.head? = some ',' then
            (readMembers fuel rest.tail).map fun found => ((key, value) :: found.1, found.2)
          else if rest.head? = some '}' then some ([(key, value)], rest.tail)
          else none := by
  rw [readMembers]
  simp only [List.head?_cons, if_true, List.tail_cons, key.read_append]

mutual

theorem read_render : ∀ (value : Json) (rest : List Char) (fuel : Nat), Decimal.Stops rest →
    value.weight ≤ fuel → read fuel (value.render ++ rest) = some (value, rest)
  | value, _, 0, _, enough => absurd enough (Nat.not_le_of_lt value.weight_pos)
  | .bool true, rest, fuel + 1, _, _ => by
      rw [read]
      rfl
  | .bool false, rest, fuel + 1, _, _ => by
      rw [read]
      rfl
  | .number value, rest, fuel + 1, stops, _ => by
      rcases value.head_render rest with ⟨first, head, numeric⟩
      rw [render, read_number fuel head numeric, value.read_render stops, Option.map_some]
  | .string value, rest, fuel + 1, _, _ => by
      rw [render, read, List.cons_append, List.append_assoc, List.singleton_append]
      simp only [List.head?_cons, List.tail_cons, value.read_append, Option.map_some]
  | .array [], rest, fuel + 1, _, _ => by
      rw [read]
      rfl
  | .array (item :: items), rest, fuel + 1, _, enough => by
      have inner := readItems_render (item :: items) rest fuel (List.cons_ne_nil _ _)
        (Nat.le_of_succ_le_succ enough)
      have opening : (renderItems (item :: items) ++ ']' :: rest).head? ≠ some ']' := by
        rw [renderItems, List.append_assoc]
        exact head_render_ne item _
      rw [render, read, List.cons_append, List.append_assoc, List.singleton_append]
      simp only [List.head?_cons, List.tail_cons, if_neg opening, inner, Option.map_some]
  | .object [], rest, fuel + 1, _, _ => by
      rw [read]
      rfl
  | .object (member :: members), rest, fuel + 1, _, enough => by
      have inner := readMembers_render (member :: members) rest fuel (List.cons_ne_nil _ _)
        (Nat.le_of_succ_le_succ enough)
      have opening : (renderMembers (member :: members) ++ '}' :: rest).head? ≠ some '}' := by
        intro same
        cases same
      rw [render, read, List.cons_append, List.append_assoc, List.singleton_append]
      simp only [List.head?_cons, List.tail_cons, if_neg opening, inner, Option.map_some]

theorem readItems_render : ∀ (items : List Json) (rest : List Char) (fuel : Nat), items ≠ [] →
    weightItems items ≤ fuel →
    readItems fuel (renderItems items ++ ']' :: rest) = some (items, rest)
  | [], _, _, nonempty, _ => absurd rfl nonempty
  | _ :: _, _, 0, _, enough => absurd enough (Nat.not_succ_le_zero _)
  | [item], rest, fuel + 1, _, enough => by
      have first := read_render item (']' :: rest) fuel (stops_cons _ rfl (by decide))
        (Nat.le_of_succ_le_succ enough)
      rw [renderItems, renderMoreItems, List.append_nil, readItems, first]
      rfl
  | item :: next :: more, rest, fuel + 1, _, enough => by
      rw [weightItems] at enough
      have first := read_render item (renderMoreItems (next :: more) ++ ']' :: rest) fuel
        (stops_moreItems _ _) (by omega)
      have others := readItems_render (next :: more) rest fuel (List.cons_ne_nil _ _) (by omega)
      rw [renderItems, List.append_assoc, readItems, first]
      simp only [renderMoreItems, List.cons_append, List.head?_cons, if_true, List.tail_cons]
      rw [← renderItems, others, Option.map_some]

theorem readMembers_render : ∀ (members : List (PlainText × Json)) (rest : List Char)
    (fuel : Nat), members ≠ [] → weightMembers members ≤ fuel →
    readMembers fuel (renderMembers members ++ '}' :: rest) = some (members, rest)
  | [], _, _, nonempty, _ => absurd rfl nonempty
  | _ :: _, _, 0, _, enough => absurd enough (Nat.not_succ_le_zero _)
  | [(key, value)], rest, fuel + 1, _, enough => by
      have first := read_render value ('}' :: rest) fuel (stops_cons _ rfl (by decide))
        (Nat.le_of_succ_le_succ enough)
      rw [renderMembers, renderMoreMembers, List.append_nil, List.cons_append, List.append_assoc,
        List.cons_append, List.cons_append, readMembers_cons, first]
      rfl
  | (key, value) :: next :: more, rest, fuel + 1, _, enough => by
      rw [weightMembers] at enough
      have first := read_render value (renderMoreMembers (next :: more) ++ '}' :: rest) fuel
        (stops_moreMembers _ _) (by omega)
      have others := readMembers_render (next :: more) rest fuel (List.cons_ne_nil _ _) (by omega)
      rw [renderMembers, List.cons_append, List.append_assoc, List.cons_append, List.cons_append,
        List.append_assoc, readMembers_cons, first]
      simp only [renderMoreMembers, List.cons_append, List.head?_cons, if_true, List.tail_cons]
      rw [renderMembers, List.cons_append] at others
      rw [others, Option.map_some]

end

mutual

theorem weight_le_length : ∀ value : Json, value.weight ≤ value.render.length
  | .bool true => by decide
  | .bool false => by decide
  | .number value => by
      rcases value.head_render [] with ⟨first, head, _⟩
      rw [List.append_nil] at head
      exact List.length_pos_of_mem (List.mem_of_head? head)
  | .string value => Nat.succ_pos _
  | .array items => by
      have inner := weightItems_le_length items
      rw [weight, render, List.length_cons, List.length_append, List.length_singleton]
      omega
  | .object members => by
      have inner := weightMembers_le_length members
      rw [weight, render, List.length_cons, List.length_append, List.length_singleton]
      omega

theorem weightItems_le_length : ∀ items : List Json,
    weightItems items ≤ (renderItems items).length + 1
  | [] => Nat.zero_le _
  | [item] => by
      have first := weight_le_length item
      rw [weightItems, weightItems, renderItems, List.length_append]
      omega
  | item :: next :: more => by
      have first := weight_le_length item
      have others := weightItems_le_length (next :: more)
      rw [weightItems, renderItems, List.length_append, renderMoreItems, List.length_cons,
        ← renderItems]
      omega

theorem weightMembers_le_length : ∀ members : List (PlainText × Json),
    weightMembers members ≤ (renderMembers members).length + 1
  | [] => Nat.zero_le _
  | [(key, value)] => by
      have first := weight_le_length value
      rw [weightMembers, weightMembers, renderMembers]
      simp only [List.length_cons, List.length_append]
      omega
  | (key, value) :: next :: more => by
      have first := weight_le_length value
      have others := weightMembers_le_length (next :: more)
      rw [weightMembers, renderMembers, renderMoreMembers]
      rw [renderMembers] at others
      simp only [List.length_cons, List.length_append] at others ⊢
      omega

end

theorem parse_render (value : Json) : parse value.render = some value := by
  have enough : value.weight ≤ value.render.length + 1 :=
    Nat.le_succ_of_le value.weight_le_length
  have whole := value.read_render [] (value.render.length + 1)
    (fun _ member => by cases member) enough
  rw [List.append_nil] at whole
  rw [parse, whole]

end Json

end TelemetryGateway
