import TelemetryGateway.View.Http

/-! # A request in pieces

The outcome depends on how much has come when reading stops, and on nothing
else. -/

namespace TelemetryGateway

namespace Http

/-- What `recv` and `poll` answer while the client goes on sending. -/
def Recv.Prompt : Recv → Prop
  | .data bytes => 0 < bytes.length ∧ bytes.length ≤ kReadSize
  | .closed => False
  | .interrupted => True
  | .wouldBlock ready => ready
  | .failed => False

instance : DecidablePred Recv.Prompt
  | .data bytes => inferInstanceAs (Decidable (0 < bytes.length ∧ bytes.length ≤ kReadSize))
  | .closed => inferInstanceAs (Decidable False)
  | .interrupted => inferInstanceAs (Decidable True)
  | .wouldBlock ready => inferInstanceAs (Decidable (ready = true))
  | .failed => inferInstanceAs (Decidable False)

def received (answers : List Recv) : List (List UInt8) :=
  answers.filterMap fun
    | .data bytes => some bytes
    | _ => none

/-- The answers bring the bytes, cut in some way. -/
structure Delivers (bytes : List UInt8) (answers : List Recv) : Prop where
  prompt : ∀ answer ∈ answers, answer.Prompt
  joined : (received answers).flatten = bytes

def OfLine (line : List UInt8) : Outcome → Prop
  | .handled path => Token line path
  | .malformed => ¬ ∃ path, Token line path
  | .tooLarge => False
  | .gone => False

/-- One outcome however the bytes are cut, and, unless they are too many, the
one of the request line. -/
structure Reproducible (bytes : List UInt8) : Prop where
  one : ∀ first second, Delivers bytes first → Delivers bytes second →
    outcome first = outcome second
  exact : ∀ answers, Delivers bytes answers → outcome answers ≠ .tooLarge →
    OfLine (requestLine bytes) (outcome answers)

def headersEnd (bytes : List UInt8) : Option Nat :=
  (findPart terminator bytes).map (· + terminator.length)

def enough (request : List UInt8) : Bool :=
  (findPart terminator request).isSome || decide (kMaxRequest < request.length)

def stopped (request : List UInt8) : Incoming :=
  if (findPart terminator request).isSome then .request request else .tooLarge

section

variable {bytes : List UInt8} {answers : List Recv} {ending : Nat}

theorem Delivers.pieces (delivers : Delivers bytes answers) :
    Pieces kReadSize bytes (received answers) := by
  constructor
  case joined => exact delivers.joined
  case sizes =>
    intro piece member
    rcases List.mem_filterMap.mp member with ⟨answer, found, same⟩
    have prompt := delivers.prompt answer found
    cases answer with
    | data bytes =>
        cases same
        exact prompt
    | closed => cases same
    | interrupted => cases same
    | wouldBlock ready => cases same
    | failed => cases same

theorem exists_delivers {pieces : List (List UInt8)} (cut : Pieces kReadSize bytes pieces) :
    ∃ answers, Delivers bytes answers ∧ received answers = pieces := by
  have same : received (pieces.map Recv.data) = pieces := by
    simp [received, List.filterMap_map]
  refine ⟨pieces.map Recv.data, ⟨?_, ?_⟩, same⟩
  · intro answer member
    rcases List.mem_map.mp member with ⟨piece, found, rfl⟩
    exact cut.sizes piece found
  · rw [same]
    exact cut.joined

theorem readRequest_stops {request : List UInt8} (stops : enough request) :
    readRequest request answers = stopped request := by
  rw [readRequest.eq_def, stopped]
  by_cases found : (findPart terminator request).isSome
  · rw [if_pos found, if_pos found]
  · have large : kMaxRequest < request.length := by simpa [enough, found] using stops
    rw [if_neg found, if_neg found, if_pos large]

theorem not_enough {request : List UInt8} (goesOn : ¬ enough request) :
    ¬ (findPart terminator request).isSome ∧ ¬ kMaxRequest < request.length := by
  simpa [enough] using goesOn

theorem readRequest_eq (prompt : ∀ answer ∈ answers, answer.Prompt) (request : List UInt8) :
    readRequest request answers =
      match gather enough request (received answers) with
      | some got => stopped got
      | none => .gone := by
  induction answers generalizing request with
  | nil =>
      by_cases stops : enough request
      · rw [readRequest_stops stops, gather_enough stops]
      · rcases not_enough stops with ⟨open_, small⟩
        simp [readRequest, open_, small, received, gather, stops]
  | cons answer rest induction =>
      by_cases stops : enough request
      · rw [readRequest_stops stops, gather_enough stops]
      · rcases not_enough stops with ⟨open_, small⟩
        have later := induction fun other member => prompt other (List.mem_cons_of_mem _ member)
        have now := prompt answer List.mem_cons_self
        rw [readRequest.eq_def, if_neg open_, if_neg small]
        cases answer with
        | data bytes =>
            have first : received (.data bytes :: rest) = bytes :: received rest := rfl
            rw [first, gather, if_neg stops]
            exact later (request ++ bytes)
        | closed => cases now
        | interrupted => exact later request
        | wouldBlock ready =>
            have same : received (.wouldBlock ready :: rest) = received rest := rfl
            rw [same, ← later request]
            exact if_pos now
        | failed => cases now

/-! ## How much has come -/

def leastRead (ending : Nat) : Nat := min ending (kMaxRequest + 1)

def outcomeAt (bytes : List UInt8) (ending size : Nat) : Outcome :=
  if ending ≤ size then pathOutcome (bytes.take size) else .tooLarge

theorem isSome_take_iff (ended : headersEnd bytes = some ending) (size : Nat) :
    (findPart terminator (bytes.take size)).isSome ↔ ending ≤ size := by
  rcases Option.map_eq_some_iff.mp ended with ⟨start, found, rfl⟩
  have some : terminator ≠ [] := by decide
  simp [isSome_findPart_take some, found]

theorem ending_le (ended : headersEnd bytes = some ending) : ending ≤ bytes.length := by
  rcases Option.map_eq_some_iff.mp ended with ⟨start, found, rfl⟩
  exact findPart_le found

theorem ending_pos (ended : headersEnd bytes = some ending) : 0 < ending := by
  rcases Option.map_eq_some_iff.mp ended with ⟨start, found, rfl⟩
  exact Nat.succ_pos _

theorem enough_from (ended : headersEnd bytes = some ending) :
    EnoughFrom enough bytes (leastRead ending) := by
  intro size inside
  rw [enough, Bool.or_eq_true, isSome_take_iff ended, decide_eq_true_iff, List.length_take,
    leastRead]
  omega

theorem outcome_stopped (ended : headersEnd bytes = some ending) (size : Nat) :
    (stopped (bytes.take size)).outcome = outcomeAt bytes ending size := by
  have found := isSome_take_iff ended size
  rw [stopped, outcomeAt]
  by_cases complete : ending ≤ size
  · rw [if_pos complete, if_pos (found.mpr complete)]
    rfl
  · rw [if_neg complete, if_neg (fun some => complete (found.mp some))]
    rfl

theorem outcome_iff (ended : headersEnd bytes = some ending) (result : Outcome) :
    (∃ answers, Delivers bytes answers ∧ outcome answers = result) ↔
      ∃ size, leastRead ending ≤ size ∧ size < leastRead ending + kReadSize ∧
        size ≤ bytes.length ∧ result = outcomeAt bytes ending size := by
  have positive : 0 < leastRead ending := by
    have some := ending_pos ended
    rw [leastRead]
    omega
  have reached : leastRead ending ≤ bytes.length :=
    Nat.le_trans (Nat.min_le_left ..) (ending_le ended)
  constructor
  · rintro ⟨answers, delivers, rfl⟩
    rcases delivers.pieces.gathered (enough_from ended) positive reached with
      ⟨size, above, below, inside, gathered⟩
    refine ⟨size, above, below, inside, ?_⟩
    rw [outcome, readRequest_eq delivers.prompt, gathered]
    exact outcome_stopped ended size
  · rintro ⟨size, above, below, inside, rfl⟩
    rcases exists_pieces (enough_from ended) positive above below inside with
      ⟨pieces, cut, gathered⟩
    rcases exists_delivers cut with ⟨answers, delivers, same⟩
    refine ⟨answers, delivers, ?_⟩
    rw [outcome, readRequest_eq delivers.prompt, same, gathered]
    exact outcome_stopped ended size

/-! ## The request line -/

theorem pathOutcome_ofLine (line : List UInt8) : OfLine line (pathOutcome line) := by
  rw [pathOutcome]
  cases found : requestPath line with
  | none =>
      rintro ⟨path, token⟩
      rw [requestPath_eq_some_iff.mpr token] at found
      cases found
  | some path => exact requestPath_eq_some_iff.mp found

theorem pathOutcome_eq_iff {first second : List UInt8} :
    pathOutcome first = pathOutcome second ↔ requestPath first = requestPath second := by
  constructor
  · intro same
    rw [pathOutcome, pathOutcome] at same
    cases left : requestPath first with
    | none =>
        cases right : requestPath second with
        | none => rfl
        | some path => simp [left, right] at same
    | some path =>
        cases right : requestPath second with
        | none => simp [left, right] at same
        | some other => simpa [left, right] using same
  · intro same
    rw [pathOutcome, pathOutcome, same]

theorem requestLine_prefix (ended : headersEnd bytes = some ending) {size : Nat}
    (complete : ending ≤ size) : ∃ more, bytes.take size = requestLine bytes ++ more := by
  rcases Option.map_eq_some_iff.mp ended with ⟨start, found, rfl⟩
  rcases findPart_prefix found (show lineEnd <+: terminator by decide) with
    ⟨length, before, foundLine⟩
  have short : length ≤ size := by omega
  refine ⟨(bytes.drop length).take (size - length), ?_⟩
  rw [requestLine, foundLine, ← List.take_add, Nat.add_sub_cancel' short]

/-- The request line decides over its path. -/
def LineDecides (bytes : List UInt8) (ending : Nat) : Prop :=
  2 ≤ (requestLine bytes).count space ∨
    ¬ ∃ path, Token (bytes.take (ending + (kReadSize - 1))) path

theorem requestPath_of_none {more : List UInt8} (none : ¬ ∃ path, Token (bytes ++ more) path) :
    requestPath bytes = Option.none := by
  rw [Option.eq_none_iff_forall_ne_some]
  intro path found
  exact none ⟨path, (requestPath_eq_some_iff.mp found).append more⟩

theorem LineDecides.same (decides : LineDecides bytes ending)
    (ended : headersEnd bytes = some ending) {size : Nat} (complete : ending ≤ size)
    (below : size < ending + kReadSize) :
    pathOutcome (bytes.take size) = pathOutcome (requestLine bytes) := by
  rcases requestLine_prefix ended complete with ⟨more, line⟩
  rw [pathOutcome_eq_iff, line]
  rcases decides with two | none
  · exact requestPath_append two more
  · have longer : bytes.take (ending + (kReadSize - 1)) =
        bytes.take size ++ (bytes.drop size).take (ending + (kReadSize - 1) - size) := by
      rw [← List.take_add]
      congr 1
      rw [kReadSize] at below ⊢
      omega
    rw [longer, line] at none
    rw [requestPath_of_none none]
    rw [List.append_assoc] at none
    rw [requestPath_of_none none]

theorem not_reproducible_of_sizes (ended : headersEnd bytes = some ending) {first second : Nat}
    (firstStops : leastRead ending ≤ first ∧ first < leastRead ending + kReadSize ∧
      first ≤ bytes.length)
    (secondStops : leastRead ending ≤ second ∧ second < leastRead ending + kReadSize ∧
      second ≤ bytes.length)
    (differ : outcomeAt bytes ending first ≠ outcomeAt bytes ending second) :
    ¬ Reproducible bytes := by
  intro reproducible
  rcases (outcome_iff ended _).mpr ⟨first, firstStops.1, firstStops.2.1, firstStops.2.2, rfl⟩ with
    ⟨left, leftDelivers, leftOutcome⟩
  rcases (outcome_iff ended _).mpr ⟨second, secondStops.1, secondStops.2.1, secondStops.2.2, rfl⟩
    with ⟨right, rightDelivers, rightOutcome⟩
  apply differ
  rw [← leftOutcome, ← rightOutcome]
  exact reproducible.one left right leftDelivers rightDelivers

/-- Between the limit and the limit with one more read it depends on the
pieces. -/
theorem Reproducible.not_between (reproducible : Reproducible bytes)
    (ended : headersEnd bytes = some ending) (above : kMaxRequest + 1 < ending) :
    kMaxRequest + kReadSize < ending := by
  by_contra below
  have inside := ending_le ended
  have least : leastRead ending = kMaxRequest + 1 := Nat.min_eq_right (Nat.le_of_lt above)
  apply not_reproducible_of_sizes ended _ _ _ reproducible
  · exact kMaxRequest + 1
  · exact ending
  · rw [least, kReadSize]
    omega
  · rw [least]
    omega
  · rw [outcomeAt, outcomeAt, if_neg (Nat.not_le.mpr above), if_pos (Nat.le_refl _), pathOutcome]
    cases requestPath (bytes.take ending) <;> simp

theorem Reproducible.lineDecides (reproducible : Reproducible bytes)
    (ended : headersEnd bytes = some ending) (below : ending ≤ kMaxRequest + 1) :
    LineDecides bytes ending := by
  rcases Nat.lt_or_ge ((requestLine bytes).count space) 2 with few | two
  · right
    rintro ⟨path, token⟩
    have least : leastRead ending = ending := Nat.min_eq_left below
    -- the largest amount with which reading stops
    obtain ⟨size, large⟩ : ∃ size, size = min (ending + (kReadSize - 1)) bytes.length := ⟨_, rfl⟩
    have stops : ending ≤ size ∧ size < ending + kReadSize ∧ size ≤ bytes.length := by
      have inside := ending_le ended
      rw [kReadSize] at large ⊢
      omega
    have all : outcomeAt bytes ending size = .handled path := by
      rw [outcomeAt, if_pos stops.1, large, ← List.take_eq_take_min, pathOutcome,
        requestPath_eq_some_iff.mpr token]
    rcases (outcome_iff ended (.handled path)).mpr ⟨size, by rw [least]; exact stops.1,
      by rw [least]; exact stops.2.1, stops.2.2, all.symm⟩ with ⟨answers, delivers, result⟩
    have ofLine := reproducible.exact answers delivers (by rw [result]; simp)
    rw [result] at ofLine
    have found := requestPath_eq_some_iff.mpr (show Token (requestLine bytes) path from ofLine)
    rw [requestPath_few few] at found
    cases found
  · exact Or.inl two

theorem reproducible_of_one {result : Outcome}
    (always : ∀ answers, Delivers bytes answers → outcome answers = result)
    (right : result ≠ .tooLarge → OfLine (requestLine bytes) result) : Reproducible bytes := by
  constructor
  case one =>
    intro first second firstDelivers secondDelivers
    rw [always first firstDelivers, always second secondDelivers]
  case exact =>
    intro answers delivers notTooLarge
    rw [always answers delivers] at notTooLarge ⊢
    exact right notTooLarge

/-- Which requests are reproducible: the headers end far beyond the limit, or
within it; and then no path is taken from elsewhere. -/
theorem reproducible_iff (ended : headersEnd bytes = some ending) :
    Reproducible bytes ↔
      kMaxRequest + kReadSize < ending ∨ (ending ≤ kMaxRequest + 1 ∧ LineDecides bytes ending) := by
  constructor
  · intro reproducible
    rcases Nat.lt_or_ge (kMaxRequest + 1) ending with above | below
    · exact Or.inl (reproducible.not_between ended above)
    · exact Or.inr ⟨below, reproducible.lineDecides ended below⟩
  · rintro (far | ⟨below, decides⟩)
    · apply @reproducible_of_one _ .tooLarge
      · intro answers delivers
        rcases (outcome_iff ended _).mp ⟨answers, delivers, rfl⟩ with ⟨size, _, small, _, same⟩
        rw [same, outcomeAt, if_neg]
        rw [leastRead, kReadSize] at small
        rw [kReadSize] at far
        omega
      · intro notTooLarge
        cases notTooLarge rfl
    · apply @reproducible_of_one _ (pathOutcome (requestLine bytes))
      · intro answers delivers
        rcases (outcome_iff ended _).mp ⟨answers, delivers, rfl⟩ with ⟨size, above, small, _, same⟩
        rw [leastRead, Nat.min_eq_left below] at above small
        rw [same, outcomeAt, if_pos above, decides.same ended above small]
      · intro _
        exact pathOutcome_ofLine _

theorem Reproducible.serveOne (reproducible : Reproducible bytes) {first second : List Recv}
    (firstDelivers : Delivers bytes first) (secondDelivers : Delivers bytes second)
    (handler : List UInt8 → Response) (requests : UInt64) :
    Http.serveOne handler requests first = Http.serveOne handler requests second := by
  rw [Http.serveOne, Http.serveOne, reproducible.one first second firstDelivers secondDelivers]

end

/-- `GET /stats.json HTTP/1.1` and an empty line. -/
def statsRequest : List UInt8 :=
  [71, 69, 84, 32, 47, 115, 116, 97, 116, 115, 46, 106, 115, 111, 110, 32, 72, 84, 84, 80, 47, 49,
    46, 49, 13, 10, 13, 10]

theorem reproducible_statsRequest : Reproducible statsRequest :=
  (reproducible_iff (show headersEnd statsRequest = some 28 by decide)).mpr
    (Or.inr ⟨by decide, Or.inl (by decide)⟩)

/-- `GET`, an empty line, and ` a b` behind it. -/
def strayRequest : List UInt8 := [71, 69, 84, 13, 10, 13, 10, 32, 97, 32, 98]

/-- The path is `a` when all of it comes at once. When what follows the empty
line comes later there is none. -/
theorem path_from_body :
    Delivers strayRequest [.data strayRequest] ∧ outcome [.data strayRequest] = .handled [97] ∧
      Delivers strayRequest [.data (strayRequest.take 7), .data (strayRequest.drop 7)] ∧
      outcome [.data (strayRequest.take 7), .data (strayRequest.drop 7)] = .malformed ∧
      ¬ Reproducible strayRequest := by
  have whole : Delivers strayRequest [.data strayRequest] := ⟨by decide, rfl⟩
  have pieces : Delivers strayRequest
      [.data (strayRequest.take 7), .data (strayRequest.drop 7)] := ⟨by decide, rfl⟩
  refine ⟨whole, by decide, pieces, by decide, ?_⟩
  intro reproducible
  exact absurd (reproducible.one _ _ whole pieces) (by decide)

end Http

end TelemetryGateway
