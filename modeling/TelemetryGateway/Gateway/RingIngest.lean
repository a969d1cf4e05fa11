import TelemetryGateway.Feed.FanOut
import TelemetryGateway.Gateway.RingConsumer

/-! # One ingest thread for each source

Topology B needs no common point at ingest: every source has its own thread,
which publishes what it drains straight into the ring. A consumer reads from it
meanwhile. -/

namespace TelemetryGateway.RingIngest

def kDrainBatch : Nat := 64

inductive PollAnswer
  | interrupted
  | failed
  | timedOut
  | ready (readable stop : Bool)

inductive Place
  | poll
  | drain (stop : Bool)
  /-- about to call `publish_batch` -/
  | publish (batch : List BusFrame) (stop : Bool)
  /-- inside `publish_batch` -/
  | publishing (count : Nat) (stop : Bool)
  | returned

def Place.turn (stop : Bool) : Place :=
  if stop then .returned else .poll

/-- The threads share the counters. -/
structure State (geometry : BroadcastRing.Geometry) (sources : Nat) (ReaderId : Type) where
  consumer : RingConsumer.State geometry (Fin sources) ReaderId
  places : Fin sources → Place
  frames : UInt64
  batches : UInt64
  pollErrors : UInt64

inductive Label (sources : Nat) (ReaderId : Type)
  | poll (source : Fin sources) (answer : PollAnswer)
  | drain (source : Fin sources) (batch : List BusFrame)
  | publish (source : Fin sources)
  /-- `publish_batch` has returned -/
  | count (source : Fin sources)
  /-- the feed and its owner, the other readers, or a thread inside
  `publish_batch` -/
  | consumer (label : RingConsumer.Label (Fin sources) ReaderId)

/-- Whether the label calls `publish` or `publish_batch`. -/
def publishes : RingConsumer.Label Producer ReaderId → Bool
  | .ring (.publish _ _) => true
  | .ring (.publishBatch _ _) => true
  | _ => false

section

variable {geometry : BroadcastRing.Geometry} {ReaderId : Type} [DecidableEq ReaderId]

namespace State

def empty : State geometry sources ReaderId where
  consumer := .empty
  places := fun _ => .poll
  frames := 0
  batches := 0
  pollErrors := 0

def setPlace (state : State geometry sources ReaderId) (source : Fin sources) (place : Place) :
    State geometry sources ReaderId :=
  { state with places := Function.update state.places source place }

def poll (state : State geometry sources ReaderId) (source : Fin sources) :
    PollAnswer → State geometry sources ReaderId
  | .interrupted => state
  | .failed => { state with pollErrors := state.pollErrors + 1 }
  | .timedOut => state
  | .ready readable stop =>
      state.setPlace source (if readable then .drain stop else .turn stop)

def step (me : ReaderId) (state : State geometry sources ReaderId) :
    Label sources ReaderId → Option (State geometry sources ReaderId)
  | .poll source answer =>
      match state.places source with
      | .poll => some (state.poll source answer)
      | _ => none
  | .drain source batch =>
      match state.places source with
      | .drain stop =>
          if batch.length = 0 then some (state.setPlace source (.turn stop))
          else if batch.length ≤ kDrainBatch then some (state.setPlace source (.publish batch stop))
          else none
      | _ => none
  | .publish source =>
      match state.places source with
      | .publish batch stop =>
          (state.consumer.step me (.ring (.publishBatch source (batch.map Subtype.val)))).map
            fun consumer =>
              { state.setPlace source (.publishing batch.length stop) with consumer := consumer }
      | _ => none
  | .count source =>
      match state.places source, state.consumer.ring.core.producers source with
      | .publishing count stop, .idle =>
          some { state.setPlace source (.turn stop) with
            frames := state.frames + UInt64.ofNat count
            batches := state.batches + 1 }
      | _, _ => none
  | .consumer label =>
      if publishes label then none
      else (state.consumer.step me label).map fun consumer => { state with consumer := consumer }

inductive Step (me : ReaderId) (state : State geometry sources ReaderId) :
    Label sources ReaderId → State geometry sources ReaderId → Prop
  | poll (source : Fin sources) (answer : PollAnswer) (polling : state.places source = .poll) :
      Step me state (.poll source answer) (state.poll source answer)
  | drainNothing (source : Fin sources) (stop : Bool)
      (draining : state.places source = .drain stop) :
      Step me state (.drain source []) (state.setPlace source (.turn stop))
  | drain (source : Fin sources) (batch : List BusFrame) (stop : Bool)
      (draining : state.places source = .drain stop) :
      Step me state (.drain source batch) (state.setPlace source (.publish batch stop))
  | publish (source : Fin sources) (batch : List BusFrame) (stop : Bool)
      (publishing : state.places source = .publish batch stop)
      (next : RingConsumer.State geometry (Fin sources) ReaderId)
      (published : state.consumer.step me
        (.ring (.publishBatch source (batch.map Subtype.val))) = some next) :
      Step me state (.publish source)
        { state.setPlace source (.publishing batch.length stop) with consumer := next }
  | count (source : Fin sources) (size : Nat) (stop : Bool)
      (publishing : state.places source = .publishing size stop)
      (idle : state.consumer.ring.core.producers source = .idle) :
      Step me state (.count source)
        { state.setPlace source (.turn stop) with
          frames := state.frames + UInt64.ofNat size
          batches := state.batches + 1 }
  | consumer (label : RingConsumer.Label (Fin sources) ReaderId) (others : publishes label = false)
      (next : RingConsumer.State geometry (Fin sources) ReaderId)
      (moved : state.consumer.step me label = some next) :
      Step me state (.consumer label) { state with consumer := next }

theorem step_cases {me : ReaderId} {state after : State geometry sources ReaderId}
    {label : Label sources ReaderId} (stepped : state.step me label = some after) :
    state.Step me label after := by
  cases label with
  | poll source answer =>
      simp only [State.step] at stepped
      split at stepped <;> cases stepped
      exact .poll source answer ‹_›
  | drain source batch =>
      simp only [State.step] at stepped
      split at stepped
      · rename_i stop draining
        split at stepped
        · rename_i nothing
          cases List.length_eq_zero_iff.mp nothing
          cases stepped
          exact .drainNothing source stop draining
        · split at stepped <;> cases stepped
          exact .drain source batch stop draining
      · cases stepped
  | publish source =>
      simp only [State.step] at stepped
      split at stepped
      · rename_i batch stop publishing
        rcases Option.map_eq_some_iff.mp stepped with ⟨consumer, published, rfl⟩
        exact .publish source batch stop publishing consumer published
      · cases stepped
  | count source =>
      simp only [State.step] at stepped
      split at stepped
      · rename_i size stop publishing idle
        cases stepped
        exact .count source size stop publishing idle
      · cases stepped
  | consumer label =>
      simp only [State.step] at stepped
      split at stepped
      · cases stepped
      · rename_i others
        rcases Option.map_eq_some_iff.mp stepped with ⟨consumer, moved, rfl⟩
        exact .consumer label (Bool.not_eq_true _ ▸ others) consumer moved

end State

def system (geometry : BroadcastRing.Geometry) (sources : Nat) (me : ReaderId) :
    System (State geometry sources ReaderId) (Label sources ReaderId) where
  initial := fun state => state = .empty
  step := State.step me

/-! ## The observer -/

/-- What each source has drained, and what the feed has delivered since it was
constructed. -/
structure Ledger (sources : Nat) where
  drained : Fin sources → List BusFrame
  delivered : List Frame

def Ledger.fresh : Ledger sources where
  drained := fun _ => []
  delivered := []

def Ledger.noteDrain (ledger : Ledger sources) (source : Fin sources) (batch : List BusFrame) :
    Ledger sources :=
  { ledger with
    drained := Function.update ledger.drained source (ledger.drained source ++ batch) }

def Ledger.note (me : ReaderId) (ledger : Ledger sources)
    (before : State geometry sources ReaderId) :
    Label sources ReaderId → State geometry sources ReaderId → Ledger sources
  | .drain source batch, _ => ledger.noteDrain source batch
  | .consumer label, _ =>
      { ledger with
        delivered := RingConsumer.deliver me ledger.delivered before.consumer label }
  | _, _ => ledger

def observed (geometry : BroadcastRing.Geometry) (sources : Nat) (me : ReaderId) :
    System (State geometry sources ReaderId × Ledger sources) (Label sources ReaderId) :=
  (system geometry sources me).observed Ledger.fresh (Ledger.note me)

end

/-! ## Tickets follow the drains -/

def issuedBy (core : BroadcastRing.Core geometry (Fin sources)) (source : Fin sources) :
    List Frame :=
  (core.issued.filter fun entry => entry.1 = source).map Prod.snd

/-- Drained, and not yet given to `publish_batch`. -/
def Place.waiting : Place → List BusFrame
  | .publish batch _ => batch
  | _ => []

structure Sound (me : ReaderId) (state : State geometry sources ReaderId)
    (ledger : Ledger sources) : Prop where
  ring : state.consumer.ring.Sound
  delivers : state.consumer.Delivers me ledger.delivered
  published : ∀ source, issuedBy state.consumer.ring.core source ++
    (state.places source).waiting.map Subtype.val = (ledger.drained source).map Subtype.val

theorem empty_sound (me : ReaderId) :
    Sound me (State.empty : State geometry sources ReaderId) Ledger.fresh where
  ring := BroadcastRing.State.empty_sound _
  delivers := RingConsumer.empty_delivers me
  published := fun _ => rfl

/-- A thread moves without touching the ring, and what waits in its hands has
been drained. -/
theorem Sound.drain {me : ReaderId} {state after : State geometry sources ReaderId}
    {ledger : Ledger sources} (sound : Sound me state ledger) {source : Fin sources} {place : Place}
    (consumer : after.consumer = state.consumer)
    (places : after.places = Function.update state.places source place) {batch : List BusFrame}
    (waiting : place.waiting = (state.places source).waiting ++ batch) :
    Sound me after (ledger.noteDrain source batch) where
  ring := by
    rw [consumer]
    exact sound.ring
  delivers := by
    rw [consumer]
    exact sound.delivers
  published := by
    intro other
    have before := sound.published other
    rw [consumer, places, Ledger.noteDrain]
    dsimp only
    by_cases own : other = source
    · subst own
      rw [Function.update_self, Function.update_self, waiting, List.map_append, List.map_append,
        ← List.append_assoc, before]
    · rw [Function.update_of_ne own, Function.update_of_ne own]
      exact before

theorem Sound.idle {me : ReaderId} {state after : State geometry sources ReaderId}
    {ledger : Ledger sources} (sound : Sound me state ledger) {source : Fin sources} {place : Place}
    (consumer : after.consumer = state.consumer)
    (places : after.places = Function.update state.places source place)
    (waiting : place.waiting = (state.places source).waiting) : Sound me after ledger := by
  have placed := sound.drain consumer places (waiting.trans (List.append_nil _).symm)
  rw [Ledger.noteDrain, List.append_nil, Function.update_eq_self] at placed
  exact placed

theorem waiting_turn (stop : Bool) : (Place.turn stop).waiting = [] := by
  cases stop <;> rfl

theorem Sound.poll {me : ReaderId} {state : State geometry sources ReaderId}
    {ledger : Ledger sources} (sound : Sound me state ledger) {source : Fin sources}
    (polling : state.places source = .poll) (answer : PollAnswer) :
    Sound me (state.poll source answer) ledger := by
  cases answer with
  | interrupted => exact sound
  | failed => exact ⟨sound.ring, sound.delivers, sound.published⟩
  | timedOut => exact sound
  | ready readable stop =>
      refine sound.idle rfl rfl ?_
      rw [polling]
      cases readable with
      | true => rfl
      | false => exact waiting_turn stop

theorem Sound.publish [DecidableEq ReaderId] {me : ReaderId}
    {state : State geometry sources ReaderId} {ledger : Ledger sources}
    (sound : Sound me state ledger) {source : Fin sources} {batch : List BusFrame} {stop : Bool}
    (publishing : state.places source = .publish batch stop)
    {consumer : RingConsumer.State geometry (Fin sources) ReaderId}
    (stepped : state.consumer.step me (.ring (.publishBatch source (batch.map Subtype.val))) =
      some consumer) :
    Sound me { state.setPlace source (.publishing batch.length stop) with consumer := consumer }
      ledger := by
  rcases RingConsumer.State.step_ring sound.ring stepped with ⟨ring, issued⟩
  refine ⟨ring, sound.delivers.step stepped, ?_⟩
  intro other
  have before := sound.published other
  change issuedBy consumer.ring.core other ++
    (Function.update state.places source _ other).waiting.map Subtype.val = _
  rw [← before, issuedBy, issuedBy, issued]
  change ((state.consumer.ring.core.issued ++ (batch.map Subtype.val).map
    fun frame => (source, frame)).filter fun entry => entry.1 = other).map Prod.snd ++ _ = _
  by_cases own : other = source
  · subst own
    rw [Function.update_self, publishing, List.filter_append, List.map_append]
    simp [Place.waiting, List.filter_map, Function.comp_def]
  · rw [Function.update_of_ne own, List.filter_append]
    have none : (((batch.map Subtype.val).map fun frame => (source, frame)).filter
        fun entry => entry.1 = other) = [] := by
      rw [List.filter_eq_nil_iff]
      intro entry member
      rcases List.mem_map.mp member with ⟨frame, _, rfl⟩
      simpa using fun same => own same.symm
    rw [none, List.append_nil]

theorem Sound.consumer [DecidableEq ReaderId] {me : ReaderId}
    {state : State geometry sources ReaderId} {ledger : Ledger sources}
    (sound : Sound me state ledger) {label : RingConsumer.Label (Fin sources) ReaderId}
    (others : publishes label = false)
    {consumer : RingConsumer.State geometry (Fin sources) ReaderId}
    (stepped : state.consumer.step me label = some consumer) :
    Sound me { state with consumer := consumer }
      { ledger with
        delivered := RingConsumer.deliver me ledger.delivered state.consumer label } := by
  have nothing : label.issues = [] := by
    cases label with
    | ring label => cases label <;> first | rfl | cases others
    | _ => rfl
  rcases RingConsumer.State.step_ring sound.ring stepped with ⟨ring, issued⟩
  rw [nothing, List.append_nil] at issued
  refine ⟨ring, sound.delivers.step stepped, ?_⟩
  intro source
  change issuedBy consumer.ring.core source ++ _ = _
  rw [issuedBy, issued]
  exact sound.published source

theorem Sound.step [DecidableEq ReaderId] {me : ReaderId}
    {state after : State geometry sources ReaderId} {ledger : Ledger sources}
    (sound : Sound me state ledger) {label : Label sources ReaderId}
    (stepped : state.step me label = some after) :
    Sound me after (ledger.note me state label after) := by
  cases State.step_cases stepped with
  | poll source answer polling => exact sound.poll polling answer
  | drainNothing source stop draining =>
      apply sound.drain
      · rfl
      · rfl
      · rw [draining, waiting_turn]
        rfl
  | drain source batch stop draining =>
      apply sound.drain
      · rfl
      · rfl
      · rw [draining]
        rfl
  | publish source batch stop publishing next published => exact sound.publish publishing published
  | count source size stop publishing idle =>
      refine sound.idle rfl rfl ?_
      rw [publishing]
      exact waiting_turn stop
  | consumer label others next moved => exact sound.consumer others moved

theorem reachable_sound [DecidableEq ReaderId] {me : ReaderId} {guard}
    {state : State geometry sources ReaderId × Ledger sources}
    (reached : (observed geometry sources me).ReachableUnder guard state) :
    Sound me state.1 state.2 := by
  refine reached.invariant (fun state => Sound me state.1 state.2) ?_ ?_
  · rintro ⟨state, ledger⟩ ⟨rfl, rfl⟩
    exact empty_sound me
  · rintro ⟨state, ledger⟩ label after _ _ sound stepped
    rcases Option.map_eq_some_iff.mp stepped with ⟨moved, step, rfl⟩
    exact sound.step step

end TelemetryGateway.RingIngest
