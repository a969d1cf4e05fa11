import TelemetryGateway.Main.Gateway

/-! # No thread outlives what it uses

Every call of the process, in any interleaving of its threads and whatever the
calls answer, is made on a descriptor that is open and ready for it, or on an
object that is there; and at the end nothing is left. -/

namespace TelemetryGateway.Main

open Handles Program

/-! ## What there is -/

section

variable {setup : Setup} {tuning : Tuning} {own shared : Table Handle Mode}

theorem mem_entries_source {source : SourceObject} (member : source ∈ setup.sources) :
    (source.fd, source.mode) ∈ setup.entries ∧
      (source.object, object .source) ∈ setup.entries := by
  constructor
  all_goals
    simp only [Setup.entries, List.mem_append, List.mem_flatMap]
    refine Or.inr (Or.inr (Or.inr (Or.inr (Or.inr ⟨source, member, ?_⟩))))
    simp [SourceObject.entries]

theorem mem_entries_ring {ring : Handle} (member : setup.ring = some ring) :
    (ring, object .ring) ∈ setup.entries := by
  simp [Setup.entries, member]

theorem mem_entries_sink {feed : FeedObject} (member : feed ∈ setup.sinks) :
    (feed.object, object .feed) ∈ setup.entries := by
  simp only [Setup.entries, List.mem_append, List.mem_map]
  rcases List.mem_append.mp member with feeds | tap
  · exact Or.inr (Or.inr (Or.inr (Or.inl ⟨feed, feeds, rfl⟩)))
  · exact Or.inr (Or.inr (Or.inl ⟨feed, tap, rfl⟩))

theorem mem_entries_egress {egress : EgressObject} (member : egress ∈ setup.egresses) :
    (egress.listenFd, Tcp.listener) ∈ setup.entries ∧ (egress.stopFd, event) ∈ setup.entries ∧
      (egress.object, object .egress) ∈ setup.entries := by
  refine ⟨?_, ?_, ?_⟩
  all_goals
    simp only [Setup.entries, List.mem_append, List.mem_flatMap]
    refine Or.inr (Or.inl ⟨egress, member, ?_⟩)
    simp [EgressObject.entries]

theorem mem_entries_ingest {ingest : IngestObject} (member : setup.ingest = some ingest) :
    (ingest.stopFd, event) ∈ setup.entries ∧ (ingest.object, object .ingest) ∈ setup.entries := by
  simp [Setup.entries, member, IngestObject.entries]

def Setup.Has (setup : Setup) (call : Call) (on : List Handle) : Prop :=
  ∀ handle ∈ on, ∃ mode, (handle, mode) ∈ setup.entries ∧ discipline.allows call mode = true

namespace Setup.Has

theorem single {handle : Handle} {mode : Mode} {call : Call}
    (member : (handle, mode) ∈ setup.entries) (allowed : discipline.allows call mode = true) :
    setup.Has call [handle] := by
  intro other inside
  rw [List.mem_singleton.mp inside]
  exact ⟨mode, member, allowed⟩

theorem append {call : Call} {first second : List Handle} (left : setup.Has call first)
    (right : setup.Has call second) : setup.Has call (first ++ second) :=
  fun handle member => (List.mem_append.mp member).elim (left handle) (right handle)

theorem map {T : Type} {call : Call} {items : List T} {field : T → Handle}
    (all : ∀ item ∈ items, setup.Has call [field item]) : setup.Has call (items.map field) := by
  intro handle member
  rcases List.mem_map.mp member with ⟨item, inside, rfl⟩
  exact all item inside _ (List.mem_singleton_self _)

end Setup.Has

theorem Setup.Owns.has_feed (owns : setup.Owns tuning own) {feed : FeedObject}
    (member : feed ∈ setup.sinks) : setup.Has .method feed.uses := by
  intro handle used
  rcases List.mem_cons.mp used with rfl | ring
  · exact ⟨_, mem_entries_sink member, rfl⟩
  · rw [owns.rings feed member] at ring
    exact ⟨_, mem_entries_ring (Option.mem_toList.mp ring), rfl⟩

theorem Setup.Owns.sink_of_egress (owns : setup.Owns tuning own) {egress : EgressObject}
    (member : egress ∈ setup.egresses) : egress.feed ∈ setup.sinks :=
  List.mem_append_left _ (owns.feeds egress member)

theorem Setup.Owns.sees (owns : setup.Owns tuning own)
    (visible : ∀ handle mode, (handle, mode) ∈ setup.entries → shared handle = some mode)
    {egress : EgressObject} (member : egress ∈ setup.egresses) :
    EgressThread.Sees shared egress := by
  rcases mem_entries_egress member with ⟨listenFd, stopFd, object⟩
  refine ⟨visible _ _ object, visible _ _ listenFd, visible _ _ stopFd, ?_⟩
  intro handle used
  rcases owns.has_feed (owns.sink_of_egress member) handle used with ⟨mode, there, allowed⟩
  have object : (!mode.descriptor) = true := allowed
  rw [Bool.not_eq_true'] at object
  exact ⟨mode, visible _ _ there, object⟩

end

/-! ## Programs that only use what there is -/

/-- Wherever all that has been set up is live, the program may run, and leaves the
handles as they are. -/
def Setup.Uses (setup : Setup) (program : Run T) : Prop :=
  ∀ own shared : Table Handle Mode,
    (∀ handle mode, (handle, mode) ∈ setup.entries → own.beside shared handle = some mode) →
    program.Safe discipline shared own fun _ after => after = own

namespace Setup.Uses

variable {setup : Setup} {tuning : Tuning} {own : Table Handle Mode}

theorem done (value : T) : setup.Uses (pure value : Run T) :=
  fun _ _ _ => rfl

theorem bind {program : Run T} {rest : T → Run U} (first : setup.Uses program)
    (second : ∀ value, setup.Uses (rest value)) : setup.Uses (program >>= rest) := by
  intro own shared live
  rw [safe_bind]
  apply (first own shared live).mono
  rintro value _ rfl
  exact second value _ _ live

theorem ask : setup.Uses (ask : Run Reply) :=
  fun _ _ _ _ => rfl

theorem ite {condition : Prop} [Decidable condition] {first second : Run T}
    (left : setup.Uses first) (right : setup.Uses second) :
    setup.Uses (if condition then first else second) := by
  split
  · exact left
  · exact right

theorem call {call : Call} {on : List Handle}
    (passive : ∀ mode, discipline.after call mode = mode) (has : setup.Has call on) :
    setup.Uses (use call on : Run _) := by
  intro own shared live
  apply safe_use_passive passive
  · rw [Discipline.permits_iff]
    intro handle member
    rcases has handle member with ⟨mode, there, allowed⟩
    exact ⟨mode, live handle mode there, allowed⟩
  · exact fun answer => rfl

theorem invoke {on : List Handle} (has : setup.Has .method on) :
    setup.Uses (invoke on) := by
  apply bind (call (fun mode => rfl) has)
  intro answer
  cases answer with
  | error errno => exact done _
  | ok reply => exact done _

/-! ### The ingest threads -/

theorem drain {source : SourceObject} (member : source ∈ setup.sources) :
    setup.Uses (drain source) := by
  rcases mem_entries_source member with ⟨fd, object⟩
  apply bind (invoke (.single object rfl))
  intro _
  apply bind
  · apply call
    · intro mode
      cases source.type <;> rfl
    · apply Setup.Has.single fd
      unfold SourceObject.mode
      cases source.type with
      | can receiveErrors => cases receiveErrors <;> rfl
      | synthetic => rfl
  · intro _
    apply bind ask
    exact fun frames => done _

theorem has_poll {source : SourceObject} (member : source ∈ setup.sources) :
    setup.Has .poll [source.fd] := by
  apply Setup.Has.single (mem_entries_source member).1
  unfold SourceObject.mode
  cases source.type <;> rfl

theorem ringIngestTurn {ring : Handle} {ingest : IngestObject} {source : SourceObject}
    (rings : setup.ring = some ring) (ingests : setup.ingest = some ingest)
    (member : source ∈ setup.sources) : setup.Uses (ringIngestTurn ring ingest source) := by
  rcases mem_entries_ingest ingests with ⟨stopFd, object⟩
  apply bind
  · exact invoke (Setup.Has.append (.single object rfl)
      (.single (mem_entries_source member).2 rfl))
  · intro _
    apply bind (call (fun mode => rfl) (Setup.Has.append (has_poll member) (.single stopFd rfl)))
    intro answer
    cases answer with
    | error errno => exact done _
    | ok reply =>
        apply bind
        · apply ite
          · apply bind (drain member)
            intro frames
            apply ite (done _)
            exact bind (invoke (.single (mem_entries_ring rings) rfl)) fun _ => done _
          · exact done _
        · exact fun _ => ite (done _) (done _)

theorem pushAll {sinks : List FeedObject} (members : ∀ sink ∈ sinks, sink ∈ setup.sinks) :
    setup.Uses (pushAll sinks) := by
  induction sinks with
  | nil => exact done _
  | cons sink rest induction =>
      apply bind (invoke (.single (mem_entries_sink (members sink List.mem_cons_self)) rfl))
      exact fun _ => induction fun other member => members other (List.mem_cons_of_mem _ member)

theorem drainReady {reply : Reply} {i : Nat} {sources : List SourceObject}
    (members : ∀ source ∈ sources, source ∈ setup.sources) :
    setup.Uses (drainReady reply setup.sinks i sources) := by
  induction sources generalizing i with
  | nil => exact done _
  | cons source rest induction =>
      unfold Main.drainReady
      apply bind
      · apply ite
        · apply bind (drain (members source List.mem_cons_self))
          exact fun frames => ite (done _) (pushAll fun sink member => member)
        · exact done _
      · exact fun _ => induction fun other member => members other (List.mem_cons_of_mem _ member)

theorem fanOutTurn {ingest : IngestObject} (ingests : setup.ingest = some ingest) :
    setup.Uses (fanOutTurn ingest setup.sources setup.sinks) := by
  rcases mem_entries_ingest ingests with ⟨stopFd, object⟩
  apply bind
  · exact invoke (Setup.Has.append (.single object rfl)
      (.map fun source member => .single (mem_entries_source member).2 rfl))
  · intro _
    apply bind
    · exact call (fun mode => rfl) (Setup.Has.append
        (.map fun source member => has_poll member) (.single stopFd rfl))
    · intro answer
      cases answer with
      | error errno => exact done _
      | ok reply =>
          apply ite (done _)
          apply bind (drainReady fun source member => member)
          exact fun _ => ite (done _) (done _)

theorem ingestTurn (setup : Setup) (i : Nat) : setup.Uses (ingestTurn setup i) := by
  unfold Main.ingestTurn
  split
  · exact done _
  · exact fanOutTurn ‹_›
  · split
    · exact done _
    · exact ringIngestTurn ‹_› ‹_› (List.mem_of_getElem? ‹_›)

/-! ### The thread of `main` -/

theorem report (owns : setup.Owns tuning own) : setup.Uses (report setup) := by
  apply bind
  · apply invoke
    apply Setup.Has.map
    exact fun ingest member => .single (mem_entries_ingest (Option.mem_toList.mp member)).2 rfl
  · intro _
    apply bind
    · apply invoke
      exact .map fun egress member => .single (mem_entries_egress member).2.2 rfl
    · intro _
      apply bind
      · apply invoke
        intro handle member
        rcases List.mem_flatMap.mp member with ⟨egress, inside, used⟩
        exact owns.has_feed (owns.sink_of_egress inside) handle used
      · exact fun _ => done _

theorem stopEgresses (owns : setup.Owns tuning own) {egresses : List EgressObject}
    (members : ∀ egress ∈ egresses, egress ∈ setup.egresses) :
    setup.Uses (stopEgresses egresses) := by
  induction egresses with
  | nil => exact done _
  | cons egress rest induction =>
      have member := members egress List.mem_cons_self
      rcases mem_entries_egress member with ⟨_, stopFd, object⟩
      apply bind (invoke (.single object rfl))
      intro _
      apply bind (call (fun mode => rfl) (.single stopFd rfl))
      intro _
      apply bind (invoke (owns.has_feed (owns.sink_of_egress member)))
      exact fun _ => induction fun other member => members other (List.mem_cons_of_mem _ member)

theorem stopIngest (setup : Setup) : setup.Uses (stopIngest setup.ingest) := by
  cases ingests : setup.ingest with
  | none => exact done _
  | some ingest =>
      rcases mem_entries_ingest ingests with ⟨stopFd, object⟩
      apply bind (invoke (.single object rfl))
      intro _
      apply bind (call (fun mode => rfl) (.single stopFd rfl))
      exact fun _ => done _

theorem mainTurn (owns : setup.Owns tuning own) : setup.Uses (mainTurn setup) := by
  apply bind ask
  intro stop
  apply ite
  · apply bind
    · cases tap : setup.tapFeed with
      | none => exact done _
      | some feed =>
          apply invoke
          apply owns.has_feed
          exact List.mem_append_right _ (Option.mem_toList.mpr tap)
    · intro _
      apply bind ask
      intro due
      apply ite (done _)
      exact bind (report owns) fun _ => done _
  · apply bind (stopIngest setup)
    intro _
    apply bind (stopEgresses owns fun egress member => member)
    exact fun _ => done _

end Setup.Uses

/-! ## The end -/

def clientHandles (clients : List (Option Nat)) : List Handle :=
  clients.flatMap fun client => (client.map clientHandle).toList

theorem egresses_withClients {egresses : List EgressObject} {clients : List (Option Nat)}
    (each : egresses.length = clients.length)
    (nobody : ∀ egress ∈ egresses, egress.clientFd = none) :
    (((List.zipWith EgressObject.withClient egresses clients).flatMap
      (EgressObject.entries · Tcp.client)).map Prod.fst).Perm
      (clientHandles clients ++
        (egresses.flatMap (EgressObject.entries · Tcp.client)).map Prod.fst) := by
  induction egresses generalizing clients with
  | nil =>
      rw [List.length_nil] at each
      rw [List.eq_nil_of_length_eq_zero each.symm]
      rfl
  | cons egress rest induction =>
      cases clients with
      | nil => cases each
      | cons client later =>
          have tail := induction (Nat.succ.inj each) fun other member =>
            nobody other (List.mem_cons_of_mem _ member)
          have own : ((egress.withClient client).entries Tcp.client).map Prod.fst =
              (client.map clientHandle).toList ++ (egress.entries Tcp.client).map Prod.fst := by
            cases client <;> simp [EgressObject.entries, EgressObject.withClient,
              nobody egress List.mem_cons_self]
          simp only [List.zipWith_cons_cons, List.flatMap_cons, List.map_append, own,
            clientHandles, List.append_assoc]
          apply List.Perm.append_left
          exact (tail.append_left _).trans (List.perm_append_comm_assoc ..)

theorem handles_withClients {setup : Setup} {clients : List (Option Nat)}
    (each : setup.egresses.length = clients.length)
    (nobody : ∀ egress ∈ setup.egresses, egress.clientFd = none) :
    ((setup.withClients clients).entries.map Prod.fst).Perm
      (clientHandles clients ++ setup.entries.map Prod.fst) := by
  simp only [Setup.entries, Setup.withClients, List.map_append]
  refine List.Perm.trans ?_ (List.perm_append_comm_assoc ..)
  apply List.Perm.append_left
  rw [← List.append_assoc (clientHandles clients)]
  exact (egresses_withClients each nobody).append_right _

structure Clients (consumers : Nat) (clients : Fin consumers → Option Nat)
    (owns : Role ingests consumers → Table Handle Mode) : Prop where
  held : ∀ i number, clients i = some number → (owns (.egress i) (clientHandle number)).isSome = true
  only : ∀ role handle mode, owns role handle = some mode →
    ∃ i number, role = .egress i ∧ clients i = some number ∧ handle = clientHandle number

section

variable {config : Config} {setup : Setup} {own outside before : Table Handle Mode}
  {owns : config.Role → Table Handle Mode}
  {clients : Fin config.consumers.length → Option Nat}

theorem mem_clientHandles {handle : Handle} :
    handle ∈ clientHandles ((List.finRange config.consumers.length).map clients) ↔
      ∃ i number, clients i = some number ∧ handle = clientHandle number := by
  simp only [clientHandles, List.mem_flatMap, List.mem_map, List.mem_finRange, true_and,
    Option.mem_toList, Option.map_eq_some_iff]
  constructor
  · rintro ⟨_, ⟨i, rfl⟩, number, there, rfl⟩
    exact ⟨i, number, there, rfl⟩
  · rintro ⟨i, number, there, rfl⟩
    exact ⟨_, ⟨i, rfl⟩, number, there, rfl⟩

theorem nodup_clientHandles (divided : own.Divided (Table.ofList setup.entries) owns)
    (left : Clients config.consumers.length clients owns) :
    (clientHandles ((List.finRange config.consumers.length).map clients)).Nodup := by
  unfold clientHandles
  rw [List.flatMap_map, List.nodup_flatMap]
  constructor
  · intro i _
    cases clients i with
    | none => exact List.nodup_nil
    | some number => exact List.nodup_singleton _
  · apply (List.nodup_finRange _).imp
    intro first second different handle inFirst inSecond
    rw [Option.mem_toList, Option.map_eq_some_iff] at inFirst inSecond
    rcases inFirst with ⟨number, one, rfl⟩
    rcases inSecond with ⟨other, two, same⟩
    rcases Option.isSome_iff_exists.mp (left.held first number one) with ⟨mode, mine⟩
    have theirs := left.held second other two
    rw [same, (divided.owned mine).2.2 (.egress second)] at theirs
    · cases theirs
    · intro equal
      cases equal
      exact different rfl

theorem finish_safe (ready : setup.Owns config.tuning before)
    (each : setup.egresses.length = config.consumers.length)
    (divided : own.Divided (Table.ofList setup.entries) owns)
    (left : Clients config.consumers.length clients owns) :
    (finish setup ((List.finRange config.consumers.length).map clients)).Safe discipline outside
      own fun _ own => own = Table.empty := by
  have shared {handle : Handle} {mode : Mode} (member : (handle, mode) ∈ setup.entries) :
      own handle = some mode := by
    apply divided.shared_eq
    rw [← ready.listed.eq]
    exact ready.listed.live member
  have live : ∀ handle mode, (handle, mode) ∈ setup.entries →
      own.beside outside handle = some mode :=
    fun handle mode member => Table.beside_of_some (shared member)
  have order := @handles_withClients setup ((List.finRange config.consumers.length).map clients)
    (by rw [each, List.length_map, List.length_finRange]) ready.clients
  have destroyed : ((setup.withClients
      ((List.finRange config.consumers.length).map clients)).destroy).Safe discipline outside own
        fun _ own => own = Table.empty := by
    apply safe_releaseAll
    · rw [order.nodup_iff]
      apply List.Nodup.append (nodup_clientHandles divided left) ready.listed.distinct
      intro handle client inside
      rcases mem_clientHandles.mp client with ⟨i, number, there, rfl⟩
      rcases Option.isSome_iff_exists.mp (left.held i number there) with ⟨mode, mine⟩
      exact Table.ofList_eq_none.mp (divided.owned mine).2.1 inside
    · intro handle member
      rcases List.mem_append.mp (order.mem_iff.mp member) with client | inside
      · rcases mem_clientHandles.mp client with ⟨i, number, there, rfl⟩
        rcases Option.isSome_iff_exists.mp (left.held i number there) with ⟨mode, mine⟩
        rw [(divided.owned mine).1]
        rfl
      · rcases List.mem_map.mp inside with ⟨entry, there, rfl⟩
        rw [shared there]
        rfl
    · apply Table.without_eq_empty
      intro handle mode there
      rw [order.mem_iff, List.mem_append]
      rcases divided handle with ⟨none, _⟩ | ⟨_, inside, _⟩ | ⟨_, role, mine, _⟩
      · rw [none] at there
        cases there
      · right
        by_contra outside
        rw [Table.ofList_eq_none.mpr outside] at inside
        cases inside
      · left
        rcases Option.isSome_iff_exists.mp mine with ⟨mode, mine⟩
        rcases left.only role handle mode mine with ⟨i, number, _, client, rfl⟩
        exact mem_clientHandles.mpr ⟨i, number, client, rfl⟩
  unfold finish
  rw [safe_bind]
  have first : setup.Uses (invoke (setup.sources.map SourceObject.object)) :=
    .invoke (.map fun source member => .single (mem_entries_source member).2 rfl)
  apply (first own outside live).mono
  rintro _ _ rfl
  rw [safe_bind]
  have second : setup.Uses (invoke setup.ring.toList) :=
    .invoke fun ring member => ⟨_, mem_entries_ring (Option.mem_toList.mp member), rfl⟩
  apply (second _ outside live).mono
  rintro _ _ rfl
  rw [safe_bind]
  apply (Setup.Uses.report ready _ outside live).mono
  rintro _ _ rfl
  rw [safe_bind]
  exact destroyed

end

/-! ## The process -/

/-- What a thread has of its own: the egress thread its client, the others
nothing. -/
def RoleHolds (tuning : Tuning) :
    (role : Role ingests consumers) → role.State → Table Handle Mode → Prop
  | .egress _, state, own => EgressThread.Holds tuning state own
  | .main, _, own => own = Table.empty
  | .ingest _, _, own => own = Table.empty

theorem clients_of_holds {tuning : Tuning} {values : (role : Role ingests consumers) → role.State}
    {owns : Role ingests consumers → Table Handle Mode}
    (holds : ∀ role, RoleHolds tuning role (values role) (owns role)) :
    Clients consumers (fun i => (values (.egress i)).egress.clientFd) owns := by
  constructor
  · intro i number client
    have mine := (holds (.egress i)).owns
    rw [show (values (.egress i)).egress.clientFd = some number from client] at mine
    rcases mine with ⟨mode, _, same⟩
    rw [same, clientHandle, Table.set_self]
    rfl
  · intro role handle mode live
    cases role with
    | main =>
        rw [show owns .main = Table.empty from holds .main] at live
        cases live
    | ingest i =>
        rw [show owns (.ingest i) = Table.empty from holds (.ingest i)] at live
        cases live
    | egress i =>
        have mine := (holds (.egress i)).owns
        cases client : (values (.egress i)).egress.clientFd with
        | none =>
            rw [client] at mine
            rw [show owns (.egress i) = Table.empty from mine] at live
            cases live
        | some number =>
            rw [client] at mine
            rcases mine with ⟨kept, _, same⟩
            refine ⟨i, number, rfl, client, ?_⟩
            by_contra different
            have elsewhere := Table.set_of_ne Table.empty kept different
            rw [same] at live
            have impossible : Table.empty handle = some mode := elsewhere.symm.trans live
            cases impossible

theorem gateway_verified (strerror : Nat → String) (config : Config)
    (outside : Table Handle Mode) :
    (gateway strerror config).Verified discipline outside
      (fun setup => ∃ own, setup.Owns config.tuning own ∧
        setup.egresses.length = config.consumers.length)
      (fun setup => Table.ofList setup.entries)
      (fun _ role => RoleHolds config.tuning role)
      (fun _ role => RoleHolds config.tuning role) where
  startup := by
    apply startup_safe
    · exact fun exit => rfl
    · intro setup own owns each _
      refine ⟨⟨own, owns, each⟩, fun _ => Table.empty, ?_, ?_⟩
      · rw [owns.listed.eq]
        exact Table.Divided.start _
      · intro role
        cases role with
        | main => rfl
        | ingest i => rfl
        | egress i =>
            refine ⟨.start ⟨0, 0, { tuning := config.tuning }, ?_, rfl⟩, rfl⟩
            have some : setup.egresses ≠ [] := by
              apply List.ne_nil_of_length_pos
              rw [each]
              exact Nat.zero_lt_of_lt i.isLt
            rcases owns.tuned some with ⟨positive, limit⟩
            rw [Egress.create, if_neg]
            exact not_or.mpr ⟨Nat.ne_of_gt positive, Nat.not_lt.mpr limit⟩
  turn := by
    rintro setup role state own ⟨before, owns, each⟩ apart mine holds
    have visible : ∀ handle mode, (handle, mode) ∈ setup.entries →
        outside.beside (Table.ofList setup.entries) handle = some mode := by
      intro handle mode member
      exact Table.beside_of_apart apart (Table.ofList_of_mem owns.listed.distinct member)
    cases role with
    | main =>
        cases holds
        apply (Setup.Uses.mainTurn owns Table.empty _ visible).mono
        intro result own same
        cases result <;> exact same
    | ingest i =>
        cases holds
        apply (Setup.Uses.ingestTurn setup i Table.empty _ visible).mono
        intro result own same
        cases result <;> exact same
    | egress i =>
        change (egressTurn strerror setup i state).Safe _ _ _ _
        unfold egressTurn
        split
        · exact holds
        · rename_i egress there
          apply (EgressThread.turn_safe mine
            (owns.sees visible (List.mem_of_getElem? there)) holds).mono
          intro result own keeps
          cases result <;> exact keeps
  finish := by
    rintro setup values own owns ⟨before, ready, each⟩ divided left
    exact finish_safe ready each divided (clients_of_holds left)

/-- The gateway, in every run and in every interleaving of its threads. Each call is
made on a descriptor that is open and has been prepared for it, or on an object
that has not been destroyed; whatever other descriptors there are stay as they
are; an egress thread goes through states of `Egress::run` only; and once `main`
has returned, also when setting up has failed, nothing it opened or made is left. -/
theorem gateway_is_clean (strerror : Nat → String) (config : Config)
    (outside : Table Handle Mode) {moment : (gateway strerror config).Moment Mode}
    (reached : ((gateway strerror config).system discipline outside).Reachable moment) :
    moment.Proper discipline ∧
      (∀ handle mode, outside handle = some mode → moment.table handle = some mode) ∧
      (∀ setup threads i state, moment.stage = .running setup threads →
        threads (.egress i) = .done (.inl state) →
        (Egress.system config.tuning).Reachable state) ∧
      ∀ exit, moment.stage = .ended exit → moment.table = outside := by
  have sound := (gateway_verified strerror config outside).sound reached
  refine ⟨sound.proper, sound.untouched, ?_, ?_⟩
  · intro setup threads i state running waiting
    unfold Process.Verified.Sound at sound
    rw [running] at sound
    rcases sound with ⟨_, _, owns, _, safe⟩
    have holds := safe (.egress i)
    rw [waiting] at holds
    exact holds.reached
  · intro exit ended
    unfold Process.Verified.Sound at sound
    rw [ended] at sound
    exact sound

def lone : Config where
  sourceSpecs := ["synth"]
  consumers := [{ name := "view", port := 5000 }]
  ring := true
  tuning := {}
  rate := 1000
  tap := false

namespace lone

abbrev Label : Type :=
  Process.Label Handle Reply lone.Role

def egress : lone.Role := .egress ⟨0, by decide⟩

def ingest : lone.Role := .ingest ⟨0, by decide⟩

/-- A client is accepted, and is still there when the signal comes. -/
def schedule : List Label :=
  let ok := replied 0 []
  let turn (answers : List (Answer Handle Reply)) : List Label :=
    .turn egress :: answers.map (.thread egress)
  -- the source, the ring and the feed
  [opened 3, ok, made 0, made 1, made 2].map .call ++
    -- the egress
    [opened 4, ok, ok, ok, ok, ok, opened 5, ok, made 3].map .call ++
    [opened 6, made 4].map .call ++
    .proceed :: [ok, replied 1 [POLLIN, 0]].map (.thread egress) ++
    turn [ok, opened 7, ok, ok, ok, ok] ++ turn [ok] ++ turn [ok, ok] ++ turn [ok, ok] ++
    turn [ok, ok] ++ turn [ok, ok] ++
    -- everything is told to stop
    [replied 1 [], ok, ok, ok, ok, ok].map (.thread .main) ++
    [ok, replied 1 [0, POLLIN]].map (.thread ingest) ++ turn [ok, replied 1 []] ++ turn [ok] ++
    .proceed :: [ok, ok, ok, ok, ok].map .call ++
    (List.replicate 10 Answer.released).map .call ++ [.proceed]

def start : (gateway (fun _ => "") lone).Moment Mode where
  table := Table.empty
  stage := .starting (startup (fun _ => "") lone)

end lone

theorem gateway_is_clean_lone :
    ∃ moment, ((gateway (fun _ => "") lone).system discipline Table.empty).run lone.start
        lone.schedule = some moment ∧
      moment.stage = .ended { code := 0 } ∧ moment.table = Table.empty := by
  refine ⟨_, rfl, rfl, ?_⟩
  have initial : ((gateway (fun _ => "") lone).system discipline Table.empty).Reachable
      lone.start := .start rfl
  have reached := initial.run lone.schedule
    (System.guarded_of_labels _ _ (fun _ _ _ => trivial) _) rfl
  exact (gateway_is_clean _ _ _ reached).2.2.2 _ rfl

end TelemetryGateway.Main
