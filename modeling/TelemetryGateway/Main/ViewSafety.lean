import TelemetryGateway.Main.View

/-! # What the view process leaves behind

Of the two threads each has at most one connection of its own. The consumer loop
has one exactly while its state says so. -/

namespace TelemetryGateway.ViewMain

open Handles Program Main

variable {strerror gaiStrerror : Nat → String} {config : Config} {setup : Setup}
  {shared own : Table Handle Mode}

/-! ## Startup -/

def Setup.Sound (setup : Setup) : Prop :=
  (setup.entries.map Prod.fst).Nodup

theorem startup_safe {post : Except Exit Setup → Table Handle Mode → Prop}
    (failed : ∀ exit, post (.error exit) Table.empty)
    (ready : ∀ setup : Setup, setup.Sound → post (.ok setup) (Table.ofList setup.entries)) :
    (startup strerror config).Safe discipline shared Table.empty post := by
  unfold startup
  rw [safe_bind]
  apply make_safe rfl
  intro page free
  rw [safe_bind, safe_ask]
  intro started
  rw [safe_bind]
  apply Tcp.createListening_safe
  · intro error
    dsimp only
    rw [safe_bind, safe_release, Table.set_self, Table.erase_set free]
    exact ⟨rfl, failed _⟩
  · intro server listenFree stopFree fresh
    dsimp only
    rw [safe_bind, safe_ask]
    intro now
    have one : (Table.empty.set page (object .page)).Listed [(page, object .page)] :=
      Table.Listed.nil.add [] [] free rfl rfl
    have two : (_ : Table Handle Mode).Listed [(server.listenFd, Tcp.listener), (page, object .page)] :=
      one.add [] _ listenFree rfl rfl
    have three : (_ : Table Handle Mode).Listed
        [(server.listenFd, Tcp.listener), (server.stopFd, event), (page, object .page)] :=
      two.add [_] _ stopFree rfl rfl
    have all : (_ : Table Handle Mode).Listed
        [(server.listenFd, Tcp.listener), (server.stopFd, event),
          (server.object, object .server), (page, object .page)] :=
      three.add [_, _] _ fresh rfl rfl
    rw [all.eq]
    exact ready { page := page, server := server, startedNs := UInt64.ofNat started.value,
                  nextTick := UInt64.ofNat now.value + View.Loop.second } all.distinct

/-! ## What the threads refer to -/

structure Setup.Sees (setup : Setup) (shared : Table Handle Mode) : Prop where
  page : shared setup.page = some (object .page)
  listenFd : shared setup.server.listenFd = some Tcp.listener
  stopFd : shared setup.server.stopFd = some event
  object : shared setup.server.object = some (object .server)

theorem Setup.Sound.sees (sound : setup.Sound) {outside : Table Handle Mode}
    (apart : ∀ handle, outside handle = none ∨ Table.ofList setup.entries handle = none) :
    setup.Sees (outside.beside (Table.ofList setup.entries)) := by
  have live (entry : Handle × Mode) (member : entry ∈ setup.entries) :
      outside.beside (Table.ofList setup.entries) entry.1 = some entry.2 :=
    Table.beside_of_apart apart (Table.ofList_of_mem sound member)
  constructor
  · exact live (setup.page, object .page) (by simp [entries])
  · exact live (setup.server.listenFd, Tcp.listener) (by simp [entries])
  · exact live (setup.server.stopFd, event) (by simp [entries])
  · exact live (setup.server.object, object .server) (by simp [entries])

section

variable (sees : setup.Sees shared) (apart : ∀ handle, own handle = none ∨ shared handle = none)

include sees apart

theorem permits_page : discipline.permits (own.beside shared) .method [setup.page] = true := by
  apply permits_shared apart
  intro handle member
  rw [List.mem_singleton.mp member]
  exact ⟨_, sees.page, rfl⟩

theorem permits_server :
    discipline.permits (own.beside shared) .method [setup.server.object] = true := by
  apply permits_shared apart
  intro handle member
  rw [List.mem_singleton.mp member]
  exact ⟨_, sees.object, rfl⟩

end

/-! ## The consumer loop -/

/-- The loop is in a state it can reach, and has a stream exactly while it is not
away. -/
structure Consumer.Holds (setup : Setup) (consumer : Consumer) (own : Table Handle Mode) :
    Prop where
  reached : (View.Loop.system setup.startedNs setup.nextTick).Reachable consumer.loop
  owns : Tcp.OwnsConnection own consumer.stream
  away : consumer.stream = none ↔ consumer.loop.stage = .away
  reading : consumer.round ≠ none → consumer.loop.stage = .reading

section

variable {consumer : Consumer} {fd : Nat}

theorem Consumer.Holds.perform (holds : consumer.Holds setup own) {event : View.Loop.Event}
    (ready : consumer.loop.ready event = true) {after : View.Loop}
    (performed : consumer.loop.perform event = some after) :
    (View.Loop.system setup.startedNs setup.nextTick).Reachable after :=
  .next holds.reached trivial (View.Loop.step_eq_some.mpr ⟨ready, performed⟩)

theorem connectStream_safe {post : Except String Handle → Table Handle Mode → Prop}
    (failed : ∀ error, post (.error error) own)
    (connected : ∀ number : Nat, shared (.fd number) = none →
      post (.ok (.fd number)) (own.set (.fd number) (Tcp.connection.add .nonblock))) :
    (connectStream strerror gaiStrerror config).Safe discipline shared own post := by
  unfold connectStream
  rw [safe_bind]
  apply Tcp.connectTo_safe
  · exact failed
  · intro number free apart
    dsimp only
    rw [safe_bind]
    apply Tcp.setNonblocking_safe rfl
    · exact fun error => Tcp.abandon_safe free (failed error)
    · exact connected number apart

theorem connect_safe (sees : setup.Sees shared)
    (apart : ∀ handle, own handle = none ∨ shared handle = none)
    (holds : consumer.Holds setup own) (without : consumer.stream = none) :
    (connect strerror gaiStrerror config setup consumer).Safe discipline shared own
      fun consumer own => consumer.Holds setup own := by
  have away := holds.away.mp without
  have nothing : own = Table.empty := by
    have owns := holds.owns
    rw [without] at owns
    exact owns
  unfold connect
  rw [safe_bind]
  apply connectStream_safe
  · exact fun error => holds
  · intro number free
    dsimp only
    rw [safe_bind]
    apply invoke_safe (permits_page sees (Table.apart_set apart free _))
    intro _
    constructor
    · have ready : consumer.loop.ready .connect = true := by simp [View.Loop.ready, away]
      exact holds.perform ready rfl
    · rw [nothing]
      exact ⟨_, rfl, rfl⟩
    · exact iff_of_false (Option.some_ne_none number) fun same => View.Stage.noConfusion same
    · exact fun impossible => absurd rfl impossible

theorem Consumer.Holds.present (holds : consumer.Holds setup own)
    (stream : consumer.stream = some fd) : consumer.loop.stage ≠ .away := by
  intro away
  rw [holds.away.mpr away] at stream
  cases stream

theorem Consumer.Holds.permits (holds : consumer.Holds setup own)
    (stream : consumer.stream = some fd) {call : Call}
    (allowed : ∀ mode, Tcp.writable mode = true → discipline.allows call mode = true) :
    discipline.permits (own.beside shared) call [.fd fd] = true :=
  Tcp.permits_connection (stream ▸ holds.owns) allowed

theorem leave_safe (sees : setup.Sees shared)
    (apart : ∀ handle, own handle = none ∨ shared handle = none)
    (holds : consumer.Holds setup own) (stream : consumer.stream = some fd) :
    (leave setup consumer fd).Safe discipline shared own
      fun consumer own => consumer.Holds setup own := by
  have present := holds.present stream
  have owns := holds.owns
  rw [stream] at owns
  rcases owns with ⟨mode, _, rfl⟩
  unfold leave
  rw [safe_bind]
  apply invoke_safe (permits_page sees apart)
  intro _
  rw [safe_bind, safe_release, Table.set_self, Table.erase_set rfl]
  refine ⟨rfl, ?_, rfl, ?_, ?_⟩
  · have ready : consumer.loop.ready .leave = true := by simp [View.Loop.ready, present]
    exact holds.perform ready rfl
  · exact ⟨fun _ => rfl, fun _ => rfl⟩
  · exact fun impossible => absurd rfl impossible

theorem stage_round {loop after : View.Loop} {status : FrameStream.Status}
    {batch : FrameStream.Batch} {now : UInt64} (turned : loop.round status batch now = some after) :
    after.stage = View.Loop.stageAfter status := by
  unfold View.Loop.round at turned
  split at turned
  · cases turned
    rfl
  · rcases Option.map_eq_some_iff.mp turned with ⟨state, _, rfl⟩
    split <;> rfl

theorem Consumer.Holds.turn (holds : consumer.Holds setup own)
    (stream : consumer.stream = some fd) (reading : consumer.loop.stage = .reading)
    (round : Round) : (consumer.turn round).Holds setup own := by
  unfold Consumer.turn
  split
  · rename_i loop turned
    have ready : consumer.loop.ready (.round round.status round.batch round.now) = true := by
      simp [View.Loop.ready, reading]
    constructor
    · exact holds.perform ready turned
    · exact holds.owns
    · have present : View.Loop.stageAfter round.status ≠ .away := by
        cases round.status <;> exact fun same => View.Stage.noConfusion same
      rw [stream, stage_round turned]
      exact iff_of_false (Option.some_ne_none fd) present
    · exact fun impossible => absurd rfl impossible
  · exact holds

theorem Consumer.Holds.begin (holds : consumer.Holds setup own)
    (reading : consumer.loop.stage = .reading) (round : Round) :
    Consumer.Holds setup { consumer with round := some round } own :=
  ⟨holds.reached, holds.owns, holds.away, fun _ => reading⟩

theorem concluded_safe (holds : consumer.Holds setup own) (stream : consumer.stream = some fd)
    (reading : consumer.loop.stage = .reading) :
    (concluded consumer).Safe discipline shared own
      fun consumer own => consumer.Holds setup own := by
  unfold concluded
  rw [safe_bind, safe_ask]
  intro outcome
  rw [safe_bind, safe_ask]
  intro now
  split
  · exact holds
  · exact holds.begin reading _
  · exact holds.begin reading _
  · exact holds.turn stream reading _
  · exact holds.begin reading _

theorem readSome_safe (holds : consumer.Holds setup own) (stream : consumer.stream = some fd)
    (reading : consumer.loop.stage = .reading) :
    (readSome consumer fd).Safe discipline shared own
      fun consumer own => consumer.Holds setup own := by
  have goes := @concluded_safe setup shared own _ _ holds stream reading
  unfold readSome
  rw [safe_bind]
  apply safe_use_passive (fun mode => rfl)
  · apply holds.permits stream
    intro mode able
    exact Bool.or_eq_true_iff.mpr (Or.inr able)
  · intro answer
    cases answer with
    | ok reply => exact goes
    | error errno =>
        dsimp only
        split
        · rw [safe_bind]
          apply safe_use_passive (fun mode => rfl)
          · exact holds.permits stream fun mode => Tcp.writable_kind
          · exact fun _ => goes
        · exact goes

theorem sendEcho_safe {msg : List UInt8} {rest : List (List UInt8)}
    {post : List (List UInt8) → Table Handle Mode → Prop} (holds : consumer.Holds setup own)
    (stream : consumer.stream = some fd) (sent : ∀ left, post left own) :
    (sendEcho fd msg rest).Safe discipline shared own post := by
  unfold sendEcho
  rw [safe_bind]
  apply safe_use_passive (fun mode => rfl)
  · exact holds.permits stream fun mode able => able
  · intro answer
    cases answer with
    | ok reply =>
        dsimp only
        split <;> exact sent _
    | error errno =>
        dsimp only
        split <;> exact sent _

theorem goOn_safe (sees : setup.Sees shared)
    (apart : ∀ handle, own handle = none ∨ shared handle = none)
    (holds : consumer.Holds setup own) (stream : consumer.stream = some fd) {round : Round}
    (there : consumer.round = some round) :
    (goOn setup consumer fd round).Safe discipline shared own
      fun consumer own => consumer.Holds setup own := by
  have reading : consumer.loop.stage = .reading := by
    apply holds.reading
    rw [there]
    exact Option.some_ne_none round
  unfold goOn
  rw [safe_bind]
  apply invoke_safe (permits_page sees apart)
  intro _
  split
  · rw [safe_bind]
    apply sendEcho_safe holds stream
    exact fun left => holds.begin reading _
  · exact holds.turn stream reading round

theorem stopServer_safe (sees : setup.Sees shared)
    (apart : ∀ handle, own handle = none ∨ shared handle = none)
    {post : Unit → Table Handle Mode → Prop} (stopped : post () own) :
    (stopServer setup.server).Safe discipline shared own post := by
  unfold stopServer
  rw [safe_bind]
  apply invoke_safe (permits_server sees apart)
  intro _
  rw [safe_bind]
  apply safe_use_passive (fun mode => rfl)
  · apply permits_shared apart
    intro handle member
    rw [List.mem_singleton.mp member]
    exact ⟨event, sees.stopFd, rfl⟩
  · exact fun _ => stopped

theorem consumerTurn_safe (sees : setup.Sees shared)
    (apart : ∀ handle, own handle = none ∨ shared handle = none)
    (holds : consumer.Holds setup own) :
    (consumerTurn strerror gaiStrerror config setup consumer).Safe discipline shared own
      fun result own =>
        match result with
        | .inl consumer => consumer.Holds setup own
        | .inr _ => own = Table.empty := by
  unfold consumerTurn
  split
  · rename_i fd round stream there
    rw [safe_map]
    exact goOn_safe sees apart holds stream there
  · rename_i fd stream _
    rw [safe_bind, safe_ask]
    intro stop
    split
    · rw [safe_map]
      exact leave_safe sees apart holds stream
    · rename_i neither
      rw [safe_map]
      apply readSome_safe holds stream
      have present := holds.present stream
      cases stage : consumer.loop.stage with
      | away => exact absurd stage present
      | reading => rfl
      | leaving => exact absurd (Or.inr stage) neither
  · rename_i without
    rw [safe_bind, safe_ask]
    intro stop
    split
    · rw [safe_bind]
      apply stopServer_safe sees apart
      have owns := holds.owns
      rw [without] at owns
      exact owns
    · rw [safe_map]
      exact connect_safe sees apart holds without

end

/-! ## The server -/

section

variable {serving : Serving} {fd : Nat} (owns : Tcp.OwnsConnection own (some fd))

theorem acceptClient_safe (sees : setup.Sees shared) :
    (acceptClient strerror setup.server).Safe discipline shared Table.empty
      fun serving own => Tcp.OwnsConnection own serving.fd := by
  unfold acceptClient
  rw [safe_bind]
  apply Tcp.acceptNonblocking_safe
  · rw [Table.empty_beside, Discipline.permits_iff]
    intro handle member
    rw [List.mem_singleton.mp member]
    exact ⟨Tcp.listener, sees.listenFd, rfl⟩
  · intro result nobody
    split
    · exact absurd rfl (nobody _)
    · rfl
  · exact fun number _ _ => ⟨_, rfl, rfl⟩

theorem listen_safe (sees : setup.Sees shared) :
    (listen strerror setup.server).Safe discipline shared Table.empty fun result own =>
      match result with
      | .inl serving => Tcp.OwnsConnection own serving.fd
      | .inr _ => own = Table.empty := by
  unfold listen
  rw [safe_bind]
  apply safe_use_passive (fun mode => rfl)
  · rw [Table.empty_beside, Discipline.permits_iff]
    intro handle member
    rcases List.mem_pair.mp member with rfl | rfl
    · exact ⟨Tcp.listener, sees.listenFd, rfl⟩
    · exact ⟨event, sees.stopFd, rfl⟩
  · intro answer
    cases answer with
    | error errno =>
        dsimp only
        split <;> rfl
    | ok reply =>
        dsimp only
        split
        · rfl
        · split
          · rw [safe_map]
            exact acceptClient_safe sees
          · rfl

include owns

theorem hangUp_safe : (hangUp fd).Safe discipline shared own
    fun serving own => Tcp.OwnsConnection own serving.fd := by
  rcases owns with ⟨mode, _, rfl⟩
  unfold hangUp
  rw [safe_bind, safe_release, Table.set_self, Table.erase_set rfl]
  exact ⟨rfl, rfl⟩

theorem await_safe (same : serving.fd = some fd) : (await fd serving).Safe discipline shared own
    fun serving own => Tcp.OwnsConnection own serving.fd := by
  unfold await
  rw [safe_bind]
  apply safe_use_passive (fun mode => rfl)
  · exact Tcp.permits_connection owns fun mode => Tcp.writable_kind
  · intro answer
    cases answer with
    | error errno => exact hangUp_safe owns
    | ok reply =>
        dsimp only
        split
        · exact hangUp_safe owns
        · rw [← same] at owns
          exact owns

theorem recvSome_safe {request : List UInt8} : (recvSome fd request).Safe discipline shared own
    fun serving own => Tcp.OwnsConnection own serving.fd := by
  unfold recvSome
  rw [safe_bind]
  apply safe_use_passive (fun mode => rfl)
  · exact Tcp.permits_connection owns fun mode able => able
  · intro answer
    cases answer with
    | ok reply =>
        dsimp only
        split
        · exact hangUp_safe owns
        · exact owns
    | error errno =>
        dsimp only
        split
        · exact owns
        · split
          · exact await_safe owns rfl
          · exact hangUp_safe owns

theorem writeReply_safe {out : List UInt8} : (writeReply fd out).Safe discipline shared own
    fun serving own => Tcp.OwnsConnection own serving.fd := by
  unfold writeReply
  split
  · exact hangUp_safe owns
  · rw [safe_bind]
    apply safe_use_passive (fun mode => rfl)
    · exact Tcp.permits_connection owns fun mode able => able
    · intro answer
      cases answer with
      | ok reply =>
          dsimp only
          split
          · exact owns
          · exact hangUp_safe owns
      | error errno =>
          dsimp only
          split
          · exact await_safe owns rfl
          · split
            · exact owns
            · exact hangUp_safe owns

theorem readRequest_safe (sees : setup.Sees shared)
    (apart : ∀ handle, own handle = none ∨ shared handle = none) {request : List UInt8} :
    (readRequest config setup fd request).Safe discipline shared own
      fun serving own => Tcp.OwnsConnection own serving.fd := by
  unfold readRequest
  split
  · rw [safe_bind]
    unfold answer
    split
    · exact owns
    · rw [safe_bind]
      apply invoke_safe (permits_page sees apart)
      exact fun found => owns
  · split
    · rw [safe_bind]
      apply safe_use_passive (fun mode => rfl)
      · exact Tcp.permits_connection owns fun mode able => able
      · exact fun _ => hangUp_safe owns
    · exact recvSome_safe owns

end

theorem serverTurn_safe {serving : Serving} (sees : setup.Sees shared)
    (apart : ∀ handle, own handle = none ∨ shared handle = none)
    (owns : Tcp.OwnsConnection own serving.fd) :
    (serverTurn strerror config setup serving).Safe discipline shared own fun result own =>
      match result with
      | .inl serving => Tcp.OwnsConnection own serving.fd
      | .inr _ => own = Table.empty := by
  unfold serverTurn
  rw [safe_bind]
  apply invoke_safe (permits_server sees apart)
  intro _
  cases serving with
  | idle =>
      cases owns
      exact listen_safe sees
  | reading fd request =>
      dsimp only
      rw [safe_map]
      exact readRequest_safe owns sees apart
  | writing fd out =>
      dsimp only
      rw [safe_map]
      exact writeReply_safe owns

/-! ## The process -/

def Role.Holds (setup : Setup) : (role : Role) → role.State → Table Handle Mode → Prop
  | .consumer, state, own => Consumer.Holds setup state own
  | .server, state, own => Tcp.OwnsConnection own (Serving.fd state)

theorem finish_safe (sound : setup.Sound) :
    (finish setup).Safe discipline shared (Table.ofList setup.entries) fun _ own =>
      own = Table.empty := by
  have listed : (Table.ofList setup.entries).Listed setup.entries := ⟨sound, rfl⟩
  unfold finish
  rw [safe_bind]
  apply invoke_safe
  · rw [Discipline.permits_iff]
    intro handle member
    rcases List.mem_pair.mp member with rfl | rfl
    · refine ⟨object .page, Table.beside_of_some (listed.live ?_), rfl⟩
      simp [Setup.entries]
    · refine ⟨object .server, Table.beside_of_some (listed.live ?_), rfl⟩
      simp [Setup.entries]
  · intro _
    rw [safe_bind]
    exact safe_releaseAll_listed listed rfl

theorem view_verified (strerror gaiStrerror : Nat → String) (config : Config)
    (outside : Table Handle Mode) :
    (view strerror gaiStrerror config).Verified discipline outside Setup.Sound
      (fun setup => Table.ofList setup.entries) Role.Holds
      (fun _ _ _ own => own = Table.empty) where
  startup := by
    apply startup_safe
    · exact fun exit => rfl
    · intro setup sound
      refine ⟨sound, fun _ => Table.empty, Table.Divided.start _, ?_⟩
      intro role
      cases role with
      | consumer =>
          refine ⟨.start rfl, rfl, iff_of_true rfl rfl, ?_⟩
          exact fun impossible => absurd rfl impossible
      | server => rfl
  turn := by
    intro setup role state own sound apart mine holds
    have sees := sound.sees apart
    cases role with
    | consumer =>
        apply (consumerTurn_safe sees mine holds).mono
        intro result own keeps
        cases result <;> exact keeps
    | server =>
        apply (serverTurn_safe sees mine holds).mono
        intro result own keeps
        cases result <;> exact keeps
  finish := by
    intro setup values own owns sound divided left
    have nothing : owns = fun _ => Table.empty := funext left
    rw [nothing] at divided
    rw [divided.nothing_left]
    exact finish_safe sound

/-- The view, in every run and in every interleaving of its threads. Each call is
made on a descriptor that is open and has been prepared for it, or on an object
that has not been destroyed; other descriptors stay as they are; the consumer loop
goes through states of its machine only; and once `main` has returned, however
often it has connected, nothing it opened or made is left. -/
theorem view_is_clean (strerror gaiStrerror : Nat → String) (config : Config)
    (outside : Table Handle Mode) {moment : (view strerror gaiStrerror config).Moment Mode}
    (reached : ((view strerror gaiStrerror config).system discipline outside).Reachable moment) :
    moment.Proper discipline ∧
      (∀ handle mode, outside handle = some mode → moment.table handle = some mode) ∧
      (∀ setup threads consumer, moment.stage = .running setup threads →
        threads .consumer = .done (.inl consumer) →
        (View.Loop.system setup.startedNs setup.nextTick).Reachable consumer.loop) ∧
      ∀ exit, moment.stage = .ended exit → moment.table = outside := by
  have sound := (view_verified strerror gaiStrerror config outside).sound reached
  refine ⟨sound.proper, sound.untouched, ?_, ?_⟩
  · intro setup threads consumer running waiting
    unfold Process.Verified.Sound at sound
    rw [running] at sound
    rcases sound with ⟨_, _, owns, _, safe⟩
    have holds := safe .consumer
    rw [waiting] at holds
    exact holds.reached
  · intro exit ended
    unfold Process.Verified.Sound at sound
    rw [ended] at sound
    exact sound

def nearby : Config where
  host := "127.0.0.1"
  port := 9003
  httpPort := 8080
  handler _ _ := {}

namespace nearby

abbrev Label : Type :=
  Process.Label Handle Reply Role

/-- There is no gateway at first. The second attempt connects, a browser does so
too, and both connections are closed from the other side. -/
def schedule : List Label :=
  let ok := replied 0 []
  let consumer (answers : List (Answer Handle Reply)) : List Label :=
    .turn .consumer :: answers.map (.thread .consumer)
  let server (answers : List (Answer Handle Reply)) : List Label :=
    .turn .server :: answers.map (.thread .server)
  [made 0, ok, opened 3, ok, ok, ok, ok, ok, opened 4, ok, made 1, ok].map .call ++ .proceed ::
    [ok, made 2, replied 1 [], ok, opened 5, .failed 111, .released, .released, ok].map
      (.thread .consumer) ++
    consumer [ok, made 3, replied 1 [], ok, opened 6, ok, .released, ok, ok, ok, ok] ++
    [ok, replied 1 [POLLIN, 0], opened 5, ok, ok, ok].map (.thread .server) ++
    consumer [ok, ok, replied 3 [], ok] ++ consumer [ok, ok, .released] ++
    server [ok, ok, .released] ++ consumer [replied 1 [], ok, ok] ++
    server [ok, replied 1 [0, POLLIN]] ++
    .proceed :: (ok :: List.replicate 4 Answer.released).map .call ++ [.proceed]

def start : (view (fun _ => "") (fun _ => "") nearby).Moment Mode where
  table := Table.empty
  stage := .starting (startup (fun _ => "") nearby)

end nearby

theorem view_is_clean_nearby :
    ∃ moment, ((view (fun _ => "") (fun _ => "") nearby).system discipline Table.empty).run
        nearby.start nearby.schedule = some moment ∧
      moment.stage = .ended { code := 0 } ∧ moment.table = Table.empty := by
  refine ⟨_, rfl, rfl, ?_⟩
  have initial : ((view (fun _ => "") (fun _ => "") nearby).system discipline
      Table.empty).Reachable nearby.start := .start rfl
  have reached := initial.run nearby.schedule
    (System.guarded_of_labels _ _ (fun _ _ _ => trivial) _) rfl
  exact (view_is_clean _ _ _ _ reached).2.2.2 _ rfl

end TelemetryGateway.ViewMain
