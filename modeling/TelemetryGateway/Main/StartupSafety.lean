import TelemetryGateway.Main.Startup

/-! # What setting up leaves behind

Either all of it is there, each thing with what it owns, or nothing is. -/

namespace TelemetryGateway.Main

open Handles Program

variable {strerror : Nat → String} {shared own : Table Handle Mode}

/-! ## Sources -/

def permitsAll : List (Call × String) → Mode → Bool
  | [], _ => true
  | step :: rest, mode =>
      discipline.allows step.1 mode && permitsAll rest (discipline.after step.1 mode)

def afterAll (steps : List (Call × String)) (mode : Mode) : Mode :=
  steps.foldl (fun mode step => discipline.after step.1 mode) mode

theorem prepare_safe {fd : Handle} {steps : List (Call × String)} {mode : Mode}
    {post : Except String Unit → Table Handle Mode → Prop} (free : own fd = none)
    (allowed : permitsAll steps mode = true) (failed : ∀ error, post (.error error) own)
    (done : post (.ok ()) (own.set fd (afterAll steps mode))) :
    (prepare strerror fd steps).Safe discipline shared (own.set fd mode) post := by
  induction steps generalizing mode with
  | nil => exact done
  | cons step rest induction =>
      rcases Bool.and_eq_true_iff.mp allowed with ⟨now, later⟩
      unfold prepare
      rw [safe_bind]
      apply safe_use_set now
      · exact fun errno => Tcp.abandon_safe free (failed _)
      · exact fun _ => induction later done

theorem permitsAll_canOptions (ifname : String) (receiveErrors : Bool) :
    permitsAll (canOptions ifname receiveErrors) { kind := .can, settings := [.nonblock] } =
      true := by
  cases receiveErrors <;> rfl

theorem afterAll_canOptions (ifname : String) (receiveErrors : Bool) :
    afterAll (canOptions ifname receiveErrors) { kind := .can, settings := [.nonblock] } =
      bus receiveErrors := by
  cases receiveErrors <;> rfl

theorem openCan_safe {ifname : String} {receiveErrors : Bool}
    {post : Except String SourceObject → Table Handle Mode → Prop}
    (failed : ∀ error, post (.error error) own)
    (opened : ∀ source, own source.fd = none →
      own.set source.fd source.mode source.object = none →
      post (.ok source) ((own.set source.fd source.mode).set source.object (object .source))) :
    (openCan strerror ifname receiveErrors).Safe discipline shared own post := by
  unfold openCan
  split
  · exact failed _
  · rw [safe_bind, safe_create]
    refine ⟨rfl, fun errno => failed _, ?_⟩
    intro fd mode fresh free _
    have made : mode = { kind := .can, settings := [.nonblock] } := by
      rcases fd with ⟨number | negative⟩ | address
      · exact (Option.some.inj fresh).symm
      · cases fresh
      · cases fresh
    rw [made]
    dsimp only
    rw [safe_bind]
    apply prepare_safe free (permitsAll_canOptions ifname receiveErrors) failed
    rw [afterAll_canOptions]
    dsimp only
    rw [safe_bind]
    apply make_safe rfl
    intro object fresh
    exact opened { fd := fd, object := object, type := .can receiveErrors } free fresh

theorem openSynthetic_safe {cfg : SyntheticSource.Config}
    {post : Except String SourceObject → Table Handle Mode → Prop}
    (failed : ∀ error, post (.error error) own)
    (opened : ∀ source, own source.fd = none →
      own.set source.fd source.mode source.object = none →
      post (.ok source) ((own.set source.fd source.mode).set source.object (object .source))) :
    (openSynthetic strerror cfg).Safe discipline shared own post := by
  unfold openSynthetic
  split
  · exact failed _
  · split
    · exact failed _
    · rw [safe_bind, safe_create]
      refine ⟨rfl, fun errno => failed _, ?_⟩
      intro fd mode fresh free _
      have made : mode = { kind := .timer, settings := [.nonblock] } := by
        rcases fd with ⟨number | negative⟩ | address
        · exact (Option.some.inj fresh).symm
        · cases fresh
        · cases fresh
      rw [made]
      dsimp only
      rw [safe_bind]
      apply safe_use_set rfl
      · exact fun errno => Tcp.abandon_safe free (failed _)
      · intro _
        dsimp only
        rw [safe_bind]
        apply make_safe rfl
        intro object fresh
        exact opened { fd := fd, object := object, type := .synthetic } free fresh

theorem openSource_safe {spec : String} {srcId : UInt8} {rate : UInt32}
    {post : Except String SourceObject → Table Handle Mode → Prop}
    (failed : ∀ error, post (.error error) own)
    (opened : ∀ source, own source.fd = none →
      own.set source.fd source.mode source.object = none →
      post (.ok source) ((own.set source.fd source.mode).set source.object (object .source))) :
    (openSource strerror spec srcId rate).Safe discipline shared own post := by
  unfold openSource
  split
  · exact openCan_safe failed opened
  · split
    · exact openSynthetic_safe failed opened
    · exact failed _

/-! ## Egresses and the ingest -/

theorem createEgress_safe {feed : FeedObject} {port : UInt16} {tuning : Tuning}
    {post : Except String EgressObject → Table Handle Mode → Prop}
    (failed : ∀ error, post (.error error) own)
    (created : ∀ egress : EgressObject, egress.feed = feed → egress.clientFd = none →
      0 < tuning.maxFrames → tuning.maxFrames ≤ Egress.kMaxBatch → own egress.listenFd = none →
      own.set egress.listenFd Tcp.listener egress.stopFd = none →
      (own.set egress.listenFd Tcp.listener).set egress.stopFd event egress.object = none →
      post (.ok egress) (((own.set egress.listenFd Tcp.listener).set egress.stopFd event).set
        egress.object (object .egress))) :
    (createEgress strerror feed port tuning).Safe discipline shared own post := by
  unfold createEgress
  split
  · exact failed _
  · rename_i fits
    rcases not_or.mp fits with ⟨some, few⟩
    rw [safe_bind]
    apply Tcp.createListening_safe failed
    intro listening listenFree stopFree fresh
    exact created _ rfl rfl (Nat.pos_of_ne_zero some) (Nat.not_lt.mp few) listenFree stopFree fresh

theorem createStop_safe {post : Except String IngestObject → Table Handle Mode → Prop}
    (failed : ∀ error, post (.error error) own)
    (created : ∀ ingest : IngestObject, own ingest.stopFd = none →
      own.set ingest.stopFd event ingest.object = none →
      post (.ok ingest) ((own.set ingest.stopFd event).set ingest.object (object .ingest))) :
    (createStop strerror).Safe discipline shared own post := by
  unfold createStop
  rw [safe_bind]
  apply eventfd_safe
  · exact fun errno => failed _
  · intro stopFd free
    dsimp only
    rw [safe_bind]
    apply make_safe rfl
    intro object fresh
    exact created { stopFd := stopFd, object := object } free fresh

/-! ## `main` -/

structure Setup.Owns (setup : Setup) (tuning : Tuning) (own : Table Handle Mode) : Prop where
  listed : own.Listed setup.entries
  rings : ∀ feed ∈ setup.sinks, feed.ring = setup.ring
  feeds : ∀ egress ∈ setup.egresses, egress.feed ∈ setup.feeds
  clients : ∀ egress ∈ setup.egresses, egress.clientFd = none
  tuned : setup.egresses ≠ [] → 0 < tuning.maxFrames ∧ tuning.maxFrames ≤ Egress.kMaxBatch

section

variable {setup : Setup} {tuning : Tuning}

theorem giveUp_safe {message : String} {post : Except Exit T → Table Handle Mode → Prop}
    (owns : setup.Owns tuning own) (failed : ∀ exit, post (.error exit) Table.empty) :
    (setup.giveUp message).Safe discipline shared own post := by
  unfold Setup.giveUp Setup.destroy
  rw [safe_bind]
  exact safe_releaseAll_listed owns.listed (failed _)

theorem openSources_safe {rate : UInt32} {i : Nat} {specs : List String}
    {post : Except Exit Setup → Table Handle Mode → Prop} (owns : setup.Owns tuning own)
    (failed : ∀ exit, post (.error exit) Table.empty)
    (opened : ∀ sources own, { setup with sources := sources }.Owns tuning own →
      post (.ok { setup with sources := sources }) own) :
    (openSources strerror rate i specs setup).Safe discipline shared own post := by
  induction specs generalizing i setup own with
  | nil => exact opened setup.sources own owns
  | cons spec rest induction =>
      unfold openSources
      rw [safe_bind]
      apply openSource_safe
      · exact fun error => giveUp_safe owns failed
      · intro source free fresh
        dsimp only
        refine @induction _ { setup with sources := setup.sources ++ [source] } _ ?_ opened
        refine ⟨?_, owns.rings, owns.feeds, owns.clients, owns.tuned⟩
        have opened : (own.set source.fd source.mode).Listed
            (setup.entries ++ [(source.fd, source.mode)]) :=
          owns.listed.add setup.entries [] free (List.append_nil _).symm rfl
        apply opened.add (setup.entries ++ [(source.fd, source.mode)]) [] fresh
        · rw [List.append_nil]
        · simp [Setup.entries, SourceObject.entries]

theorem makeRing_safe {ring : Bool} {post : Setup → Table Handle Mode → Prop}
    (owns : setup.Owns tuning own) (sinks : setup.sinks = []) (none : setup.ring = none)
    (made : ∀ ring own, { setup with ring := ring }.Owns tuning own →
      post { setup with ring := ring } own) :
    (makeRing ring setup).Safe discipline shared own post := by
  unfold makeRing
  split
  · rw [safe_bind]
    apply make_safe rfl
    intro handle fresh
    apply made (some handle)
    refine ⟨?_, ?_, owns.feeds, owns.clients, owns.tuned⟩
    · apply owns.listed.add
        (setup.ingest.toList.flatMap IngestObject.entries ++
          setup.egresses.flatMap (EgressObject.entries · Tcp.client) ++
          setup.tapFeed.toList.map (fun feed => (feed.object, object .feed)) ++
          setup.feeds.map (fun feed => (feed.object, object .feed)))
        (setup.sources.flatMap SourceObject.entries) fresh
      · simp [Setup.entries, none]
      · simp [Setup.entries]
    · intro feed member
      change feed ∈ setup.sinks at member
      rw [sinks] at member
      cases member
  · exact made setup.ring own owns

theorem makeFeed_safe {post : FeedObject → Table Handle Mode → Prop}
    (owns : setup.Owns tuning own)
    (made : ∀ feed, feed.ring = setup.ring → own feed.object = none →
      post feed (own.set feed.object (object .feed))) :
    (makeFeed setup).Safe discipline shared own post := by
  unfold makeFeed
  rw [safe_bind]
  apply make_safe
  · rw [Discipline.permits_iff]
    intro ring member
    have there : (ring, object .ring) ∈ setup.entries := by
      simp [Setup.entries, Option.mem_toList.mp member]
    exact ⟨object .ring, Table.beside_of_some (owns.listed.live there), rfl⟩
  · intro handle fresh
    exact made { object := handle, ring := setup.ring } rfl fresh

theorem makeFeeds_safe {consumers : Nat} {post : Setup → Table Handle Mode → Prop}
    (owns : setup.Owns tuning own)
    (made : ∀ feeds own, feeds.length = setup.feeds.length + consumers →
      { setup with feeds := feeds }.Owns tuning own → post { setup with feeds := feeds } own) :
    (makeFeeds consumers setup).Safe discipline shared own post := by
  induction consumers generalizing setup own with
  | zero => exact made setup.feeds own rfl owns
  | succ consumers induction =>
      unfold makeFeeds
      rw [safe_bind]
      apply makeFeed_safe owns
      intro feed ring fresh
      apply @induction _ { setup with feeds := setup.feeds ++ [feed] }
      · refine ⟨?_, ?_, ?_, owns.clients, owns.tuned⟩
        · apply owns.listed.add
            (setup.ingest.toList.flatMap IngestObject.entries ++
              setup.egresses.flatMap (EgressObject.entries · Tcp.client) ++
              setup.tapFeed.toList.map (fun feed => (feed.object, object .feed)) ++
              setup.feeds.map (fun feed => (feed.object, object .feed)))
            (setup.ring.toList.map (fun ring => (ring, object .ring)) ++
              setup.sources.flatMap SourceObject.entries) fresh
          · simp [Setup.entries]
          · simp [Setup.entries]
        · intro other member
          simp only [Setup.sinks, List.mem_append, List.mem_singleton] at member
          rcases member with (old | rfl) | tap
          · exact owns.rings other (List.mem_append_left _ old)
          · exact ring
          · exact owns.rings other (List.mem_append_right _ tap)
        · exact fun egress member => List.mem_append_left _ (owns.feeds egress member)
      · intro feeds own length
        rw [List.length_append, List.length_singleton] at length
        exact made feeds own (by omega)

theorem makeTapFeed_safe {tap : Bool} {post : Setup → Table Handle Mode → Prop}
    (owns : setup.Owns tuning own) (none : setup.tapFeed = none)
    (made : ∀ tapFeed own, { setup with tapFeed := tapFeed }.Owns tuning own →
      post { setup with tapFeed := tapFeed } own) :
    (makeTapFeed tap setup).Safe discipline shared own post := by
  unfold makeTapFeed
  split
  · rw [safe_bind]
    apply makeFeed_safe owns
    intro feed ring fresh
    apply made (some feed)
    refine ⟨?_, ?_, owns.feeds, owns.clients, owns.tuned⟩
    · apply owns.listed.add
        (setup.ingest.toList.flatMap IngestObject.entries ++
          setup.egresses.flatMap (EgressObject.entries · Tcp.client))
        (setup.feeds.map (fun feed => (feed.object, object .feed)) ++
          setup.ring.toList.map (fun ring => (ring, object .ring)) ++
          setup.sources.flatMap SourceObject.entries) fresh
      · simp [Setup.entries, none]
      · simp [Setup.entries]
    · intro other member
      simp only [Setup.sinks, Option.toList_some, List.mem_append, List.mem_singleton] at member
      rcases member with old | rfl
      · exact owns.rings other (List.mem_append_left _ old)
      · exact ring
  · exact made setup.tapFeed own owns

theorem entries_eq (setup : Setup) : setup.entries =
    (setup.ingest.toList.flatMap IngestObject.entries ++
      setup.egresses.flatMap (EgressObject.entries · Tcp.client)) ++
    (setup.tapFeed.toList.map (fun feed => (feed.object, object .feed)) ++
      (setup.feeds.map (fun feed => (feed.object, object .feed)) ++
        (setup.ring.toList.map (fun ring => (ring, object .ring)) ++
          setup.sources.flatMap SourceObject.entries))) :=
  (List.append_assoc ..).symm

theorem createEgresses_safe {pairs : List (ConsumerSpec × FeedObject)}
    {post : Except Exit Setup → Table Handle Mode → Prop} (owns : setup.Owns tuning own)
    (members : ∀ pair ∈ pairs, pair.2 ∈ setup.feeds)
    (failed : ∀ exit, post (.error exit) Table.empty)
    (created : ∀ egresses own, egresses.length = setup.egresses.length + pairs.length →
      { setup with egresses := egresses }.Owns tuning own →
      post (.ok { setup with egresses := egresses }) own) :
    (createEgresses strerror tuning pairs setup).Safe discipline shared own post := by
  induction pairs generalizing setup own with
  | nil => exact created setup.egresses own rfl owns
  | cons pair rest induction =>
      unfold createEgresses
      rw [safe_bind]
      apply createEgress_safe
      · exact fun error => giveUp_safe owns failed
      · intro egress feed client positive limit listenFree stopFree fresh
        have entries : egress.entries Tcp.client =
            [(egress.listenFd, Tcp.listener), (egress.stopFd, event),
              (egress.object, object .egress)] := by
          simp [EgressObject.entries, client]
        dsimp only
        apply @induction _ { setup with egresses := setup.egresses ++ [egress] }
        · refine ⟨?_, owns.rings, ?_, ?_, fun _ => ⟨positive, limit⟩⟩
          · have before := owns.listed
            rw [entries_eq] at before
            have listening := before.insert listenFree Tcp.listener
            rw [List.append_cons] at listening
            have stopping := listening.insert stopFree event
            rw [List.append_cons] at stopping
            have there := stopping.insert fresh (object .egress)
            rw [entries_eq]
            simp only [List.flatMap_append, List.flatMap_cons, List.flatMap_nil, entries,
              List.append_nil, List.append_assoc, List.cons_append, List.nil_append] at there ⊢
            exact there
          · intro other member
            rcases List.mem_append.mp member with old | new
            · exact owns.feeds other old
            · rw [List.mem_singleton.mp new, feed]
              exact members pair List.mem_cons_self
          · intro other member
            rcases List.mem_append.mp member with old | new
            · exact owns.clients other old
            · rw [List.mem_singleton.mp new, client]
        · exact fun other member => members other (List.mem_cons_of_mem _ member)
        · intro egresses own length
          rw [List.length_append, List.length_singleton] at length
          exact created egresses own (by rw [List.length_cons]; omega)

theorem createIngest_safe {ring : Bool} {post : Except Exit Setup → Table Handle Mode → Prop}
    (owns : setup.Owns tuning own) (none : setup.ingest = none)
    (failed : ∀ exit, post (.error exit) Table.empty)
    (created : ∀ ingest own, { setup with ingest := some ingest }.Owns tuning own →
      post (.ok { setup with ingest := some ingest }) own) :
    (createIngest strerror ring setup).Safe discipline shared own post := by
  have given (ingest : IngestObject) (free : own ingest.stopFd = Option.none)
      (fresh : own.set ingest.stopFd event ingest.object = Option.none) :
      post (.ok { setup with ingest := some ingest })
        ((own.set ingest.stopFd event).set ingest.object (object .ingest)) := by
    apply created ingest
    refine ⟨?_, owns.rings, owns.feeds, owns.clients, owns.tuned⟩
    have stopping : (own.set ingest.stopFd event).Listed
        ((ingest.stopFd, event) :: setup.entries) :=
      owns.listed.add [] setup.entries free rfl rfl
    apply stopping.add [(ingest.stopFd, event)] setup.entries fresh rfl
    simp [Setup.entries, none, IngestObject.entries]
  unfold createIngest
  split
  · rw [safe_bind]
    unfold createRingIngest
    split
    · exact giveUp_safe owns failed
    · apply createStop_safe
      · exact fun error => giveUp_safe owns failed
      · exact given
  · rw [safe_bind]
    unfold createFanOut
    split
    · exact giveUp_safe owns failed
    · split
      · exact giveUp_safe owns failed
      · apply createStop_safe
        · exact fun error => giveUp_safe owns failed
        · exact given

end

/-- A startup that fails leaves nothing behind. One that does not has an egress
for each consumer. -/
theorem startup_safe {config : Config} {post : Except Exit Setup → Table Handle Mode → Prop}
    (failed : ∀ exit, post (.error exit) Table.empty)
    (ready : ∀ setup own, setup.Owns config.tuning own →
      setup.egresses.length = config.consumers.length → setup.ingest.isSome = true →
      post (.ok setup) own) :
    (startup strerror config).Safe discipline shared Table.empty post := by
  have nothing : ({} : Setup).Owns config.tuning Table.empty :=
    ⟨.nil, fun _ member => absurd member List.not_mem_nil,
      fun _ member => absurd member List.not_mem_nil,
      fun _ member => absurd member List.not_mem_nil, fun some => absurd rfl some⟩
  unfold startup
  rw [safe_bind]
  apply openSources_safe nothing
  · exact fun exit => failed exit
  intro sources own owns
  dsimp only
  rw [safe_bind]
  apply makeRing_safe owns rfl rfl
  intro ring own owns
  rw [safe_bind]
  apply makeFeeds_safe owns
  intro feeds own feedCount owns
  rw [safe_bind]
  apply makeTapFeed_safe owns rfl
  intro tapFeed own owns
  rw [safe_bind]
  apply createEgresses_safe owns
  · exact fun pair member => (List.of_mem_zip member).2
  · exact fun exit => failed exit
  · intro egresses own egressCount owns
    apply createIngest_safe owns rfl failed
    intro ingest own owns
    apply ready _ _ owns
    · simp only [List.length_zip, feedCount, List.length_nil, Nat.zero_add, Nat.min_self]
        at egressCount
      exact egressCount
    · rfl

end TelemetryGateway.Main
