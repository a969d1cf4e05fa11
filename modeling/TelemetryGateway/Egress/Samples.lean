import TelemetryGateway.Egress.Echo

/-! # A sample belongs to the probe it times

An observer writes down every probe with the clock reading and the connection it
was emitted on, and every round-trip sample with the bytes the consumer had sent
by then. -/

namespace TelemetryGateway.Egress

/-- A connection is known by the number of those before it. -/
structure Probe where
  nonce : UInt64
  sentNs : UInt64
  connection : Nat

/-- `probe` is the index of the last probe emitted before the sample, and
`outstanding` tells whether one was waited for. -/
structure Sample where
  value : Int64
  now : UInt64
  connection : Nat
  received : List UInt8
  probe : Nat
  outstanding : Bool

structure Ledger where
  probes : List Probe := []
  samples : List Sample := []
  /-- what the consumer has sent on the current connection -/
  received : List UInt8 := []

def Event.now : Event → UInt64
  | .clock now => now
  | _ => 0

namespace Ledger

def note (ledger : Ledger) (state : State) (event : Event) (after : State) : Ledger where
  probes := ledger.probes ++
    if after.egress.counters.echoesSent ≠ state.egress.counters.echoesSent then
      [{ nonce := after.egress.echoNonce
         sentNs := event.now
         connection := state.history.past.length }]
    else []
  samples := ledger.samples ++
    (after.egress.rtt.drop state.egress.rtt.length).map fun value =>
      { value := value
        now := event.now
        connection := state.history.past.length
        received := ledger.received
        probe := ledger.probes.length - 1
        outstanding := state.egress.echoOutstanding }
  received :=
    if after.history.past.length = state.history.past.length then
      ledger.received ++ event.received
    else []

theorem note_quiet (ledger : Ledger) {state after : State} (event : Event)
    (sent : after.egress.counters.echoesSent = state.egress.counters.echoesSent)
    (rtt : after.egress.rtt = state.egress.rtt) :
    (ledger.note state event after).probes = ledger.probes ∧
      (ledger.note state event after).samples = ledger.samples := by
  constructor
  · rw [note, sent, if_neg (fun moved => moved rfl), List.append_nil]
  · rw [note, rtt, List.drop_length, List.map_nil, List.append_nil]

end Ledger

/-- The probe was outstanding, the sample is the clock minus its own send time,
and its nonce came back on its own connection. -/
def Sample.Times (sample : Sample) (probe : Probe) : Prop :=
  sample.outstanding = true ∧ sample.connection = probe.connection ∧
    sample.value = sample.now.toInt64 - probe.sentNs.toInt64 ∧
    Answers probe.nonce sample.received

/-! ## The invariant -/

structure Timed (state : State) (ledger : Ledger) : Prop where
  values : state.egress.rtt = ledger.samples.map Sample.value
  emitted : state.egress.counters.echoesSent = UInt64.ofNat ledger.probes.length
  returned : state.egress.counters.echoesReturned = UInt64.ofNat ledger.samples.length
  waiting : state.egress.echoOutstanding = true → ledger.probes.getLast? =
    some ⟨state.egress.echoNonce, state.egress.echoSentNs, state.history.past.length⟩
  times : ∀ sample ∈ ledger.samples, ∃ probe, ledger.probes[sample.probe]? = some probe ∧
    sample.Times probe
  settled : state.egress.echoOutstanding = true → ∀ sample ∈ ledger.samples,
    sample.probe + 1 < ledger.probes.length
  ordered : (ledger.samples.map Sample.probe).Pairwise (· < ·)
  answered : ledger.samples.length + (if state.egress.echoOutstanding then 1 else 0) ≤
    ledger.probes.length
  buffered : state.egress.replyBuf <:+ ledger.received

namespace Timed

theorem quiet {state after : State} {ledger : Ledger} (timed : Timed state ledger) {event : Event}
    (rtt : after.egress.rtt = state.egress.rtt)
    (sent : after.egress.counters.echoesSent = state.egress.counters.echoesSent)
    (returned : after.egress.counters.echoesReturned = state.egress.counters.echoesReturned)
    (waiting : after.egress.echoOutstanding = true → state.egress.echoOutstanding = true ∧
      after.egress.echoNonce = state.egress.echoNonce ∧
      after.egress.echoSentNs = state.egress.echoSentNs ∧
      after.history.past = state.history.past)
    (buffered : after.egress.replyBuf <:+ (ledger.note state event after).received) :
    Timed after (ledger.note state event after) := by
  rcases ledger.note_quiet event sent rtt with ⟨probes, samples⟩
  refine ⟨?_, ?_, ?_, ?_, ?_, ?_, ?_, ?_, buffered⟩
  · rw [rtt, samples]
    exact timed.values
  · rw [probes, sent]
    exact timed.emitted
  · rw [samples, returned]
    exact timed.returned
  · intro outstanding
    rcases waiting outstanding with ⟨before, nonce, sentNs, past⟩
    rw [probes, nonce, sentNs, past]
    exact timed.waiting before
  · rw [samples, probes]
    exact timed.times
  · intro outstanding
    rw [samples, probes]
    exact timed.settled (waiting outstanding).1
  · rw [samples]
    exact timed.ordered
  · have answered := timed.answered
    rw [samples, probes]
    split
    · rename_i outstanding
      rw [(waiting outstanding).1] at answered
      exact answered
    · omega

theorem keep {state after : State} {ledger : Ledger} (timed : Timed state ledger) {event : Event}
    (same : SameProbe state.egress after.egress)
    (past : after.history.past = state.history.past) (nothing : event.received = []) :
    Timed after (ledger.note state event after) := by
  refine timed.quiet same.rtt same.sent same.returned ?_ ?_
  · intro outstanding
    exact ⟨same.outstanding.symm.trans outstanding, same.nonce, same.sentNs, past⟩
  · rw [same.replyBuf, Ledger.note, past, if_pos rfl, nothing, List.append_nil]
    exact timed.buffered

theorem recv {state : State} {ledger : Ledger} (timed : Timed state ledger) (bytes : List UInt8) :
    Timed { state with egress := state.egress.receive bytes }
      (ledger.note state (.recv bytes) { state with egress := state.egress.receive bytes }) := by
  refine timed.quiet rfl rfl rfl (fun outstanding => ⟨outstanding, rfl, rfl, rfl⟩) ?_
  rw [Ledger.note, if_pos rfl]
  change (if _ then [] else state.egress.replyBuf ++ bytes) <:+ ledger.received ++ bytes
  split
  · exact List.nil_suffix
  · rcases timed.buffered with ⟨earlier, split⟩
    exact ⟨earlier, by rw [← split, List.append_assoc]⟩

theorem drop {state : State} {ledger : Ledger} (timed : Timed state ledger) (event : Event)
    (connected : state.egress.clientFd ≠ none) :
    Timed state.dropAndContinue (ledger.note state event state.dropAndContinue) := by
  rcases Option.ne_none_iff_exists'.mp connected with ⟨fd, client⟩
  have dropped : state.dropAndContinue.egress.rtt = state.egress.rtt ∧
      state.dropAndContinue.egress.counters.echoesSent = state.egress.counters.echoesSent ∧
      state.dropAndContinue.egress.counters.echoesReturned =
        state.egress.counters.echoesReturned ∧
      state.dropAndContinue.egress.echoOutstanding = false ∧
      state.dropAndContinue.egress.replyBuf = [] := by
    simp only [State.dropAndContinue, dropClient, client, and_self]
  rcases dropped with ⟨rtt, sent, returned, outstanding, replyBuf⟩
  refine timed.quiet rtt sent returned ?_ ?_
  · rw [outstanding]
    intro impossible
    cases impossible
  · rw [replyBuf]
    exact List.nil_suffix

theorem parse {state : State} {ledger : Ledger} (timed : Timed state ledger) (now : UInt64)
    {after : State} (history : after.history = state.history)
    (parsed : after.egress = parseReplies now state.egress.replyBuf.length state.egress) :
    Timed after (ledger.note state (.clock now) after) := by
  have view := view_parseReplies (fun egress => (egress.echoNonce, egress.echoSentNs,
    egress.counters.echoesSent)) (fun _ _ _ => rfl) (fun _ _ => rfl) now
    state.egress.replyBuf.length state.egress
  rw [← parsed] at view
  simp only [Prod.mk.injEq] at view
  rcases view with ⟨nonce, sentNs, sent⟩
  rcases replied_parseReplies now state.egress.replyBuf.length state.egress with
    ⟨replied, shorter⟩
  rw [← parsed] at replied shorter
  have received : (ledger.note state (.clock now) after).received = ledger.received := by
    rw [Ledger.note, history, if_pos rfl]
    exact List.append_nil _
  have buffered : after.egress.replyBuf <:+ (ledger.note state (.clock now) after).received := by
    rw [received]
    exact shorter.trans timed.buffered
  cases replied with
  | nothing outstanding rtt returned =>
      refine timed.quiet rtt sent returned ?_ buffered
      intro still
      exact ⟨outstanding.symm.trans still, nonce, sentNs, by rw [history]⟩
  | sampled outstanding settled rtt returned answers =>
      have probes : (ledger.note state (.clock now) after).probes = ledger.probes := by
        rw [Ledger.note, sent, if_neg (fun moved => moved rfl), List.append_nil]
      have samples : (ledger.note state (.clock now) after).samples = ledger.samples ++
          [{ value := now.toInt64 - state.egress.echoSentNs.toInt64
             now := now
             connection := state.history.past.length
             received := ledger.received
             probe := ledger.probes.length - 1
             outstanding := true }] := by
        rw [Ledger.note, rtt, List.drop_left, outstanding]
        rfl
      have last := timed.waiting outstanding
      constructor
      · rw [rtt, samples, List.map_append, timed.values]
        rfl
      · rw [probes, sent]
        exact timed.emitted
      · rw [samples, returned, List.length_append, UInt64.ofNat_add, ← timed.returned]
        rfl
      · rw [settled]
        exact fun impossible => nomatch impossible
      · rw [samples, probes]
        intro sample member
        rcases List.mem_append.mp member with old | new
        · exact timed.times sample old
        · rw [List.mem_singleton.mp new]
          refine ⟨_, (List.getLast?_eq_getElem? ▸ last), rfl, rfl, rfl, ?_⟩
          exact answers.within timed.buffered.isInfix
      · rw [settled]
        exact fun impossible => nomatch impossible
      · rw [samples, List.map_append, List.pairwise_append]
        refine ⟨timed.ordered, List.pairwise_singleton _ _, ?_⟩
        intro earlier member later new
        rcases List.mem_map.mp member with ⟨sample, found, rfl⟩
        rw [List.mem_singleton.mp new]
        have before := timed.settled outstanding sample found
        dsimp only
        omega
      · have answered := timed.answered
        rw [outstanding] at answered
        rw [settled, samples, probes, List.length_append]
        exact answered
      · exact buffered

theorem sendEcho {state : State} {ledger : Ledger} (timed : Timed state ledger) (now : UInt64)
    {after : State} (history : after.history = state.history)
    (emitted : after.egress = state.egress.maybeSendEcho now) :
    Timed after (ledger.note state (.clock now) after) := by
  have unchanged (same : after.egress = state.egress) :
      Timed after (ledger.note state (.clock now) after) :=
    timed.keep (by rw [same]; exact .refl _) (by rw [history]) rfl
  unfold maybeSendEcho at emitted
  split at emitted
  · exact unchanged emitted
  · split at emitted
    · exact unchanged emitted
    · have sent : after.egress.counters.echoesSent = state.egress.counters.echoesSent + 1 := by
        rw [emitted]
      have probes : (ledger.note state (.clock now) after).probes = ledger.probes ++
          [⟨after.egress.echoNonce, now, state.history.past.length⟩] := by
        rw [Ledger.note, if_pos (by rw [sent]; grind)]
        rfl
      have samples : (ledger.note state (.clock now) after).samples = ledger.samples := by
        rw [Ledger.note, emitted, List.drop_length, List.map_nil, List.append_nil]
      have earlier (sample : Sample) (member : sample ∈ ledger.samples) :
          sample.probe < ledger.probes.length := by
        rcases timed.times sample member with ⟨probe, found, _⟩
        exact (List.getElem?_eq_some_iff.mp found).1
      constructor
      · rw [samples, emitted]
        exact timed.values
      · rw [probes, sent, List.length_append, UInt64.ofNat_add, ← timed.emitted]
        rfl
      · rw [samples, emitted]
        exact timed.returned
      · intro _
        rw [probes, List.getLast?_concat, history, emitted]
      · rw [samples, probes]
        intro sample member
        rcases timed.times sample member with ⟨probe, found, times⟩
        exact ⟨probe, (List.getElem?_append_left (earlier sample member)).trans found, times⟩
      · intro _ sample member
        rw [samples] at member
        rw [probes, List.length_append]
        exact Nat.succ_lt_succ (earlier sample member)
      · rw [samples]
        exact timed.ordered
      · have answered := timed.answered
        rw [samples, probes, List.length_append, emitted]
        exact Nat.succ_le_succ (Nat.le_trans (Nat.le_add_right _ _) answered)
      · rw [Ledger.note, history, if_pos rfl, emitted]
        exact timed.buffered.trans (List.append_nil _ ▸ List.suffix_refl _)

theorem step {state after : State} {ledger : Ledger} (timed : Timed state ledger)
    (framed : state.Framed) {event : Event} (stepped : state.step event = some after) :
    Timed after (ledger.note state event after) := by
  cases State.step_probe stepped with
  | keep same past nothing => exact timed.keep same past nothing
  | recv bytes => exact timed.recv bytes
  | parse now => exact timed.parse now rfl rfl
  | sendEcho n now => exact timed.sendEcho now rfl rfl
  | drop drops =>
      refine timed.drop event (framed.client ?_)
      cases drops with
      | failed site flushing => rw [flushing]; rfl
      | pollFailed site parked => rw [parked]; rfl
      | stopped site parked stopping ready => rw [parked]; rfl
      | gone testing => rw [testing]; rfl

end Timed

theorem timed_of_reachable {tuning : Tuning} {run : State × Ledger}
    (reached : ((system tuning).observed {} Ledger.note).Reachable run) : Timed run.1 run.2 := by
  refine reached.invariant (fun run => Timed run.1 run.2) ?_ ?_
  · intro run initial
    rcases run with ⟨state, ledger⟩
    rcases initial with ⟨⟨listenFd, stopFd, egress, created, rfl⟩, rfl⟩
    unfold create at created
    split at created <;> cases created
    exact ⟨rfl, rfl, rfl, (fun impossible => nomatch impossible), (fun _ member => nomatch member),
      (fun impossible => nomatch impossible), List.Pairwise.nil, Nat.le_refl _,
      List.suffix_refl _⟩
  · intro run event after before _ timed stepped
    rcases Option.map_eq_some_iff.mp stepped with ⟨state, moved, rfl⟩
    have thread : (system tuning).Reachable run.1 := before.unobserved
    exact timed.step (State.framed_of_reachable thread) moved

/-! ## Samples and probes -/

/-- Every sample is the clock minus the send time of one probe, which was the
outstanding one and whose nonce came back on its own connection; no probe gives
two samples. The counters have 64 bits: they say the true numbers of samples and
probes while fewer than `2 ^ 64` probes were sent. -/
theorem samples_time_their_probe {tuning : Tuning} {state : State} {ledger : Ledger}
    (reached : ((system tuning).observed {} Ledger.note).Reachable (state, ledger)) :
    (∀ sample ∈ ledger.samples, ∃ probe, ledger.probes[sample.probe]? = some probe ∧
      sample.Times probe) ∧
    (ledger.samples.map Sample.probe).Nodup ∧
    state.egress.rtt = ledger.samples.map Sample.value ∧
    state.egress.counters.echoesReturned = UInt64.ofNat state.egress.rtt.length ∧
    state.egress.counters.echoesSent = UInt64.ofNat ledger.probes.length ∧
    state.egress.rtt.length ≤ ledger.probes.length ∧
    (ledger.probes.length < 2 ^ 64 →
      state.egress.counters.echoesReturned ≤ state.egress.counters.echoesSent) := by
  have timed := timed_of_reachable reached
  have samples : state.egress.rtt.length = ledger.samples.length := by
    rw [timed.values, List.length_map]
  have fewer : ledger.samples.length ≤ ledger.probes.length :=
    Nat.le_trans (Nat.le_add_right _ _) timed.answered
  rw [samples]
  refine ⟨timed.times, timed.ordered.imp Nat.ne_of_lt, timed.values, timed.returned,
    timed.emitted, fewer, ?_⟩
  intro inRange
  rw [timed.returned, timed.emitted, UInt64.le_iff_toNat_le,
    UInt64.toNat_ofNat_of_lt' inRange, UInt64.toNat_ofNat_of_lt' (Nat.lt_of_le_of_lt fewer inRange)]
  exact fewer

theorem samples_time_their_probe_answerThenLeave :
    ∃ state ledger, ((system { echoMs := 1 }).observed {} Ledger.note).run
        (.initial { tuning := { echoMs := 1 } }, {}) answerThenLeave = some (state, ledger) ∧
      ledger.samples.map Sample.value = [12] ∧
      ∀ sample ∈ ledger.samples, ∃ probe, ledger.probes[sample.probe]? = some probe ∧
        sample.Times probe := by
  have final : (((system { echoMs := 1 }).observed {} Ledger.note).run
      (.initial { tuning := { echoMs := 1 } }, {}) answerThenLeave).map
      (fun run => run.2.samples.map Sample.value) = some [12] := by
    decide +kernel
  rcases Option.map_eq_some_iff.mp final with ⟨⟨state, ledger⟩, ran, values⟩
  exact ⟨state, ledger, ran, values, (samples_time_their_probe
    (.execute (.start ⟨⟨3, 4, _, rfl, rfl⟩, rfl⟩) answerThenLeave ran)).1⟩

end TelemetryGateway.Egress
