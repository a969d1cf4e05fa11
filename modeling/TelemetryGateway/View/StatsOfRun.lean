import TelemetryGateway.View.Stats

/-! # The statistics at any time

The page may be asked for between any two steps of the consumer loop, and the
loop goes on between the two moments at which the mutex is held. Whatever has
been received by then, the text is the JSON of the state. -/

namespace TelemetryGateway

namespace RollingLatency

structure Bounded (latency : RollingLatency) : Prop where
  few : latency.samples.length ≤ kMaxSamples
  delays : ∀ sample ∈ latency.samples, View.sameClockDomain sample.v = true

theorem popExpired_suffix (cutoff : UInt64) (samples : List Sample) :
    popExpired cutoff samples <:+ samples := by
  induction samples with
  | nil => exact List.suffix_refl _
  | cons front rest induction =>
      rw [popExpired]
      split
      · exact induction.trans (List.suffix_cons _ _)
      · exact List.suffix_refl _

theorem length_popExpired (cutoff : UInt64) (samples : List Sample) :
    (popExpired cutoff samples).length ≤ kMaxSamples := by
  induction samples with
  | nil => exact Nat.zero_le _
  | cons front rest induction =>
      rw [popExpired]
      split
      · exact induction
      · rename_i kept
        exact Nat.not_lt.mp fun many => kept (.inr many)

theorem Bounded.add {latency : RollingLatency} (bounded : latency.Bounded) (now : UInt64)
    {v : Int64} (delay : View.sameClockDomain v = true) : (latency.add now v).Bounded where
  few := length_popExpired _ _
  delays := by
    intro sample member
    rcases List.mem_append.mp ((popExpired_suffix _ _).subset member) with member | member
    · exact bounded.delays sample member
    · rw [List.mem_singleton.mp member]
      exact delay

theorem Bounded.percentiles {latency : RollingLatency} (bounded : latency.Bounded)
    (rank : Samples.Quantile → Nat → Nat) :
    ∃ p, Samples.percentilesOf rank latency.values = some p := by
  have nonneg : ∀ value ∈ latency.values.map Int64.toInt, 0 ≤ value ∧ value ≤ 10000000000 := by
    intro value member
    rcases List.mem_map.mp member with ⟨delay, shown, rfl⟩
    rcases List.mem_map.mp shown with ⟨sample, kept, rfl⟩
    have range := bounded.delays sample kept
    rw [View.sameClockDomain, Bool.and_eq_true, decide_eq_true_iff, decide_eq_true_iff,
      Int64.le_iff_toInt_le, Int64.le_iff_toInt_le] at range
    exact range
  have most := List.sum_le_card_nsmul (latency.values.map Int64.toInt) 10000000000
    fun value member => (nonneg value member).2
  have few : (latency.values.map Int64.toInt).length ≤ 65536 := by
    rw [List.length_map, values, List.length_map]
    exact bounded.few
  have fits : SumFits Samples.minInt64 Samples.maxInt64 (latency.values.map Int64.toInt) := by
    refine ⟨?_, ?_⟩
    · rw [negativeSum_of_nonneg fun value member => (nonneg value member).1]
      decide
    · rw [nsmul_eq_mul] at most
      have limit : Samples.maxInt64 = 9223372036854775807 := by decide
      rw [limit]
      omega
  rcases (Samples.accumulate_sorted_iff latency.values).mpr fits with ⟨sum, summed, _⟩
  rw [Samples.percentilesOf]
  split
  · exact ⟨_, rfl⟩
  · exact ⟨_, congrArg (Option.map (Samples.report rank _)) summed⟩

end RollingLatency

namespace View

section

variable {history : List Sighting} {state : State}

theorem Sighting.sameClockDomain_delay (sighting : Sighting) (onClock : sighting.onClock = true) :
    sameClockDomain (.ofInt sighting.delay) = true := by
  have limit : kMaxPlausibleLatencyNs.toInt = 10000000000 := by decide
  rw [Sighting.onClock, Bool.and_eq_true, decide_eq_true_iff, decide_eq_true_iff, limit] at onClock
  have number : (Int64.ofInt sighting.delay).toInt = sighting.delay :=
    Int64.toInt_ofInt_of_le (by omega) (by omega)
  rw [sameClockDomain, Bool.and_eq_true, decide_eq_true_iff, decide_eq_true_iff,
    Int64.le_iff_toInt_le, Int64.le_iff_toInt_le, number, limit]
  exact onClock

theorem latencyOf_bounded (history : List Sighting) : (latencyOf history).Bounded := by
  induction history using List.reverseRecOn with
  | nil => exact ⟨Nat.zero_le _, fun _ member => by cases member⟩
  | append_singleton history sighting induction =>
      rw [latencyOf_concat]
      split
      · rename_i onClock
        exact induction.add _ (sighting.sameClockDomain_delay onClock)
      · exact induction

def Decoded (history : List Sighting) : Prop :=
  ∀ sighting ∈ history, sighting.frame.len.toNat ≤ kMaxPayload

theorem decoded_seen (events : List Loop.Event) : Decoded (seen events) := by
  intro sighting member
  rcases List.mem_flatMap.mp member with ⟨event, _, shown⟩
  cases event with
  | connect => cases shown
  | leave => cases shown
  | round status batch now =>
      cases status with
      | kOk =>
          rcases List.mem_map.mp shown with ⟨frame, bus, rfl⟩
          exact batch.short frame (List.mem_of_mem_filter bus)
      | kTimeout => cases shown
      | kClosed => cases shown
      | kProtocolError => cases shown

theorem len_summary (history : List Sighting) (decoded : Decoded history) :
    (IdStat.summary history).len.toNat ≤ kMaxPayload := by
  induction history using List.reverseRecOn with
  | nil => exact Nat.zero_le _
  | append_singleton history sighting induction =>
      rw [summary_concat]
      exact decoded sighting (List.mem_append.mpr (.inr (List.mem_singleton.mpr rfl)))

theorem State.Shows.len_ids (shows : state.Shows history) (decoded : Decoded history) :
    ∀ entry ∈ state.ids.entries, entry.2.len.toNat ≤ kMaxPayload := by
  intro entry member
  have found := SortedMap.find?_of_mem member
  rw [shows.ids] at found
  split at found
  · rw [← Option.some.inj found]
    apply len_summary
    intro sighting member
    exact decoded sighting (List.mem_of_mem_filter member)
  · cases found

theorem State.Shows.len_recent (shows : state.Shows history) (decoded : Decoded history) :
    ∀ frame ∈ state.recent, frame.len.toNat ≤ kMaxPayload := by
  intro frame member
  rw [shows.recent] at member
  rcases List.mem_map.mp (List.mem_of_mem_drop member) with ⟨sighting, received, rfl⟩
  exact decoded sighting received

end

/-- Between any two steps of the consumer loop there is an answer, and it reads
back as the state: the latencies as they were a while ago, and all the rest. -/
theorem Loop.stats_of_run {startedNs nextTick : UInt64} {before between : List Loop.Event}
    {earlier loop : Loop}
    (first : (Loop.system startedNs nextTick).run (Loop.start startedNs nextTick) before =
      some earlier)
    (second : (Loop.system startedNs nextTick).run earlier between = some loop)
    (doubles : Doubles) (port : UInt16) (now : UInt64) :
    ∃ p text, Samples.percentilesOf doubles.rank earlier.state.latency.values = some p ∧
      jsonStats doubles port earlier.state loop.state now = some text ∧
      Json.parse text =
        some (document doubles port p earlier.state.latency.spanNs loop.state now) := by
  have shownEarlier := Loop.page_of_history first
  have shown := Loop.shows_run shownEarlier second
  have decoded := decoded_seen (before ++ between)
  have all : seen before ++ seen between = seen (before ++ between) :=
    List.flatMap_append.symm
  rw [all] at shown
  have bounded : earlier.state.latency.Bounded := by
    rw [shownEarlier.latency]
    exact latencyOf_bounded _
  rcases bounded.percentiles doubles.rank with ⟨p, found⟩
  refine ⟨p, _, found, ?_, Json.parse_render _⟩
  rw [jsonStats, found, Option.bind_some]
  exact statsText_eq doubles port p _ now (shown.len_ids decoded) (shown.len_recent decoded)

def Doubles.exact : Doubles where
  rank := Samples.exactRank
  tenths := fun ns => (ns.toNat + 50000000) / 100000000
  millis := fun ns => (ns.toNat + 500000) / 1000000
  tenths_le := by
    intro ns
    omega
  millis_le := by
    intro ns
    omega

theorem Loop.brokenConnection_parts : ∃ earlier loop,
    (Loop.system 0 1000).run (Loop.start 0 1000) (brokenConnection.take 3) = some earlier ∧
      (Loop.system 0 1000).run earlier (brokenConnection.drop 3) = some loop := by
  rcases brokenConnection_runs with ⟨loop, final⟩
  rw [← List.take_append_drop 3 brokenConnection, System.run_append] at final
  rcases Option.bind_eq_some_iff.mp final with ⟨earlier, first, second⟩
  exact ⟨earlier, loop, first, second⟩

/-- The page is asked for when the connection has broken, and has the mutex for
the second time when the loop has left it. -/
theorem Loop.stats_of_run_brokenConnection :
    ∃ earlier loop,
      (Loop.system 0 1000).run (Loop.start 0 1000) (brokenConnection.take 3) = some earlier ∧
      (Loop.system 0 1000).run earlier (brokenConnection.drop 3) = some loop ∧
      ∃ p text, Samples.percentilesOf Doubles.exact.rank earlier.state.latency.values = some p ∧
        jsonStats Doubles.exact 9003 earlier.state loop.state 1200 = some text ∧
        Json.parse text =
          some (document Doubles.exact 9003 p earlier.state.latency.spanNs loop.state 1200) := by
  rcases brokenConnection_parts with ⟨earlier, loop, first, second⟩
  exact ⟨earlier, loop, first, second, Loop.stats_of_run first second Doubles.exact 9003 1200⟩

end View

end TelemetryGateway
