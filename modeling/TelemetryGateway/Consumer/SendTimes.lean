import TelemetryGateway.Consumer.Probe
import TelemetryGateway.Feed.BusRecords
import TelemetryGateway.Measure.Generator

/-! # The time a frame was sent at

The generator writes its clock into the frame, and the probe reads it back from
the record that arrives. So what is measured end to end is the time from one
reading of the clock to another. -/

namespace TelemetryGateway

/-! ## The payload, there and back -/

theorem Intact.same_data {raw : CanFrame} {frame : Frame} (intact : Intact raw frame)
    (full : raw.canDlc.toNat = kMaxPayload) : frame.data = raw.data := by
  have long : frame.len.toNat = 8 := by
    rw [intact.len, full]
    rfl
  apply Vector.ext
  intro index inside
  have same := intact.data ⟨index, inside⟩
  rw [long, if_pos inside] at same
  exact same

namespace Generator

theorem payloadTimestamp_canFrame {config : Config} {k now : UInt64} {frame : Frame}
    (intact : Intact (config.canFrame k now) frame) : Probe.payloadTimestamp frame = now := by
  have data := intact.same_data rfl
  have bytes : frame.data.toList = LittleEndian.store 8 now.toNat := by
    rw [data, Config.canFrame, LittleEndian.toList_ofFn_byteAt]
  have read := LittleEndian.load_getD 8 frame.data.toList (by simp)
  rw [Probe.payloadTimestamp, read, bytes, List.take_of_length_le (by simp),
    LittleEndian.value_store, Nat.mod_eq_of_lt (show now.toNat < 256 ^ 8 from now.toNat_lt),
    UInt64.ofNat_toNat]

theorem frames_eq (config : Config) (ticks : List Tick) :
    ∃ sent : List (UInt64 × Tick), sent.map Prod.snd = ticks.filter (·.result = .written) ∧
      frames config ticks = sent.map fun entry => config.canFrame entry.1 entry.2.now := by
  induction ticks using List.reverseRecOn with
  | nil => exact ⟨[], rfl, rfl⟩
  | append_singleton done tick induction =>
      rcases induction with ⟨sent, same, bus⟩
      rw [frames_concat, List.filter_append, List.filter_singleton, bus, ← same]
      by_cases written : tick.result = .written
      · refine ⟨sent ++ [(UInt64.ofNat done.length, tick)], ?_, ?_⟩
        · rw [List.map_append]
          simp [written]
        · rw [if_pos written, List.map_append]
          rfl
      · refine ⟨sent, ?_, ?_⟩
        · simp [written]
        · rw [if_neg written, List.append_nil]

end Generator

namespace Probe

/-- The arrival is a frame of the bus, however a source has received it and
however it has been carried. -/
def Arrival.Brings (arrival : Arrival) (raw : CanFrame) : Prop :=
  ∃ (source : CanSource) (tKernel tIngest : UInt64),
    Carried (source.normalise raw tKernel tIngest) arrival.frame

theorem Arrival.age_of_brings {arrival : Arrival} {config : Generator.Config} {k now : UInt64}
    (brings : arrival.Brings (config.canFrame k now)) :
    arrival.age = arrival.now.toInt64.toInt - now.toInt64.toInt := by
  rcases brings with ⟨source, tKernel, tIngest, carried⟩
  rcases carried.exists_seq with ⟨seq, same⟩
  have intact := (CanSource.normalise_intact source (config.canFrame k now) tKernel
    tIngest).resequence seq
  rw [← same] at intact
  rw [Arrival.age, Generator.payloadTimestamp_canFrame intact]

theorem ages_of_brings {config : Generator.Config} {measured : List Arrival}
    {sent : List (UInt64 × Generator.Tick)}
    (brings : List.Forall₂ Arrival.Brings measured
      (sent.map fun entry => config.canFrame entry.1 entry.2.now)) :
    (measured.map fun arrival => Int64.ofInt arrival.age) = List.zipWith
      (fun arrival tick => arrival.now.toInt64 - tick.now.toInt64) measured
      (sent.map Prod.snd) := by
  induction sent generalizing measured with
  | nil =>
      cases brings
      rfl
  | cons entry sent induction =>
      cases brings with
      | cons first rest =>
          rw [List.map_cons, List.map_cons, List.zipWith_cons_cons, induction rest,
            Arrival.age_of_brings first, Int64.ofInt_sub, Int64.ofInt_toInt, Int64.ofInt_toInt]

/-- When what the probe measures are frames of the generator, each of them once and
in order, every sample is the time from the tick that sent the frame to the batch
that brought it. -/
theorem ages_from_ticks {sender : Generator.Config} {first generator : Generator}
    {sending : List Generator.Event} (begun : Generator.begin sender = some first)
    (sent : (Generator.system sender).run first sending = some generator)
    {config : Config} {nextReport : UInt64} {events : List Event} {probe : Probe}
    (ran : (system config nextReport).run (start nextReport) events = some probe)
    (wanted : config.measureE2e = true) {received : List CanFrame}
    (inOrder : received.Sublist generator.bus)
    (brings : List.Forall₂ Arrival.Brings (config.measured (arrivals events)) received) :
    ∃ ticks : List Generator.Tick,
      ticks.Sublist ((Generator.ticks sending).filter (·.result = .written)) ∧
      ticks.length = (config.measured (arrivals events)).length ∧
      probe.e2eLatency = (Samples.create Samples.defaultCapacity).addAll
        (List.zipWith (fun arrival tick => arrival.now.toInt64 - tick.now.toInt64)
          (config.measured (arrivals events)) ticks) := by
  have follows := (Generator.follows_of_run begun sent).1
  rcases Generator.frames_eq sender (Generator.ticks sending) with ⟨numbered, written, bus⟩
  rw [follows.bus, bus] at inOrder
  rcases List.sublist_map_iff.mp inOrder with ⟨part, inside, rfl⟩
  have samples := (running_of_run ran).e2eLatency
  rw [Config.ages, if_pos wanted, ages_of_brings brings] at samples
  refine ⟨part.map Prod.snd, ?_, ?_, samples⟩
  · rw [← written]
    exact inside.map Prod.snd
  · rw [List.length_map, brings.length_eq, List.length_map]

section

open Generator (late lateEvents)

/-- The two frames of a run of the generator, as a source receives them and the
fan-out thread stamps them. -/
def drained : List BusFrame :=
  let source : CanSource := { srcId := 1 }
  [⟨source.normalise (late.canFrame 0 1010) 0 1020, CanSource.isControl_normalise ..⟩,
    ⟨source.normalise (late.canFrame 2 700000020) 0 700000030, CanSource.isControl_normalise ..⟩]

def bringBoth : List Event :=
  [.connect 1000,
    .round (.ok (FanOut.stamp 7 drained)) { first := 0, now := 700000100, mono := 700000100 },
    .leave]

theorem bringBoth_brings :
    List.Forall₂ Arrival.Brings (Config.measured { measureE2e := true } (arrivals bringBoth))
      [late.canFrame 0 1010, late.canFrame 2 700000020] := by
  have stamped (index : Nat) (frame : BusFrame) (out : Frame)
      (here : drained[index]? = some frame)
      (there : (FanOut.stamp 7 drained)[index]? = some out) : Carried frame.val out :=
    .fanOut 7 drained index frame out here there
  exact .cons ⟨_, _, _, stamped 0 _ _ rfl rfl⟩ (.cons ⟨_, _, _, stamped 1 _ _ rfl rfl⟩ .nil)

theorem late_runs : ∃ first generator, Generator.begin late = some first ∧
    (Generator.system late).run first lateEvents = some generator ∧
    generator.bus = [late.canFrame 0 1010, late.canFrame 2 700000020] :=
  ⟨_, _, rfl, rfl, rfl⟩

theorem bringBoth_runs : ∃ probe, (system { measureE2e := true } 0).run (start 0) bringBoth =
    some probe :=
  ⟨_, rfl⟩

theorem ages_from_ticks_late :
    ∃ probe, (system { measureE2e := true } 0).run (start 0) bringBoth = some probe ∧
      ∃ ticks : List Generator.Tick,
        ticks.Sublist ((Generator.ticks lateEvents).filter (·.result = .written)) ∧
        ticks.length = (Config.measured { measureE2e := true } (arrivals bringBoth)).length ∧
        probe.e2eLatency = (Samples.create Samples.defaultCapacity).addAll
          (List.zipWith (fun arrival tick => arrival.now.toInt64 - tick.now.toInt64)
            (Config.measured { measureE2e := true } (arrivals bringBoth)) ticks) := by
  rcases late_runs with ⟨first, generator, begun, sent, bus⟩
  rcases bringBoth_runs with ⟨probe, ran⟩
  have inOrder := List.Sublist.refl generator.bus
  exact ⟨probe, ran, ages_from_ticks begun sent ran rfl inOrder (bus ▸ bringBoth_brings)⟩

end

end Probe

end TelemetryGateway
