import Mathlib.Data.List.Induction
import Mathlib.Data.List.Pairwise
import TelemetryGateway.Foundation.Expiry

/-! # The live latency window

Samples expire when a sample is added. A snapshot is taken at another moment,
and shows what is there. -/

namespace TelemetryGateway

namespace RollingLatency

def kWindowNs : UInt64 := 10000000000

def kMaxSamples : Nat := 65536

structure Sample where
  t : UInt64
  v : Int64
  deriving DecidableEq, Repr

end RollingLatency

structure RollingLatency where
  samples : List RollingLatency.Sample := []
  deriving DecidableEq, Repr

namespace RollingLatency

def cutoff (now : UInt64) : UInt64 :=
  if kWindowNs < now then now - kWindowNs else 0

def popExpired (cutoff : UInt64) : List Sample → List Sample
  | [] => []
  | front :: rest =>
      if front.t < cutoff ∨ kMaxSamples < (front :: rest).length then popExpired cutoff rest
      else front :: rest

def add (latency : RollingLatency) (now : UInt64) (v : Int64) : RollingLatency where
  samples := popExpired (cutoff now) (latency.samples ++ [{ t := now, v := v }])

def values (latency : RollingLatency) : List Int64 :=
  latency.samples.map fun sample => sample.v

/-- The division that makes seconds of it is left out. -/
def spanNs (latency : RollingLatency) : UInt64 :=
  match latency.samples.head?, latency.samples.getLast? with
  | some front, some back => if latency.samples.length < 2 then 0 else back.t - front.t
  | _, _ => 0

/-- The frame loop adds; the page takes snapshots, by its own clock. -/
inductive Operation
  | add (now : UInt64) (v : Int64)
  | snapshot (now : UInt64)

def step (latency : RollingLatency) : Operation → RollingLatency × Option (List Int64)
  | .add now v => (latency.add now v, none)
  | .snapshot _ => (latency, some latency.values)

/-! ## What the window is to show -/

/-- The samples of the additions. -/
def added (operations : List Operation) : List Sample :=
  operations.filterMap fun
    | .add now v => some { t := now, v := v }
    | .snapshot _ => none

def within (now : UInt64) (sample : Sample) : Bool :=
  now.toNat ≤ sample.t.toNat + kWindowNs.toNat

/-- The values of the last ten seconds, and of these the newest. -/
def window (now : UInt64) (samples : List Sample) : List Int64 :=
  (recent (within now) kMaxSamples samples).map fun sample => sample.v

def lastAdd (samples : List Sample) : UInt64 :=
  (samples.getLast?.map fun sample => sample.t).getD 0

/-- None of the newest samples that were in the window at the last addition has
left it since. -/
def NoneExpired (now : UInt64) (samples : List Sample) : Prop :=
  ∀ sample ∈ samples.rtake kMaxSamples, within (lastAdd samples) sample → within now sample

instance (now : UInt64) (samples : List Sample) : Decidable (NoneExpired now samples) :=
  inferInstanceAs (Decidable (∀ sample ∈ samples.rtake kMaxSamples, _ → _))

/-- The clock of the frame loop does not go back. -/
def Ordered (samples : List Sample) : Prop :=
  samples.Pairwise fun older newer => older.t ≤ newer.t

instance (samples : List Sample) : Decidable (Ordered samples) :=
  inferInstanceAs (Decidable (List.Pairwise _ _))

/-! ## What the samples are -/

section

variable {samples : List Sample} {now later : UInt64}

theorem within_iff (now : UInt64) (sample : Sample) :
    within now sample ↔ ¬ sample.t < cutoff now := by
  rw [within, decide_eq_true_iff, UInt64.lt_iff_toNat_lt, Nat.not_lt, cutoff]
  split
  · rename_i late
    have exact : (now - kWindowNs).toNat = now.toNat - kWindowNs.toNat :=
      UInt64.toNat_sub_of_le _ _ (UInt64.le_of_lt late)
    rw [exact]
    omega
  · rename_i early
    rw [UInt64.not_lt, UInt64.le_iff_toNat_le] at early
    have zero : (0 : UInt64).toNat = 0 := rfl
    omega

theorem popExpired_eq (now : UInt64) (samples : List Sample) :
    popExpired (cutoff now) samples = expire (within now) kMaxSamples samples := by
  induction samples with
  | nil => rfl
  | cons front rest induction =>
      have same : ¬ within now front ↔ front.t < cutoff now := by
        rw [within_iff, Classical.not_not]
      rw [popExpired, expire, induction]
      simp only [same]

theorem Ordered.rising (ordered : Ordered samples) (now : UInt64) :
    Rising (within now) samples := by
  apply List.Pairwise.imp _ ordered
  intro older newer before fresh
  rw [UInt64.le_iff_toNat_le] at before
  simp only [within, decide_eq_true_eq] at fresh ⊢
  omega

theorem within_stricter (before : now ≤ later) (sample : Sample) (fresh : within later sample) :
    within now sample := by
  rw [UInt64.le_iff_toNat_le] at before
  simp only [within, decide_eq_true_eq] at fresh ⊢
  omega

theorem lastAdd_concat (samples : List Sample) (sample : Sample) :
    lastAdd (samples ++ [sample]) = sample.t := by
  simp [lastAdd]

theorem Ordered.lastAdd_le {sample : Sample} (ordered : Ordered (samples ++ [sample])) :
    lastAdd samples ≤ sample.t := by
  cases last : samples.getLast? with
  | none => simp [lastAdd, last]
  | some newest =>
      have before := (List.pairwise_append.mp ordered).2.2
      simp only [lastAdd, last, Option.map_some, Option.getD_some]
      exact before newest (List.mem_of_getLast? last) sample (List.mem_singleton.mpr rfl)

theorem Ordered.le_lastAdd {sample : Sample} (ordered : Ordered samples)
    (member : sample ∈ samples) : sample.t ≤ lastAdd samples := by
  have reflexive : Std.Refl fun older newer : Sample => older.t ≤ newer.t :=
    ⟨fun _ => UInt64.le_refl _⟩
  have newest := List.Pairwise.rel_getLast ordered member
  rw [lastAdd, List.getLast?_eq_some_getLast (List.ne_nil_of_mem member)]
  exact newest

theorem samples_eq {operations : List Operation} (ordered : Ordered (added operations)) :
    (respond step {} operations).1.samples =
      recent (within (lastAdd (added operations))) kMaxSamples (added operations) := by
  induction operations using List.reverseRecOn with
  | nil => rfl
  | append_singleton operations operation induction =>
      rw [respond_concat]
      cases operation with
      | snapshot now =>
          have same : added (operations ++ [.snapshot now]) = added operations := by simp [added]
          rw [same] at ordered ⊢
          exact induction ordered
      | add now v =>
          have more : added (operations ++ [.add now v]) =
              added operations ++ [{ t := now, v := v }] := by simp [added]
          rw [more] at ordered ⊢
          have before : Ordered (added operations) :=
            (List.pairwise_append.mp ordered).1
          rw [lastAdd_concat, step, add, popExpired_eq, induction before]
          apply expire_concat (ordered.rising now)
          exact within_stricter ordered.lastAdd_le

theorem spanNs_le {operations : List Operation} (ordered : Ordered (added operations)) :
    (respond step {} operations).1.spanNs ≤ kWindowNs := by
  have kept : ∀ sample ∈ (respond step {} operations).1.samples,
      within (lastAdd (added operations)) sample ∧ sample.t ≤ lastAdd (added operations) := by
    intro sample member
    rw [samples_eq ordered] at member
    have inside := (List.mem_filter.mp (List.mem_of_mem_drop member))
    exact ⟨inside.2, ordered.le_lastAdd inside.1⟩
  have inOrder : Ordered (respond step {} operations).1.samples := by
    rw [samples_eq ordered]
    exact List.Pairwise.sublist (recent_sublist ..) ordered
  rw [spanNs]
  split
  · rename_i front back first last
    split
    · decide
    · have young := (kept front (List.mem_of_head? first)).1
      have newest := (kept back (List.mem_of_getLast? last)).2
      have forward := inOrder.le_lastAdd (List.mem_of_head? first)
      simp only [lastAdd, last, Option.map_some, Option.getD_some] at forward
      rw [within, decide_eq_true_iff] at young
      rw [UInt64.le_iff_toNat_le] at newest
      rw [UInt64.le_iff_toNat_le, UInt64.toNat_sub_of_le _ _ forward]
      omega
  · decide

/-- Among any operations a snapshot shows the window of its moment if and only
if nothing has expired since the last addition. -/
theorem snapshot_exact_iff {before : List Operation} {now : UInt64}
    (ordered : Ordered (added before)) (late : lastAdd (added before) ≤ now)
    (after : List Operation) :
    (respond step {} (before ++ .snapshot now :: after)).2[before.length]? =
        some (some (window now (added before))) ↔
      NoneExpired now (added before) := by
  rw [respond_at, step, values, samples_eq ordered, window, Option.some_inj, Option.some_inj]
  exact recent_map_eq_iff _ (ordered.rising _) (ordered.rising now) (within_stricter late)

/-- Two samples, and a snapshot when the first one has expired. -/
theorem snapshot_exact_soonAfter :
    (respond step {} ([.add 1 7, .add 2 8] ++ .snapshot 10000000001 :: [])).2[2]? =
      some (some (window 10000000001 (added [.add 1 7, .add 2 8]))) :=
  (snapshot_exact_iff (by decide) (by decide) []).mpr (by decide)

end

/-- The stream stops after one sample; eleven seconds later it is still shown. -/
theorem expired_sample_shown :
    (respond step {} ([.add 1 7] ++ .snapshot 11000000001 :: [])).2[1]? = some (some [7]) ∧
      window 11000000001 (added [.add 1 7]) = [] := by
  decide

end RollingLatency

end TelemetryGateway
