import CloudMonitor.History
import Mathlib.Algebra.Order.BigOperators.Group.List
import Mathlib.Algebra.BigOperators.Ring.List
import Mathlib.Order.Interval.Finset.Nat
import Mathlib.Data.Nat.Count

/-!
# The SLA approximation errs in the client's favour

`get_sla` counts an instance that is not running as up until its `updatedAt`.
It has not been running since then, so the percentage is never below the real
uptime; rounding it, and then the mean, to three decimals cannot push a mean
at a threshold under it, since the thresholds are even in the last decimal.
-/

namespace CloudMonitor

open Fallible

def runningIn (instanceId : ℤ) (w : World) : Bool :=
  (w.db.instances.find? instanceId).any (fun i => i.status == .running)

/-- The microseconds of `[start, now)` at which the instance really was `RUNNING`. -/
def upMicros (env : Env) (start now instanceId : ℤ) (w : World) (past : List World) : ℕ :=
  Nat.count (fun (k : ℕ) => runningIn instanceId (worldAt env (start + k) w past) = true)
    (now - start).toNat

def trueUptime (env : Env) (now : ℤ) (w : World) (past : List World) (i : Instance) : ℚ :=
  upMicros env (windowStart now i) now i.id w past / (now - windowStart now i : ℤ)

def measured (clientId now : ℤ) (db : Database) : List Instance :=
  (clientInstancesQuery clientId db).filter (fun i => windowStart now i < now)

-- ---------------------------------------------------------------------------
-- One instance
-- ---------------------------------------------------------------------------

section
variable {now : ℤ} {i : Instance}

theorem totalSeconds_div (d : ℤ) : totalSeconds d / 3600 = d / 3600000000 := by
  simp only [totalSeconds, secondMicros]
  push_cast
  ring

theorem totalHours_pos : 0 < totalHours now i ↔ windowStart now i < now := by
  rw [totalHours, totalSeconds_div, div_pos_iff_of_pos_right (by norm_num)]
  exact_mod_cast sub_pos

theorem windowStart_le_upEnd (h : windowStart now i < now) : windowStart now i ≤ upEnd now i := by
  unfold upEnd
  split
  · exact h.le
  · exact le_min (le_max_right _ _) h.le

theorem upEnd_le (now : ℤ) (i : Instance) : upEnd now i ≤ now := by
  unfold upEnd
  split
  · exact le_rfl
  · exact min_le_right _ _

theorem rawPercent_eq (h : windowStart now i < now) :
    rawPercent now i =
      (upEnd now i - windowStart now i : ℤ) / (now - windowStart now i : ℤ) * 100 := by
  have hpos : (0 : ℚ) < (now - windowStart now i : ℤ) := by exact_mod_cast sub_pos.mpr h
  have hup : (0 : ℚ) ≤ (upEnd now i - windowStart now i : ℤ) := by
    exact_mod_cast sub_nonneg.mpr (windowStart_le_upEnd h)
  have hle : ((upEnd now i - windowStart now i : ℤ) : ℚ) ≤ (now - windowStart now i : ℤ) := by
    exact_mod_cast Int.sub_le_sub_right (upEnd_le now i) _
  have hratio : upHours now i / totalHours now i =
      (upEnd now i - windowStart now i : ℤ) / (now - windowStart now i : ℤ) := by
    rw [upHours, totalHours, totalSeconds_div, totalSeconds_div, max_eq_left (by positivity)]
    field_simp
  rw [rawPercent, hratio, min_eq_left ((div_le_one hpos).mpr hle)]

/-- After its `updatedAt`, or now for a running instance, the instance was not
running any more. -/
theorem upMicros_le {env : Env} {start w : World} {past : List World} (hrun : Run env start w past)
    (hi : i ∈ w.db.instances) (hnew : i ∉ start.db.instances) (h : windowStart now i < now) :
    (upMicros env (windowStart now i) now i.id w past : ℤ) ≤ upEnd now i - windowStart now i := by
  have hle := windowStart_le_upEnd h
  have hdown : ∀ k : ℕ, k < (now - windowStart now i).toNat →
      runningIn i.id (worldAt env (windowStart now i + k) w past) = true →
        k < (upEnd now i - windowStart now i).toNat := by
    intro k hk hup
    by_contra hend
    unfold upEnd at hle hend
    split at hend
    · exact hend hk
    · next hstatus =>
      rw [if_neg hstatus] at hle
      have hupdated : i.updatedAt ≤ windowStart now i + k := by omega
      have hfind : (worldAt env (windowStart now i + k) w past).db.instances.find? i.id = some i :=
        Table.find?_eq_some.mpr ⟨hrun.mem_worldAt hi hnew hupdated, rfl⟩
      simp [runningIn, hfind, hstatus] at hup
  have hcount : upMicros env (windowStart now i) now i.id w past ≤
      (upEnd now i - windowStart now i).toNat := by
    rw [upMicros, Nat.count_eq_card_filter_range]
    refine (Finset.card_le_card fun k hk => ?_).trans (Finset.card_range _).le
    obtain ⟨hk, hup⟩ := Finset.mem_filter.mp hk
    exact Finset.mem_range.mpr (hdown k (Finset.mem_range.mp hk) hup)
  omega

theorem trueUptime_le_rawPercent {env : Env} {start w : World} {past : List World}
    (hrun : Run env start w past)
    (hi : i ∈ w.db.instances) (hnew : i ∉ start.db.instances) (h : windowStart now i < now) :
    100 * trueUptime env now w past i ≤ rawPercent now i := by
  have hpos : (0 : ℚ) < (now - windowStart now i : ℤ) := by exact_mod_cast sub_pos.mpr h
  have hup : (upMicros env (windowStart now i) now i.id w past : ℚ) ≤
      (upEnd now i - windowStart now i : ℤ) := by
    exact_mod_cast upMicros_le hrun hi hnew h
  rw [rawPercent_eq h, trueUptime, mul_comm]
  gcongr

end

-- ---------------------------------------------------------------------------
-- The verdict
-- ---------------------------------------------------------------------------

theorem slaDetails_percents (now : ℤ) (is : List Instance) :
    (is.filterMap (slaDetail now)).map SlaDetail.uptimePercent =
      (is.filter (fun i => windowStart now i < now)).map
        (fun i => roundTo 3 (rawPercent now i)) := by
  induction is with
  | nil => rfl
  | cons i is ih =>
    by_cases h : windowStart now i < now
    · have hpos : ¬totalHours now i ≤ 0 := not_le.mpr (totalHours_pos.mpr h)
      simp [slaDetail, h, hpos, ← ih]
    · have hpos : totalHours now i ≤ 0 := not_lt.mp (mt totalHours_pos.mp h)
      simp [slaDetail, h, hpos, ← ih]

theorem slaThresholds_even (plan : ContractPlan) :
    ∃ n : ℤ, Even n ∧ ({} : Settings).slaThresholds plan * 10 ^ 3 = n ∧
      ({} : Settings).slaThresholds plan ≤ 100 := by
  cases plan with
  | premium => exact ⟨99900, by decide, by norm_num [Settings.slaThresholds]⟩
  | standard => exact ⟨99000, by decide, by norm_num [Settings.slaThresholds]⟩
  | basic => exact ⟨95000, by decide, by norm_num [Settings.slaThresholds]⟩

/-- Rounding each percentage and then their mean does not push a mean that is
at least the threshold below it. -/
theorem le_meanUptime {t : ℚ} {n : ℤ} (hn : Even n) (ht : t * 10 ^ 3 = n) (h100 : t ≤ 100)
    {xs : List ℚ} (h : t * xs.length ≤ xs.sum) : t ≤ meanUptime (xs.map (roundTo 3)) := by
  unfold meanUptime
  split
  · exact h100
  · next hne =>
    have hlen : (0 : ℚ) < xs.length := by
      have : xs ≠ [] := by simpa using hne
      exact_mod_cast List.length_pos_iff.mpr this
    refine le_roundTo_of_even hn ht ?_
    have hsum := le_sum_roundTo 3 xs
    rw [List.length_map, le_div_iff₀ hlen]
    linarith

theorem mean_lt_of_meanUptime_lt {α : Type} {t : ℚ} {n : ℤ} (hn : Even n) (ht : t * 10 ^ 3 = n)
    (h100 : t ≤ 100) {f g : α → ℚ} {l : List α} (hfg : ∀ a ∈ l, 100 * f a ≤ g a)
    (h : meanUptime (l.map (fun a => roundTo 3 (g a))) < t) :
      (l.map f).sum / l.length * 100 < t := by
  have hg : (l.map g).sum < t * l.length := by
    by_contra hle
    have hmean : t ≤ meanUptime ((l.map g).map (roundTo 3)) :=
      le_meanUptime hn ht h100 (by simpa using hle)
    rw [List.map_map] at hmean
    exact absurd h (not_lt.mpr hmean)
  have hf : 100 * (l.map f).sum ≤ (l.map g).sum := by
    rw [← List.sum_map_mul_left]
    exact List.sum_le_sum hfg
  have hlen : (0 : ℚ) < l.length := by
    cases l with
    | nil => simp at hg
    | cons a l => exact_mod_cast Nat.succ_pos _
  rw [div_mul_eq_mul_div, div_lt_iff₀ hlen]
  linarith

theorem mem_measured {c now : ℤ} {db : Database} {i : Instance} :
    i ∈ measured c now db ↔ i ∈ db.instances ∧ i.clientId = c ∧ windowStart now i < now := by
  simp only [measured, clientInstancesQuery, List.mem_filter, Table.mem_def, beq_iff_eq,
    decide_eq_true_eq,
    and_assoc]

/-- Along a run from a database in which the client has no instances: no
percentage is below the instance's true uptime, and with the default
thresholds a violation is only reported when the mean true uptime is under
the threshold. -/
theorem sla_no_false_violation (env : Env) (start w : World) (past : List World)
    (hrun : Run env start w past) (c : ℤ) (hnone : ∀ i ∈ start.db.instances, i.clientId ≠ c) :
    (∀ i ∈ measured c (env.clock w.tick) w.db,
      100 * trueUptime env (env.clock w.tick) w past i ≤ rawPercent (env.clock w.tick) i) ∧
    (env.settings.slaThresholds = ({} : Settings).slaThresholds →
      ∀ r s', (getSla env c).run w.session = (.ok r, s') → r.isViolation = true →
        ((measured c (env.clock w.tick) w.db).map (trueUptime env (env.clock w.tick) w past)).sum /
          (measured c (env.clock w.tick) w.db).length * 100 < r.slaThreshold) := by
  have hlow : ∀ i ∈ measured c (env.clock w.tick) w.db,
      100 * trueUptime env (env.clock w.tick) w past i ≤ rawPercent (env.clock w.tick) i := by
    intro i hi
    obtain ⟨hi, hc, hwindow⟩ := mem_measured.mp hi
    exact trueUptime_le_rawPercent hrun hi (fun hstart => hnone i hstart hc) hwindow
  refine ⟨hlow, fun hdefault r s' hr hviolation => ?_⟩
  obtain ⟨⟨plan, hplan⟩, hpercent, hverdict⟩ :=
    (getSla_triple env c w.session).returned (congrArg Prod.fst hr)
  obtain ⟨n, hn, ht, h100⟩ := slaThresholds_even plan
  rw [← hdefault, ← hplan] at ht h100
  have hunder := hverdict.mp hviolation
  rw [hpercent, slaDetails_percents] at hunder
  exact mean_lt_of_meanUptime_lt hn ht h100 hlow hunder

/-- Two thirds of the window counted as up, a violation, and a true uptime of zero. -/
def batchReport : SlaReport where
  clientId := 1
  clientName := "VinaSoft"
  contractPlan := .premium
  slaThreshold := 999 / 10
  month := "1970-01"
  uptimePercent := 66667 / 1000
  isViolation := true
  instanceDetails := [⟨1, "batch-01", .stopped, 72, 48, 66667 / 1000⟩]

theorem batchReport_run :
    ((getSla (.every 86400000000) 1).run stoppedReading.session).1 = .ok batchReport := by
  decide +kernel

theorem sla_no_false_violation_batch :
    ((measured 1 259200000000 stoppedReading.db).map
        (trueUptime (.every 86400000000) 259200000000 stoppedReading
          [stoppedOnce, oneClient])).sum /
      (measured 1 259200000000 stoppedReading.db).length * 100 < batchReport.slaThreshold := by
  have hnow : (Env.every 86400000000).clock stoppedReading.tick = 259200000000 := by decide +kernel
  have h := (sla_no_false_violation (.every 86400000000) oneClient stoppedReading
      _ stoppedReading_run 1
    (by simp [oneClient, Database.empty])).2 rfl batchReport _ (Prod.ext batchReport_run rfl) rfl
  rwa [hnow] at h

end CloudMonitor
