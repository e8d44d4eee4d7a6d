import CloudMonitor.Uptime
import Mathlib.Data.Finset.Max
import Mathlib.Data.List.Forall2

/-!
# The arithmetic of the SLA report

Whatever the timestamps are, no division of `get_sla` has a zero divisor, and
the percentages are proportions of the window: between 0 and 100, with the
client's percentage among those of its instances.
-/

namespace CloudMonitor

open Fallible

-- ---------------------------------------------------------------------------
-- Divisions that may raise
-- ---------------------------------------------------------------------------

/-- `a / b`, with the exception for a zero divisor. -/
def divide (a b : ℚ) : Svc ℚ := if b = 0 then raise .internal else return a / b

def slaDetailDividing (now : ℤ) (inst : Instance) : Svc (Option SlaDetail) := do
  let totalHours ← divide (totalSeconds (now - windowStart now inst)) 3600
  if totalHours ≤ 0 then
    return none
  else
    let elapsed ← divide (totalSeconds (upEnd now inst - windowStart now inst)) 3600
    let upHours := max elapsed 0
    let ratio ← divide upHours totalHours
    return some {
      instanceId := inst.id
      instanceName := inst.instanceName
      status := inst.status
      measuredHours := roundTo 1 totalHours
      runningHours := roundTo 1 upHours
      uptimePercent := roundTo 3 (min ratio 1 * 100) }

def slaDetailsDividing (now : ℤ) : List Instance → Svc (List SlaDetail)
  | [] => return []
  | inst :: instances => do
    let detail ← slaDetailDividing now inst
    let details ← slaDetailsDividing now instances
    return detail.toList ++ details

def meanUptimeDividing (percents : List ℚ) : Svc ℚ :=
  if percents = [] then return 100
  else do return roundTo 3 (← divide percents.sum percents.length)

/-- `get_sla` with divisions that raise; `getSla` takes them as total. -/
def getSlaDividing (env : Env) (clientId : ℤ) : Svc SlaReport := do
  let client ← getClient clientId
  let instances ← getClientInstances clientId
  let now ← utcnow env
  let threshold := env.settings.slaThresholds client.contractPlan
  let details ← slaDetailsDividing now instances
  let uptime ← meanUptimeDividing (details.map SlaDetail.uptimePercent)
  return {
    clientId := client.id
    clientName := client.clientName
    contractPlan := client.contractPlan
    slaThreshold := threshold
    month := yearMonth now
    uptimePercent := uptime
    isViolation := uptime < threshold
    instanceDetails := details }

theorem divide_run {a b : ℚ} (h : b ≠ 0) (s : Session) : (divide a b).run s = (.ok (a / b), s) := by
  rw [divide, if_neg h]
  rfl

theorem slaDetailDividing_run (now : ℤ) (inst : Instance) (s : Session) :
    (slaDetailDividing now inst).run s = (.ok (slaDetail now inst), s) := by
  have h3600 : (3600 : ℚ) ≠ 0 := by norm_num
  have htotal : totalSeconds (now - windowStart now inst) / 3600 = totalHours now inst := rfl
  simp only [slaDetailDividing, run_bind, divide_run h3600, htotal]
  rw [run_ite, slaDetail]
  split
  · rfl
  · next hpos =>
    have hne : totalHours now inst ≠ 0 := (not_le.mp hpos).ne'
    simp only [run_bind, divide_run h3600, divide_run hne, run_pure]
    rfl

theorem slaDetailsDividing_run (now : ℤ) (instances : List Instance) (s : Session) :
    (slaDetailsDividing now instances).run s = (.ok (instances.filterMap (slaDetail now)), s) := by
  induction instances with
  | nil => rfl
  | cons inst instances ih =>
    simp only [slaDetailsDividing, run_bind, slaDetailDividing_run, ih, run_pure]
    cases h : slaDetail now inst <;> simp [h]

theorem meanUptimeDividing_run (percents : List ℚ) (s : Session) :
    (meanUptimeDividing percents).run s = (.ok (meanUptime percents), s) := by
  unfold meanUptimeDividing meanUptime
  rw [run_ite]
  split
  · rfl
  · next hne =>
    have hlen : (percents.length : ℚ) ≠ 0 := by
      exact_mod_cast mt List.length_eq_zero_iff.mp hne
    simp only [run_bind, divide_run hlen, run_pure]

theorem getSlaDividing_run (env : Env) (clientId : ℤ) (s : Session) :
    (getSlaDividing env clientId).run s = (getSla env clientId).run s := by
  simp only [getSlaDividing, getSla, run_bind, slaDetailsDividing_run, meanUptimeDividing_run]

-- ---------------------------------------------------------------------------
-- Proportions of the window
-- ---------------------------------------------------------------------------

/-- Where the time counted as up ends, as stored. -/
def upUntil (now : ℤ) (i : Instance) : ℤ := if i.status = .running then now else i.updatedAt

/-- The microseconds of the window before that end. -/
def upPart (now : ℤ) (i : Instance) : ℕ :=
  Nat.count (fun (k : ℕ) => windowStart now i + k < upUntil now i) (now - windowStart now i).toNat

theorem count_below (a b : ℤ) (n : ℕ) :
    Nat.count (fun (k : ℕ) => a + k < b) n = min n (b - a).toNat := by
  induction n with
  | zero => simp
  | succ n ih =>
    rw [Nat.count_succ, ih]
    split <;> omega

theorem upPart_eq {now : ℤ} {i : Instance} (h : windowStart now i < now) :
    (upPart now i : ℤ) = upEnd now i - windowStart now i := by
  rw [upPart, count_below, upUntil, upEnd]
  split <;> omega

theorem rawPercent_proportion {now : ℤ} {i : Instance} (h : windowStart now i < now) :
    rawPercent now i = 100 * upPart now i / (now - windowStart now i : ℤ) := by
  rw [rawPercent_eq h, ← upPart_eq h]
  push_cast
  ring

theorem upHours_le_totalHours {now : ℤ} {i : Instance} (h : windowStart now i < now) :
    upHours now i ≤ totalHours now i := by
  refine max_le ?_ (totalHours_pos.mpr h).le
  rw [totalHours, totalSeconds_div, totalSeconds_div]
  have hle : ((upEnd now i - windowStart now i : ℤ) : ℚ) ≤ (now - windowStart now i : ℤ) := by
    exact_mod_cast Int.sub_le_sub_right (upEnd_le now i) _
  linarith

theorem rawPercent_nonneg {now : ℤ} {i : Instance} (h : windowStart now i < now) :
    0 ≤ rawPercent now i := by
  have hlen : (0 : ℚ) ≤ (now - windowStart now i : ℤ) := by exact_mod_cast (sub_pos.mpr h).le
  rw [rawPercent_proportion h]
  positivity

theorem rawPercent_le (now : ℤ) (i : Instance) : rawPercent now i ≤ 100 := by
  have h := min_le_right (upHours now i / totalHours now i) 1
  rw [rawPercent]
  linarith

theorem roundTo_hundred (digits : ℕ) : roundTo digits (100 : ℚ) = 100 :=
  roundTo_of_intCast (n := 100 * 10 ^ digits) (by push_cast; ring)

-- ---------------------------------------------------------------------------
-- The report
-- ---------------------------------------------------------------------------

/-- The line of a report about an instance. -/
structure SlaLine (now : ℤ) (i : Instance) (d : SlaDetail) : Prop where
  instanceId : d.instanceId = i.id
  instanceName : d.instanceName = i.instanceName
  status : d.status = i.status
  hours : d.runningHours ≤ d.measuredHours
  percent : d.uptimePercent = roundTo 3 (100 * upPart now i / (now - windowStart now i : ℤ) : ℚ)
  percent_nonneg : 0 ≤ d.uptimePercent
  percent_le : d.uptimePercent ≤ 100

/-- A report over `instances`: one line for each with a positive window, and
the rounded mean of their percentages. -/
structure SlaSound (now : ℤ) (instances : List Instance) (r : SlaReport) : Prop where
  lines : List.Forall₂ (SlaLine now) (instances.filter fun i => windowStart now i < now)
    r.instanceDetails
  unmeasured : r.instanceDetails = [] → r.uptimePercent = 100
  mean : r.instanceDetails ≠ [] → r.uptimePercent =
    roundTo 3 ((r.instanceDetails.map SlaDetail.uptimePercent).sum / r.instanceDetails.length)
  between : r.instanceDetails ≠ [] → ∃ least ∈ r.instanceDetails, ∃ greatest ∈ r.instanceDetails,
    (∀ d ∈ r.instanceDetails, least.uptimePercent ≤ d.uptimePercent ∧
      d.uptimePercent ≤ greatest.uptimePercent) ∧
    least.uptimePercent ≤ r.uptimePercent ∧ r.uptimePercent ≤ greatest.uptimePercent
  percent_nonneg : 0 ≤ r.uptimePercent
  percent_le : r.uptimePercent ≤ 100

theorem slaDetail_line {now : ℤ} {i : Instance} {d : SlaDetail} (h : slaDetail now i = some d) :
    windowStart now i < now ∧ SlaLine now i d := by
  unfold slaDetail at h
  split at h
  · cases h
  · next hpos =>
    have hw : windowStart now i < now := totalHours_pos.mp (not_le.mp hpos)
    cases h
    refine ⟨hw, rfl, rfl, rfl, roundTo_mono 1 (upHours_le_totalHours hw), ?_, ?_, ?_⟩
    · rw [rawPercent_proportion hw]
    · exact le_roundTo_of_le (roundTo_zero 3) (rawPercent_nonneg hw)
    · exact roundTo_le_of_le (roundTo_hundred 3) (rawPercent_le now i)

theorem slaDetail_eq_none {now : ℤ} {i : Instance} (h : slaDetail now i = none) :
    ¬windowStart now i < now := by
  unfold slaDetail at h
  split at h
  · next hneg => exact fun hw => absurd (totalHours_pos.mpr hw) (not_lt.mpr hneg)
  · cases h

theorem slaDetails_lines (now : ℤ) (instances : List Instance) :
    List.Forall₂ (SlaLine now) (instances.filter fun i => windowStart now i < now)
      (instances.filterMap (slaDetail now)) := by
  induction instances with
  | nil => exact .nil
  | cons i instances ih =>
    cases h : slaDetail now i with
    | none =>
      rw [List.filterMap_cons_none h, List.filter_cons_of_neg (by simpa using slaDetail_eq_none h)]
      exact ih
    | some d =>
      obtain ⟨hw, hline⟩ := slaDetail_line h
      rw [List.filterMap_cons_some h, List.filter_cons_of_pos (by simpa using hw)]
      exact .cons hline ih

theorem SlaLine.percent_digits {now : ℤ} {i : Instance} {d : SlaDetail} (h : SlaLine now i d) :
    roundTo 3 d.uptimePercent = d.uptimePercent := by
  rw [h.percent, roundTo_roundTo]

theorem slaLine_of_mem {now : ℤ} {is : List Instance} {ds : List SlaDetail} {d : SlaDetail}
    (h : List.Forall₂ (SlaLine now) is ds) (hd : d ∈ ds) : ∃ i, SlaLine now i d := by
  induction h with
  | nil => cases hd
  | cons hline _ ih =>
    rcases List.mem_cons.mp hd with rfl | hd
    · exact ⟨_, hline⟩
    · exact ih hd

theorem slaSound_of_lines {now : ℤ} {instances : List Instance} {r : SlaReport}
    (hlines : List.Forall₂ (SlaLine now) (instances.filter fun i => windowStart now i < now)
      r.instanceDetails)
    (hmean : r.uptimePercent = meanUptime (r.instanceDetails.map SlaDetail.uptimePercent)) :
    SlaSound now instances r := by
  have hline : ∀ d ∈ r.instanceDetails, ∃ i, SlaLine now i d := fun d hd =>
    slaLine_of_mem hlines hd
  by_cases hnil : r.instanceDetails = []
  · have h100 : r.uptimePercent = 100 := by simpa [hnil, meanUptime] using hmean
    exact ⟨hlines, fun _ => h100, fun h => absurd hnil h, fun h => absurd hnil h,
      h100 ▸ by norm_num, h100 ▸ by norm_num⟩
  · have hne : r.instanceDetails.map SlaDetail.uptimePercent ≠ [] := by simpa using hnil
    rw [meanUptime, if_neg hne] at hmean
    -- the rounded mean keeps every bound that has three digits
    have hlow : ∀ t, roundTo 3 t = t → (∀ d ∈ r.instanceDetails, t ≤ d.uptimePercent) →
        t ≤ r.uptimePercent := by
      intro t ht h
      rw [hmean]
      exact le_roundTo_mean ht hne (by simpa using h)
    have hhigh : ∀ t, roundTo 3 t = t → (∀ d ∈ r.instanceDetails, d.uptimePercent ≤ t) →
        r.uptimePercent ≤ t := by
      intro t ht h
      rw [hmean]
      exact roundTo_mean_le ht hne (by simpa using h)
    have hdigits : ∀ d ∈ r.instanceDetails, roundTo 3 d.uptimePercent = d.uptimePercent :=
      fun d hd => (hline d hd).elim fun _ h => h.percent_digits
    obtain ⟨least, hl, hleast⟩ := r.instanceDetails.toFinset.exists_min_image
      SlaDetail.uptimePercent (List.toFinset_nonempty_iff _ |>.mpr hnil)
    obtain ⟨greatest, hg, hgreatest⟩ := r.instanceDetails.toFinset.exists_max_image
      SlaDetail.uptimePercent (List.toFinset_nonempty_iff _ |>.mpr hnil)
    simp only [List.mem_toFinset] at hl hleast hg hgreatest
    constructor
    case lines => exact hlines
    case unmeasured => exact fun h => absurd h hnil
    case mean => exact fun _ => by simpa using hmean
    case between =>
      exact fun _ => ⟨least, hl, greatest, hg, fun d hd => ⟨hleast d hd, hgreatest d hd⟩,
        hlow _ (hdigits least hl) hleast, hhigh _ (hdigits greatest hg) hgreatest⟩
    case percent_nonneg =>
      exact hlow 0 (roundTo_zero 3) fun d hd => (hline d hd).elim fun _ h => h.percent_nonneg
    case percent_le =>
      exact hhigh 100 (roundTo_hundred 3) fun d hd => (hline d hd).elim fun _ h => h.percent_le

/-- For every client and all timestamps: nothing divides by zero, and a client
that can be read gets a sound report. -/
theorem sla_arithmetic (env : Env) (clientId : ℤ) (s : Session) :
    (getSlaDividing env clientId).run s = (getSla env clientId).run s ∧
      ((∃ e, (getClient clientId).run s = (.error e, s) ∧
          (getSla env clientId).run s = (.error e, s)) ∨
        ∃ c r, (getClient clientId).run s = (.ok c, s) ∧
          (getSla env clientId).run s = (.ok r, { s with tick := s.tick + 1 }) ∧
          SlaSound (env.clock s.tick) (clientInstancesQuery clientId s.view) r) := by
  refine ⟨getSlaDividing_run env clientId s, ?_⟩
  have hstate : ((getClient clientId).run s).2 = s :=
    ((getClient_triple clientId s).mono (fun _ _ h => h.1) (fun _ _ h => h)).state
  cases hget : (getClient clientId).run s with
  | mk reply s' =>
    rw [hget] at hstate
    obtain rfl : s' = s := hstate
    cases reply with
    | error e => exact .inl ⟨e, rfl, by simp only [getSla, run_bind, hget]⟩
    | ok c =>
      simp only [getSla, getClientInstances, run_bind, hget, view_run, run_pure, utcnow_run]
      exact .inr ⟨c, _, rfl, rfl, slaSound_of_lines (slaDetails_lines _ _) rfl⟩

end CloudMonitor
