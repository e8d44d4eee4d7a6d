import CloudMonitor.Lib.Months
import CloudMonitor.Listings
import CloudMonitor.SlaArithmetic

/-!
# Months and dates of the calendar

The cost, SLA and forecast reports name a month, and the alert history takes
two dates. Both are compared here with the calendar: which instants lie in the
month a report names, and which alerts between the dates of a request.
-/

namespace CloudMonitor

open Fallible

-- ---------------------------------------------------------------------------
-- The month of an instant
-- ---------------------------------------------------------------------------

def monthOf (t : ℤ) : ℤ := (civilDate t).monthIndex

/-- `YYYY-MM`. -/
def monthLabel (k : ℤ) : String := toString (k / 12) ++ "-" ++ zeroPadded 2 (k % 12 + 1).toNat

theorem monthOf_eq_iff {t k : ℤ} :
    monthOf t = k ↔ monthFirst k * dayMicros ≤ t ∧ t < monthFirst (k + 1) * dayMicros := by
  rw [monthOf, civilDate, CivilDate.monthIndex_ofDays]
  unfold dayMicros
  omega

theorem civilDate_eq (t : ℤ) : civilDate t =
    ⟨monthOf t / 12, monthOf t % 12 + 1, t / dayMicros - monthFirst (monthOf t) + 1⟩ := by
  obtain ⟨hfrom, hto⟩ := CivilDate.monthIndex_ofDays.mp (rfl : monthOf t = monthOf t)
  exact CivilDate.ofDays_eq hfrom hto

theorem monthStart_eq (t : ℤ) : monthStart t = monthFirst (monthOf t) * dayMicros := by
  rw [monthStart, civilDate_eq]
  dsimp only
  congr 1
  omega

theorem monthOf_mono {t u : ℤ} (h : t ≤ u) : monthOf t ≤ monthOf u := by
  have ht := monthOf_eq_iff.mp (rfl : monthOf t = monthOf t)
  have hu := monthOf_eq_iff.mp (rfl : monthOf u = monthOf u)
  have hlt : monthFirst (monthOf t) < monthFirst (monthOf u + 1) := by
    unfold dayMicros at ht hu
    omega
  have := monthFirst_strictMono.lt_iff_lt.mp hlt
  omega

theorem monthStart_inj {t u : ℤ} : monthStart t = monthStart u ↔ monthOf t = monthOf u := by
  rw [monthStart_eq, monthStart_eq]
  constructor
  · intro h
    have hfirst : monthFirst (monthOf t) = monthFirst (monthOf u) := by
      unfold dayMicros at h
      omega
    exact monthFirst_strictMono.injective hfirst
  · intro h
    rw [h]

/-- The last instant before a month is in the month before it. -/
theorem monthOf_before (t : ℤ) : monthOf (monthStart t - 1) = monthOf t - 1 := by
  rw [monthOf_eq_iff, monthStart_eq, Int.sub_add_cancel]
  have h := monthFirst_succ_le (monthOf t - 1)
  rw [Int.sub_add_cancel] at h
  unfold dayMicros
  omega

theorem monthOf_nonneg {t : ℤ} (h : 0 ≤ t) : 23640 ≤ monthOf t := by
  have hzero : monthOf 0 = 23640 := by decide
  rw [← hzero]
  exact monthOf_mono h

-- ---------------------------------------------------------------------------
-- Its name
-- ---------------------------------------------------------------------------

theorem yearMonth_eq (t : ℤ) : yearMonth t = monthLabel (monthOf t) := by
  rw [yearMonth, civilDate_eq, monthLabel]

theorem zeroPadded_four {n : ℕ} (h : 1000 ≤ n) : zeroPadded 4 n = toString n := by
  have hlen : ¬(toString n).length ≤ 3 := by
    rw [Nat.toString_eq_repr, Nat.length_repr_le_iff (by decide)]
    omega
  have hzero : 4 - (toString n).length = 0 := by omega
  rw [zeroPadded]
  simp only [hzero, List.replicate_zero, String.ofList_nil, String.empty_append]

theorem toString_toNat {y : ℤ} (h : 0 ≤ y) : toString y.toNat = toString y := by
  obtain ⟨n, rfl⟩ := Int.eq_ofNat_of_zero_le h
  rfl

theorem nextMonth_eq {t : ℤ} (h : 0 ≤ t) : nextMonth t = monthLabel (monthOf t + 1) := by
  have hmonth := monthOf_nonneg h
  have hyear : monthOf t / 12 + (if monthOf t % 12 + 1 = 12 then 1 else 0) =
      (monthOf t + 1) / 12 := by
    split <;> omega
  have hnumber : (monthOf t % 12 + 1) % 12 + 1 = (monthOf t + 1) % 12 + 1 := by omega
  rw [nextMonth, civilDate_eq, monthLabel]
  dsimp only
  rw [hyear, hnumber, zeroPadded_four (by omega), toString_toNat (by omega)]

theorem zeroPadded_two_inj {m n : ℕ} (hm : m < 13) (hn : n < 13)
    (h : zeroPadded 2 m = zeroPadded 2 n) : m = n := by
  have hall : ∀ a < 13, ∀ b < 13, zeroPadded 2 a = zeroPadded 2 b → a = b := by decide +kernel
  exact hall m hm n hn h

/-- Months of the common era have names of their own. -/
theorem monthLabel_inj {j k : ℤ} (hj : 0 ≤ j) (hk : 0 ≤ k) (h : monthLabel j = monthLabel k) :
    j = k := by
  have hdash : ∀ y : ℤ, 0 ≤ y → '-' ∉ (toString y).toList := by
    intro y hy hmem
    obtain ⟨n, rfl⟩ := Int.eq_ofNat_of_zero_le hy
    have hdigits : '-' ∈ Nat.toDigits 10 n := by
      rwa [← Nat.toList_repr]
    have hdigit := Nat.isDigit_of_mem_toDigits (by decide) (by decide) hdigits
    simp at hdigit
  have hlists := congrArg String.toList h
  simp only [monthLabel, String.toList_append, List.append_assoc] at hlists
  obtain ⟨hyear, hmonth⟩ := cut_unique (hdash _ (by omega)) (hdash _ (by omega)) hlists
  have hnumber := zeroPadded_two_inj (by omega) (by omega) (String.toList_inj.mp hmonth)
  have hdiv : j / 12 = k / 12 := by
    have hread := congrArg readInt? (String.toList_inj.mp hyear)
    simpa [toString] using hread
  omega

-- ---------------------------------------------------------------------------
-- The months of the reports
-- ---------------------------------------------------------------------------

theorem getClientCost_triple (env : Env) (clientId : ℤ) (s : Session) :
    Triple (getClientCost env clientId) s
      (fun r _ => r.month = yearMonth (env.clock s.tick) ∧
        r.instanceCount = (clientInstancesQuery clientId s.view).length ∧
        r.totalMonthlyCost =
          roundTo 2 ((clientInstancesQuery clientId s.view).map Instance.monthlyCost).sum)
      (fun _ _ => True) := by
  refine Triple.bind (getClient_triple clientId s).ok ?_
  rintro c _ ⟨rfl, -⟩
  refine Triple.bind (getClientInstances_triple clientId _).ok ?_
  rintro _ _ ⟨rfl, rfl⟩
  exact utcnow_bind (Triple.pure ⟨rfl, rfl, rfl⟩)

theorem getCostForecast_month (env : Env) (clientId : ℤ) (s : Session) :
    Triple (getCostForecast env clientId) s
      (fun f _ => f.forecastMonth = nextMonth (env.clock s.tick)) (fun _ _ => True) := by
  refine Triple.bind (getClient_triple clientId s).ok ?_
  rintro c _ ⟨rfl, -⟩
  exact view_bind (utcnow_bind (Triple.pure rfl))

theorem getSla_details (env : Env) (clientId : ℤ) (s : Session) :
    Triple (getSla env clientId) s
      (fun r _ => r.month = yearMonth (env.clock s.tick) ∧ r.instanceDetails =
        (clientInstancesQuery clientId s.view).filterMap (slaDetail (env.clock s.tick)))
      (fun _ _ => True) := by
  refine Triple.bind (getClient_triple clientId s).ok ?_
  rintro c _ ⟨rfl, -⟩
  refine Triple.bind (getClientInstances_triple clientId _).ok ?_
  rintro _ _ ⟨rfl, rfl⟩
  exact utcnow_bind (Triple.pure ⟨rfl, rfl⟩)

theorem yearMonth_inj {t u : ℤ} (ht : 0 ≤ t) (hu : 0 ≤ u) :
    yearMonth t = yearMonth u ↔ monthStart t = monthStart u := by
  rw [yearMonth_eq, yearMonth_eq, monthStart_inj]
  have hmt := monthOf_nonneg ht
  have hmu := monthOf_nonneg hu
  exact ⟨monthLabel_inj (by omega) (by omega), congrArg monthLabel⟩

/-- The reports of any clients at any instants since 1970: those of one
calendar month name the same month, and a forecast names the month of the
reports made in the calendar month after it. -/
theorem report_months (env : Env) (c c' c'' : ℤ) (s s' s'' : Session)
    (hs : 0 ≤ env.clock s.tick) (hs' : 0 ≤ env.clock s'.tick) (hs'' : 0 ≤ env.clock s''.tick)
    {cost : ClientCost} {forecast : CostForecast} {sla : SlaReport}
    (hcost : ((getClientCost env c).run s).1 = .ok cost)
    (hforecast : ((getCostForecast env c').run s').1 = .ok forecast)
    (hsla : ((getSla env c'').run s'').1 = .ok sla) :
    (sla.month = cost.month ↔
      monthStart (env.clock s''.tick) = monthStart (env.clock s.tick)) ∧
    (forecast.forecastMonth = cost.month ↔
      monthStart (env.clock s'.tick) = monthStart (monthStart (env.clock s.tick) - 1)) := by
  have hmonth := ((getClientCost_triple env c s).returned hcost).1
  have hnext := (getCostForecast_month env c' s').returned hforecast
  have hsame := ((getSla_details env c'' s'').returned hsla).1
  rw [hmonth, hnext, hsame]
  refine ⟨yearMonth_inj hs'' hs, ?_⟩
  rw [nextMonth_eq hs', yearMonth_eq, monthStart_inj, monthOf_before]
  have hm := monthOf_nonneg hs
  have hm' := monthOf_nonneg hs'
  constructor
  · intro h
    have heq := monthLabel_inj (by omega) (by omega) h
    omega
  · intro h
    rw [h, Int.sub_add_cancel]

-- A clock that moves on by 31 days a reading: the eleventh is on 8 December
-- 1970, and the forecast made then names January of 1971.
theorem report_months_newYear : ∃ cost forecast sla,
    ((getClientCost (.every 2678400000000) 1).run { oneClient.session with tick := 12 }).1 =
      .ok cost ∧
    ((getCostForecast (.every 2678400000000) 1).run { oneClient.session with tick := 11 }).1 =
      .ok forecast ∧
    ((getSla (.every 2678400000000) 1).run { oneClient.session with tick := 12 }).1 = .ok sla ∧
    sla.month = cost.month ∧ forecast.forecastMonth = cost.month := by
  refine ⟨_, _, _, rfl, rfl, rfl, ?_⟩
  have h := report_months (.every 2678400000000) 1 1 1 { oneClient.session with tick := 12 }
    { oneClient.session with tick := 11 } { oneClient.session with tick := 12 } (by decide)
    (by decide) (by decide) rfl rfl rfl
  exact ⟨h.1.mpr rfl, h.2.mpr (by decide +kernel)⟩

-- ---------------------------------------------------------------------------
-- What the SLA report measures
-- ---------------------------------------------------------------------------

theorem totalHours_le (now : ℤ) (i : Instance) :
    totalHours now i ≤ 24 * monthLength (monthOf now) := by
  have hnow := (monthOf_eq_iff.mp (rfl : monthOf now = monthOf now)).2
  have hstart : monthFirst (monthOf now) * dayMicros ≤ windowStart now i := by
    rw [windowStart, monthStart_eq]
    exact le_max_left _ _
  have hmicros : now - windowStart now i ≤ 86400000000 * monthLength (monthOf now) := by
    unfold monthLength
    unfold dayMicros at hnow hstart
    omega
  have hrat : ((now - windowStart now i : ℤ) : ℚ) ≤
      86400000000 * (monthLength (monthOf now) : ℚ) := by
    exact_mod_cast hmicros
  rw [totalHours, totalSeconds_div, div_le_iff₀ (by norm_num)]
  linarith

theorem upHours_nonneg (now : ℤ) (i : Instance) : 0 ≤ upHours now i := le_max_right _ _

theorem slaDetail_hours {now : ℤ} {i : Instance} {d : SlaDetail} (h : slaDetail now i = some d) :
    d.measuredHours = roundTo 1 (totalHours now i) ∧ d.runningHours = roundTo 1 (upHours now i) := by
  unfold slaDetail at h
  split at h
  · cases h
  · cases h
    exact ⟨rfl, rfl⟩

/-- Each line of an SLA report is measured inside the month the report names,
and over no more hours than that month has. -/
theorem sla_measures_its_month (env : Env) (clientId : ℤ) (s : Session) {r : SlaReport}
    (hr : ((getSla env clientId).run s).1 = .ok r) :
    ∀ d ∈ r.instanceDetails, ∃ i ∈ clientInstancesQuery clientId s.view, d.instanceId = i.id ∧
      (∀ t, windowStart (env.clock s.tick) i ≤ t → t ≤ env.clock s.tick →
        yearMonth t = r.month) ∧
      0 ≤ d.runningHours ∧ d.runningHours ≤ d.measuredHours ∧
      d.measuredHours ≤ 24 * monthLength (monthOf (env.clock s.tick)) := by
  obtain ⟨hmonth, hdetails⟩ := (getSla_details env clientId s).returned hr
  intro d hd
  rw [hdetails] at hd
  obtain ⟨i, hi, hline⟩ := List.mem_filterMap.mp hd
  obtain ⟨-, hsound⟩ := slaDetail_line hline
  obtain ⟨hmeasured, hrunning⟩ := slaDetail_hours hline
  refine ⟨i, hi, hsound.instanceId, fun t hfrom hto => ?_, ?_, hsound.hours, ?_⟩
  · have hstart : monthStart (env.clock s.tick) ≤ t := (le_max_left _ _).trans hfrom
    have hnow := (monthOf_eq_iff.mp (rfl : monthOf (env.clock s.tick) = _)).2
    have hsame : monthOf t = monthOf (env.clock s.tick) := by
      rw [monthStart_eq] at hstart
      exact monthOf_eq_iff.mpr ⟨hstart, hto.trans_lt hnow⟩
    rw [hmonth, yearMonth_eq, yearMonth_eq, hsame]
  · rw [hrunning]
    exact le_roundTo_of_le (roundTo_zero 1) (upHours_nonneg _ i)
  · have hwhole : roundTo 1 (24 * monthLength (monthOf (env.clock s.tick)) : ℚ) =
        24 * monthLength (monthOf (env.clock s.tick)) :=
      roundTo_of_intCast (n := 240 * monthLength (monthOf (env.clock s.tick)))
        (by push_cast; ring)
    rw [hmeasured]
    exact roundTo_le_of_le hwhole (totalHours_le _ i)

theorem sla_measures_its_month_batch :
    ∃ i ∈ clientInstancesQuery 1 stoppedReading.db, 1 = i.id ∧
      (∀ t, windowStart 259200000000 i ≤ t → t ≤ 259200000000 → yearMonth t = "1970-01") ∧
      (0 : ℚ) ≤ 48 ∧ (48 : ℚ) ≤ 72 ∧ (72 : ℚ) ≤ 24 * monthLength (monthOf 259200000000) :=
  sla_measures_its_month (.every 86400000000) 1 stoppedReading.session batchReport_run
    ⟨1, "batch-01", .stopped, 72, 48, 66667 / 1000⟩ (List.mem_singleton_self _)

-- ---------------------------------------------------------------------------
-- Alerts between two dates
-- ---------------------------------------------------------------------------

/-- A date a request may bring. -/
structure DateParam where
  date : CivilDate
  valid : date.Valid

/-- The filter with these dates as its bounds. -/
def AlertFilter.between (f : AlertFilter) (dateFrom dateTo : Option DateParam) : AlertFilter :=
  { f with
    dateFrom := dateFrom.map fun d => d.date.toDays
    dateTo := dateTo.map fun d => d.date.toDays }

theorem civilDate_bounds (d : DateParam) (t : ℤ) :
    (d.date.toDays * dayMicros ≤ t ↔ d.date ≤ civilDate t) ∧
      (t ≤ d.date.toDays * dayMicros + (dayMicros - 1) ↔ civilDate t ≤ d.date) := by
  have hvalid := CivilDate.valid_ofDays (t / dayMicros)
  rw [civilDate, ← CivilDate.toDays_le_iff d.valid hvalid, ← CivilDate.toDays_le_iff hvalid d.valid,
    CivilDate.toDays_ofDays]
  unfold dayMicros
  omega

theorem AlertFilter.matches_between (f : AlertFilter) (dateFrom dateTo : Option DateParam)
    (a : Alert) : (f.between dateFrom dateTo).matches a = true ↔
      (f.between none none).matches a = true ∧ (∀ d ∈ dateFrom, d.date ≤ civilDate a.detectedAt) ∧
        ∀ d ∈ dateTo, civilDate a.detectedAt ≤ d.date := by
  have hfrom := fun d => (civilDate_bounds d a.detectedAt).1
  have hto := fun d => (civilDate_bounds d a.detectedAt).2
  cases dateFrom <;> cases dateTo <;>
    simp [AlertFilter.matches, AlertFilter.between, ← hfrom, ← hto, and_assoc]

theorem alertsQuery_eq_of_strict {clientIds : Option Select} {f : AlertFilter} {db : Database}
    {rows : List Alert} (hstrict : rows.Pairwise (Before alertOrder))
    (hmem : ∀ a, a ∈ rows ↔ a ∈ alertsQuery clientIds f db) : alertsQuery clientIds f db = rows := by
  have hnodup : ∀ {as : List Alert}, as.Pairwise (Before alertOrder) → as.Nodup := by
    intro as h
    refine h.imp ?_
    rintro a _ hab rfl
    exact before_asymm ranked_alertOrder hab hab
  have hquery := alertsQuery_strict clientIds f db
  have hperm : (alertsQuery clientIds f db).Perm rows :=
    (List.perm_ext_iff_of_nodup (hnodup hquery) (hnodup hstrict)).mpr fun a => (hmem a).symm
  exact hperm.eq_of_pairwise
    (fun a b _ _ hab hba => absurd hba (before_asymm ranked_alertOrder hab)) hquery hstrict

def DateParam.next (d : DateParam) : DateParam where
  date := CivilDate.ofDays (d.date.toDays + 1)
  valid := CivilDate.valid_ofDays _

/-- An instant is on a day or before it, or on the next day or after it. -/
theorem DateParam.le_or_next_le (d : DateParam) (t : ℤ) :
    (civilDate t ≤ d.date ↔ t < d.next.date.toDays * dayMicros) ∧
      (d.next.date ≤ civilDate t ↔ d.next.date.toDays * dayMicros ≤ t) := by
  rw [← (civilDate_bounds d t).2, ← (civilDate_bounds d.next t).1, DateParam.next,
    CivilDate.toDays_ofDays]
  unfold dayMicros
  omega

theorem DateParam.le_next (d : DateParam) : d.date ≤ d.next.date := by
  rw [← CivilDate.toDays_le_iff d.valid d.next.valid, DateParam.next, CivilDate.toDays_ofDays]
  omega

/-- The alert history between two dates has the alerts detected on the days
from the one to the other, and cut after any of these days it falls into the
history from the next day on and, after it, the history up to that day. -/
theorem alerts_between_dates (clientIds : Option Select) (f : AlertFilter) (db : Database)
    (dateFrom dateTo : Option DateParam) :
    (∀ a, a ∈ alertsQuery clientIds (f.between dateFrom dateTo) db ↔
      a ∈ alertsQuery clientIds (f.between none none) db ∧
        (∀ d ∈ dateFrom, d.date ≤ civilDate a.detectedAt) ∧
        ∀ d ∈ dateTo, civilDate a.detectedAt ≤ d.date) ∧
    (∀ day : DateParam, (∀ d ∈ dateFrom, d.date ≤ day.date) → (∀ d ∈ dateTo, day.date ≤ d.date) →
      alertsQuery clientIds (f.between dateFrom dateTo) db =
        alertsQuery clientIds (f.between (some day.next) dateTo) db ++
          alertsQuery clientIds (f.between dateFrom (some day)) db) := by
  constructor
  · intro a
    rw [mem_alertsQuery, mem_alertsQuery, f.matches_between]
    tauto
  · intro day hfrom hto
    refine alertsQuery_eq_of_strict ?_ fun a => ?_
    · refine List.pairwise_append.mpr ⟨alertsQuery_strict _ _ _, alertsQuery_strict _ _ _, ?_⟩
      intro a ha b hb
      rw [mem_alertsQuery, f.matches_between] at ha hb
      have hlate := (day.le_or_next_le a.detectedAt).2.mp (ha.2.2.1 day.next rfl)
      have hearly := (day.le_or_next_le b.detectedAt).1.mp (hb.2.2.2 day rfl)
      exact .inl (decide_eq_true (hearly.trans_le hlate))
    · rw [List.mem_append, mem_alertsQuery, mem_alertsQuery, mem_alertsQuery,
        f.matches_between (some day.next) dateTo, f.matches_between dateFrom (some day),
        f.matches_between dateFrom dateTo, ← and_or_left, ← and_or_left]
      refine and_congr_right fun _ => and_congr_right fun _ => ?_
      simp only [Option.mem_def, Option.some.injEq, forall_eq']
      constructor
      · rintro (⟨hnext, hle⟩ | ⟨hge, hday⟩)
        · have hday := CivilDate.le_trans day.le_next hnext
          exact ⟨fun d hd => CivilDate.le_trans (hfrom d hd) hday, hle⟩
        · exact ⟨hge, fun d hd => CivilDate.le_trans hday (hto d hd)⟩
      · rintro ⟨hge, hle⟩
        obtain ⟨hbefore, hafter⟩ := day.le_or_next_le a.detectedAt
        rcases lt_or_ge a.detectedAt (day.next.date.toDays * dayMicros) with hlt | hge'
        · exact .inr ⟨hge, hbefore.mpr hlt⟩
        · exact .inl ⟨hafter.mpr hge', hle⟩

end CloudMonitor
