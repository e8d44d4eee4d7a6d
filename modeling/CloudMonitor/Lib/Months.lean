import CloudMonitor.Lib.Calendar
import Mathlib.Algebra.Order.Ring.Int
import Mathlib.Data.Int.ConditionallyCompleteOrder
import Mathlib.Tactic.IntervalCases

/-!
# Months

The months in their order, numbered from January of the year 0. Each begins on
a day of its own, the next one 28 days later at the earliest, and the date
`CivilDate.ofDays` computes is that of the month a day lies in
(`CivilDate.ofDays_eq`). So dates and days correspond, in order.
-/

namespace CloudMonitor

-- ---------------------------------------------------------------------------
-- The first days
-- ---------------------------------------------------------------------------

/-- Days from 1 March of the year 0 to 1 March of the year `y`. -/
def marchFirst (y : ℤ) : ℤ := 365 * y + y / 4 - y / 100 + y / 400

/-- The first day of month `k`, the `k % 12 + 1`st of the year `k / 12`. -/
def monthFirst (k : ℤ) : ℤ :=
  marchFirst ((k - 2) / 12) + (153 * ((k - 2) % 12) + 2) / 5 - 719468

def monthLength (k : ℤ) : ℤ := monthFirst (k + 1) - monthFirst k

example : monthFirst (1970 * 12) = 0 := by decide
example : monthLength (2024 * 12 + 1) = 29 := by decide

theorem marchFirst_succ (y : ℤ) :
    marchFirst (y + 1) = marchFirst y + 365 ∨
      (marchFirst (y + 1) = marchFirst y + 366 ∧ y % 4 = 3 ∧ (y % 100 = 99 → y % 400 = 399)) := by
  unfold marchFirst
  omega

theorem monthLength_bounds (k : ℤ) : 28 ≤ monthLength k ∧ monthLength k ≤ 31 := by
  have hyear := marchFirst_succ ((k - 2) / 12)
  unfold monthLength monthFirst
  by_cases hlast : (k - 2) % 12 = 11
  · have hdiv : (k + 1 - 2) / 12 = (k - 2) / 12 + 1 := by omega
    have hmod : (k + 1 - 2) % 12 = 0 := by omega
    rw [hdiv, hmod, hlast]
    omega
  · have hdiv : (k + 1 - 2) / 12 = (k - 2) / 12 := by omega
    have hmod : (k + 1 - 2) % 12 = (k - 2) % 12 + 1 := by omega
    rw [hdiv, hmod]
    omega

theorem monthFirst_succ_le (k : ℤ) : monthFirst k + 28 ≤ monthFirst (k + 1) := by
  have h := (monthLength_bounds k).1
  unfold monthLength at h
  omega

theorem monthFirst_lt_succ (k : ℤ) : monthFirst k < monthFirst (k + 1) := by
  have h := monthFirst_succ_le k
  omega

theorem monthFirst_strictMono : StrictMono monthFirst :=
  strictMono_int_of_lt_succ monthFirst_lt_succ

theorem monthFirst_bounds (k : ℤ) : (0 ≤ k → k - 720000 ≤ monthFirst k) ∧
    (k ≤ 0 → monthFirst k ≤ k) := by
  unfold monthFirst marchFirst
  omega

/-- Every day lies in a month. -/
theorem exists_month (n : ℤ) : ∃ k, monthFirst k ≤ n ∧ n < monthFirst (k + 1) := by
  have hbdd : ∃ b, ∀ z, monthFirst z ≤ n → z ≤ b := by
    refine ⟨max (n + 720000) 0, fun z hz => ?_⟩
    have h := (monthFirst_bounds z).1
    omega
  have hinh : ∃ z, monthFirst z ≤ n := ⟨min n 0, by
    have h := (monthFirst_bounds (min n 0)).2 (by omega)
    omega⟩
  obtain ⟨k, hk, hgreatest⟩ := Int.exists_greatest_of_bdd hbdd hinh
  refine ⟨k, hk, ?_⟩
  by_contra hle
  have h := hgreatest (k + 1) (not_lt.mp hle)
  omega

/-- It lies in one only. -/
theorem month_unique {j k n : ℤ} (hj : monthFirst j ≤ n ∧ n < monthFirst (j + 1))
    (hk : monthFirst k ≤ n ∧ n < monthFirst (k + 1)) : j = k := by
  have hle := monthFirst_strictMono.lt_iff_lt.mp (hj.1.trans_lt hk.2)
  have hge := monthFirst_strictMono.lt_iff_lt.mp (hk.1.trans_lt hj.2)
  omega

-- ---------------------------------------------------------------------------
-- The date of a day
-- ---------------------------------------------------------------------------

/-- `yoe` is the `p`-th year of the `q`-th four years of century `c`, and only
the last of four years may have a day 365. -/
theorem day_of_era {c q p r : ℤ} (hc : 0 ≤ c ∧ c ≤ 3) (hq : 0 ≤ q ∧ q ≤ 24) (hp : 0 ≤ p ∧ p ≤ 3)
    (hr : 0 ≤ r ∧ r ≤ 365) (hleap : r = 365 → p = 3 ∧ (q = 24 → c = 3)) :
    let doe := 36524 * c + 1461 * q + 365 * p + r
    (doe - doe / 1460 + doe / 36524 - doe / 146096) / 365 = 100 * c + 4 * q + p := by
  intro doe
  have hcentury : doe / 36524 - doe / 146096 = c := by
    by_cases hlast : r = 365 ∧ q = 24
    · have hend : doe = 146096 := by omega
      omega
    · have hinside : 1461 * q + 365 * p + r < 36524 := by omega
      have hdiv : doe / 36524 = c := by omega
      have hera : doe / 146096 = 0 := by omega
      omega
  have hfour : doe / 1460 = 25 * c + q + if 1460 ≤ 24 * c + q + 365 * p + r then 1 else 0 := by
    split <;> omega
  have hcarry : (1460 ≤ 24 * c + q + 365 * p + r → 1 ≤ r) ∧
      (r = 365 → 1460 ≤ 24 * c + q + 365 * p + r) := by omega
  have hsum : doe - doe / 1460 + doe / 36524 - doe / 146096 = doe - doe / 1460 + c := by omega
  rw [hsum, hfour]
  split <;> omega

/-- The year is read off a day's number in the 400-year era. -/
theorem era_year {yoe r : ℤ} (hyoe : 0 ≤ yoe ∧ yoe ≤ 399) (hr : 0 ≤ r)
    (hlt : r < marchFirst (yoe + 1) - marchFirst yoe) :
    (marchFirst yoe + r - (marchFirst yoe + r) / 1460 + (marchFirst yoe + r) / 36524 -
      (marchFirst yoe + r) / 146096) / 365 = yoe := by
  have hsucc := marchFirst_succ yoe
  have hfirst : marchFirst yoe =
      36524 * (yoe / 100) + 1461 * (yoe % 100 / 4) + 365 * (yoe % 4) := by
    unfold marchFirst
    omega
  have hday : r = 365 → yoe % 4 = 3 ∧ (yoe % 100 / 4 = 24 → yoe / 100 = 3) := by omega
  have h := day_of_era (c := yoe / 100) (q := yoe % 100 / 4) (p := yoe % 4) (r := r)
    (by omega) (by omega) (by omega) (by omega) hday
  simp only [← hfirst] at h
  omega

theorem marchFirst_era (y : ℤ) :
    marchFirst y = 146097 * (y / 400) + marchFirst (y % 400) ∧
      marchFirst (y + 1) - marchFirst y = marchFirst (y % 400 + 1) - marchFirst (y % 400) := by
  unfold marchFirst
  omega

theorem marchMonth_eq {mp d : ℤ} (hmp : 0 ≤ mp ∧ mp ≤ 11) (hd : 0 ≤ d)
    (hlt : mp < 11 → (153 * mp + 2) / 5 + d < (153 * (mp + 1) + 2) / 5)
    (hle : (153 * mp + 2) / 5 + d ≤ 365) : (5 * ((153 * mp + 2) / 5 + d) + 2) / 153 = mp := by
  omega

namespace CivilDate

theorem ofDays_eq {k n : ℤ} (hfrom : monthFirst k ≤ n) (hto : n < monthFirst (k + 1)) :
    ofDays n = ⟨k / 12, k % 12 + 1, n - monthFirst k + 1⟩ := by
  obtain ⟨y, hy⟩ : ∃ y, y = (k - 2) / 12 := ⟨_, rfl⟩
  obtain ⟨mp, hmp⟩ : ∃ mp, mp = (k - 2) % 12 := ⟨_, rfl⟩
  obtain ⟨r, hr⟩ : ∃ r, r = (153 * mp + 2) / 5 + (n - monthFirst k) := ⟨_, rfl⟩
  have hn : n + 719468 = marchFirst y + r := by
    rw [hr, monthFirst, ← hy, ← hmp]
    omega
  have hnext : (mp < 11 → r < (153 * (mp + 1) + 2) / 5) ∧ (mp = 11 → r < marchFirst (y + 1) -
      marchFirst y) := by
    constructor
    · intro hinner
      have hdiv : (k + 1 - 2) / 12 = y := by omega
      have hmod : (k + 1 - 2) % 12 = mp + 1 := by omega
      rw [monthFirst, hdiv, hmod] at hto
      omega
    · intro hlast
      have hdiv : (k + 1 - 2) / 12 = y + 1 := by omega
      have hmod : (k + 1 - 2) % 12 = 0 := by omega
      rw [monthFirst, hdiv, hmod] at hto
      omega
  have hyear := marchFirst_succ y
  have hrange : 0 ≤ r ∧ r < marchFirst (y + 1) - marchFirst y := by omega
  obtain ⟨hera, hsame⟩ := marchFirst_era y
  have hyoe : 0 ≤ y % 400 ∧ y % 400 ≤ 399 := by omega
  have hbound : marchFirst (y % 400) + (marchFirst (y % 400 + 1) - marchFirst (y % 400)) ≤
      146097 ∧ 0 ≤ marchFirst (y % 400) := by
    unfold marchFirst
    omega
  have hdoe : dayOfEra n = marchFirst (y % 400) + r := by
    unfold dayOfEra
    omega
  have hyearOfEra : yearOfEra n = y % 400 := by
    unfold yearOfEra
    rw [hdoe]
    exact era_year hyoe hrange.1 (hsame ▸ hrange.2)
  have hdoy : dayOfYear n = r := by
    have hfirst : marchFirst (y % 400) =
        365 * (y % 400) + y % 400 / 4 - y % 400 / 100 := by
      unfold marchFirst
      omega
    unfold dayOfYear
    simp only [hdoe, hyearOfEra]
    omega
  have hmonth : marchMonth n = mp := by
    unfold marchMonth
    rw [hdoy, hr]
    exact marchMonth_eq (by omega) (by omega) (by omega) (by omega)
  have hdays : (n + 719468) / 146097 = y / 400 := by omega
  unfold ofDays
  simp only [hyearOfEra, hmonth, hdoy, hdays, CivilDate.mk.injEq]
  refine ⟨?_, ?_, ?_⟩
  · split <;> omega
  · split <;> omega
  · omega

def monthIndex (d : CivilDate) : ℤ := 12 * d.year + (d.month - 1)

/-- A date of the calendar. -/
def Valid (d : CivilDate) : Prop :=
  1 ≤ d.month ∧ d.month ≤ 12 ∧ 1 ≤ d.day ∧ d.day ≤ monthLength d.monthIndex

instance (d : CivilDate) : Decidable d.Valid := inferInstanceAs (Decidable (_ ∧ _))

def toDays (d : CivilDate) : ℤ := monthFirst d.monthIndex + (d.day - 1)

theorem monthIndex_mk (k day : ℤ) : monthIndex ⟨k / 12, k % 12 + 1, day⟩ = k := by
  unfold monthIndex
  dsimp only
  omega

theorem monthIndex_ofDays {n k : ℤ} :
    (ofDays n).monthIndex = k ↔ monthFirst k ≤ n ∧ n < monthFirst (k + 1) := by
  obtain ⟨j, hj⟩ := exists_month n
  rw [ofDays_eq hj.1 hj.2, monthIndex_mk]
  constructor
  · rintro rfl
    exact hj
  · exact month_unique hj

@[simp] theorem toDays_ofDays (n : ℤ) : (ofDays n).toDays = n := by
  obtain ⟨k, hfrom, hto⟩ := exists_month n
  rw [ofDays_eq hfrom hto, toDays, monthIndex_mk]
  dsimp only
  omega

theorem valid_ofDays (n : ℤ) : (ofDays n).Valid := by
  obtain ⟨k, hfrom, hto⟩ := exists_month n
  rw [ofDays_eq hfrom hto, Valid, monthIndex_mk, monthLength]
  dsimp only
  omega

theorem Valid.month {d : CivilDate} (h : d.Valid) :
    monthFirst d.monthIndex ≤ d.toDays ∧ d.toDays < monthFirst (d.monthIndex + 1) := by
  obtain ⟨-, -, hone, hlast⟩ := h
  unfold monthLength at hlast
  unfold toDays
  omega

/-- Year, month and day, each decides where those before it agree. -/
instance : LE CivilDate where
  le a b := a.year < b.year ∨
    (a.year = b.year ∧ (a.month < b.month ∨ (a.month = b.month ∧ a.day ≤ b.day)))

theorem le_def {a b : CivilDate} : a ≤ b ↔ a.year < b.year ∨
    (a.year = b.year ∧ (a.month < b.month ∨ (a.month = b.month ∧ a.day ≤ b.day))) := Iff.rfl

instance (a b : CivilDate) : Decidable (a ≤ b) := inferInstanceAs (Decidable (_ ∨ _))

theorem le_trans {a b c : CivilDate} (hab : a ≤ b) (hbc : b ≤ c) : a ≤ c := by
  rw [le_def] at *
  omega

/-- Dates are in the order of their days. -/
theorem toDays_le_iff {a b : CivilDate} (ha : a.Valid) (hb : b.Valid) :
    a.toDays ≤ b.toDays ↔ a ≤ b := by
  have hma := ha.month
  have hmb := hb.month
  have horder : a ≤ b ↔ a.monthIndex < b.monthIndex ∨
      (a.monthIndex = b.monthIndex ∧ a.day ≤ b.day) := by
    obtain ⟨haj, had, -, -⟩ := ha
    obtain ⟨hbj, hbd, -, -⟩ := hb
    rw [le_def, monthIndex, monthIndex]
    omega
  rw [horder]
  rcases lt_trichotomy a.monthIndex b.monthIndex with hlt | heq | hgt
  · have hnext := monthFirst_strictMono.monotone (Int.add_one_le_of_lt hlt)
    omega
  · unfold toDays
    rw [heq]
    omega
  · have hnext := monthFirst_strictMono.monotone (Int.add_one_le_of_lt hgt)
    omega

end CivilDate

end CloudMonitor
