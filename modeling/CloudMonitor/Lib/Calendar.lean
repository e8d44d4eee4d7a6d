import Mathlib.Data.Int.Notation

/-!
# Civil dates

The proleptic Gregorian date of a day counted from 1970-01-01, computed in
400-year eras of years that start on 1 March.
-/

namespace CloudMonitor

structure CivilDate where
  year : ℤ
  month : ℤ
  day : ℤ
  deriving DecidableEq, Repr

namespace CivilDate

/-- Day of the era that starts on 1 March of a year divisible by 400. -/
def dayOfEra (days : ℤ) : ℤ := (days + 719468) % 146097

def yearOfEra (days : ℤ) : ℤ :=
  let doe := dayOfEra days
  (doe - doe / 1460 + doe / 36524 - doe / 146096) / 365

def dayOfYear (days : ℤ) : ℤ :=
  let yoe := yearOfEra days
  dayOfEra days - (365 * yoe + yoe / 4 - yoe / 100)

def marchMonth (days : ℤ) : ℤ := (5 * dayOfYear days + 2) / 153

def ofDays (days : ℤ) : CivilDate :=
  let mp := marchMonth days
  let month := if mp < 10 then mp + 3 else mp - 9
  { year := yearOfEra days + (days + 719468) / 146097 * 400 + if month ≤ 2 then 1 else 0
    month := month
    day := dayOfYear days - (153 * mp + 2) / 5 + 1 }

example : ofDays 0 = ⟨1970, 1, 1⟩ := by decide
example : ofDays 19782 = ⟨2024, 2, 29⟩ := by decide

end CivilDate

end CloudMonitor
