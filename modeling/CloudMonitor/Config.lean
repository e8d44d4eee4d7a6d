import Mathlib.Data.Rat.Defs

/-!
# Settings

The settings the modelled code reads, with their defaults, and the two tables
derived from them. Prices, percentages and CPU readings are exact rationals.
-/

namespace CloudMonitor

structure Settings where
  loginMaxFailuresPerAccount : ℕ := 10
  loginMaxFailuresPerIp : ℕ := 50
  loginWindowSeconds : ℕ := 900
  cpuWarningThreshold : ℚ := 80
  longStoppedHours : ℕ := 48
  priceSmall : ℚ := 50
  priceMedium : ℚ := 120
  priceLarge : ℚ := 250
  slaPremium : ℚ := 999 / 10
  slaStandard : ℚ := 99
  slaBasic : ℚ := 95

inductive ContractPlan
  | basic
  | standard
  | premium
  deriving DecidableEq, Repr

inductive InstanceType
  | small
  | medium
  | large
  deriving DecidableEq, Repr

def InstanceType.value : InstanceType → String
  | .small => "SMALL"
  | .medium => "MEDIUM"
  | .large => "LARGE"

def Settings.unitPrices (settings : Settings) : InstanceType → ℚ
  | .small => settings.priceSmall
  | .medium => settings.priceMedium
  | .large => settings.priceLarge

def Settings.slaThresholds (settings : Settings) : ContractPlan → ℚ
  | .premium => settings.slaPremium
  | .standard => settings.slaStandard
  | .basic => settings.slaBasic

end CloudMonitor
