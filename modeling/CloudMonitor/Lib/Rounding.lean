import Mathlib.Algebra.Order.BigOperators.Group.List
import Mathlib.Algebra.Order.Round
import Mathlib.Tactic.Linarith
import Mathlib.Tactic.FieldSimp

/-!
# Rounding half to even, and truncation

Python's `round` and `int` on an ordered field with a floor. Rounding moves
its argument by at most half a unit; on the midpoint below an even number it
goes up to that number.
-/

namespace CloudMonitor

variable {K : Type} [Field K] [LinearOrder K] [IsStrictOrderedRing K] [FloorRing K]

/-- `round(x)`: to the nearest integer, from a midpoint to the even one. -/
def roundHalfEven (x : K) : ℤ :=
  if Int.fract x < 1 / 2 then ⌊x⌋
  else if 1 / 2 < Int.fract x then ⌊x⌋ + 1
  else if Even ⌊x⌋ then ⌊x⌋ else ⌊x⌋ + 1

/-- `round(x, digits)`. -/
def roundTo (digits : ℕ) (x : K) : K := roundHalfEven (x * 10 ^ digits) / 10 ^ digits

/-- `int(x)`: toward zero. -/
def truncate (x : K) : ℤ := if 0 ≤ x then ⌊x⌋ else ⌈x⌉

theorem sub_half_le_roundHalfEven (x : K) : x - 1 / 2 ≤ roundHalfEven x := by
  have h := Int.floor_add_fract x
  have h1 := Int.fract_lt_one x
  unfold roundHalfEven
  split_ifs <;> push_cast <;> linarith

theorem roundHalfEven_le_add_half (x : K) : roundHalfEven x ≤ x + 1 / 2 := by
  have h := Int.floor_add_fract x
  have h0 := Int.fract_nonneg x
  unfold roundHalfEven
  split_ifs <;> push_cast <;> linarith

theorem roundHalfEven_le_floor (x : K) : roundHalfEven x ≤ ⌊x + 1 / 2⌋ :=
  Int.le_floor.mpr (roundHalfEven_le_add_half x)

theorem floor_le_roundHalfEven (x : K) : ⌊x + 1 / 2⌋ ≤ roundHalfEven x + 1 := by
  have h : (⌊x + 1 / 2⌋ : K) ≤ roundHalfEven x + 1 := by
    linarith [Int.floor_le (x + 1 / 2), sub_half_le_roundHalfEven x]
  exact_mod_cast h

omit [IsStrictOrderedRing K] in
theorem roundHalfEven_cases (x : K) : roundHalfEven x = ⌊x⌋ ∨ roundHalfEven x = ⌊x⌋ + 1 := by
  unfold roundHalfEven
  split_ifs <;> simp

theorem roundHalfEven_mono {x y : K} (h : x ≤ y) : roundHalfEven x ≤ roundHalfEven y := by
  have hfloor : ⌊x⌋ ≤ ⌊y⌋ := Int.floor_le_floor h
  rcases hfloor.lt_or_eq with hlt | heq
  · rcases roundHalfEven_cases x with hx | hx <;> rcases roundHalfEven_cases y with hy | hy <;>
      omega
  -- one floor for both, so the fractions are ordered
  · have hfract : Int.fract x ≤ Int.fract y := by
      rw [Int.fract, Int.fract, heq]
      linarith
    unfold roundHalfEven
    rw [heq]
    split_ifs <;> first | omega | (exfalso; linarith)

/-- Where rounding does not take anything away. -/
theorem le_roundHalfEven_iff (x : K) :
    x ≤ roundHalfEven x ↔
      Int.fract x = 0 ∨ 1 / 2 < Int.fract x ∨ (Int.fract x = 1 / 2 ∧ ¬Even ⌊x⌋) := by
  have hx := Int.floor_add_fract x
  have h0 := Int.fract_nonneg x
  have h1 := Int.fract_lt_one x
  unfold roundHalfEven
  split_ifs with hlow hhigh heven
  · refine ⟨fun h => .inl (by linarith), ?_⟩
    rintro (h | h | ⟨h, -⟩) <;> linarith
  · refine ⟨fun _ => .inr (.inl hhigh), fun _ => ?_⟩
    push_cast
    linarith
  · refine ⟨fun h => .inl (by linarith), ?_⟩
    rintro (h | h | ⟨-, h⟩)
    · linarith
    · exact absurd h hhigh
    · exact absurd heven h
  · refine ⟨fun _ => .inr (.inr ⟨by linarith, heven⟩), fun _ => ?_⟩
    push_cast
    linarith

theorem le_roundHalfEven_of_even {n : ℤ} (hn : Even n) {x : K} (h : (n : K) - 1 / 2 ≤ x) :
    n ≤ roundHalfEven x := by
  by_contra hlt
  have hle : roundHalfEven x ≤ n - 1 := by omega
  have hcast : (roundHalfEven x : K) ≤ n - 1 := by exact_mod_cast hle
  have hx : x = n - 1 / 2 := by linarith [sub_half_le_roundHalfEven x]
  -- the midpoint itself: its floor is the odd `n - 1`, so it is not kept
  have hfloor : ⌊x⌋ = n - 1 := by
    rw [Int.floor_eq_iff]
    push_cast
    constructor <;> linarith
  have hfract : Int.fract x = 1 / 2 := by
    rw [Int.fract, hfloor]
    push_cast
    linarith
  have hodd : ¬Even (n - 1) := by
    rw [Int.not_even_iff_odd]
    exact hn.sub_odd odd_one
  have hr : roundHalfEven x = n - 1 + 1 := by
    simp [roundHalfEven, hfloor, hfract, hodd]
  omega

theorem roundHalfEven_intCast (n : ℤ) : roundHalfEven (n : K) = n := by
  simp [roundHalfEven]

/-- A number with no more digits is not changed. -/
theorem roundTo_of_intCast {digits : ℕ} {x : K} {n : ℤ} (h : x * 10 ^ digits = n) :
    roundTo digits x = x := by
  have hp : (0 : K) < 10 ^ digits := by positivity
  rw [roundTo, h, roundHalfEven_intCast, ← h, mul_div_cancel_right₀ _ hp.ne']

theorem roundTo_roundTo (digits : ℕ) (x : K) : roundTo digits (roundTo digits x) = roundTo digits x :=
  roundTo_of_intCast (n := roundHalfEven (x * 10 ^ digits)) <| by
    rw [roundTo, div_mul_cancel₀ _ (by positivity)]

theorem roundTo_mono (digits : ℕ) {x y : K} (h : x ≤ y) : roundTo digits x ≤ roundTo digits y := by
  have hp : (0 : K) < 10 ^ digits := by positivity
  have hle : roundHalfEven (x * 10 ^ digits) ≤ roundHalfEven (y * 10 ^ digits) :=
    roundHalfEven_mono (mul_le_mul_of_nonneg_right h hp.le)
  exact div_le_div_of_nonneg_right (by exact_mod_cast hle) hp.le

/-- A bound with no more digits survives rounding. -/
theorem le_roundTo_of_le {digits : ℕ} {t x : K} (ht : roundTo digits t = t) (h : t ≤ x) :
    t ≤ roundTo digits x := ht ▸ roundTo_mono digits h

theorem roundTo_le_of_le {digits : ℕ} {t x : K} (ht : roundTo digits t = t) (h : x ≤ t) :
    roundTo digits x ≤ t := by
  rw [← ht]
  exact roundTo_mono digits h

theorem le_roundTo_mean {digits : ℕ} {t : K} {xs : List K} (ht : roundTo digits t = t)
    (hne : xs ≠ []) (h : ∀ x ∈ xs, t ≤ x) : t ≤ roundTo digits (xs.sum / xs.length) := by
  have hlen : (0 : K) < xs.length := by exact_mod_cast List.length_pos_iff.mpr hne
  have hsum := List.card_nsmul_le_sum xs t h
  rw [nsmul_eq_mul, mul_comm] at hsum
  exact le_roundTo_of_le ht ((le_div_iff₀ hlen).mpr hsum)

theorem roundTo_mean_le {digits : ℕ} {t : K} {xs : List K} (ht : roundTo digits t = t)
    (hne : xs ≠ []) (h : ∀ x ∈ xs, x ≤ t) : roundTo digits (xs.sum / xs.length) ≤ t := by
  have hlen : (0 : K) < xs.length := by exact_mod_cast List.length_pos_iff.mpr hne
  have hsum := List.sum_le_card_nsmul xs t h
  rw [nsmul_eq_mul, mul_comm] at hsum
  exact roundTo_le_of_le ht ((div_le_iff₀ hlen).mpr hsum)

@[simp] theorem roundTo_zero (digits : ℕ) : roundTo digits (0 : K) = 0 := by
  simp [roundTo, roundHalfEven]

theorem le_roundTo (digits : ℕ) (x : K) : x - 1 / 2 / 10 ^ digits ≤ roundTo digits x := by
  have hp : (0 : K) < 10 ^ digits := by positivity
  rw [roundTo, le_div_iff₀ hp, sub_mul, div_mul_cancel₀ _ hp.ne']
  exact sub_half_le_roundHalfEven _

theorem le_sum_roundTo (digits : ℕ) (xs : List K) :
    xs.sum - xs.length * (1 / 2 / 10 ^ digits) ≤ (xs.map (roundTo digits)).sum := by
  induction xs with
  | nil => simp
  | cons x xs ih =>
    have h := le_roundTo digits x
    simp only [List.sum_cons, List.length_cons, List.map_cons]
    push_cast
    linarith

/-- A bound with an even last digit survives an error of half a digit. -/
theorem le_roundTo_of_even {digits : ℕ} {t x : K} {n : ℤ} (hn : Even n) (ht : t * 10 ^ digits = n)
    (h : t - 1 / 2 / 10 ^ digits ≤ x) : t ≤ roundTo digits x := by
  have hp : (0 : K) < 10 ^ digits := by positivity
  have hx : (n : K) - 1 / 2 ≤ x * 10 ^ digits := by
    have := mul_le_mul_of_nonneg_right h hp.le
    rwa [sub_mul, ht, div_mul_cancel₀ _ hp.ne'] at this
  have hle : (n : K) ≤ roundHalfEven (x * 10 ^ digits) := by
    exact_mod_cast le_roundHalfEven_of_even hn hx
  rw [roundTo, le_div_iff₀ hp, ht]
  exact hle

omit [IsStrictOrderedRing K] in
theorem truncate_of_nonneg {x : K} (h : 0 ≤ x) : truncate x = ⌊x⌋ := if_pos h

theorem truncate_bounds {x : K} (h : 0 < truncate x) : x - 1 < truncate x ∧ truncate x ≤ x := by
  have hx : 0 ≤ x := by
    by_contra hneg
    rw [truncate, if_neg hneg] at h
    exact hneg (Int.ceil_pos.mp h).le
  rw [truncate_of_nonneg hx]
  exact ⟨Int.sub_one_lt_floor x, Int.floor_le x⟩

omit [IsStrictOrderedRing K] in
theorem truncate_pos {x : K} (h : 1 ≤ x) : 0 < truncate x := by
  rw [truncate_of_nonneg (zero_le_one.trans h)]
  exact Int.floor_pos.mpr h

end CloudMonitor
