import Mathlib.Algebra.Order.Round
import Mathlib.Tactic.Linarith
import Mathlib.Tactic.NormNum
import Mathlib.Tactic.Positivity
import Mathlib.Tactic.Ring
import Sentry.Support.Decimal

/-!
# What rounding keeps

Rounding to an integer with ties to even is the only choice of a nearest integer that is
even where there are two. From that it keeps order, signs and integers, and so does keeping
a number of significant digits. A context is `Faithful` where its rounding has these
properties: what follows from them holds of exact arithmetic and of every number of digits.
-/
namespace Support
namespace Decimal

/-! ### To an integer -/

variable {q r : ℚ} {n : ℤ}

theorem abs_sub_roundHalfEven_le (q : ℚ) : |q - roundHalfEven q| ≤ 1 / 2 := by
  have low := Int.floor_le q
  have high := Int.lt_floor_add_one q
  unfold roundHalfEven
  dsimp only
  rw [abs_le]
  split
  · constructor <;> linarith
  · split
    · push_cast
      constructor <;> linarith
    · split
      · constructor <;> linarith
      · push_cast
        constructor <;> linarith

theorem roundHalfEven_even (tie : |q - roundHalfEven q| = 1 / 2) : roundHalfEven q % 2 = 0 := by
  have low := Int.floor_le q
  have high := Int.lt_floor_add_one q
  unfold roundHalfEven at tie ⊢
  dsimp only at tie ⊢
  split at tie
  next below =>
    rw [abs_of_nonneg (by linarith)] at tie
    linarith
  next atLeast =>
    split at tie
    next above =>
      push_cast at tie
      rw [abs_of_nonpos (by linarith)] at tie
      linarith
    next atMost =>
      rw [if_neg atLeast, if_neg atMost]
      split <;> omega

/-- The nearest integer, the even one of two, is what a number is rounded to. -/
theorem roundHalfEven_eq (near : |q - n| ≤ 1 / 2) (even : |q - n| = 1 / 2 → n % 2 = 0) :
    roundHalfEven q = n := by
  have close := abs_sub_roundHalfEven_le q
  have own := roundHalfEven_even (q := q)
  generalize roundHalfEven q = m at close own
  by_contra other
  rw [abs_le] at near close
  -- two nearest integers are a tie, so both are even, but they are neighbours
  have apart : m = n + 1 ∨ n = m + 1 := by
    have above : (m : ℚ) < n + 2 := by linarith
    have below : (n : ℚ) < m + 2 := by linarith
    have above' : m < n + 2 := by exact_mod_cast above
    have below' : n < m + 2 := by exact_mod_cast below
    omega
  rcases apart with rfl | rfl
  · push_cast at close own
    have tie : q - n = 1 / 2 := by linarith
    have first := own (by rw [show q - (n + 1) = -(1 / 2) by linarith]; norm_num)
    have second := even (by rw [tie]; norm_num)
    omega
  · push_cast at near even
    have tie : q - m = 1 / 2 := by linarith
    have first := own (by rw [tie]; norm_num)
    have second := even (by rw [show q - (m + 1) = -(1 / 2) by linarith]; norm_num)
    omega

@[simp] theorem roundHalfEven_intCast (n : ℤ) : roundHalfEven (n : ℚ) = n := by
  apply roundHalfEven_eq
  · simp
  · simp

@[simp] theorem roundHalfEven_zero : roundHalfEven 0 = 0 := roundHalfEven_intCast 0

theorem roundHalfEven_neg (q : ℚ) : roundHalfEven (-q) = -roundHalfEven q := by
  have mirrored : -q - ((-roundHalfEven q : ℤ) : ℚ) = -(q - roundHalfEven q) := by
    push_cast
    ring
  apply roundHalfEven_eq
  · rw [mirrored, abs_neg]
    exact abs_sub_roundHalfEven_le q
  · rw [mirrored, abs_neg]
    intro tie
    have even := roundHalfEven_even tie
    omega

theorem roundHalfEven_mono (le : q ≤ r) : roundHalfEven q ≤ roundHalfEven r := by
  have left := abs_le.mp (abs_sub_roundHalfEven_le q)
  have right := abs_le.mp (abs_sub_roundHalfEven_le r)
  by_contra less
  have further : roundHalfEven r + 1 ≤ roundHalfEven q := by omega
  have further' : (roundHalfEven r : ℚ) + 1 ≤ roundHalfEven q := by exact_mod_cast further
  -- only a tie could be rounded to both, and a number is rounded to one integer
  have same : q = r := by linarith
  rw [same] at less
  exact less le_rfl

/-! ### To significant digits -/

section Significant

variable {p : ℕ}

/-- The place of the last digit that is kept. -/
def lastPlace (p : ℕ) (q : ℚ) : ℚ := (10 : ℚ) ^ (Int.log 10 |q| - p + 1)

theorem significant_eq (p : ℕ) (q : ℚ) :
    significant p q = roundHalfEven (q / lastPlace p q) * lastPlace p q := rfl

theorem lastPlace_pos : 0 < lastPlace p q := zpow_pos (by norm_num) _

@[simp] theorem significant_zero (p : ℕ) : significant p 0 = 0 := by
  rw [significant_eq, zero_div, roundHalfEven_zero]
  simp

theorem significant_neg (p : ℕ) (q : ℚ) : significant p (-q) = -significant p q := by
  have same : lastPlace p (-q) = lastPlace p q := by rw [lastPlace, lastPlace, abs_neg]
  rw [significant_eq, significant_eq, same, neg_div, roundHalfEven_neg]
  push_cast
  ring

/-- The decade of a positive number, in units of the last place. -/
theorem decade (digits : 1 ≤ p) (positive : 0 < q) :
    ((10 ^ (p - 1) : ℤ) : ℚ) ≤ q / lastPlace p q ∧ q / lastPlace p q < ((10 ^ p : ℤ) : ℚ) := by
  have low := Int.zpow_log_le_self (b := 10) (by norm_num) positive
  have high := Int.lt_zpow_succ_log_self (b := 10) (by norm_num) q
  have place : lastPlace p q = (10 : ℚ) ^ (Int.log 10 q - p + 1) := by
    rw [lastPlace, abs_of_pos positive]
  have unit := lastPlace_pos (p := p) (q := q)
  have first : ((10 ^ (p - 1) : ℤ) : ℚ) = (10 : ℚ) ^ ((p : ℤ) - 1) := by
    push_cast
    rw [← zpow_natCast, Nat.cast_sub digits, Nat.cast_one]
  have last : ((10 ^ p : ℤ) : ℚ) = (10 : ℚ) ^ (p : ℤ) := by
    push_cast
    rw [← zpow_natCast]
  constructor
  · rw [le_div_iff₀ unit, first, place, ← zpow_add₀ (by norm_num)]
    convert low using 2
    · norm_num
    · ring
  · rw [div_lt_iff₀ unit, last, place, ← zpow_add₀ (by norm_num)]
    convert high using 2
    · norm_num
    · ring

/-- A positive number stays in its decade. -/
theorem significant_bounds (digits : 1 ≤ p) (positive : 0 < q) :
    (10 : ℚ) ^ Int.log 10 q ≤ significant p q ∧
      significant p q ≤ (10 : ℚ) ^ (Int.log 10 q + 1) := by
  obtain ⟨low, high⟩ := decade digits positive
  have unit := lastPlace_pos (p := p) (q := q)
  have below := roundHalfEven_mono low
  have above := roundHalfEven_mono high.le
  rw [roundHalfEven_intCast] at below above
  have place : lastPlace p q = (10 : ℚ) ^ (Int.log 10 q - p + 1) := by
    rw [lastPlace, abs_of_pos positive]
  have below' : ((10 ^ (p - 1) : ℤ) : ℚ) ≤ roundHalfEven (q / lastPlace p q) := by
    exact_mod_cast below
  have above' : (roundHalfEven (q / lastPlace p q) : ℚ) ≤ ((10 ^ p : ℤ) : ℚ) := by
    exact_mod_cast above
  rw [significant_eq]
  constructor
  · calc (10 : ℚ) ^ Int.log 10 q = ((10 ^ (p - 1) : ℤ) : ℚ) * lastPlace p q := by
          push_cast
          rw [place, ← zpow_natCast, Nat.cast_sub digits, ← zpow_add₀ (by norm_num)]
          congr 1
          push_cast
          ring
      _ ≤ _ := by gcongr
  · calc (roundHalfEven (q / lastPlace p q) : ℚ) * lastPlace p q
          ≤ ((10 ^ p : ℤ) : ℚ) * lastPlace p q := by gcongr
      _ = (10 : ℚ) ^ (Int.log 10 q + 1) := by
          push_cast
          rw [place, ← zpow_natCast, ← zpow_add₀ (by norm_num)]
          congr 1
          ring

theorem significant_pos (digits : 1 ≤ p) (positive : 0 < q) : 0 < significant p q :=
  lt_of_lt_of_le (zpow_pos (by norm_num) _) (significant_bounds digits positive).1

/-- Among positive numbers: within a decade the units agree, between decades the bounds do. -/
theorem significant_le_of_pos (digits : 1 ≤ p) (positive : 0 < q) (le : q ≤ r) :
    significant p q ≤ significant p r := by
  have positive' := lt_of_lt_of_le positive le
  rcases (Int.log_mono_right (b := 10) positive le).eq_or_lt with same | less
  · have place : lastPlace p q = lastPlace p r := by
      rw [lastPlace, lastPlace, abs_of_pos positive, abs_of_pos positive', same]
    have unit := lastPlace_pos (p := p) (q := r)
    rw [significant_eq, significant_eq, place]
    have steps : roundHalfEven (q / lastPlace p r) ≤ roundHalfEven (r / lastPlace p r) :=
      roundHalfEven_mono (by gcongr)
    gcongr
  · calc significant p q ≤ (10 : ℚ) ^ (Int.log 10 q + 1) := (significant_bounds digits positive).2
      _ ≤ (10 : ℚ) ^ Int.log 10 r := zpow_le_zpow_right₀ (by norm_num) less
      _ ≤ significant p r := (significant_bounds digits positive').1

theorem significant_mono (digits : 1 ≤ p) : Monotone (significant p) := by
  intro q r le
  rcases lt_trichotomy q 0 with negative | rfl | positive
  · rcases lt_trichotomy r 0 with below | rfl | above
    · -- both are negative
      have mirrored := significant_le_of_pos digits (neg_pos.mpr below) (neg_le_neg le)
      rw [significant_neg, significant_neg] at mirrored
      exact neg_le_neg_iff.mp mirrored
    · have sign := significant_pos digits (neg_pos.mpr negative)
      rw [significant_neg] at sign
      rw [significant_zero]
      linarith
    · have sign := significant_pos digits (neg_pos.mpr negative)
      rw [significant_neg] at sign
      exact le_trans (by linarith) (significant_pos digits above).le
  · rcases le.eq_or_lt with rfl | above
    · exact le_rfl
    · rw [significant_zero]
      exact (significant_pos digits above).le
  · exact significant_le_of_pos digits positive le

/-- At least half of a positive number is left of it. -/
theorem half_le_significant (digits : 1 ≤ p) (nonneg : 0 ≤ q) : q / 2 ≤ significant p q := by
  rcases nonneg.eq_or_lt with rfl | positive
  · simp
  have unit := lastPlace_pos (p := p) (q := q)
  have close := abs_le.mp (abs_sub_roundHalfEven_le (q / lastPlace p q))
  have low := (decade digits positive).1
  have one : (1 : ℚ) ≤ ((10 ^ (p - 1) : ℤ) : ℚ) := by
    exact_mod_cast one_le_pow₀ (by norm_num : (1 : ℤ) ≤ 10)
  have kept : q / lastPlace p q / 2 ≤ roundHalfEven (q / lastPlace p q) := by linarith
  calc q / 2 = q / lastPlace p q / 2 * lastPlace p q := by field_simp
    _ ≤ _ := by
      rw [significant_eq]
      gcongr

/-- An integer of no more digits is kept. -/
theorem significant_natCast {n : ℕ} (small : n < 10 ^ p) : significant p n = n := by
  rcases Nat.eq_zero_or_pos n with rfl | positive
  · simp
  have exponent : Int.log 10 (n : ℚ) = Nat.log 10 n := Int.log_natCast 10 n
  have digits : Nat.log 10 n < p := Nat.log_lt_of_lt_pow positive.ne' small
  have place : lastPlace p (n : ℚ) = ((10 ^ (p - 1 - Nat.log 10 n) : ℕ) : ℚ)⁻¹ := by
    rw [lastPlace, abs_of_nonneg (by positivity), exponent]
    push_cast
    rw [← zpow_natCast, ← zpow_neg]
    congr 1
    omega
  rw [significant_eq, place, div_inv_eq_mul]
  have whole : (n : ℚ) * ((10 ^ (p - 1 - Nat.log 10 n) : ℕ) : ℚ) =
      ((n * 10 ^ (p - 1 - Nat.log 10 n) : ℤ) : ℚ) := by
    push_cast
    ring
  rw [whole, roundHalfEven_intCast]
  push_cast
  field_simp

/-- Rounding does not lower the exponent of the first digit. -/
theorem zpow_le_significant (digits : 1 ≤ p) {k : ℤ} (le : (10 : ℚ) ^ k ≤ q) :
    (10 : ℚ) ^ k ≤ significant p q := by
  have positive : 0 < q := lt_of_lt_of_le (zpow_pos (by norm_num) k) le
  have exponent : k ≤ Int.log 10 q := (Int.zpow_le_iff_le_log (by norm_num) positive).mp le
  calc (10 : ℚ) ^ k ≤ 10 ^ Int.log 10 q := zpow_le_zpow_right₀ (by norm_num) exponent
    _ ≤ significant p q := (significant_bounds digits positive).1

end Significant

/-! ### Faithful contexts -/

namespace Context

/-- What is too large for the context overflows it. -/
theorem halfEven_overflows {p : ℕ} {q : ℚ} (digits : 1 ≤ p) (large : (10 : ℚ) ^ (1000000 : ℤ) ≤ q) :
    (halfEven p).fits ((halfEven p).round q) = false := by
  have rounded : (10 : ℚ) ^ (1000000 : ℤ) ≤ significant p q := zpow_le_significant digits large
  have positive : 0 < significant p q := lt_of_lt_of_le (zpow_pos (by norm_num) _) rounded
  have exponent : 1000000 ≤ Int.log 10 (significant p q) :=
    (Int.zpow_le_iff_le_log (by norm_num) positive).mp rounded
  simp only [halfEven, abs_of_pos positive, decide_eq_false_iff_not, not_le]
  omega

/-- What one unit costs at such a price overflows. -/
theorem halfEven_cost_overflows {p : ℕ} {price multiplier : ℚ} (digits : 1 ≤ p)
    (large : (10 : ℚ) ^ (999999 : ℤ) ≤ price) (ten : 10 ≤ multiplier) :
    (halfEven p).fits ((halfEven p).mul ((halfEven p).mul price (1 : ℤ)) multiplier) = false := by
  have single : (10 : ℚ) ^ (999999 : ℤ) ≤ (halfEven p).mul price (1 : ℤ) :=
    zpow_le_significant digits (by simpa using large)
  have nonneg : (0 : ℚ) ≤ 10 ^ (999999 : ℤ) := zpow_nonneg (by norm_num) _
  apply halfEven_overflows digits
  calc (10 : ℚ) ^ (1000000 : ℤ) = 10 ^ (999999 : ℤ) * 10 := zpow_add_one₀ (by norm_num) 999999
    _ ≤ (halfEven p).mul price (1 : ℤ) * multiplier :=
      mul_le_mul single ten (by norm_num) (nonneg.trans single)

/-- Order, whole numbers below `bound` and half of what is positive are kept. -/
structure Faithful (bound : ℕ) (c : Context) : Prop where
  monotone : Monotone c.round
  natCast : ∀ n : ℕ, n < bound → c.round n = n
  half_le : ∀ q, 0 ≤ q → q / 2 ≤ c.round q

theorem faithful_exact (bound : ℕ) : exact.Faithful bound where
  monotone := monotone_id
  natCast _ _ := rfl
  half_le q nonneg := by
    change q / 2 ≤ q
    linarith

theorem faithful_halfEven {precision : ℕ} (digits : 1 ≤ precision) :
    (halfEven precision).Faithful (10 ^ precision) where
  monotone := significant_mono digits
  natCast _ small := significant_natCast small
  half_le _ nonneg := half_le_significant digits nonneg

namespace Faithful

variable {c : Context} {bound : ℕ} {x y x' y' : ℚ} (faithful : c.Faithful bound)
include faithful

theorem mono {fewer : ℕ} (less : fewer ≤ bound) : c.Faithful fewer where
  monotone := faithful.monotone
  natCast n small := faithful.natCast n (lt_of_lt_of_le small less)
  half_le := faithful.half_le

theorem nonneg (sign : 0 ≤ x) : 0 ≤ c.round x :=
  le_trans (by linarith) (faithful.half_le x sign)

theorem pos (sign : 0 < x) : 0 < c.round x :=
  lt_of_lt_of_le (by linarith) (faithful.half_le x sign.le)

theorem mul_sign (left : 0 ≤ x) (right : 0 ≤ y) : 0 ≤ c.mul x y :=
  faithful.nonneg (mul_nonneg left right)

theorem div_sign (left : 0 ≤ x) (right : 0 ≤ y) : 0 ≤ c.div x y :=
  faithful.nonneg (div_nonneg left right)

end Faithful

end Context
end Decimal
end Support
