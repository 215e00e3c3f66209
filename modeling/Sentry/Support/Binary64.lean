import Mathlib.Algebra.Order.Field.Power
import Mathlib.Data.Rat.Lemmas
import Mathlib.Tactic.Linarith
import Mathlib.Tactic.NormNum
import Mathlib.Tactic.Ring

/-!
# Doubles as rational numbers

The double-precision numbers that are finite stand for rational numbers, and the comparisons of
two of them are those of the rationals. A NaN compares with nothing.
-/
namespace Support

namespace Binary64

open Float.Model

/-- The rational number of an unpacked double, unless it is infinite or no number. -/
def rational? : UnpackedFloat → Option ℚ
  | .zero _ => some 0
  | .finite sign mantissa exponent _ => some (sign.apply mantissa * 2 ^ exponent)
  | _ => none

/-- The rational number a double is. -/
def value? (x : Float) : Option ℚ := rational? x.toModel.unpack

theorem apply_positive (m : ℕ) : ((UnpackedFloat.Sign.positive.apply (m : ℤ) : ℤ) : ℚ) = m :=
  Int.cast_natCast m

theorem apply_negative (m : ℕ) : ((UnpackedFloat.Sign.negative.apply (m : ℤ) : ℤ) : ℚ) = -m :=
  Int.cast_neg_natCast m

/-- How a double holds a mantissa: with all its bits, unless the exponent is the least. -/
structure Canonical (mantissa : ℕ) (exponent : ℤ) : Prop where
  bounded : mantissa < 2 ^ 53
  least : -1074 ≤ exponent
  full : exponent ≠ -1074 → 2 ^ 52 ≤ mantissa

/-- An unpacked double with a canonical mantissa. -/
def IsCanonical : UnpackedFloat → Prop
  | .finite _ mantissa exponent _ => Canonical mantissa exponent
  | _ => True

theorem isCanonical_ite {c : Prop} [Decidable c] {a b : UnpackedFloat} (yes : c → IsCanonical a)
    (no : ¬c → IsCanonical b) : IsCanonical (if c then a else b) := by
  by_cases holds : c
  · rw [if_pos holds]
    exact yes holds
  · rw [if_neg holds]
    exact no holds

theorem isCanonical_dite {c : Prop} [Decidable c] {a : c → UnpackedFloat} {b : ¬c → UnpackedFloat}
    (yes : ∀ holds, IsCanonical (a holds)) (no : ∀ fails, IsCanonical (b fails)) :
    IsCanonical (if holds : c then a holds else b holds) := by
  by_cases holds : c
  · rw [dif_pos holds]
    exact yes holds
  · rw [dif_neg holds]
    exact no holds

theorem unpack_canonical (x : Float) : IsCanonical x.toModel.unpack := by
  refine isCanonical_ite (fun _ => isCanonical_ite (fun _ => trivial) fun _ => trivial) fun _ => ?_
  refine isCanonical_ite (fun subnormal => ?_) fun normal => ?_
  · refine isCanonical_dite (fun _ => trivial) fun _ => ?_
    refine ⟨lt_of_lt_of_le (BitVec.isLt _) (by norm_num), ?_, fun other => ?_⟩
    · simp [subnormal, Format.exponentBias]
    · simp [subnormal, Format.exponentBias] at other
  · have positive : 0 < (@UnpackedFloat.unpackExponent Format.binary64
        x.toModel.toBits.toBitVec).toNat := by
      rw [Nat.pos_iff_ne_zero]
      intro zero
      exact normal (BitVec.eq_of_toNat_eq (by simpa using zero))
    refine ⟨lt_of_lt_of_le (BitVec.isLt _) (by norm_num), ?_, fun _ => ?_⟩
    · simp only [Format.exponentBias]
      omega
    · rw [BitVec.toNat_append]
      simp [Nat.left_le_or]

/-! ### Comparing -/

section Compare

variable {m n : ℕ} {d e : ℤ}

/-- Of two canonical doubles the one of the greater exponent is the greater. -/
theorem Canonical.lt_of_exponent (first : Canonical m d) (second : Canonical n e) (less : d < e) :
    (m : ℚ) * 2 ^ d < n * 2 ^ e := by
  have full : (2 : ℚ) ^ 52 ≤ n := by
    have above : e ≠ -1074 := by have := first.least; omega
    exact_mod_cast second.full above
  have bounded : (m : ℚ) < 2 ^ 53 := by exact_mod_cast first.bounded
  have powers : (2 : ℚ) ^ (d + 1) ≤ 2 ^ e := zpow_le_zpow_right₀ (by norm_num) (by omega)
  calc (m : ℚ) * 2 ^ d < 2 ^ 53 * 2 ^ d := by gcongr
    _ = 2 ^ 52 * 2 ^ (d + 1) := by rw [zpow_add_one₀ (by norm_num)]; ring
    _ ≤ n * 2 ^ e := by gcongr

theorem compare_self {α : Type} [LinearOrder α] (x : α) : compare x x = .eq :=
  compare_eq_iff_eq.mpr rfl

theorem Canonical.compare_eq (first : Canonical m d) (second : Canonical n e) :
    (compare d e).then (compare m n) = compare ((m : ℚ) * 2 ^ d) (n * 2 ^ e) := by
  rcases lt_trichotomy d e with less | rfl | greater
  · rw [compare_lt_iff_lt.mpr less, compare_lt_iff_lt.mpr (first.lt_of_exponent second less)]
    rfl
  · have positive : (0 : ℚ) < 2 ^ d := zpow_pos (by norm_num) d
    rw [compare_self d, Ordering.eq_then]
    rcases lt_trichotomy m n with less | rfl | greater
    · rw [compare_lt_iff_lt.mpr (mul_lt_mul_of_pos_right (by exact_mod_cast less) positive)]
      exact compare_lt_iff_lt.mpr less
    · rw [compare_self m, compare_self]
    · rw [compare_gt_iff_gt.mpr (mul_lt_mul_of_pos_right (by exact_mod_cast greater) positive)]
      exact compare_gt_iff_gt.mpr greater
  · rw [compare_gt_iff_gt.mpr greater, compare_gt_iff_gt.mpr (second.lt_of_exponent first greater)]
    rfl

theorem compare_neg_neg (p q : ℚ) : compare (-p) (-q) = (compare p q).swap := by
  rcases lt_trichotomy p q with less | rfl | greater
  · rw [compare_lt_iff_lt.mpr less, compare_gt_iff_gt.mpr (neg_lt_neg less)]
    rfl
  · rw [compare_self, compare_self]
    rfl
  · rw [compare_gt_iff_gt.mpr greater, compare_lt_iff_lt.mpr (neg_lt_neg greater)]
    rfl

/-- The order of two unpacked doubles is that of their numbers. -/
theorem compare_eq {a b : UnpackedFloat} {p q : ℚ} (first : IsCanonical a) (second : IsCanonical b)
    (left : rational? a = some p) (right : rational? b = some q) :
    a.compare b = some (compare p q) := by
  have positive : ∀ {m : ℕ} (e : ℤ), 0 < m → (0 : ℚ) < m * 2 ^ e := fun e pos =>
    mul_pos (by exact_mod_cast pos) (zpow_pos (by norm_num) e)
  have negative : ∀ {m : ℕ} (e : ℤ), 0 < m → -(m : ℚ) * 2 ^ e < 0 := fun e pos => by
    rw [neg_mul]
    exact neg_neg_of_pos (positive e pos)
  cases a with
  | infinity | notANumber => cases left
  | zero s =>
    obtain rfl : (0 : ℚ) = p := Option.some.inj left
    cases b with
    | infinity | notANumber => cases right
    | zero t =>
      obtain rfl : (0 : ℚ) = q := Option.some.inj right
      exact congrArg some (compare_self (0 : ℚ)).symm
    | finite t n e npos =>
      obtain rfl := Option.some.inj right
      cases t with
      | positive =>
        rw [apply_positive, compare_lt_iff_lt.mpr (positive e npos)]
        rfl
      | negative =>
        rw [apply_negative, compare_gt_iff_gt.mpr (negative e npos)]
        rfl
  | finite s m d mpos =>
    obtain rfl := Option.some.inj left
    cases b with
    | infinity | notANumber => cases right
    | zero t =>
      obtain rfl : (0 : ℚ) = q := Option.some.inj right
      cases s with
      | positive =>
        rw [apply_positive, compare_gt_iff_gt.mpr (positive d mpos)]
        rfl
      | negative =>
        rw [apply_negative, compare_lt_iff_lt.mpr (negative d mpos)]
        rfl
    | finite t n e npos =>
      obtain rfl := Option.some.inj right
      have ordered := Canonical.compare_eq first second
      cases s with
      | positive =>
        cases t with
        | positive =>
          rw [apply_positive, apply_positive, ← ordered]
          rfl
        | negative =>
          rw [apply_positive, apply_negative,
            compare_gt_iff_gt.mpr ((negative e npos).trans (positive d mpos))]
          rfl
      | negative =>
        cases t with
        | positive =>
          rw [apply_negative, apply_positive,
            compare_lt_iff_lt.mpr ((negative d mpos).trans (positive e npos))]
          rfl
        | negative =>
          rw [apply_negative, apply_negative, neg_mul, neg_mul, compare_neg_neg, ← ordered]
          rfl

end Compare

variable {x y : Float} {p q : ℚ}

theorem lt_unpack : x < y ↔ x.toModel.unpack.compare y.toModel.unpack = some .lt := by
  change decide (x.toModel < y.toModel) = true ↔ _
  rw [decide_eq_true_iff]
  change (x.toModel.unpack.compare y.toModel.unpack == some .lt) = true ↔ _
  rw [beq_iff_eq]

theorem le_unpack :
    x ≤ y ↔ (x.toModel.unpack.compare y.toModel.unpack).any (·.isLE) = true := by
  change decide (x.toModel ≤ y.toModel) = true ↔ _
  rw [decide_eq_true_iff]
  rfl

/-- Nothing is below itself, a NaN included. -/
theorem lt_irrefl (x : Float) : ¬ x < x := by
  rw [lt_unpack]
  cases x.toModel.unpack with
  | infinity s => cases s <;> decide
  | notANumber | zero => nofun
  | finite s m e positive =>
    have self : (compare e e).then (compare m m) ≠ .lt := by simp
    cases s with
    | positive => exact fun below => self (Option.some.inj below)
    | negative =>
      intro below
      have swapped : ((compare e e).then (compare m m)).swap = .lt := Option.some.inj below
      simp at swapped

theorem lt_iff (left : value? x = some p) (right : value? y = some q) : x < y ↔ p < q := by
  have ordered := compare_eq (unpack_canonical x) (unpack_canonical y) left right
  rw [lt_unpack, ordered, Option.some.injEq, compare_lt_iff_lt]

theorem le_iff (left : value? x = some p) (right : value? y = some q) : x ≤ y ↔ p ≤ q := by
  have ordered := compare_eq (unpack_canonical x) (unpack_canonical y) left right
  rw [le_unpack, ordered, Option.any_some, Ordering.isLE_iff_ne_gt]
  exact (not_congr compare_gt_iff_gt).trans not_lt

end Binary64

end Support
