import Mathlib.Algebra.Order.Floor.Ring
import Mathlib.Data.Int.Log
import Mathlib.Data.Rat.Floor

/-!
# Decimal numbers and decimal contexts

`Decimal` is a number together with the digits it was written with, which is
what its text shows; two decimals with one value may print differently. A
`Context` fixes how the result of each arithmetic operation is rounded, and which
results it has room for. Values are rationals, so `Context.exact` is ordinary rational
arithmetic and `Context.halfEven p` keeps `p` significant digits, ties to even.
-/
namespace Support

/-- `coefficient * 10 ^ exponent`, with the exponent it was written with. -/
structure Decimal where
  coefficient : ℤ
  exponent : ℤ
  deriving DecidableEq, Repr

namespace Decimal

def val (d : Decimal) : ℚ := d.coefficient * (10 : ℚ) ^ d.exponent

/-- The text of a decimal: plain digits while the exponent is at most zero and
the first digit is within six places of the point, else scientific. -/
def str (d : Decimal) : String :=
  let sign := if d.coefficient < 0 then ['-'] else []
  let digits := (toString d.coefficient.natAbs).toList
  let left : ℤ := d.exponent + digits.length
  let text :=
    if d.exponent ≤ 0 ∧ -6 < left then
      if left ≤ 0 then ['0', '.'] ++ List.replicate (-left).toNat '0' ++ digits
      else if d.exponent = 0 then digits
      else digits.take left.toNat ++ ['.'] ++ digits.drop left.toNat
    else
      let body := if digits.length = 1 then digits else digits.take 1 ++ ['.'] ++ digits.drop 1
      let mark := if 1 ≤ left then ['E', '+'] else ['E']
      body ++ mark ++ (toString (left - 1)).toList
  String.ofList (sign ++ text)

/-- How the exact result of an operation becomes a number of the context, and which of these
do not overflow it. -/
structure Context where
  round : ℚ → ℚ
  fits : ℚ → Bool := fun _ => true

/-- The nearest integer, ties to the even one. -/
def roundHalfEven (q : ℚ) : ℤ :=
  let low := ⌊q⌋
  let rest := q - low
  if rest < 1 / 2 then low
  else if 1 / 2 < rest then low + 1
  else if low % 2 = 0 then low else low + 1

/-- Keep `precision` significant digits. -/
def significant (precision : Nat) (q : ℚ) : ℚ :=
  let unit : ℚ := (10 : ℚ) ^ (Int.log 10 |q| - precision + 1)
  roundHalfEven (q / unit) * unit

/-- Keep `places` digits after the point, ties to even. -/
def quantize (places : Nat) (q : ℚ) : ℚ := roundHalfEven (q * 10 ^ places) / 10 ^ places

namespace Context

def exact : Context := { round := id }

/-- The exponent of the first digit is at most 999999. -/
def halfEven (precision : Nat) : Context where
  round := significant precision
  fits q := decide (Int.log 10 |q| ≤ 999999)

variable (c : Context)

/-- None of the results overflows. -/
def Fits (results : List ℚ) : Prop := ∀ q ∈ results, c.fits q = true

instance (results : List ℚ) : Decidable (c.Fits results) :=
  inferInstanceAs (Decidable (∀ q ∈ results, c.fits q = true))

theorem fits_append {first second : List ℚ} :
    c.Fits (first ++ second) ↔ c.Fits first ∧ c.Fits second := List.forall_mem_append

def add (x y : ℚ) : ℚ := c.round (x + y)
def sub (x y : ℚ) : ℚ := c.round (x - y)
def mul (x y : ℚ) : ℚ := c.round (x * y)
def div (x y : ℚ) : ℚ := c.round (x / y)

/-- Left-to-right sum starting at zero, rounding at every step. -/
def sum (xs : List ℚ) : ℚ := xs.foldl c.add 0

@[simp] theorem exact_add (x y : ℚ) : exact.add x y = x + y := rfl
@[simp] theorem exact_sub (x y : ℚ) : exact.sub x y = x - y := rfl
@[simp] theorem exact_mul (x y : ℚ) : exact.mul x y = x * y := rfl
@[simp] theorem exact_div (x y : ℚ) : exact.div x y = x / y := rfl

private theorem foldl_add (xs : List ℚ) (start : ℚ) :
    xs.foldl exact.add start = start + xs.sum := by
  induction xs generalizing start with
  | nil => simp
  | cons x xs ih => rw [List.foldl_cons, ih, exact_add, List.sum_cons, add_assoc]

@[simp] theorem exact_sum (xs : List ℚ) : exact.sum xs = xs.sum := by
  rw [sum, foldl_add, zero_add]

end Context

end Decimal

end Support
