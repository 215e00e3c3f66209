import Sentry.Support.Decimal

/-!
# Decimals with special values

A `Decimal` may also be an infinity or no number at all. An operation of the default
context that has no result, and a comparison with what is no number, signal
`InvalidOperation`; a result that is too large signals `Overflow`. Both signals are
exceptions there.
-/
namespace Support

inductive Number where
  | finite (value : ℚ)
  | infinite (negative : Bool)
  | nan
  deriving DecidableEq

inductive Signal where
  | invalidOperation
  | overflow
  deriving DecidableEq

namespace Number

variable (c : Decimal.Context)

/-- A rounded result, if the context has room for it. -/
def finish (value : ℚ) : Except Signal Number :=
  if c.fits value then .ok (.finite value) else .error .overflow

def neg : Number → Number
  | .finite a => .finite (-a)
  | .infinite negative => .infinite !negative
  | .nan => .nan

def add : Number → Number → Except Signal Number
  | .finite a, .finite b => finish c (c.add a b)
  | .nan, _ | _, .nan => .ok .nan
  | .infinite s, .infinite t => if s = t then .ok (.infinite s) else .error .invalidOperation
  | .infinite s, .finite _ | .finite _, .infinite s => .ok (.infinite s)

def sub : Number → Number → Except Signal Number
  | .finite a, .finite b => finish c (c.sub a b)
  | a, b => add c a b.neg

def mul : Number → Number → Except Signal Number
  | .finite a, .finite b => finish c (c.mul a b)
  | .nan, _ | _, .nan => .ok .nan
  | .infinite s, .infinite t => .ok (.infinite (s != t))
  | .infinite s, .finite a | .finite a, .infinite s =>
    if a = 0 then .error .invalidOperation else .ok (.infinite (s != decide (a < 0)))

/-- `number < 0`. -/
def isNegative : Number → Except Signal Bool
  | .finite a => .ok (decide (a < 0))
  | .infinite negative => .ok negative
  | .nan => .error .invalidOperation

/-- Left-to-right sum from a start, rounding at every step. -/
def sumFrom (start : Number) (xs : List Number) : Except Signal Number := xs.foldlM (add c) start

@[simp] theorem sumFrom_nil (start : Number) : sumFrom c start [] = .ok start := rfl

/-- A sum that comes to a result has added its first number, and the others to that. -/
theorem sumFrom_cons_ok {c : Decimal.Context} {start x total : Number} {xs : List Number} :
    sumFrom c start (x :: xs) = .ok total ↔
      ∃ next, add c start x = .ok next ∧ sumFrom c next xs = .ok total := by
  rw [sumFrom, List.foldlM_cons]
  cases add c start x <;> simp [bind, Except.bind, sumFrom]

/-! ### Contexts with room for every result -/

variable {c} (roomy : ∀ q, c.fits q = true)

include roomy

theorem add_finite (a b : ℚ) : add c (.finite a) (.finite b) = .ok (.finite (c.add a b)) :=
  if_pos (roomy _)

theorem sub_finite (a b : ℚ) : sub c (.finite a) (.finite b) = .ok (.finite (c.sub a b)) :=
  if_pos (roomy _)

theorem mul_finite (a b : ℚ) : mul c (.finite a) (.finite b) = .ok (.finite (c.mul a b)) :=
  if_pos (roomy _)

end Number

end Support
