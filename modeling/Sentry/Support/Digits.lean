import Mathlib.Algebra.Ring.Nat
import Mathlib.Tactic.Common

/-!
# Digits of a fixed width

Numbers as digits with leading zeros, and what is read back from them. Up to a base of sixteen
the digits are those that `Nat.toDigits` writes.
-/
namespace Support.Digits

/-- Leading zeros up to a width. -/
def padded (width : ℕ) (digits : List Char) : List Char :=
  List.replicate (width - digits.length) '0' ++ digits

/-- What a digit stands for. -/
def valueOf (c : Char) : ℕ := if c.isDigit then c.toNat - 48 else c.toNat - 87

def read (base : ℕ) (text : List Char) : ℕ := text.foldl (fun n c => n * base + valueOf c) 0

variable {base width n : ℕ} {digits : List Char}

theorem valueOf_digitChar {d : ℕ} (small : d < 16) : valueOf d.digitChar = d := by
  revert small
  revert d
  decide

theorem read_concat (text : List Char) (c : Char) :
    read base (text ++ [c]) = read base text * base + valueOf c := by
  simp [read]

theorem read_toDigits (large : 1 < base) (small : base ≤ 16) (n : ℕ) :
    read base (Nat.toDigits base n) = n := by
  induction n using Nat.strongRecOn with
  | ind n ih =>
    by_cases below : n < base
    · rw [Nat.toDigits_of_lt_base below]
      have digit := valueOf_digitChar (Nat.lt_of_lt_of_le below small)
      simp [read, digit]
    · have below := Nat.le_of_not_lt below
      have last := Nat.mod_lt n (Nat.zero_lt_of_lt large)
      rw [Nat.toDigits_of_base_le large below, read_concat,
        ih _ (Nat.div_lt_self (Nat.lt_of_lt_of_le (Nat.zero_lt_of_lt large) below) large),
        valueOf_digitChar (Nat.lt_of_lt_of_le last small)]
      exact Nat.div_add_mod' n base

/-- Leading zeros count nothing. -/
theorem read_padded : read base (padded width digits) = read base digits := by
  have zeros : ∀ k : ℕ, (List.replicate k '0').foldl (fun n c => n * base + valueOf c) 0 = 0 := by
    intro k
    induction k with
    | zero => rfl
    | succ k ih =>
      rw [List.replicate_succ, List.foldl_cons, Nat.zero_mul, Nat.zero_add]
      exact ih
  rw [padded, read, List.foldl_append, zeros, read]

theorem length_padded (fits : digits.length ≤ width) : (padded width digits).length = width := by
  rw [padded, List.length_append, List.length_replicate]
  omega

theorem length_padded_toDigits (large : 1 < base) (wide : 0 < width) (small : n < base ^ width) :
    (padded width (Nat.toDigits base n)).length = width :=
  length_padded ((Nat.length_toDigits_le_iff large wide).mpr small)

theorem mem_padded {c : Char} (member : c ∈ padded width digits) : c = '0' ∨ c ∈ digits := by
  rcases List.mem_append.mp member with zero | digit
  · exact Or.inl (List.eq_of_mem_replicate zero)
  · exact Or.inr digit

end Support.Digits
