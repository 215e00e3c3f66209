import Sentry.Domain.Models
import Sentry.Support.Digits

/-!
# Identifiers as texts

The text of an identifier tells it from every other one.
-/
namespace Sentry

open Support

/-- An identifier of 128 bits. -/
abbrev WideUUID := {id : UUID // id.val < 2 ^ 128}

namespace UUID

def hexadecimal (id : UUID) : List Char := Digits.padded 32 (Nat.toDigits 16 id.val)

theorem digit_ne_dash {base n : ℕ} (large : 1 < base) (small : base ≤ 16) {c : Char}
    (member : c ∈ Nat.toDigits base n) : c ≠ '-' := by
  induction n using Nat.strongRecOn with
  | ind n ih =>
    by_cases below : n < base
    · rw [Nat.toDigits_of_lt_base below, List.mem_singleton] at member
      subst member
      have every : ∀ d < 16, Nat.digitChar d ≠ '-' := by decide
      exact every n (below.trans_le small)
    · rw [not_lt] at below
      rw [Nat.toDigits_of_base_le large below, List.mem_append, List.mem_singleton] at member
      rcases member with front | last
      · exact ih _ (Nat.div_lt_self (by omega) large) front
      · subst last
        have every : ∀ d < 16, Nat.digitChar d ≠ '-' := by decide
        exact every _ ((Nat.mod_lt n (by omega)).trans_le small)

theorem dash_not_mem_hexadecimal (id : UUID) : '-' ∉ id.hexadecimal := by
  intro member
  rcases Digits.mem_padded member with zero | digit
  · exact absurd zero (by decide)
  · exact digit_ne_dash (by decide) le_rfl digit rfl

/-- Without its dashes the text is the number. -/
theorem filter_str {id : UUID} (wide : id.val < 2 ^ 128) :
    (id.str.toList.filter fun c => c != '-') = id.hexadecimal := by
  have length : id.hexadecimal.length = 32 :=
    Digits.length_padded_toDigits (by decide) (by decide) (by simpa using wide)
  have kept : ∀ from_ n, (((id.hexadecimal.drop from_).take n).filter fun c => c != '-') =
      (id.hexadecimal.drop from_).take n := by
    intro from_ n
    rw [List.filter_eq_self]
    intro c member
    rw [bne_iff_ne]
    rintro rfl
    exact id.dash_not_mem_hexadecimal (List.mem_of_mem_drop (List.mem_of_mem_take member))
  have text : id.str = String.ofList (
      (id.hexadecimal.drop 0).take 8 ++ ['-'] ++ (id.hexadecimal.drop 8).take 4 ++ ['-'] ++
        (id.hexadecimal.drop 12).take 4 ++ ['-'] ++ (id.hexadecimal.drop 16).take 4 ++ ['-'] ++
        (id.hexadecimal.drop 20).take 12) := rfl
  have dash : (['-'].filter fun c => c != '-') = [] := by decide
  rw [text, String.toList_ofList]
  simp only [List.filter_append, kept, dash, List.append_nil]
  have step : ∀ from_ n, (id.hexadecimal.drop from_).take n ++ id.hexadecimal.drop (from_ + n) =
      id.hexadecimal.drop from_ := by
    intro from_ n
    rw [← List.drop_drop, List.take_append_drop]
  have last : (id.hexadecimal.drop 20).take 12 = id.hexadecimal.drop 20 :=
    List.take_of_length_le (by simp [length])
  rw [last]
  simp only [List.append_assoc]
  rw [step 16 4, step 12 4, step 8 4, step 0 8, List.drop_zero]

theorem str_injective {a b : WideUUID} (same : a.val.str = b.val.str) : a = b := by
  have digits : a.val.hexadecimal = b.val.hexadecimal := by
    rw [← filter_str a.property, ← filter_str b.property, same]
  have value : ∀ id : UUID, Digits.read 16 id.hexadecimal = id.val := by
    intro id
    rw [hexadecimal, Digits.read_padded, Digits.read_toDigits (by decide) le_rfl]
  have equal : a.val.val = b.val.val := by rw [← value, ← value, digits]
  exact Subtype.ext (by
    cases ha : a.val
    cases hb : b.val
    simpa [ha, hb] using equal)

end UUID

end Sentry
