import Mathlib.Data.List.DropRight
import Sentry.Support.Digits

/-!
# Integers written as texts

What `int(text, base)` reads: blanks around the number, a sign, the prefix of base sixteen, and
digits of any script with single underscores between them. The decimal digits are those of
Unicode 15.0.
-/
namespace Support.Literals

/-- The zeros of the decimal digits. -/
def zeros : List ℕ :=
  [0x30, 0x660, 0x6F0, 0x7C0, 0x966, 0x9E6, 0xA66, 0xAE6, 0xB66, 0xBE6, 0xC66, 0xCE6, 0xD66, 0xDE6,
    0xE50, 0xED0, 0xF20, 0x1040, 0x1090, 0x17E0, 0x1810, 0x1946, 0x19D0, 0x1A80, 0x1A90, 0x1B50,
    0x1BB0, 0x1C40, 0x1C50, 0xA620, 0xA8D0, 0xA900, 0xA9D0, 0xA9F0, 0xAA50, 0xABF0, 0xFF10, 0x104A0,
    0x10D30, 0x11066, 0x110F0, 0x11136, 0x111D0, 0x112F0, 0x11450, 0x114D0, 0x11650, 0x116C0,
    0x11730, 0x118E0, 0x11950, 0x11C50, 0x11D50, 0x11DA0, 0x11F50, 0x16A60, 0x16AC0, 0x16B50,
    0x1D7CE, 0x1D7D8, 0x1D7E2, 0x1D7EC, 0x1D7F6, 0x1E140, 0x1E2F0, 0x1E4F0, 0x1E950, 0x1FBF0]

/-- A decimal digit of any script as one of ASCII. -/
def ascii (c : Char) : Char :=
  match zeros.find? fun first => decide (first ≤ c.toNat ∧ c.toNat < first + 10) with
  | some first => Nat.digitChar (c.toNat - first)
  | none => c

/-- What may stand before and after a number. -/
def isBlank (c : Char) : Bool :=
  decide (9 ≤ c.toNat ∧ c.toNat ≤ 13) || decide (0x2000 ≤ c.toNat ∧ c.toNat ≤ 0x200A) ||
    [0x20, 0x85, 0xA0, 0x1680, 0x2028, 0x2029, 0x202F, 0x205F, 0x3000].contains c.toNat

/-- A text without what is at its ends. -/
def strip (outer : Char → Bool) (text : List Char) : List Char :=
  (text.dropWhile outer).rdropWhile outer

/-- A digit of a base, in letters of any case. -/
def digit (base : ℕ) (c : Char) : Option ℕ :=
  (List.range base).find? fun d => Nat.digitChar d == c.toLower

/-- Digits, where an underscore may come between two of them. -/
def digits (base : ℕ) : Bool → List Char → Option (List ℕ)
  | behind, [] => if behind then some [] else none
  | behind, c :: rest =>
    if behind && c == '_' then digits base false rest
    else (digit base c).bind fun d => (digits base true rest).map (d :: ·)

/-- The digits of base sixteen behind their prefix, with the underscore that may follow it. -/
def unprefixed : List Char → List Char
  | '0' :: 'x' :: '_' :: rest | '0' :: 'X' :: '_' :: rest => rest
  | '0' :: 'x' :: rest | '0' :: 'X' :: rest => rest
  | text => text

/-- `int(text, 16)`. -/
def hexadecimal (text : List Char) : Option ℤ :=
  let value (text : List Char) : Option ℕ :=
    (digits 16 false (unprefixed text)).map fun ds => ds.foldl (fun n d => n * 16 + d) 0
  match (strip isBlank text).map ascii with
  | '+' :: rest => (value rest).map Int.ofNat
  | '-' :: rest => (value rest).map fun n => -Int.ofNat n
  | rest => (value rest).map Int.ofNat

example : ["1_f", " +0X_1F\n", "1__f", "- 1", "0x", "-٣"].map (fun text => hexadecimal text.toList) =
    [some 31, some 31, none, none, none, some (-3)] := by
  decide +kernel

/-! ### Words that are left out -/

/-- A text without the places where a word stands, after some characters of one. -/
def withoutFrom (word : List Char) : ℕ → List Char → List Char
  | _, [] => []
  | inside + 1, _ :: rest => withoutFrom word inside rest
  | 0, c :: rest =>
    if word.isPrefixOf (c :: rest) then withoutFrom word (word.length - 1) rest
    else c :: withoutFrom word 0 rest

/-- `text.replace(word, "")`, of a word that is not empty. -/
def without (word : String) (text : List Char) : List Char := withoutFrom word.toList 0 text

end Support.Literals
