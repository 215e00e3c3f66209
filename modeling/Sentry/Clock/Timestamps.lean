import Sentry.Clock.MarketCalendar
import Sentry.Market.Models
import Sentry.Support.Digits

/-!
# Timestamps as texts

`isoformat` of a UTC time, and `fromisoformat` of the texts that it writes. The other formats
that can be read are a parameter.
-/
namespace Sentry

open Support

/-! ### Writing and reading -/

/-- The years that a `datetime` can have. -/
def Time.Representable (t : Time) : Prop :=
  1 ≤ Date.year (t / hours 24) ∧ Date.year (t / hours 24) ≤ 9999

/-- `isoformat`, of a time in UTC. -/
def Time.isoformat (t : Time) (separator : Char := 'T') : String :=
  let micros := (t % hours 24).toNat
  let seconds := micros / 1000000
  let fraction := micros % 1000000
  Date.isoformat (t / hours 24) ++ String.ofList [separator] ++
    paddedTo 2 (seconds / 3600) ++ ":" ++ paddedTo 2 (seconds / 60 % 60) ++ ":" ++
    paddedTo 2 (seconds % 60) ++ (if fraction = 0 then "" else "." ++ paddedTo 6 fraction) ++
    "+00:00"

namespace Timestamps

/-- A number of so many digits, and what comes after it. -/
def number (count : ℕ) (text : List Char) : Option (ℕ × List Char) :=
  let digits := text.take count
  if digits.length = count ∧ digits.all Char.isDigit then
    some (Digits.read 10 digits, text.drop count)
  else none

/-- What comes after a character. -/
def after (c : Char) : List Char → Option (List Char)
  | [] => none
  | x :: rest => if x = c then some rest else none

def fraction : List Char → Option (ℕ × List Char)
  | '.' :: rest => number 6 rest
  | rest => some (0, rest)

/-- A date, any character and a time in UTC. -/
def extended (text : List Char) : Option Time := do
  let (year, rest) ← number 4 text
  let (month, rest) ← number 2 (← after '-' rest)
  let (day, rest) ← number 2 (← after '-' rest)
  let (hour, rest) ← number 2 rest.tail
  let (minute, rest) ← number 2 (← after ':' rest)
  let (second, rest) ← number 2 (← after ':' rest)
  let (micros, rest) ← fraction rest
  let length ← (Gregorian.monthLengths year)[month - 1]?
  if rest = "+00:00".toList ∧ 1 ≤ year ∧ 1 ≤ month ∧ 1 ≤ day ∧ (day : ℤ) ≤ length ∧ hour < 24 ∧
      minute < 60 ∧ second < 60 then
    some (hours 24 * date year month day +
      (((hour * 60 + minute) * 60 + second) * 1000000 + micros : ℕ))
  else none

end Timestamps

/-- `fromisoformat`, where only the texts that `isoformat` writes in UTC are read here. -/
def fromisoformat (otherFormats : String → Option Datetime) (text : String) : Option Datetime :=
  match Timestamps.extended text.toList with
  | some t => some (.aware t)
  | none => otherFormats text

/-- `text.replace("Z", "+00:00")`. -/
def withoutZulu (text : String) : String :=
  String.ofList (text.toList.flatMap fun c => if c = 'Z' then "+00:00".toList else [c])

/-! ### What is written is read -/

namespace Timestamps

variable {count n : ℕ} {rest : List Char}

theorem toList_paddedTo (width n : ℕ) :
    (paddedTo width n).toList = Digits.padded width (Nat.toDigits 10 n) := by
  rw [paddedTo, String.toList_ofList, Nat.toString_eq_ofList_toDigits, String.toList_ofList]
  rfl

theorem isDigit_of_mem_paddedTo {c : Char} (member : c ∈ (paddedTo count n).toList) :
    c.isDigit = true := by
  rw [toList_paddedTo] at member
  rcases Digits.mem_padded member with rfl | digit
  · decide
  · exact Nat.isDigit_of_mem_toDigits (by decide) (by decide) digit

theorem number_paddedTo (wide : 0 < count) (small : n < 10 ^ count) (rest : List Char) :
    number count ((paddedTo count n).toList ++ rest) = some (n, rest) := by
  have length : (paddedTo count n).toList.length = count := by
    rw [toList_paddedTo]
    exact Digits.length_padded_toDigits (by decide) wide small
  have front : ((paddedTo count n).toList ++ rest).take count = (paddedTo count n).toList := by
    rw [List.take_append_of_le_length (by omega), List.take_of_length_le (by omega)]
  have back : ((paddedTo count n).toList ++ rest).drop count = rest := by
    rw [List.drop_append_of_le_length (by omega), List.drop_of_length_le (by omega), List.nil_append]
  have digits : (paddedTo count n).toList.all Char.isDigit = true :=
    List.all_eq_true.mpr fun c => isDigit_of_mem_paddedTo
  rw [number, front, back, if_pos ⟨length, digits⟩, toList_paddedTo, Digits.read_padded,
    Digits.read_toDigits (by decide) (by decide)]

@[simp] theorem after_self (c : Char) (rest : List Char) : after c (c :: rest) = some rest := by
  simp [after]

theorem fraction_written (small : n < 1000000) :
    fraction ((if n = 0 then "" else "." ++ paddedTo 6 n).toList ++ "+00:00".toList) =
      some (n, "+00:00".toList) := by
  split
  next zero =>
    subst zero
    rfl
  next =>
    have point : ".".toList = ['.'] := rfl
    rw [String.toList_append, point, List.append_assoc, List.singleton_append, fraction,
      number_paddedTo (by decide) small]

theorem date_monthDay (day : Date) :
    date (Date.year day) (Gregorian.monthDay (day + epochOrdinal)).1
      (Gregorian.monthDay (day + epochOrdinal)).2 = day := by
  obtain ⟨length, -, -, -, -, -, -, whole⟩ := Gregorian.monthDay_spec (day + epochOrdinal)
  rw [date, Date.year, whole, add_sub_cancel_right]

/-- The numbers of a time, one after the other. -/
def written (year month day hour minute second micros : ℕ) (separator : Char) : List Char :=
  (paddedTo 4 year).toList ++ '-' :: ((paddedTo 2 month).toList ++ '-' :: ((paddedTo 2 day).toList ++
    separator :: ((paddedTo 2 hour).toList ++ ':' :: ((paddedTo 2 minute).toList ++
      ':' :: ((paddedTo 2 second).toList ++
        ((if micros = 0 then "" else "." ++ paddedTo 6 micros).toList ++ "+00:00".toList))))))

theorem toList_isoformat (t : Time) (separator : Char) :
    (t.isoformat separator).toList =
      written (Date.year (t / hours 24)).toNat
        (Gregorian.monthDay (t / hours 24 + epochOrdinal)).1
        (Gregorian.monthDay (t / hours 24 + epochOrdinal)).2.toNat
        ((t % hours 24).toNat / 1000000 / 3600) ((t % hours 24).toNat / 1000000 / 60 % 60)
        ((t % hours 24).toNat / 1000000 % 60) ((t % hours 24).toNat % 1000000) separator := by
  have dash : "-".toList = ['-'] := rfl
  have colon : ":".toList = [':'] := rfl
  simp only [Time.isoformat, Date.isoformat, written, String.toList_append, String.toList_ofList,
    dash, colon, List.append_assoc, List.nil_append, List.cons_append]

theorem extended_written {year month day hour minute second micros : ℕ} {length : ℤ}
    (separator : Char) (found : (Gregorian.monthLengths year)[month - 1]? = some length)
    (short : length ≤ 31) (year₁ : 1 ≤ year) (yearₙ : year ≤ 9999) (month₁ : 1 ≤ month)
    (monthₙ : month ≤ 12) (day₁ : 1 ≤ day) (dayₙ : (day : ℤ) ≤ length) (hourₙ : hour < 24)
    (minuteₙ : minute < 60) (secondₙ : second < 60) (microsₙ : micros < 1000000) :
    extended (written year month day hour minute second micros separator) =
      some (hours 24 * date year month day +
        (((hour * 60 + minute) * 60 + second) * 1000000 + micros : ℕ)) := by
  rw [extended, written, number_paddedTo (by decide) (by omega)]
  simp only [Option.bind_eq_bind, Option.bind_some, after_self]
  rw [number_paddedTo (by decide) (by omega)]
  simp only [Option.bind_some, after_self]
  rw [number_paddedTo (by decide) (by omega)]
  simp only [Option.bind_some, List.tail_cons]
  rw [number_paddedTo (by decide) (by omega)]
  simp only [Option.bind_some, after_self]
  rw [number_paddedTo (by decide) (by omega)]
  simp only [Option.bind_some, after_self]
  rw [number_paddedTo (by decide) (by omega)]
  simp only [Option.bind_some]
  rw [fraction_written microsₙ]
  simp only [Option.bind_some, found]
  rw [if_pos ⟨trivial, year₁, month₁, day₁, dayₙ, hourₙ, minuteₙ, secondₙ⟩]

/-- A time is read back from its text, whatever stands between its date and its time. -/
theorem extended_isoformat {t : Time} (range : t.Representable) (separator : Char) :
    extended (t.isoformat separator).toList = some t := by
  obtain ⟨first, last⟩ := range
  obtain ⟨length, found, month₁, monthₙ, day₁, dayₙ, short, -⟩ :=
    Gregorian.monthDay_spec (t / hours 24 + epochOrdinal)
  have whole := date_monthDay (t / hours 24)
  obtain ⟨micros, rest⟩ : ∃ micros : ℕ, t % hours 24 = micros :=
    Int.eq_ofNat_of_zero_le (Int.emod_nonneg _ (by decide))
  have below : (micros : ℤ) < 86400000000 := rest ▸ Int.emod_lt_of_pos t (by decide)
  have split := Int.mul_ediv_add_emod t (hours 24)
  rw [← Date.year] at found
  have year : ((Date.year (t / hours 24)).toNat : ℤ) = Date.year (t / hours 24) := by omega
  have day : ((Gregorian.monthDay (t / hours 24 + epochOrdinal)).2.toNat : ℤ) =
      (Gregorian.monthDay (t / hours 24 + epochOrdinal)).2 := by omega
  have parts : ((micros / 1000000 / 3600 * 60 + micros / 1000000 / 60 % 60) * 60 +
      micros / 1000000 % 60) * 1000000 + micros % 1000000 = micros := by omega
  rw [toList_isoformat, rest, Int.toNat_natCast,
    extended_written separator (by rwa [year]) short (by omega) (by omega) month₁ monthₙ (by omega)
      (by omega) (by omega) (by omega) (by omega) (by omega),
    year, day, whole, parts, ← rest, split]

theorem not_mem_paddedTo (count n : ℕ) : 'Z' ∉ (paddedTo count n).toList := by
  intro member
  exact absurd (isDigit_of_mem_paddedTo member) (by decide)

/-- There is no `Z` in the text of a time. -/
theorem withoutZulu_isoformat (t : Time) : withoutZulu t.isoformat = t.isoformat := by
  have plain : 'Z' ∉ t.isoformat.toList := by
    rw [toList_isoformat, written]
    split <;> simp [not_mem_paddedTo]
  have kept : ∀ text : List Char, 'Z' ∉ text →
      (text.flatMap fun c => if c = 'Z' then "+00:00".toList else [c]) = text := by
    intro text absent
    induction text with
    | nil => rfl
    | cons c text ih =>
      simp only [List.mem_cons, not_or] at absent
      rw [List.flatMap_cons, if_neg (Ne.symm absent.1), ih absent.2, List.singleton_append]
  rw [withoutZulu, kept _ plain, String.ofList_toList]

theorem fromisoformat_isoformat {t : Time} (range : t.Representable)
    (otherFormats : String → Option Datetime) :
    fromisoformat otherFormats (withoutZulu t.isoformat) = some (.aware t) := by
  rw [withoutZulu_isoformat, fromisoformat, extended_isoformat range]

end Timestamps

end Sentry
