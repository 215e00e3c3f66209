import Mathlib.Algebra.BigOperators.Group.List.Basic
import Mathlib.Algebra.Ring.Int.Defs
import Mathlib.Tactic.Common

/-!
# The proleptic Gregorian calendar

Days are numbered, and the first of January of year one is day one. A number determines a
year, a month and a day of the month: years are found by the cycles of four hundred, of a
hundred and of four years, and the year found is the only one that has the day.
-/
namespace Support.Gregorian

def isLeap (year : ℤ) : Bool := year % 4 == 0 && (year % 100 != 0 || year % 400 == 0)

def daysBeforeYear (year : ℤ) : ℤ :=
  (year - 1) * 365 + (year - 1) / 4 - (year - 1) / 100 + (year - 1) / 400

def monthLengths (year : ℤ) : List ℤ :=
  [31, if isLeap year then 29 else 28, 31, 30, 31, 30, 31, 31, 30, 31, 30, 31]

/-- The number of a day; months are counted from one. -/
def ordinal (year : ℤ) (month : ℕ) (day : ℤ) : ℤ :=
  daysBeforeYear year + ((monthLengths year).take (month - 1)).sum + day

/-- Zero on Mondays. -/
def weekday (n : ℤ) : ℤ := (n + 6) % 7

/-- The last year of a cycle may have one day more than the others: the number of cycles
passed stays below the number of cycles there are. -/
def yearOf (n : ℤ) : ℤ :=
  let inEra := (n - 1) % 146097
  let centuries := min (inEra / 36524) 3
  let inCentury := inEra - centuries * 36524
  let inQuad := inCentury % 1461
  let years := min (inQuad / 365) 3
  (n - 1) / 146097 * 400 + centuries * 100 + inCentury / 1461 * 4 + years + 1

/-- The month of a day of the year, and the day of the month, where months begin at `month`. -/
def monthOf : List ℤ → ℕ → ℤ → ℕ × ℤ
  | [], month, day => (month, day)
  | length :: rest, month, day =>
    if day ≤ length then (month, day) else monthOf rest (month + 1) (day - length)

/-- The month and the day of the month of a day. -/
def monthDay (n : ℤ) : ℕ × ℤ :=
  monthOf (monthLengths (yearOf n)) 1 (n - daysBeforeYear (yearOf n))

/-! ### Years -/

theorem daysBeforeYear_succ (year : ℤ) :
    daysBeforeYear (year + 1) = daysBeforeYear year + if isLeap year then 366 else 365 := by
  unfold daysBeforeYear isLeap
  simp only [Bool.and_eq_true, Bool.or_eq_true, beq_iff_eq, bne_iff_ne]
  split <;> omega

theorem daysBeforeYear_mono {first last : ℤ} (ordered : first ≤ last) :
    daysBeforeYear first ≤ daysBeforeYear last := by
  unfold daysBeforeYear
  omega

/-- Whole cycles, and what is left of them. -/
theorem daysBeforeYear_cycles (eras : ℤ) {centuries quads years : ℤ} (hundred : 0 ≤ centuries)
    (hundred' : centuries ≤ 3) (four : 0 ≤ quads) (four' : quads ≤ 24) (one : 0 ≤ years)
    (one' : years ≤ 3) :
    daysBeforeYear (eras * 400 + centuries * 100 + quads * 4 + years + 1) =
      eras * 146097 + centuries * 36524 + quads * 1461 + years * 365 := by
  unfold daysBeforeYear
  omega

/-- A day is a day of its year. -/
theorem yearOf_spec (n : ℤ) :
    daysBeforeYear (yearOf n) < n ∧ n ≤ daysBeforeYear (yearOf n + 1) := by
  unfold yearOf
  dsimp only
  generalize eras : (n - 1) / 146097 = e
  generalize era : (n - 1) % 146097 = r
  generalize centuries : min (r / 36524) 3 = c
  generalize quads : (r - c * 36524) / 1461 = q
  generalize quad : (r - c * 36524) % 1461 = s
  generalize years : min (s / 365) 3 = y
  have bounds : 0 ≤ c ∧ c ≤ 3 ∧ 0 ≤ q ∧ q ≤ 24 ∧ 0 ≤ y ∧ y ≤ 3 := by omega
  obtain ⟨c₀, c₃, q₀, q₂₄, y₀, y₃⟩ := bounds
  have cycles := daysBeforeYear_cycles e c₀ c₃ q₀ q₂₄ y₀ y₃
  refine ⟨by rw [cycles]; omega, ?_⟩
  rw [daysBeforeYear_succ, cycles]
  unfold isLeap
  simp only [Bool.and_eq_true, Bool.or_eq_true, beq_iff_eq, bne_iff_ne]
  split <;> omega

/-- It is a day of no other year. -/
theorem yearOf_eq_iff {n year : ℤ} :
    yearOf n = year ↔ daysBeforeYear year < n ∧ n ≤ daysBeforeYear (year + 1) := by
  refine ⟨fun same => same ▸ yearOf_spec n, fun ⟨after, before⟩ => ?_⟩
  obtain ⟨after', before'⟩ := yearOf_spec n
  by_contra other
  rcases Int.lt_or_gt_of_ne other with earlier | later
  · have := daysBeforeYear_mono (Int.add_one_le_of_lt earlier)
    omega
  · have := daysBeforeYear_mono (Int.add_one_le_of_lt later)
    omega

/-! ### Months -/

/-- The month that is found is the one in which the days before it run out. -/
theorem monthOf_spec (lengths : List ℤ) (month : ℕ) (day : ℤ) (positive : 1 ≤ day)
    (fits : day ≤ lengths.sum) :
    ∃ i length, (monthOf lengths month day).1 = month + i ∧ lengths[i]? = some length ∧
      1 ≤ (monthOf lengths month day).2 ∧ (monthOf lengths month day).2 ≤ length ∧
      (lengths.take i).sum + (monthOf lengths month day).2 = day := by
  induction lengths generalizing month day with
  | nil =>
    simp only [List.sum_nil] at fits
    omega
  | cons length rest ih =>
    by_cases here : day ≤ length
    · have found : monthOf (length :: rest) month day = (month, day) := by simp [monthOf, here]
      exact ⟨0, length, by simp [found], by simp, by simpa [found], by simpa [found], by simp [found]⟩
    · have later : monthOf (length :: rest) month day = monthOf rest (month + 1) (day - length) := by
        simp [monthOf, here]
      rw [List.sum_cons] at fits
      obtain ⟨i, found, month', at_, first, last, whole⟩ :=
        ih (month + 1) (day - length) (by omega) (by omega)
      refine ⟨i + 1, found, ?_, by simpa using at_, ?_, ?_, ?_⟩
      · rw [later, month']
        omega
      · rwa [later]
      · rwa [later]
      · rw [later, List.take_succ_cons, List.sum_cons]
        omega

theorem sum_monthLengths (year : ℤ) :
    (monthLengths year).sum = if isLeap year then 366 else 365 := by
  unfold monthLengths
  split <;> rfl

theorem le_of_monthLengths {year length : ℤ} {i : ℕ} (found : (monthLengths year)[i]? = some length) :
    i < 12 ∧ length ≤ 31 := by
  have member := List.mem_of_getElem? found
  obtain ⟨inside, -⟩ := List.getElem?_eq_some_iff.mp found
  refine ⟨by simpa [monthLengths] using inside, ?_⟩
  simp only [monthLengths, List.mem_cons, List.not_mem_nil, or_false] at member
  split at member <;> omega

/-- A day has the number of its year, its month and its day of the month. -/
theorem monthDay_spec (n : ℤ) :
    ∃ length, (monthLengths (yearOf n))[(monthDay n).1 - 1]? = some length ∧
      1 ≤ (monthDay n).1 ∧ (monthDay n).1 ≤ 12 ∧ 1 ≤ (monthDay n).2 ∧ (monthDay n).2 ≤ length ∧
      length ≤ 31 ∧ ordinal (yearOf n) (monthDay n).1 (monthDay n).2 = n := by
  obtain ⟨after, before⟩ := yearOf_spec n
  rw [daysBeforeYear_succ, ← sum_monthLengths] at before
  obtain ⟨i, length, month, at_, first, last, whole⟩ := monthOf_spec (monthLengths (yearOf n)) 1
    (n - daysBeforeYear (yearOf n)) (by omega) (by omega)
  obtain ⟨inside, short⟩ := le_of_monthLengths at_
  have index : (monthDay n).1 - 1 = i := by
    rw [monthDay, month]
    omega
  refine ⟨length, by rwa [index], ?_, ?_, first, last, short, ?_⟩
  · rw [monthDay, month]
    omega
  · rw [monthDay, month]
    omega
  · rw [ordinal, index]
    simp only [monthDay] at whole ⊢
    omega

end Support.Gregorian
