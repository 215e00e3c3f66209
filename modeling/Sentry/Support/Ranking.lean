import Mathlib.Data.List.Dedup
import Mathlib.Data.List.Perm.Basic
import Mathlib.Data.List.Sort
import Mathlib.Order.Basic

/-!
# Ranked lists

A list sorted by a key, and the first few of it. Where no two elements share a key, the
result depends on the elements only and not on the order they came in, and it is what its
name says: the elements on top, in strict order, before all the others.
-/
namespace Support

variable {α κ : Type}

/-- No two elements share a key. -/
def Distinguished (key : α → κ) (xs : List α) : Prop := xs.Pairwise fun x y => key x ≠ key y

theorem Distinguished.perm {key : α → κ} {xs ys : List α} (distinct : Distinguished key xs)
    (same : xs.Perm ys) : Distinguished key ys :=
  (same.pairwise_iff fun apart => apart.symm).mp distinct

theorem Distinguished.filter {key : α → κ} {xs : List α} (distinct : Distinguished key xs)
    (p : α → Bool) : Distinguished key (xs.filter p) :=
  List.Pairwise.sublist List.filter_sublist distinct

/-- Of a list in which earlier elements are related to later ones, any two are. -/
theorem pairwise_cases {R : α → α → Prop} {xs : List α} (pairwise : xs.Pairwise R)
    {a b : α} (left : a ∈ xs) (right : b ∈ xs) : a = b ∨ R a b ∨ R b a := by
  induction pairwise with
  | nil => cases left
  | cons first _ ih =>
    rcases List.mem_cons.mp left with rfl | left'
    · rcases List.mem_cons.mp right with rfl | right'
      · exact .inl rfl
      · exact .inr (.inl (first b right'))
    · rcases List.mem_cons.mp right with rfl | right'
      · exact .inr (.inr (first a left'))
      · exact ih left' right'

variable [LinearOrder κ]

/-- Sorted by the key, the least first. -/
def ranking (key : α → κ) (xs : List α) : List α :=
  xs.mergeSort fun x y => decide (key x ≤ key y)

/-- The first of the ranking. -/
def leading (key : α → κ) (count : ℕ) (xs : List α) : List α := (ranking key xs).take count

/-- `ys` are the first `count` of `xs` under the key. -/
structure Leads (key : α → κ) (count : ℕ) (xs ys : List α) : Prop where
  member : ∀ y ∈ ys, y ∈ xs
  length : ys.length = min count xs.length
  ordered : ys.Pairwise fun x y => key x < key y
  others : ∀ x ∈ xs, x ∉ ys → ∀ y ∈ ys, key y < key x

variable {key : α → κ} {count : ℕ} {xs ys : List α}

theorem ranking_perm (key : α → κ) (xs : List α) : (ranking key xs).Perm xs :=
  List.mergeSort_perm ..

theorem mem_leading {x : α} (shown : x ∈ leading key count xs) : x ∈ xs :=
  (ranking_perm key xs).mem_iff.mp (List.mem_of_mem_take shown)

theorem ranking_sorted (key : α → κ) (xs : List α) :
    (ranking key xs).Pairwise fun x y => key x ≤ key y := by
  have sorted : (ranking key xs).Pairwise fun x y => decide (key x ≤ key y) = true :=
    List.pairwise_mergeSort (fun a b c first second => decide_eq_true
      ((of_decide_eq_true first).trans (of_decide_eq_true second)))
      (fun a b => by simpa using le_total (key a) (key b)) xs
  exact sorted.imp of_decide_eq_true

theorem ranking_strict (distinct : Distinguished key xs) :
    (ranking key xs).Pairwise fun x y => key x < key y := by
  have apart : Distinguished key (ranking key xs) := distinct.perm (ranking_perm key xs).symm
  exact ((ranking_sorted key xs).and apart).imp fun both => lt_of_le_of_ne both.1 both.2

/-- A list that is in order already is its own ranking. -/
theorem ranking_of_pairwise (sorted : xs.Pairwise fun x y => key x ≤ key y) : ranking key xs = xs :=
  List.mergeSort_of_pairwise (sorted.imp fun less => decide_eq_true less)

/-- The ranking does not depend on the order of the list. -/
theorem ranking_eq_of_perm (distinct : Distinguished key xs) (same : xs.Perm ys) :
    ranking key xs = ranking key ys := by
  have both : (ranking key xs).Perm (ranking key ys) :=
    (ranking_perm key xs).trans (same.trans (ranking_perm key ys).symm)
  refine List.Perm.eq_of_pairwise ?_ (ranking_strict distinct)
    (ranking_strict (distinct.perm same)) both
  intro x y _ _ less more
  exact absurd (less.trans more) (lt_irrefl _)

/-- `sorted(set(xs), key=key)`. -/
def sortedSet [DecidableEq α] (key : α → κ) (xs : List α) : List α := ranking key xs.dedup

/-- Where the key tells elements apart, a sorted set depends on its elements only. -/
theorem sortedSet_congr [DecidableEq α] (injective : ∀ x y, key x = key y → x = y)
    (same : ∀ x, x ∈ xs ↔ x ∈ ys) : sortedSet key xs = sortedSet key ys := by
  have distinct : Distinguished key xs.dedup :=
    (List.nodup_dedup xs).imp fun apart equal => apart (injective _ _ equal)
  apply ranking_eq_of_perm distinct
  rw [List.perm_ext_iff_of_nodup (List.nodup_dedup xs) (List.nodup_dedup ys)]
  intro x
  rw [List.mem_dedup, List.mem_dedup, same]

/-- Where all of one part comes before all of the other, so do their rankings. -/
theorem ranking_eq_append {zs : List α} (distinct : Distinguished key zs)
    (parts : zs.Perm (xs ++ ys)) (before : ∀ x ∈ xs, ∀ y ∈ ys, key x < key y) :
    ranking key zs = ranking key xs ++ ranking key ys := by
  have apart : Distinguished key (xs ++ ys) := distinct.perm parts
  obtain ⟨left, right, -⟩ := List.pairwise_append.mp apart
  have whole : (ranking key xs ++ ranking key ys).Perm zs :=
    ((ranking_perm key xs).append (ranking_perm key ys)).trans parts.symm
  refine List.Perm.eq_of_pairwise ?_ (ranking_strict distinct) ?_
    ((ranking_perm key zs).trans whole.symm)
  · intro x y _ _ less more
    exact absurd (less.trans more) (lt_irrefl _)
  · refine List.pairwise_append.mpr ⟨ranking_strict left, ranking_strict right, ?_⟩
    intro x inX y inY
    exact before x ((ranking_perm key xs).mem_iff.mp inX) y ((ranking_perm key ys).mem_iff.mp inY)

/-- What the first ones are the first of is a collection, in any order. -/
theorem Leads.perm {zs : List α} (leads : Leads key count xs ys) (same : xs.Perm zs) :
    Leads key count zs ys where
  member y shown := same.mem_iff.mp (leads.member y shown)
  length := by rw [leads.length, same.length_eq]
  ordered := leads.ordered
  others x listed := leads.others x (same.mem_iff.mpr listed)

theorem leads_leading (distinct : Distinguished key xs) :
    Leads key count xs (leading key count xs) where
  member _ := mem_leading
  length := by
    rw [leading, List.length_take, (ranking_perm key xs).length_eq]
  ordered := (ranking_strict distinct).sublist (List.take_sublist _ _)
  others := by
    intro x member out y shown
    have listed := (ranking_perm key xs).mem_iff.mpr member
    have strict := ranking_strict distinct
    rw [← List.take_append_drop count (ranking key xs)] at listed strict
    rcases List.mem_append.mp listed with first | later
    · exact absurd first out
    · exact (List.pairwise_append.mp strict).2.2 y shown x later

end Support
