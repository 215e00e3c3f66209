import Mathlib.Data.List.Sort
import Mathlib.Order.Basic

/-!
# Keyset pagination

A page of a list is the first few of its elements beyond a cursor, and the key of its last one
is the cursor of the next page as long as elements are left. Over a list in strict order of its
keys the pages are the list.
-/
namespace Support

variable {α κ : Type}

namespace Keyset

/-- The cursor of the page that follows. -/
def next (key : α → κ) (limit : ℕ) (rest : List α) : Option κ :=
  if limit < rest.length then (rest.take limit).getLast?.map key else none

variable {key : α → κ} {limit : ℕ} {rest : List α} {last : κ}

theorem next_map {μ : Type} (key : α → κ) (f : κ → μ) (limit : ℕ) (rest : List α) :
    next (fun x => f (key x)) limit rest = (next key limit rest).map f := by
  unfold next
  split
  · simp [Function.comp_def]
  · rfl

theorem next_some (more : next key limit rest = some last) :
    ∃ x, x ∈ rest ∧ (rest.take limit).getLast? = some x ∧ key x = last := by
  rw [next] at more
  split at more
  · obtain ⟨x, ends, same⟩ := Option.map_eq_some_iff.mp more
    exact ⟨x, List.mem_of_mem_take (List.mem_of_getLast? ends), ends, same⟩
  · cases more

theorem next_none (positive : 0 < limit) (nothing : next key limit rest = none) :
    rest.length ≤ limit := by
  by_contra more
  rw [next, if_pos (not_le.mp more), Option.map_eq_none_iff, List.getLast?_eq_none_iff,
    List.take_eq_nil_iff] at nothing
  rcases nothing with zero | empty
  · omega
  · simp [empty] at more

variable [LinearOrder κ]

/-- The elements beyond a cursor. -/
def after (key : α → κ) (cursor : Option κ) (xs : List α) : List α :=
  match cursor with
  | none => xs
  | some last => xs.filter fun x => decide (last < key x)

variable {cursor : Option κ} {xs : List α}

/-- The elements beyond a later cursor are some of those beyond an earlier one. -/
theorem after_after {earlier : Option κ} (later : ∀ first ∈ earlier, first < last) :
    after key (some last) (after key earlier xs) = after key (some last) xs := by
  cases earlier with
  | none => rfl
  | some first =>
    have less := later first rfl
    simp only [after, List.filter_filter]
    refine List.filter_congr fun x _ => ?_
    by_cases beyond : last < key x
    · simp [beyond, less.trans beyond]
    · simp [beyond]

theorem mem_after {x : α} (member : x ∈ after key cursor xs) :
    x ∈ xs ∧ ∀ first ∈ cursor, first < key x := by
  cases cursor with
  | none => exact ⟨member, fun _ none_ => absurd none_ (Option.not_mem_none _)⟩
  | some first =>
    obtain ⟨listed, beyond⟩ := List.mem_filter.mp member
    refine ⟨listed, fun other same => ?_⟩
    cases same
    exact of_decide_eq_true beyond

/-- The cursor moves: fewer elements are beyond it. -/
theorem after_next (more : next key limit (after key cursor xs) = some last) :
    (after key (some last) xs).length < (after key cursor xs).length := by
  obtain ⟨x, member, -, rfl⟩ := next_some more
  rw [← after_after (mem_after member).2]
  refine List.length_filter_lt_length_iff_exists.mpr ⟨x, member, ?_⟩
  simp

/-- The pages from a cursor on. -/
def pages (key : α → κ) (limit : ℕ) (xs : List α) (cursor : Option κ) : List (List α) :=
  match _more : next key limit (after key cursor xs) with
  | none => [(after key cursor xs).take limit]
  | some last => (after key cursor xs).take limit :: pages key limit xs (some last)
termination_by (after key cursor xs).length
decreasing_by exact after_next _more

theorem pages_last (nothing : next key limit (after key cursor xs) = none) :
    pages key limit xs cursor = [(after key cursor xs).take limit] := by
  rw [pages]
  split
  next => rfl
  next last more => cases nothing.symm.trans more

theorem pages_more (more : next key limit (after key cursor xs) = some last) :
    pages key limit xs cursor = (after key cursor xs).take limit :: pages key limit xs (some last) := by
  rw [pages]
  split
  next nothing => cases nothing.symm.trans more
  next other more' =>
    cases more.symm.trans more'
    rfl

/-- Beyond the last element of a page are the elements that are not on it. -/
theorem after_last (sorted : xs.Pairwise fun x y => key x < key y) {x : α}
    (ends : ((after key cursor xs).take limit).getLast? = some x) :
    after key (some (key x)) xs = (after key cursor xs).drop limit := by
  have member : x ∈ after key cursor xs := List.mem_of_mem_take (List.mem_of_getLast? ends)
  rw [← after_after (mem_after member).2]
  have ordered : (after key cursor xs).Pairwise fun x y => key x < key y := by
    cases cursor with
    | none => exact sorted
    | some first => exact sorted.sublist List.filter_sublist
  obtain ⟨front, split⟩ := List.getLast?_eq_some_iff.mp ends
  generalize after key cursor xs = rest at split ordered ⊢
  have whole := List.take_append_drop limit rest
  rw [← whole, List.pairwise_append, split, List.pairwise_append] at ordered
  obtain ⟨⟨-, -, before⟩, -, behind⟩ := ordered
  have shown : (rest.take limit).filter (fun y => decide (key x < key y)) = [] := by
    rw [split, List.filter_eq_nil_iff]
    intro y listed
    rcases List.mem_append.mp listed with earlier | here
    · have less := before y earlier x (List.mem_singleton_self x)
      simpa using less.le
    · simp [List.mem_singleton.mp here]
  have left : (rest.drop limit).filter (fun y => decide (key x < key y)) = rest.drop limit := by
    rw [List.filter_eq_self]
    intro y listed
    exact decide_eq_true (behind x (by simp) y listed)
  conv_lhs => rw [← whole]
  rw [after, List.filter_append, shown, left, List.nil_append]

/-- The pages are the elements beyond the first cursor, each of them once and in order. -/
theorem pages_flatten (sorted : xs.Pairwise fun x y => key x < key y) (positive : 0 < limit)
    (cursor : Option κ) : (pages key limit xs cursor).flatten = after key cursor xs := by
  induction cursor using pages.induct key limit xs with
  | case1 cursor nothing =>
    rw [pages_last nothing, List.flatten_cons, List.flatten_nil, List.append_nil,
      List.take_of_length_le (next_none positive nothing)]
  | case2 cursor last more ih =>
    obtain ⟨x, -, ends, rfl⟩ := next_some more
    rw [pages_more more, List.flatten_cons, ih, after_last sorted ends, List.take_append_drop]

end Keyset

end Support
