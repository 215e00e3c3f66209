import Sentry.Support.Dict

/-!
# Dictionaries as queues

The operations of an ordered dictionary that use its order: a key is moved to the end, and the
first entry is taken out. Entries are also taken out by what their values are. A dictionary is
no longer than any list that has all of its keys.
-/
namespace Support

namespace Dict

variable {κ ν : Type}

/-- `popitem(last=False)`. -/
def popFirst (d : Dict κ ν) : Dict κ ν :=
  ⟨d.entries.tail, d.distinct.sublist (d.entries.tail_sublist.map Prod.fst)⟩

@[simp] theorem length_keys (d : Dict κ ν) : d.keys.length = d.entries.length := by
  simp [keys]

theorem length_le_of_keys {d : Dict κ ν} {ks : List κ} (known : d.keys ⊆ ks) :
    d.entries.length ≤ ks.length := by
  rw [← length_keys]
  exact (List.subperm_of_subset d.distinct known).length_le

variable [DecidableEq κ]

/-- `move_to_end`, of a key that is there. -/
def moveToEnd (d : Dict κ ν) (k : κ) : Dict κ ν :=
  match d.get? k with
  | none => d
  | some v => (d.erase k).set k v

/-- The keys of the values that are to go, popped one after the other. -/
def discard (d : Dict κ ν) (gone : ν → Bool) : Dict κ ν :=
  ((d.entries.filter fun e => gone e.2).map Prod.fst).foldl erase d

variable {d : Dict κ ν} {k j : κ} {v : ν} {gone : ν → Bool}

theorem get?_foldl_erase (ks : List κ) (d : Dict κ ν) :
    (ks.foldl erase d).get? j = if j ∈ ks then none else d.get? j := by
  induction ks generalizing d with
  | nil => simp
  | cons k ks ih =>
    rw [List.foldl_cons, ih, get?_erase]
    by_cases later : j ∈ ks
    · simp [later]
    · by_cases here : k = j
      · simp [here]
      · simp [later, here, Ne.symm here]

/-- What is left under a key is what was there, if it was not to go. -/
theorem get?_discard : (d.discard gone).get? j = some v ↔ d.get? j = some v ∧ gone v = false := by
  have popped : j ∈ ((d.entries.filter fun e => gone e.2).map Prod.fst) ↔
      ∃ w, d.get? j = some w ∧ gone w = true := by
    constructor
    · intro member
      obtain ⟨e, inside, rfl⟩ := List.mem_map.mp member
      obtain ⟨inside, goes⟩ := List.mem_filter.mp inside
      exact ⟨e.2, mem_entries.mp inside, goes⟩
    · rintro ⟨w, found, goes⟩
      exact List.mem_map.mpr ⟨(j, w), List.mem_filter.mpr ⟨mem_entries.mpr found, goes⟩, rfl⟩
  rw [discard, get?_foldl_erase]
  split
  next out =>
    obtain ⟨w, found, goes⟩ := popped.mp out
    simp only [reduceCtorEq, found, Option.some.injEq, false_iff, not_and]
    rintro rfl
    simp [goes]
  next stays =>
    constructor
    · intro found
      refine ⟨found, ?_⟩
      by_contra goes
      exact stays (popped.mpr ⟨v, found, by simpa using goes⟩)
    · exact And.left

theorem keys_discard_subset : (d.discard gone).keys ⊆ d.keys := by
  intro j member
  obtain ⟨v, left⟩ := mem_keys.mp member
  exact mem_keys.mpr ⟨v, (get?_discard.mp left).1⟩

/-- The order of the keys is all that changes. -/
@[simp] theorem get?_moveToEnd : (d.moveToEnd k).get? j = d.get? j := by
  rw [moveToEnd]
  split
  · rfl
  next v found =>
    rw [get?_set, get?_erase]
    by_cases same : k = j
    · simp [← same, found]
    · simp [same]

theorem keys_moveToEnd_subset : (d.moveToEnd k).keys ⊆ d.keys := by
  intro j member
  obtain ⟨v, found⟩ := mem_keys.mp member
  rw [get?_moveToEnd] at found
  exact mem_keys.mpr ⟨v, found⟩

omit [DecidableEq κ] in
theorem length_popFirst : (d.popFirst).entries.length = d.entries.length - 1 := by
  simp [popFirst]

theorem length_set_of_get?_none (absent : d.get? k = none) (v : ν) :
    (d.set k v).entries.length = d.entries.length + 1 := by
  have fresh : k ∉ d.keys := fun member => by
    obtain ⟨w, found⟩ := mem_keys.mp member
    simp [absent] at found
  rw [entries_set_of_not_mem fresh, List.length_append, List.length_singleton]

end Dict

end Support
