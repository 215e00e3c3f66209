import Mathlib.Algebra.Order.BigOperators.Group.List
import Mathlib.Data.List.Induction
import Mathlib.Data.List.Nodup
import Mathlib.Tactic.Abel

/-!
# Insertion-ordered dictionaries

A finite map that remembers insertion order, as a list of pairs with distinct
keys. Writing an existing key keeps its place, writing a new key appends, and
deleting a key keeps the order of the others. `total` sums a function over the
entries; the two rewriting rules `total_set` and `total_erase` say what one
write or one deletion does to such a sum.
-/
namespace Support

structure Dict (κ ν : Type) where
  entries : List (κ × ν)
  distinct : (entries.map Prod.fst).Nodup

namespace Dict

variable {κ ν M : Type}

def empty : Dict κ ν := ⟨[], List.nodup_nil⟩

instance : Inhabited (Dict κ ν) := ⟨empty⟩

instance [DecidableEq κ] [DecidableEq ν] : DecidableEq (Dict κ ν) := fun a b =>
  decidable_of_iff (a.entries = b.entries) (by cases a; cases b; simp)

def keys (d : Dict κ ν) : List κ := d.entries.map Prod.fst

def values (d : Dict κ ν) : List ν := d.entries.map Prod.snd

theorem ext_entries {a b : Dict κ ν} (same : a.entries = b.entries) : a = b := by
  cases a; cases b; cases same; rfl

/-! ### Raw association lists -/

section Raw

variable [DecidableEq κ]

def lookup (k : κ) : List (κ × ν) → Option ν
  | [] => none
  | (j, v) :: rest => if j = k then some v else lookup k rest

def store (k : κ) (v : ν) : List (κ × ν) → List (κ × ν)
  | [] => [(k, v)]
  | (j, w) :: rest => if j = k then (k, v) :: rest else (j, w) :: store k v rest

def drop (k : κ) : List (κ × ν) → List (κ × ν)
  | [] => []
  | (j, w) :: rest => if j = k then drop k rest else (j, w) :: drop k rest

theorem lookup_eq_none {k : κ} {xs : List (κ × ν)} :
    lookup k xs = none ↔ k ∉ xs.map Prod.fst := by
  induction xs with
  | nil => simp [lookup]
  | cons e rest ih =>
    obtain ⟨j, v⟩ := e
    by_cases same : j = k
    · simp [lookup, same]
    · simp [lookup, same, ih, Ne.symm same]

theorem lookup_mem {k : κ} {v : ν} {xs : List (κ × ν)} (found : lookup k xs = some v) :
    (k, v) ∈ xs := by
  induction xs with
  | nil => simp [lookup] at found
  | cons e rest ih =>
    obtain ⟨j, w⟩ := e
    by_cases same : j = k
    · simp only [lookup, same, if_true, Option.some.injEq] at found
      simp [same, found]
    · simp only [lookup, same, if_false] at found
      exact List.mem_cons_of_mem _ (ih found)

theorem lookup_of_mem {k : κ} {v : ν} {xs : List (κ × ν)}
    (distinct : (xs.map Prod.fst).Nodup) (member : (k, v) ∈ xs) : lookup k xs = some v := by
  induction xs with
  | nil => simp at member
  | cons e rest ih =>
    obtain ⟨j, w⟩ := e
    simp only [List.map_cons, List.nodup_cons] at distinct
    rcases List.mem_cons.mp member with equal | later
    · cases equal
      simp [lookup]
    · have other : j ≠ k := by
        rintro rfl
        exact distinct.1 (List.mem_map.mpr ⟨(j, v), later, rfl⟩)
      simp [lookup, other, ih distinct.2 later]

theorem keys_store (k : κ) (v : ν) (xs : List (κ × ν)) :
    (store k v xs).map Prod.fst =
      if k ∈ xs.map Prod.fst then xs.map Prod.fst else xs.map Prod.fst ++ [k] := by
  induction xs with
  | nil => simp [store]
  | cons e rest ih =>
    obtain ⟨j, w⟩ := e
    by_cases same : j = k
    · simp [store, same]
    · simp only [store, same, if_false, List.map_cons, ih]
      by_cases member : k ∈ rest.map Prod.fst
      · simp only [member, if_true, List.mem_cons, or_true]
      · simp only [member, if_false, List.mem_cons, or_false, Ne.symm same, List.cons_append]

theorem store_distinct (k : κ) (v : ν) {xs : List (κ × ν)}
    (distinct : (xs.map Prod.fst).Nodup) : ((store k v xs).map Prod.fst).Nodup := by
  rw [keys_store]
  split
  · exact distinct
  next absent =>
    simp only [List.nodup_append, distinct, List.nodup_singleton, true_and]
    rintro a member b hb rfl
    rw [List.mem_singleton.mp hb] at member
    exact absent member

theorem mem_store {k : κ} {v : ν} {xs : List (κ × ν)} {e : κ × ν} (member : e ∈ store k v xs) :
    e = (k, v) ∨ e ∈ xs := by
  induction xs with
  | nil => simpa [store] using member
  | cons first rest ih =>
    obtain ⟨j, w⟩ := first
    rw [store] at member
    split at member
    · rcases List.mem_cons.mp member with here | later
      · exact Or.inl here
      · exact Or.inr (List.mem_cons_of_mem _ later)
    · rcases List.mem_cons.mp member with here | later
      · exact Or.inr (here ▸ List.mem_cons_self)
      · rcases ih later with new | old
        · exact Or.inl new
        · exact Or.inr (List.mem_cons_of_mem _ old)

theorem lookup_store (k j : κ) (v : ν) (xs : List (κ × ν)) :
    lookup j (store k v xs) = if k = j then some v else lookup j xs := by
  induction xs with
  | nil => simp [store, lookup]
  | cons e rest ih =>
    obtain ⟨i, w⟩ := e
    by_cases same : i = k
    · subst same
      by_cases hit : i = j <;> simp [store, lookup, hit]
    · by_cases hit : i = j
      · subst hit
        simp [store, lookup, same, Ne.symm same]
      · simp [store, lookup, same, hit, ih]

theorem drop_sublist (k : κ) (xs : List (κ × ν)) : (drop k xs).Sublist xs := by
  induction xs with
  | nil => exact List.Sublist.slnil
  | cons e rest ih =>
    obtain ⟨j, w⟩ := e
    by_cases same : j = k
    · simpa only [drop, same, if_true] using ih.cons _
    · simpa only [drop, same, if_false] using ih.cons_cons _

theorem drop_distinct (k : κ) {xs : List (κ × ν)} (distinct : (xs.map Prod.fst).Nodup) :
    ((drop k xs).map Prod.fst).Nodup :=
  distinct.sublist ((drop_sublist k xs).map Prod.fst)

theorem lookup_drop (k j : κ) (xs : List (κ × ν)) :
    lookup j (drop k xs) = if k = j then none else lookup j xs := by
  induction xs with
  | nil => simp [drop, lookup]
  | cons e rest ih =>
    obtain ⟨i, w⟩ := e
    by_cases same : i = k
    · subst same
      by_cases hit : i = j
      · subst hit
        simpa [drop] using ih
      · simp [drop, lookup, hit, ih]
    · by_cases hit : i = j
      · subst hit
        simp [drop, lookup, same, Ne.symm same]
      · simp [drop, lookup, same, hit, ih]

end Raw

/-! ### Operations -/

variable [DecidableEq κ]

def get? (d : Dict κ ν) (k : κ) : Option ν := lookup k d.entries

def set (d : Dict κ ν) (k : κ) (v : ν) : Dict κ ν :=
  ⟨store k v d.entries, store_distinct k v d.distinct⟩

def erase (d : Dict κ ν) (k : κ) : Dict κ ν :=
  ⟨drop k d.entries, drop_distinct k d.distinct⟩

/-- Apply a function to every value, in place. -/
def mapValues {ω : Type} (d : Dict κ ν) (f : ν → ω) : Dict κ ω :=
  ⟨d.entries.map fun e => (e.1, f e.2), by simpa [Function.comp_def] using d.distinct⟩

/-- The dictionary that writing the pairs in order produces. -/
def ofPairs (xs : List (κ × ν)) : Dict κ ν := xs.foldl (fun d e => d.set e.1 e.2) empty

@[simp] theorem get?_empty (k : κ) : (empty : Dict κ ν).get? k = none := rfl

@[simp] theorem get?_set_self (d : Dict κ ν) (k : κ) (v : ν) : (d.set k v).get? k = some v := by
  simp [get?, set, lookup_store]

theorem get?_set (d : Dict κ ν) (k j : κ) (v : ν) :
    (d.set k v).get? j = if k = j then some v else d.get? j :=
  lookup_store k j v d.entries

theorem get?_set_of_ne (d : Dict κ ν) {k j : κ} (v : ν) (other : k ≠ j) :
    (d.set k v).get? j = d.get? j := by
  simp [get?_set, other]

/-- Writing what is there already changes nothing. -/
theorem set_of_get? {d : Dict κ ν} {k : κ} {v : ν} (found : d.get? k = some v) : d.set k v = d := by
  have same : ∀ xs : List (κ × ν), lookup k xs = some v → store k v xs = xs := by
    intro xs
    induction xs with
    | nil => simp [lookup]
    | cons e rest ih =>
      obtain ⟨j, w⟩ := e
      simp only [lookup, store]
      split
      next here => simp +contextual [here]
      · intro later
        rw [ih later]
  exact ext_entries (same d.entries found)

theorem set_eq_self_iff {d : Dict κ ν} {k : κ} {v : ν} : d.set k v = d ↔ d.get? k = some v :=
  ⟨fun same => by rw [← same, get?_set_self], set_of_get?⟩

theorem get?_erase (d : Dict κ ν) (k j : κ) :
    (d.erase k).get? j = if k = j then none else d.get? j :=
  lookup_drop k j d.entries

@[simp] theorem get?_erase_self (d : Dict κ ν) (k : κ) : (d.erase k).get? k = none := by
  simp [get?_erase]

theorem mem_entries {d : Dict κ ν} {k : κ} {v : ν} : (k, v) ∈ d.entries ↔ d.get? k = some v :=
  ⟨lookup_of_mem d.distinct, lookup_mem⟩

theorem mem_keys {d : Dict κ ν} {k : κ} : k ∈ d.keys ↔ ∃ v, d.get? k = some v := by
  constructor
  · intro member
    obtain ⟨e, inside, rfl⟩ := List.mem_map.mp member
    exact ⟨e.2, mem_entries.mp inside⟩
  · rintro ⟨v, found⟩
    exact List.mem_map.mpr ⟨(k, v), mem_entries.mpr found, rfl⟩

theorem keys_set_of_mem {d : Dict κ ν} {k : κ} {v : ν} (member : k ∈ d.keys) :
    (d.set k v).keys = d.keys := by
  simp only [keys, set, keys_store] at member ⊢
  rw [if_pos member]

theorem mem_keys_set {d : Dict κ ν} {k j : κ} {v : ν} :
    j ∈ (d.set k v).keys ↔ k = j ∨ j ∈ d.keys := by
  simp only [mem_keys, get?_set]
  by_cases same : k = j <;> simp [same]

theorem mem_values {d : Dict κ ν} {v : ν} : v ∈ d.values ↔ ∃ k, d.get? k = some v := by
  constructor
  · intro member
    obtain ⟨e, inside, rfl⟩ := List.mem_map.mp member
    exact ⟨e.1, mem_entries.mp inside⟩
  · rintro ⟨k, found⟩
    exact List.mem_map.mpr ⟨(k, v), mem_entries.mpr found, rfl⟩

omit [DecidableEq κ] in
@[simp] theorem keys_mapValues {ω : Type} (d : Dict κ ν) (f : ν → ω) : (d.mapValues f).keys = d.keys := by
  simp [keys, mapValues, Function.comp_def]

theorem get?_mapValues {ω : Type} (d : Dict κ ν) (f : ν → ω) (k : κ) :
    (d.mapValues f).get? k = (d.get? k).map f := by
  simp only [get?, mapValues]
  induction d.entries with
  | nil => rfl
  | cons e rest ih =>
    obtain ⟨j, v⟩ := e
    by_cases same : j = k <;> simp [lookup, same, ih]

theorem mapValues_set {ω : Type} (d : Dict κ ν) (f : ν → ω) (k : κ) (v : ν) :
    (d.set k v).mapValues f = (d.mapValues f).set k (f v) := by
  refine ext_entries ?_
  simp only [mapValues, set]
  induction d.entries with
  | nil => rfl
  | cons e rest ih =>
    obtain ⟨j, w⟩ := e
    by_cases same : j = k <;> simp [store, same, ih]

/-! ### Rebuilding a dictionary from its values -/

theorem store_of_not_mem {k : κ} {xs : List (κ × ν)} (absent : k ∉ xs.map Prod.fst) (v : ν) :
    store k v xs = xs ++ [(k, v)] := by
  induction xs with
  | nil => rfl
  | cons e rest ih =>
    obtain ⟨j, w⟩ := e
    simp only [List.map_cons, List.mem_cons, not_or] at absent
    simp [store, Ne.symm absent.1, ih absent.2]

theorem entries_set_of_not_mem {d : Dict κ ν} {k : κ} (absent : k ∉ d.keys) (v : ν) :
    (d.set k v).entries = d.entries ++ [(k, v)] :=
  store_of_not_mem absent v

theorem entries_ofPairs {xs : List (κ × ν)} (distinct : (xs.map Prod.fst).Nodup) :
    (ofPairs xs).entries = xs := by
  induction xs using List.reverseRecOn with
  | nil => rfl
  | append_singleton xs e ih =>
    rw [List.map_append, List.map_singleton, List.nodup_append] at distinct
    have before := ih distinct.1
    have absent : e.1 ∉ (ofPairs xs).keys := by
      rw [keys, before]
      intro member
      exact distinct.2.2 e.1 member e.1 (List.mem_singleton_self _) rfl
    have last : ofPairs (xs ++ [e]) = (ofPairs xs).set e.1 e.2 := by
      simp only [ofPairs, List.foldl_append, List.foldl_cons, List.foldl_nil]
    rw [last, entries_set_of_not_mem absent, before]

/-- A dictionary whose values know their keys is rebuilt from the values alone. -/
theorem ofPairs_values {d : Dict κ ν} {key : ν → κ}
    (keyed : ∀ k v, d.get? k = some v → key v = k) :
    ofPairs (d.values.map fun v => (key v, v)) = d := by
  have same : (d.values.map fun v => (key v, v)) = d.entries := by
    rw [values, List.map_map]
    conv_rhs => rw [← List.map_id d.entries]
    apply List.map_congr_left
    intro e member
    simp only [Function.comp_apply, id_eq, keyed e.1 e.2 (mem_entries.mp member)]
  rw [same]
  exact ext_entries (entries_ofPairs d.distinct)

/-! ### Sums over the entries -/

section Total

variable [AddCommGroup M]

def total (f : κ → ν → M) (d : Dict κ ν) : M := (d.entries.map fun e => f e.1 e.2).sum

omit [DecidableEq κ] in
@[simp] theorem total_empty (f : κ → ν → M) : total f (empty : Dict κ ν) = 0 := rfl

/-- What a key contributes to a total. -/
def at? (f : κ → ν → M) (d : Dict κ ν) (k : κ) : M := (d.get? k).elim 0 (f k)

theorem total_set (f : κ → ν → M) (d : Dict κ ν) (k : κ) (v : ν) :
    total f (d.set k v) = total f d - at? f d k + f k v := by
  simp only [total, at?, get?, set]
  induction d.entries with
  | nil => simp [store, lookup]
  | cons e rest ih =>
    obtain ⟨j, w⟩ := e
    by_cases same : j = k
    · subst same
      simp only [store, lookup, if_true, List.map_cons, List.sum_cons, Option.elim_some]
      abel
    · simp only [store, lookup, same, if_false, List.map_cons, List.sum_cons, ih]
      abel

theorem total_erase (f : κ → ν → M) (d : Dict κ ν) (k : κ) :
    total f (d.erase k) = total f d - at? f d k := by
  obtain ⟨entries, distinct⟩ := d
  simp only [total, at?, get?, erase]
  induction entries with
  | nil => simp [drop, lookup]
  | cons e rest ih =>
    obtain ⟨j, w⟩ := e
    simp only [List.map_cons, List.nodup_cons] at distinct
    have tail := ih distinct.2
    by_cases same : j = k
    · subst same
      have absent : lookup j rest = none := lookup_eq_none.mpr distinct.1
      simp only [absent, Option.elim_none, sub_zero] at tail
      simp [drop, lookup, tail]
    · simp only [drop, same, if_false, List.map_cons, List.sum_cons, lookup, tail]
      abel

omit [DecidableEq κ] in
theorem total_congr {f g : κ → ν → M} {d : Dict κ ν}
    (same : ∀ k v, (k, v) ∈ d.entries → f k v = g k v) : total f d = total g d := by
  simp only [total]
  congr 1
  exact List.map_congr_left fun e member => same e.1 e.2 member

omit [DecidableEq κ] in
theorem total_mapValues {ω : Type} (f : κ → ω → M) (d : Dict κ ν) (g : ν → ω) :
    total f (d.mapValues g) = total (fun k v => f k (g v)) d := by
  simp [total, mapValues, Function.comp_def]

omit [DecidableEq κ] in
theorem total_nonneg [PartialOrder M] [IsOrderedAddMonoid M] {f : κ → ν → M} {d : Dict κ ν}
    (nonneg : ∀ k v, (k, v) ∈ d.entries → 0 ≤ f k v) : 0 ≤ total f d := by
  apply List.sum_nonneg
  intro x member
  obtain ⟨e, inside, rfl⟩ := List.mem_map.mp member
  exact nonneg e.1 e.2 inside

omit [DecidableEq κ] in
theorem total_mono [PartialOrder M] [IsOrderedAddMonoid M] {f g : κ → ν → M} {d : Dict κ ν}
    (below : ∀ k v, (k, v) ∈ d.entries → f k v ≤ g k v) : total f d ≤ total g d :=
  List.sum_le_sum fun e member => below e.1 e.2 member

/-- A nonnegative summand is at most the whole. -/
theorem le_total [PartialOrder M] [IsOrderedAddMonoid M] {f : κ → ν → M} {d : Dict κ ν}
    (nonneg : ∀ k v, (k, v) ∈ d.entries → 0 ≤ f k v) {k : κ} {v : ν}
    (found : d.get? k = some v) : f k v ≤ total f d := by
  apply List.single_le_sum
  · intro x member
    obtain ⟨e, inside, rfl⟩ := List.mem_map.mp member
    exact nonneg e.1 e.2 inside
  · exact List.mem_map.mpr ⟨(k, v), mem_entries.mpr found, rfl⟩

end Total

end Dict

end Support
