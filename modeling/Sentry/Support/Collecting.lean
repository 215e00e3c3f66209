import Mathlib.Data.List.Perm.Basic
import Sentry.Support.Dict

/-!
# Collecting under keys

A scan that keeps one value under each key: an element meets the value that is there under its
key and replaces it, or ends the scan. A scan falls into one scan for each key. It comes to its
end where all of these do, and the value under a key is what the elements with that key alone
come to.
-/
namespace Support

variable {α κ ν ε : Type}

/-- The key of an element, and what becomes of the value under that key. -/
structure Collector (α κ ν ε : Type) where
  key : α → κ
  next : Option ν → α → Except ε ν

namespace Collector

variable (c : Collector α κ ν ε)

/-- One element more under its own key. -/
def one (v : Option ν) (a : α) : Except ε (Option ν) :=
  match c.next v a with
  | .ok v => .ok (some v)
  | .error e => .error e

variable {c} in
theorem one_of_next {u : Option ν} {a : α} {w : ν} (stepped : c.next u a = .ok w) :
    c.one u a = .ok (some w) := by
  rw [one, stepped]

variable {c} in
theorem one_ok {u v : Option ν} {a : α} (went : c.one u a = .ok v) :
    ∃ w, c.next u a = .ok w ∧ v = some w := by
  rw [one] at went
  cases stepped : c.next u a with
  | error e =>
    rw [stepped] at went
    cases went
  | ok w =>
    rw [stepped] at went
    exact ⟨w, rfl, (Except.ok.inj went).symm⟩

variable [DecidableEq κ]

def step (d : Dict κ ν) (a : α) : Except ε (Dict κ ν) :=
  match c.next (d.get? (c.key a)) a with
  | .ok v => .ok (d.set (c.key a) v)
  | .error e => .error e

def collect (xs : List α) : Except ε (Dict κ ν) := xs.foldlM c.step .empty

/-- The elements with a key. -/
def under (k : κ) (xs : List α) : List α := xs.filter fun a => c.key a = k

/-- What they come to. -/
def single (k : κ) (xs : List α) : Except ε (Option ν) := (c.under k xs).foldlM c.one none

variable {c} {xs : List α} {d d' : Dict κ ν} {a : α}

theorem under_cons_self : c.under (c.key a) (a :: xs) = a :: c.under (c.key a) xs := by
  simp [under]

theorem under_cons_of_ne {k : κ} (other : c.key a ≠ k) : c.under k (a :: xs) = c.under k xs := by
  simp [under, other]

theorem mem_under {k : κ} : a ∈ c.under k xs ↔ a ∈ xs ∧ c.key a = k := by
  simp [under]

/-- The value under a key, from whatever was there before the scan. -/
theorem foldlM_get? (went : xs.foldlM c.step d = .ok d') (k : κ) :
    (c.under k xs).foldlM c.one (d.get? k) = .ok (d'.get? k) := by
  induction xs generalizing d with
  | nil =>
    cases went
    rfl
  | cons a xs ih =>
    rw [List.foldlM_cons] at went
    cases stepped : c.next (d.get? (c.key a)) a with
    | error e =>
      simp only [step, stepped] at went
      cases went
    | ok v =>
      simp only [step, stepped] at went
      have rest := ih went
      by_cases same : c.key a = k
      · subst same
        rw [Dict.get?_set_self] at rest
        rw [under_cons_self, List.foldlM_cons]
        simp only [one, stepped]
        exact rest
      · rw [Dict.get?_set_of_ne d v same] at rest
        rw [under_cons_of_ne same, rest]

theorem foldlM_of_single
    (each : ∀ k, ∃ v, (c.under k xs).foldlM c.one (d.get? k) = .ok v) :
    ∃ d', xs.foldlM c.step d = .ok d' := by
  induction xs generalizing d with
  | nil => exact ⟨d, rfl⟩
  | cons a xs ih =>
    obtain ⟨v, here⟩ := each (c.key a)
    rw [under_cons_self, List.foldlM_cons] at here
    cases stepped : c.next (d.get? (c.key a)) a with
    | error e =>
      simp only [one, stepped] at here
      cases here
    | ok w =>
      simp only [one, stepped] at here
      obtain ⟨d', went⟩ : ∃ d', xs.foldlM c.step (d.set (c.key a) w) = .ok d' := by
        apply ih
        intro k
        by_cases same : c.key a = k
        · subst same
          exact ⟨v, by rw [Dict.get?_set_self]; exact here⟩
        · obtain ⟨u, there⟩ := each k
          rw [under_cons_of_ne same] at there
          exact ⟨u, by rw [Dict.get?_set_of_ne d w same, there]⟩
      refine ⟨d', ?_⟩
      rw [List.foldlM_cons]
      simp only [step, stepped]
      exact went

theorem single_of_collect (went : c.collect xs = .ok d) (k : κ) :
    c.single k xs = .ok (d.get? k) := foldlM_get? went k

/-- A scan comes to its end where the scan of every key does. -/
theorem exists_collect_iff :
    (∃ d, c.collect xs = .ok d) ↔ ∀ k, ∃ v, c.single k xs = .ok v := by
  constructor
  · rintro ⟨d, went⟩ k
    exact ⟨_, single_of_collect went k⟩
  · exact fun each => foldlM_of_single each

end Collector

/-- Two dictionaries that agree under every key have the same entries, in some order. -/
theorem Dict.entries_perm [DecidableEq κ] {a b : Dict κ ν} (same : ∀ k, a.get? k = b.get? k) :
    a.entries.Perm b.entries := by
  have nodup (d : Dict κ ν) : d.entries.Nodup := List.Nodup.of_map Prod.fst d.distinct
  refine (List.perm_ext_iff_of_nodup (nodup a) (nodup b)).mpr ?_
  rintro ⟨k, v⟩
  rw [Dict.mem_entries, Dict.mem_entries, same]

/-- Two dictionaries show the same under every key when each shows what the other does. -/
theorem Dict.map_get?_congr [DecidableEq κ] {β : Type} {a b : Dict κ ν} {show_ : ν → β}
    (forth : ∀ k v, a.get? k = some v → (b.get? k).map show_ = some (show_ v))
    (back : ∀ k v, b.get? k = some v → (a.get? k).map show_ = some (show_ v)) (k : κ) :
    (a.get? k).map show_ = (b.get? k).map show_ := by
  cases left : a.get? k with
  | some v => rw [forth k v left, Option.map_some]
  | none =>
    cases right : b.get? k with
    | none => rfl
    | some w =>
      have here := back k w right
      rw [left] at here
      cases here

/-- Where one dictionary has all entries of another, its entries are those and the rest. -/
theorem Dict.entries_split [DecidableEq κ] {a b : Dict κ ν}
    (kept : ∀ k v, a.get? k = some v → b.get? k = some v) :
    b.entries.Perm (a.entries ++ b.entries.filter fun e => (a.get? e.1).isNone) := by
  have nodup (d : Dict κ ν) : d.entries.Nodup := List.Nodup.of_map Prod.fst d.distinct
  have apart : (a.entries ++ b.entries.filter fun e => (a.get? e.1).isNone).Nodup := by
    refine List.Nodup.append (nodup a) ((nodup b).filter _) ?_
    rintro ⟨k, v⟩ old fresh
    rw [Dict.mem_entries] at old
    simp [old] at fresh
  refine (List.perm_ext_iff_of_nodup (nodup b) apart).mpr ?_
  rintro ⟨k, v⟩
  rw [List.mem_append, List.mem_filter, Dict.mem_entries, Dict.mem_entries,
    Option.isNone_iff_eq_none]
  constructor
  · intro inside
    cases old : a.get? k with
    | none => exact Or.inr ⟨inside, rfl⟩
    | some w =>
      rw [kept k w old] at inside
      exact Or.inl inside
  · rintro (old | ⟨fresh, -⟩)
    · exact kept k v old
    · exact fresh

/-! ### Tables of pairs -/

/-- No key has two values. -/
def Functional (pairs : List (κ × ν)) : Prop :=
  ∀ k v w, (k, v) ∈ pairs → (k, w) ∈ pairs → v = w

theorem Functional.mono {few many : List (κ × ν)} (functional : Functional many)
    (subset : few ⊆ many) : Functional few :=
  fun k v w first second => functional k v w (subset first) (subset second)

variable [DecidableEq κ] {d : Dict κ ν} {pairs : List (κ × ν)} {k : κ} {v : ν}

/-- The table holds the pairs and nothing else. -/
def Dict.Records (d : Dict κ ν) (pairs : List (κ × ν)) : Prop :=
  ∀ k v, d.get? k = some v ↔ (k, v) ∈ pairs

theorem Dict.records_empty : (Dict.empty : Dict κ ν).Records [] := by
  intro k v
  simp

theorem Dict.Records.functional (records : d.Records pairs) : Functional pairs := by
  intro k v w first second
  have here := (records k v).mpr first
  rw [(records k w).mpr second] at here
  exact (Option.some.inj here).symm

/-- A pair is written under a key that has no other value. -/
theorem Dict.Records.set (records : d.Records pairs) (same : (d.get? k).getD v = v) :
    (d.set k v).Records (pairs ++ [(k, v)]) := by
  intro j u
  rw [List.mem_append, List.mem_singleton, Prod.mk.injEq, ← records j u]
  by_cases here : k = j
  · subst here
    rw [Dict.get?_set_self, Option.some.injEq]
    constructor
    · intro is
      exact Or.inr ⟨rfl, is.symm⟩
    · rintro (earlier | ⟨-, is⟩)
      · rw [earlier] at same
        exact same.symm
      · exact is.symm
  · rw [Dict.get?_set_of_ne d v here]
    constructor
    · exact Or.inl
    · rintro (earlier | ⟨is, -⟩)
      · exact earlier
      · exact absurd is.symm here

theorem Dict.Records.getD (records : d.Records pairs)
    (functional : Functional (pairs ++ [(k, v)])) : (d.get? k).getD v = v := by
  cases found : d.get? k with
  | none => rfl
  | some w =>
    exact functional k w v (List.mem_append_left _ ((records k w).mp found)) (by simp)

end Support
