import Mathlib.Data.List.Nodup
import Mathlib.Tactic.Common

/-!
# Registers that accept what they already hold

A register keeps one entry under each key. An entry is accepted where its key is new, and
where the entry under its key is the same; any other is refused. A sequence of entries is
accepted as a whole exactly when no two of them, or of what was there before, share a key
and are not the same.
-/
namespace Support

structure Register {α κ : Type} (key : α → κ) where
  rows : List α := []
  distinct : (rows.map key).Nodup

namespace Register

def empty {α κ : Type} (key : α → κ) : Register key := ⟨[], List.nodup_nil⟩

variable {α κ : Type} [DecidableEq κ] {key : α → κ} (same : α → α → Prop)
  [DecidableRel same] {r r' : Register key} {a b : α} {entries others : List α}

def find? (r : Register key) (k : κ) : Option α := r.rows.find? fun row => key row == k

theorem find?_eq_none {k : κ} : r.find? k = none ↔ ∀ row ∈ r.rows, key row ≠ k := by
  simp [find?]

theorem mem_of_find? {k : κ} (found : r.find? k = some a) : a ∈ r.rows ∧ key a = k :=
  ⟨List.mem_of_find?_eq_some found, by simpa using List.find?_some found⟩

theorem distinct_concat (fresh : r.find? (key a) = none) : ((r.rows ++ [a]).map key).Nodup := by
  rw [List.map_append, List.nodup_append]
  refine ⟨r.distinct, by simp, ?_⟩
  intro k old k' new
  obtain ⟨row, member, rfl⟩ := List.mem_map.mp old
  rw [List.map_singleton, List.mem_singleton] at new
  rw [new]
  exact find?_eq_none.mp fresh row member

/-- The rows with one more. -/
def insert (r : Register key) (a : α) (fresh : r.find? (key a) = none) : Register key :=
  ⟨r.rows ++ [a], distinct_concat fresh⟩

/-- One entry; a refusal is `none`. -/
def put (a : α) (r : Register key) : Option (Register key) :=
  match found : r.find? (key a) with
  | none => some (r.insert a found)
  | some row => if same row a then some r else none

def puts : List α → Register key → Option (Register key)
  | [], r => some r
  | a :: entries, r => (put same a r).bind (puts entries)

/-- Two entries that do not contradict each other. -/
def Agree (key : α → κ) (same : α → α → Prop) (a b : α) : Prop := key a = key b → same a b

omit [DecidableEq κ] in
theorem eq_of_key (r : Register key) (left : a ∈ r.rows) (right : b ∈ r.rows)
    (shared : key a = key b) : a = b :=
  List.inj_on_of_nodup_map r.distinct left right shared

theorem count_le_one (r : Register key) (k : κ) :
    (r.rows.filter fun row => key row == k).length ≤ 1 := by
  have once := List.nodup_iff_count_le_one.mp r.distinct k
  rwa [List.count, List.countP_map, List.countP_eq_length_filter] at once

section Rules

variable {same}

theorem put_of_new (fresh : r.find? (key a) = none) :
    put same a r = some (r.insert a fresh) := by
  unfold put
  split
  · rfl
  next row found =>
    rw [fresh] at found
    cases found

theorem put_of_found {row : α} (found : r.find? (key a) = some row) :
    put same a r = if same row a then some r else none := by
  unfold put
  split
  next fresh =>
    rw [found] at fresh
    cases fresh
  next other there =>
    rw [found] at there
    cases there
    rfl

/-- An accepted entry adds its row, or is the same as the row under its key. -/
theorem put_some (went : put same a r = some r') :
    (∀ row ∈ r.rows, key row ≠ key a) ∧ r'.rows = r.rows ++ [a] ∨
      r' = r ∧ ∃ row ∈ r.rows, key row = key a ∧ same row a := by
  cases found : r.find? (key a) with
  | none =>
    rw [put_of_new found] at went
    cases went
    exact Or.inl ⟨find?_eq_none.mp found, rfl⟩
  | some row =>
    rw [put_of_found found] at went
    split at went
    next alike =>
      cases went
      obtain ⟨member, under⟩ := mem_of_find? found
      exact Or.inr ⟨rfl, row, member, under, alike⟩
    · cases went

theorem put_isSome_iff : (put same a r).isSome ↔ ∀ row ∈ r.rows, Agree key same row a := by
  cases found : r.find? (key a) with
  | none =>
    simp only [put_of_new found, Option.isSome_some, true_iff]
    intro row member shared
    exact absurd shared (find?_eq_none.mp found row member)
  | some row =>
    obtain ⟨member, under⟩ := mem_of_find? found
    rw [put_of_found found]
    constructor
    · intro accepted other inside shared
      -- the keys are distinct, so it is the row that was found
      obtain rfl := r.eq_of_key inside member (shared.trans under.symm)
      by_contra different
      simp [different] at accepted
    · intro agree
      simp [agree row member under]

/-- A sequence is accepted exactly when its entries contradict neither the rows nor each other. -/
theorem puts_isSome_iff (euclid : ∀ x y z, same x y → same x z → same y z) :
    (puts same entries r).isSome ↔
      (∀ row ∈ r.rows, ∀ a ∈ entries, Agree key same row a) ∧
        entries.Pairwise (Agree key same) := by
  induction entries generalizing r with
  | nil => simp [puts]
  | cons a entries ih =>
    rw [puts, List.pairwise_cons]
    cases went : put same a r with
    | none =>
      have refused : ¬ ∀ row ∈ r.rows, Agree key same row a := by
        rw [← put_isSome_iff, went]
        simp
      simp only [Option.bind_none, Option.isSome_none, Bool.false_eq_true, false_iff]
      exact fun both => refused fun row member => both.1 row member a List.mem_cons_self
    | some r' =>
      have accepted : ∀ row ∈ r.rows, Agree key same row a := by
        rw [← put_isSome_iff, went]
        rfl
      rw [Option.bind_some, ih]
      rcases put_some went with ⟨-, rows⟩ | ⟨rfl, row, member, under, alike⟩
      · simp only [rows, List.mem_append, List.mem_cons, List.not_mem_nil, or_false]
        constructor
        · rintro ⟨agree, apart⟩
          refine ⟨?_, fun e inside => agree a (Or.inr rfl) e inside, apart⟩
          rintro row member e (rfl | inside)
          · exact accepted row member
          · exact agree row (Or.inl member) e inside
        · rintro ⟨agree, first, apart⟩
          refine ⟨?_, apart⟩
          rintro row (member | rfl) e inside
          · exact agree row member e (Or.inr inside)
          · exact first e inside
      · -- what the row under the key agrees with, the entry agrees with
        constructor
        · rintro ⟨agree, apart⟩
          refine ⟨?_, ?_, apart⟩
          · intro other there e inside
            rcases List.mem_cons.mp inside with rfl | later
            · exact accepted other there
            · exact agree other there e later
          · intro e inside shared
            exact euclid row a e alike (agree row member e inside (under.trans shared))
        · rintro ⟨agree, -, apart⟩
          exact ⟨fun other there e inside => agree other there e (List.mem_cons_of_mem _ inside),
            apart⟩

theorem puts_append :
    puts same (entries ++ others) r = (puts same entries r).bind (puts same others) := by
  induction entries generalizing r with
  | nil => rfl
  | cons a entries ih =>
    rw [List.cons_append, puts, puts]
    cases put same a r with
    | none => rfl
    | some r' => exact ih

end Rules

end Register

end Support
