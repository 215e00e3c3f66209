import Mathlib.Tactic.Common

/-!
# Nested data

Values built from scalars, lists, tuples and mappings to any depth. A mapping is the list of its
entries in the order in which they are iterated. `induct` gives the hypothesis for whatever a
container holds; `keys` are the keys of every mapping anywhere, which are the `openKeys` that
mappings alone lead to and the `hiddenKeys` below some list or tuple.
-/
namespace Support

inductive Tree (κ σ : Type) where
  | scalar (value : σ)
  | list (items : List (Tree κ σ))
  | tuple (items : List (Tree κ σ))
  | mapping (entries : List (κ × Tree κ σ))

namespace Tree

variable {κ σ : Type}

/-- Induction over the items and the values of the containers. -/
theorem induct {P : Tree κ σ → Prop} (scalar : ∀ value, P (.scalar value))
    (list : ∀ items, (∀ item ∈ items, P item) → P (.list items))
    (tuple : ∀ items, (∀ item ∈ items, P item) → P (.tuple items))
    (mapping : ∀ entries, (∀ entry ∈ entries, P entry.2) → P (.mapping entries))
    (tree : Tree κ σ) : P tree := by
  cases tree with
  | scalar value => exact scalar value
  | list items => exact list items fun item _ => induct scalar list tuple mapping item
  | tuple items => exact tuple items fun item _ => induct scalar list tuple mapping item
  | mapping entries => exact mapping entries fun entry _ => induct scalar list tuple mapping entry.2
termination_by sizeOf tree
decreasing_by
  all_goals simp_wf
  · have smaller := List.sizeOf_lt_of_mem ‹_›
    omega
  · have smaller := List.sizeOf_lt_of_mem ‹_›
    omega
  · obtain ⟨key, child⟩ := entry
    have smaller := List.sizeOf_lt_of_mem ‹_›
    simp only [Prod.mk.sizeOf_spec] at smaller
    change sizeOf child < _
    omega

/-! ### The keys of a value -/

mutual

def keys : Tree κ σ → List κ
  | .scalar _ => []
  | .list items | .tuple items => itemKeys items
  | .mapping entries => entryKeys entries

def itemKeys : List (Tree κ σ) → List κ
  | [] => []
  | item :: rest => keys item ++ itemKeys rest

def entryKeys : List (κ × Tree κ σ) → List κ
  | [] => []
  | (key, child) :: rest => key :: (keys child ++ entryKeys rest)

end

mutual

/-- The keys that are reached through mappings alone. -/
def openKeys : Tree κ σ → List κ
  | .scalar _ | .list _ | .tuple _ => []
  | .mapping entries => openEntryKeys entries

def openEntryKeys : List (κ × Tree κ σ) → List κ
  | [] => []
  | (key, child) :: rest => key :: (openKeys child ++ openEntryKeys rest)

end

mutual

/-- The keys below a list or a tuple. -/
def hiddenKeys : Tree κ σ → List κ
  | .scalar _ => []
  | .list items | .tuple items => itemKeys items
  | .mapping entries => hiddenEntryKeys entries

def hiddenEntryKeys : List (κ × Tree κ σ) → List κ
  | [] => []
  | (_, child) :: rest => hiddenKeys child ++ hiddenEntryKeys rest

end

theorem mem_entryKeys_of {key : κ} {entries : List (κ × Tree κ σ)}
    (each : ∀ entry ∈ entries,
      key ∈ keys entry.2 ↔ key ∈ openKeys entry.2 ∨ key ∈ hiddenKeys entry.2) :
    key ∈ entryKeys entries ↔ key ∈ openEntryKeys entries ∨ key ∈ hiddenEntryKeys entries := by
  induction entries with
  | nil => simp [entryKeys, openEntryKeys, hiddenEntryKeys]
  | cons entry rest ih =>
    have here := each entry List.mem_cons_self
    have later := ih fun entry member => each entry (List.mem_cons_of_mem _ member)
    obtain ⟨first, child⟩ := entry
    simp only [entryKeys, openEntryKeys, hiddenEntryKeys, List.mem_cons, List.mem_append, here, later]
    tauto

/-- Every key is open or hidden. -/
theorem mem_keys {key : κ} (tree : Tree κ σ) :
    key ∈ tree.keys ↔ key ∈ tree.openKeys ∨ key ∈ tree.hiddenKeys := by
  induction tree using induct with
  | scalar value => simp [keys, openKeys, hiddenKeys]
  | list items _ => simp [keys, openKeys, hiddenKeys]
  | tuple items _ => simp [keys, openKeys, hiddenKeys]
  | mapping entries ih =>
    simp only [keys, openKeys, hiddenKeys]
    exact mem_entryKeys_of ih

end Tree

end Support
