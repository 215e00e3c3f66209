import Mathlib.Data.List.Basic
import Mathlib.Data.List.Infix
import Mathlib.Tactic.Common

/-!
# The append-only repository

`append`, `list_payloads` and `find_payload` of `app/db/repository.py` over one table. Rows
are numbered as they are appended and read newest first, a page at a time: the rows of a page
that is read later are still those of the table as it was when the first page was read.
-/
namespace Sentry

structure AuditRow (α : Type) where
  appendSequence : ℕ
  payload : α

namespace AuditRow

variable {α : Type} {filter : α → Bool} {rows more : List (AuditRow α)} {limit : ℕ}
  {before : Option ℕ}

def append (x : α) (rows : List (AuditRow α)) : List (AuditRow α) :=
  rows ++ [⟨rows.length + 1, x⟩]

def precedes (beforeSequence : Option ℕ) (row : AuditRow α) : Bool :=
  match beforeSequence with
  | none => true
  | some before => decide (row.appendSequence < before)

/-- The newest rows first. -/
def listPayloads (filter : α → Bool) (limit : ℕ) (beforeSequence : Option ℕ)
    (rows : List (AuditRow α)) : List (AuditRow α) :=
  (rows.reverse.filter fun row => precedes beforeSequence row && filter row.payload).take limit

def findPayload (filter : α → Bool) (rows : List (AuditRow α)) : Option (AuditRow α) :=
  (listPayloads filter 1 none rows).head?

theorem findPayload_append (filter : α → Bool) (rows : List (AuditRow α)) (row : AuditRow α) :
    findPayload filter (rows ++ [row]) =
      if filter row.payload then some row else findPayload filter rows := by
  by_cases found : filter row.payload = true
  · simp [findPayload, listPayloads, precedes, found]
  · simp [findPayload, listPayloads, precedes, found]

/-! ### Pages -/

/-- Later rows have larger numbers; numbers may be left out. -/
def Increasing (rows : List (AuditRow α)) : Prop :=
  rows.Pairwise fun a b => a.appendSequence < b.appendSequence

/-- Rows are numbered from one on. -/
def Numbered (rows : List (AuditRow α)) : Prop :=
  rows.map appendSequence = List.range' 1 rows.length

theorem numbered_nil : Numbered ([] : List (AuditRow α)) := rfl

theorem Numbered.append (numbered : Numbered rows) (x : α) : Numbered (append x rows) := by
  unfold Numbered AuditRow.append at *
  rw [List.map_append, numbered, List.length_append, List.length_singleton, List.range'_1_concat]
  simp [Nat.add_comm]

theorem Numbered.of_append (numbered : Numbered (rows ++ more)) : Numbered rows := by
  unfold Numbered at *
  rw [List.map_append, List.length_append, ← List.range'_append_1] at numbered
  exact (List.append_inj numbered (by simp)).1

/-- The rows before a number, in the order in which they were appended. -/
def older (filter : α → Bool) (before : Option ℕ) (rows : List (AuditRow α)) :
    List (AuditRow α) :=
  rows.filter fun row => precedes before row && filter row.payload

theorem listPayloads_eq : listPayloads filter limit before rows =
    (older filter before rows).reverse.take limit := by
  unfold listPayloads older
  rw [List.filter_reverse]

theorem Numbered.increasing (numbered : Numbered rows) : Increasing rows := by
  have sorted : (rows.map appendSequence).Pairwise (· < ·) := by
    rw [numbered]
    exact List.pairwise_lt_range'
  exact List.pairwise_map.mp sorted

theorem Numbered.bounds (numbered : Numbered rows) {row : AuditRow α} (member : row ∈ rows) :
    1 ≤ row.appendSequence ∧ row.appendSequence ≤ rows.length := by
  have there : row.appendSequence ∈ rows.map appendSequence := List.mem_map_of_mem member
  rw [numbered, List.mem_range'_1] at there
  omega

/-- Rows that are appended later are not before a row that is there already. -/
theorem older_append (numbered : Numbered (rows ++ more)) {row : AuditRow α}
    (member : row ∈ rows) :
    older filter (some row.appendSequence) (rows ++ more) =
      older filter (some row.appendSequence) rows := by
  have late : older filter (some row.appendSequence) more = [] := by
    rw [older, List.filter_eq_nil_iff]
    intro later new
    have less := (List.pairwise_append.mp numbered.increasing).2.2 row member later new
    simp only [precedes, Bool.and_eq_true, decide_eq_true_eq]
    omega
  unfold older at late ⊢
  rw [List.filter_append, late, List.append_nil]

/-- Of rows in increasing order, those before the last row of a page are those that come
after the page. -/
theorem older_split (ordered : Increasing rows) {first rest : List (AuditRow α)}
    {last : AuditRow α}
    (split : older filter before rows = first ++ last :: rest) :
    older filter (some last.appendSequence) rows = first := by
  have increasing : (older filter before rows).Pairwise
      fun a b => a.appendSequence < b.appendSequence :=
    ordered.sublist List.filter_sublist
  have member : last ∈ older filter before rows := by simp [split]
  have early : precedes before last = true := by
    have kept := (List.mem_filter.mp member).2
    simp only [Bool.and_eq_true] at kept
    exact kept.1
  have narrowed : older filter (some last.appendSequence) rows =
      (older filter before rows).filter (precedes (some last.appendSequence)) := by
    unfold older
    rw [List.filter_filter]
    congr 1
    funext row
    -- a row before the last one is before the bound as well
    cases before with
    | none => simp [precedes]
    | some bound =>
      simp only [precedes, decide_eq_true_eq] at early
      by_cases smaller : row.appendSequence < last.appendSequence
      · simp [precedes, smaller, smaller.trans early]
      · simp [precedes, smaller]
  rw [narrowed, split, List.filter_append]
  rw [split, List.pairwise_append, List.pairwise_cons] at increasing
  have all : first.filter (precedes (some last.appendSequence)) = first := by
    rw [List.filter_eq_self]
    intro row earlier
    have less := increasing.2.2 row earlier last (by simp)
    simpa [precedes] using less
  have none_left : (last :: rest).filter (precedes (some last.appendSequence)) = [] := by
    rw [List.filter_eq_nil_iff]
    intro row later
    rcases List.mem_cons.mp later with rfl | further
    · simp [precedes]
    · have less := increasing.2.1.1 row further
      simp only [precedes, decide_eq_true_eq]
      omega
  rw [all, none_left, List.append_nil]

/-- A page and the rows before its last one are all the rows. -/
theorem page_append_older (ordered : Increasing rows) {last : AuditRow α}
    (ends : (listPayloads filter limit before rows).getLast? = some last) :
    listPayloads filter limit before rows ++
        (older filter (some last.appendSequence) rows).reverse =
      (older filter before rows).reverse := by
  rw [listPayloads_eq] at ends ⊢
  obtain ⟨page, shown⟩ := List.getLast?_eq_some_iff.mp ends
  have whole := List.take_append_drop limit (older filter before rows).reverse
  generalize (older filter before rows).reverse.drop limit = rest at whole
  rw [shown] at whole ⊢
  have split : older filter before rows = rest.reverse ++ last :: page.reverse := by
    rw [← List.reverse_inj, ← whole]
    simp
  rw [older_split ordered split, List.reverse_reverse, whole]

/-! ### What a page shows -/

variable {row : AuditRow α}

theorem mem_listPayloads (shown : row ∈ listPayloads filter limit before rows) :
    row ∈ rows ∧ precedes before row = true ∧ filter row.payload = true := by
  have kept := List.mem_of_mem_take shown
  simpa [List.mem_filter] using kept

theorem findPayload_some (found : findPayload filter rows = some row) :
    row ∈ rows ∧ filter row.payload = true := by
  have shown : row ∈ listPayloads filter 1 none rows := List.mem_of_mem_head? found
  exact ⟨(mem_listPayloads shown).1, (mem_listPayloads shown).2.2⟩

theorem findPayload_none (found : findPayload filter rows = none) (member : row ∈ rows) :
    filter row.payload = false := by
  have empty : rows.reverse.filter (fun row => precedes none row && filter row.payload) = [] := by
    unfold findPayload listPayloads at found
    rwa [List.head?_take, if_neg Nat.one_ne_zero, List.head?_eq_none_iff] at found
  have out := List.filter_eq_nil_iff.mp empty row (List.mem_reverse.mpr member)
  simpa [precedes] using out

/-- A row of the table is on the page, or the page is full of newer rows. -/
theorem page_covers (increasing : Increasing rows) (member : row ∈ rows)
    (early : precedes before row = true) (fits : filter row.payload = true) :
    row ∈ listPayloads filter limit before rows ∨
      (listPayloads filter limit before rows).length = limit ∧
        ∀ shown ∈ listPayloads filter limit before rows,
          row.appendSequence < shown.appendSequence := by
  unfold listPayloads
  have decreasing :
      (rows.reverse.filter fun row => precedes before row && filter row.payload).Pairwise
        fun a b => b.appendSequence < a.appendSequence :=
    (List.pairwise_reverse.mpr increasing).sublist List.filter_sublist
  have there : row ∈ rows.reverse.filter fun row => precedes before row && filter row.payload := by
    simp [member, early, fits]
  generalize rows.reverse.filter (fun row => precedes before row && filter row.payload) = all
    at decreasing there
  rw [← List.take_append_drop limit all] at decreasing there
  rcases List.mem_append.mp there with shown | left
  · exact .inl shown
  · right
    constructor
    · have more : limit < all.length := by
        by_contra short
        rw [List.drop_eq_nil_of_le (not_lt.mp short)] at left
        cases left
      rw [List.length_take]
      omega
    · intro newer onPage
      exact (List.pairwise_append.mp decreasing).2.2 newer onPage row left

/-! ### Several writers -/

/-- The rows that pass a filter, in the order in which they were appended. -/
def matching (filter : α → Bool) (rows : List (AuditRow α)) : List (AuditRow α) :=
  rows.filter fun row => filter row.payload

@[simp] theorem mem_matching : row ∈ matching filter rows ↔
    row ∈ rows ∧ filter row.payload = true := by
  simp [matching]

/-- The newest of the rows that pass. -/
theorem findPayload_eq_getLast? : findPayload filter rows = (matching filter rows).getLast? := by
  unfold findPayload listPayloads matching
  rw [List.head?_take, if_neg Nat.one_ne_zero, List.filter_reverse, List.head?_reverse]
  simp [precedes]

/-- Where two rows never pass a filter both, one does at most. -/
theorem length_matching_le_one (apart : rows.Pairwise fun a b =>
    filter a.payload = true → filter b.payload = false) : (matching filter rows).length ≤ 1 := by
  have shown : (matching filter rows).Pairwise fun a b =>
      filter a.payload = true → filter b.payload = false := apart.sublist List.filter_sublist
  have fits : ∀ row ∈ matching filter rows, filter row.payload = true := fun row member =>
    (mem_matching.mp member).2
  generalize matching filter rows = found at shown fits
  match found with
  | [] | [_] => simp
  | first :: second :: rest =>
    have out := List.rel_of_pairwise_cons shown List.mem_cons_self (fits first (by simp))
    rw [fits second (by simp)] at out
    cases out

/-- The table after appends of others, none of which passes the filter. -/
structure Grows (mine : α → Bool) (rows rows' : List (AuditRow α)) : Prop where
  grown : rows <+: rows'
  increasing : Increasing rows → Increasing rows'
  others : matching mine rows' = matching mine rows

theorem Grows.refl (mine : α → Bool) (rows : List (AuditRow α)) : Grows mine rows rows :=
  ⟨List.prefix_rfl, id, rfl⟩

theorem Grows.split {mine : α → Bool} {rows rows' : List (AuditRow α)}
    (grows : Grows mine rows rows') :
    ∃ more, rows' = rows ++ more ∧ ∀ row ∈ more, mine row.payload = false := by
  obtain ⟨more, rfl⟩ := grows.grown
  have none_ : matching mine more = [] := by
    have same := grows.others
    rw [matching, List.filter_append] at same
    exact List.append_right_eq_self.mp same
  refine ⟨more, rfl, fun row member => ?_⟩
  simpa using List.filter_eq_nil_iff.mp none_ row member

/-- Rows that are appended later have larger numbers than a row that is there. -/
theorem Increasing.mem_of_le {rows' : List (AuditRow α)} {other : AuditRow α}
    (increasing : Increasing rows') (grown : rows <+: rows') (member : row ∈ rows)
    (there : other ∈ rows') (le : other.appendSequence ≤ row.appendSequence) : other ∈ rows := by
  obtain ⟨more, rfl⟩ := grown
  rcases List.mem_append.mp there with old | new
  · exact old
  · have less := (List.pairwise_append.mp increasing).2.2 row member other new
    omega

/-- The table after an append of one row, under whatever number it was given. -/
def Appended (x : α) (rows rows' : List (AuditRow α)) : Prop :=
  ∃ sequence, rows' = rows ++ [⟨sequence, x⟩] ∧ ∀ row ∈ rows, row.appendSequence < sequence

variable {x : α} {rows' : List (AuditRow α)}

theorem Appended.grown (appended : Appended x rows rows') : rows <+: rows' := by
  obtain ⟨sequence, rfl, -⟩ := appended
  exact List.prefix_append _ _

theorem Appended.increasing (appended : Appended x rows rows') (before : Increasing rows) :
    Increasing rows' := by
  obtain ⟨sequence, rfl, larger⟩ := appended
  refine List.pairwise_append.mpr ⟨before, List.pairwise_singleton _ _, ?_⟩
  intro row earlier last isLast
  cases List.mem_singleton.mp isLast
  exact larger row earlier

/-- A row under the next number. -/
def push (x : α) (rows : List (AuditRow α)) : List (AuditRow α) :=
  rows ++ [⟨(rows.map appendSequence).foldr max 0 + 1, x⟩]

theorem appended_push (x : α) (rows : List (AuditRow α)) : Appended x rows (push x rows) := by
  refine ⟨_, rfl, fun row member => Nat.lt_succ_of_le ?_⟩
  induction rows with
  | nil => cases member
  | cons first rest ih =>
    rcases List.mem_cons.mp member with rfl | later
    · exact le_max_left _ _
    · exact (ih later).trans (le_max_right _ _)

theorem Appended.matching_eq (appended : Appended x rows rows') (filter : α → Bool) :
    ∃ sequence, matching filter rows' =
      matching filter rows ++ if filter x = true then [⟨sequence, x⟩] else [] := by
  obtain ⟨sequence, rfl, -⟩ := appended
  refine ⟨sequence, ?_⟩
  by_cases fits : filter x = true
  · simp [matching, fits]
  · simp [matching, fits]

end AuditRow
end Sentry
