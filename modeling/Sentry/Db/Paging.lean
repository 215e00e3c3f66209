import Sentry.Db.Repository

/-!
# Reading a table to its beginning

A table that is read newest first, a page at a time, each page before the smallest number of the
last one. Whatever was there when the reading began is on one of the pages, also when rows are
appended meanwhile: a page that is not full reaches down to the beginning.
-/
namespace Sentry

/-- `min(row["append_sequence"] for row in rows)`. -/
def minSequence {α : Type} (rows : List (AuditRow α)) : ℕ :=
  (rows.map AuditRow.appendSequence).min?.getD 0

namespace AuditRow

variable {α : Type} {filter : α → Bool} {limit : ℕ} {before : Option ℕ}
  {table rows : List (AuditRow α)} {all : AuditRow α → Prop} {row : AuditRow α}

theorem minSequence_spec (some_ : rows ≠ []) :
    (∃ row ∈ rows, row.appendSequence = minSequence rows) ∧
      ∀ row ∈ rows, minSequence rows ≤ row.appendSequence := by
  unfold minSequence
  cases found : (rows.map appendSequence).min? with
  | none => simp [some_] at found
  | some least =>
    obtain ⟨member, lower⟩ := List.min?_eq_some_iff.mp found
    obtain ⟨row, there, same⟩ := List.mem_map.mp member
    refine ⟨⟨row, there, same⟩, fun row there => ?_⟩
    exact lower _ (List.mem_map_of_mem there)

/-- Of the rows `all`, a page shows those before a number, or as many as it can. -/
def Page (all : AuditRow α → Prop) (limit : ℕ) (before : Option ℕ) (rows : List (AuditRow α)) :
    Prop :=
  ∀ row, all row → precedes before row = false ∨ row ∈ rows ∨
    rows.length = limit ∧ ∀ newer ∈ rows, row.appendSequence < newer.appendSequence

theorem page_listPayloads (increasing : Increasing table)
    (within : ∀ row, all row → row ∈ table ∧ filter row.payload = true) :
    Page all limit before (listPayloads filter limit before table) := by
  intro row member
  obtain ⟨stored, fits⟩ := within row member
  cases early : precedes before row with
  | false => exact .inl rfl
  | true => exact .inr (page_covers increasing stored early fits)

/-- A page that is not full is the last one. -/
theorem Page.last (page : Page all limit before rows) (short : rows.length ≠ limit)
    (member : all row) : precedes before row = false ∨ row ∈ rows := by
  rcases page row member with late | shown | ⟨full, -⟩
  · exact .inl late
  · exact .inr shown
  · exact absurd full short

/-- The next page begins where a page ends. -/
theorem Page.next (page : Page all limit before rows) (some_ : rows ≠ []) (member : all row)
    (late : precedes (some (minSequence rows)) row = false) :
    precedes before row = false ∨ row ∈ rows := by
  simp only [precedes, decide_eq_false_iff_not, not_lt] at late
  rcases page row member with early | shown | ⟨-, older⟩
  · exact .inl early
  · exact .inr shown
  · obtain ⟨⟨least, shown, same⟩, -⟩ := minSequence_spec some_
    have := older least shown
    omega

end AuditRow
end Sentry
