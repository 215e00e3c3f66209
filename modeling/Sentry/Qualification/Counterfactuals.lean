import Sentry.Qualification.Completion

/-!
# Counterfactual decisions of a session

The gate of the counterfactual decisions compares what all sessions together have recorded with
what they require. Totals are equal session by session only where no session has recorded more
than it requires, and the ids of two sessions are compared by nothing.
-/
namespace Sentry

open Support

/-- Each session has recorded as many counterfactuals as it requires, and no id counts twice. -/
structure CounterfactualsComplete (sessions : List SessionRecord) : Prop where
  exact_ : ∀ s ∈ sessions, s.policyCounterfactualIds.length = s.policyCounterfactualsRequired
  apart : sessions.Pairwise fun s s' =>
    s.policyCounterfactualIds.Disjoint s'.policyCounterfactualIds

/-- Equal sums of which one is never the larger are equal term by term. -/
theorem eq_of_sum_eq {α : Type} {f g : α → ℕ} {xs : List α} (le : ∀ x ∈ xs, f x ≤ g x)
    (same : (xs.map f).sum = (xs.map g).sum) : ∀ x ∈ xs, f x = g x := by
  induction xs with
  | nil => simp
  | cons first rest ih =>
    have here := le first List.mem_cons_self
    have later : ∀ x ∈ rest, f x ≤ g x := fun x listed => le x (List.mem_cons_of_mem _ listed)
    have others : (rest.map f).sum ≤ (rest.map g).sum := List.sum_le_sum later
    simp only [List.map_cons, List.sum_cons] at same
    intro x listed
    rcases List.mem_cons.mp listed with rfl | member
    · omega
    · exact ih later (by omega) x member

open QualificationEvaluator

/-- A passed report has its counterfactuals complete session by session if and only if
qualifying sessions record no more than they require, and share no id. -/
theorem counterfactuals_complete_iff (ev : QualificationEvaluator)
    (sessions : List (SessionEvidence ev.calendar.timezone)) (at_ : Time)
    (audit : Option AuditCompleteness) (invalidRecords : List String) (qualificationId : UUID) :
    ((ev.evaluate sessions at_ audit invalidRecords qualificationId).status = .passed →
        CounterfactualsComplete (sessions.map SessionEvidence.toSessionRecord)) ↔
      (Qualified ev (inOrder (sessions.map SessionEvidence.toSessionRecord)) audit
          invalidRecords →
        (∀ s ∈ sessions, s.policyCounterfactualIds.length ≤ s.policyCounterfactualsRequired) ∧
          sessions.Pairwise fun s s' =>
            s.policyCounterfactualIds.Disjoint s'.policyCounterfactualIds) := by
  rw [evaluate_passed_iff]
  have records := ranking_perm (fun s : SessionRecord =>
    toLex (s.regularSessionDate, s.sessionId.val)) (sessions.map SessionEvidence.toSessionRecord)
  constructor
  · intro complete qualified
    obtain ⟨exact_, apart⟩ := complete qualified
    rw [List.pairwise_map] at apart
    exact ⟨fun s listed => (exact_ _ (List.mem_map_of_mem listed)).le, apart⟩
  · intro condition qualified
    obtain ⟨within, apart⟩ := condition qualified
    refine ⟨fun s listed => ?_, List.pairwise_map.mpr apart⟩
    have ordered_within : ∀ s ∈ inOrder (sessions.map SessionEvidence.toSessionRecord),
        s.policyCounterfactualIds.length ≤ s.policyCounterfactualsRequired := by
      intro s ordered
      obtain ⟨evidence, member, rfl⟩ := List.mem_map.mp (records.mem_iff.mp ordered)
      exact within evidence member
    exact eq_of_sum_eq ordered_within qualified.counterfactuals s (records.mem_iff.mpr listed)

namespace QualificationSample

/-- Monday records a decision that nothing requires, and Tuesday, which requires two of them,
records the same one. -/
def unevenOf (k : ℤ) : SessionRecord :=
  { recordOf k with
    createdAt := onDay k (hours 22)
    policyCounterfactualsRequired := if k = 6 then 2 else 0
    policyCounterfactualIds := if k = 5 ∨ k = 6 then [⟨20⟩] else [] }

theorem unevenOf_valid (k : ℤ) (member : k ∈ days) : (unevenOf k).FieldsValid :=
  let valid := recordOf_valid k member
  ⟨valid.namespace_length, valid.fingerprint_length, valid.protocol_length, valid.catalog_length,
    valid.catalog_hash, valid.schema_names, valid.schema_hashes, valid.amounts_nonneg⟩

theorem unevenOf_consistent : ∀ k ∈ days, (unevenOf k).Consistent .newYork := by
  have unique : ∀ k ∈ days, ∀ ids ∈ (unevenOf k).identityGroups, ids.Nodup := by decide
  intro k member
  have consistent := recordOf_consistent k member
  exact ⟨unique k member, consistent.disjoint, consistent.sameDate, consistent.ordered⟩

def unevenSession (k : ℤ) (member : k ∈ days) : SessionEvidence evaluator.calendar.timezone :=
  ⟨unevenOf k, unevenOf_valid k member, unevenOf_consistent k member⟩

def unevenWeek : List (SessionEvidence evaluator.calendar.timezone) :=
  days.attach.map fun k => unevenSession k.1 (attached_listed k)

theorem inOrder_unevenWeek :
    inOrder (unevenWeek.map SessionEvidence.toSessionRecord) = days.map unevenOf := by
  have records : unevenWeek.map SessionEvidence.toSessionRecord = days.map unevenOf := rfl
  rw [records]
  apply List.mergeSort_of_pairwise
  decide

theorem spans_unevenOf (k : ℤ) (member : k ∈ days) :
    Spans evaluator.calendar (unevenOf k) (onDay k (hours 20)) :=
  let spans := spans_recordOf k member
  ⟨spans.close, spans.version, spans.premarket, spans.fromOpen, spans.toClose, spans.endOfDay,
    spans.covered⟩

theorem qualified_unevenWeek : Qualified evaluator (days.map unevenOf) (some audited) [] where
  intact := rfl
  finalizable := by
    intro s listed
    obtain ⟨k, member, rfl⟩ := List.mem_map.mp listed
    exact ⟨⟨_, spans_unevenOf k member⟩, rfl, unfunded_recordOf k member, rfl, rfl, rfl⟩
  distinct := by decide
  enough := by decide
  oneAccount := by
    intro s listed s' listed'
    obtain ⟨k, -, rfl⟩ := List.mem_map.mp listed
    obtain ⟨k', -, rfl⟩ := List.mem_map.mp listed'
    rfl
  reviewed := by decide
  audited := ⟨audited, rfl, rfl, rfl, rfl, rfl, rfl, rfl, rfl⟩
  declared := ⟨unevenOf 5, List.mem_map_of_mem monday_listed, by decide⟩
  counterfactuals := rfl
  restarted := ⟨unevenOf 5, List.mem_map_of_mem monday_listed, by decide⟩
  recovered := ⟨unevenOf 5, List.mem_map_of_mem monday_listed, by decide⟩
  reconnected := ⟨unevenOf 5, List.mem_map_of_mem monday_listed, by decide⟩

end QualificationSample

open QualificationSample in
/-- The week passes although its Tuesday lacks a decision, and one id counts for two days. -/
theorem uneven_week_passed :
    (evaluator.evaluate unevenWeek (onDay 12 0) (some audited) [] ⟨1⟩).status = .passed ∧
      ¬ CounterfactualsComplete (unevenWeek.map SessionEvidence.toSessionRecord) := by
  constructor
  · rw [evaluate_passed_iff, inOrder_unevenWeek]
    exact qualified_unevenWeek
  · intro complete
    have tuesday : 6 ∈ days := by decide
    have listed : unevenOf 6 ∈ unevenWeek.map SessionEvidence.toSessionRecord :=
      List.mem_map_of_mem (List.mem_map_of_mem (List.mem_attach days ⟨6, tuesday⟩))
    have impossible := complete.exact_ _ listed
    simp [unevenOf] at impossible

end Sentry
