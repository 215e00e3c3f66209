import Sentry.Domain.Values
import Sentry.Market.Models
import Sentry.Support.Dict

/-!
# Proposals of the learning reviewer

`app/learning/review.py`: a change of the configuration is proposed only from enough
observations, and never where a key leads to a prohibition. The check of the proposed values
follows mappings into mappings and stops at lists, so a mapping inside a list is not looked at.
-/
namespace Sentry

open Support

structure ConfigurationChangeProposal where
  createdAt : Time
  changeId : UUID
  evidenceSampleSize : ℤ
  affectedKeys : List String
  proposedValues : Dict String AnyValue
  beforeReplayMetrics : Dict String ℚ
  afterReplayMetrics : Dict String ℚ
  expectedBenefit : String
  possibleDownside : String
  confidence : ℚ
  applied : Bool := false
  evidenceSampleSize_pos : 0 < evidenceSampleSize
  confidence_bounds : 0 ≤ confidence ∧ confidence ≤ 1

namespace LearningReviewer

def minimumSampleSize : ℤ := 30

/-- The keyword arguments of `propose`. -/
structure Arguments where
  createdAt : Datetime
  sampleSize : ℤ
  affectedKeys : List String
  proposedValues : Dict String AnyValue
  before : Dict String ℚ
  after : Dict String ℚ
  benefit : String
  downside : String
  confidence : ℚ

/-- The fields as the constructor of the proposal checks them. -/
def validate (changeId : UUID) (a : Arguments) : Except Exc ConfigurationChangeProposal :=
  if fields : 0 < a.sampleSize ∧ 0 ≤ a.confidence ∧ a.confidence ≤ 1 then
    match a.createdAt with
    | .aware utc =>
      .ok
        { createdAt := utc
          changeId := changeId
          evidenceSampleSize := a.sampleSize
          affectedKeys := a.affectedKeys
          proposedValues := a.proposedValues
          beforeReplayMetrics := a.before
          afterReplayMetrics := a.after
          expectedBenefit := a.benefit
          possibleDownside := a.downside
          confidence := a.confidence
          evidenceSampleSize_pos := fields.1
          confidence_bounds := fields.2 }
    | .naive _ => .error (.valueError "timestamp must be timezone-aware")
  else .error (.valueError "Input is outside the bounds of its field")

section Prohibited

variable (lower : String → String)

/-- `isinstance(key, str) and "prohibited" in key.lower().split(".")`. -/
def prohibited : AnyKey → Bool
  | .str text => decide ("prohibited".toList ∈ (lower text).toList.splitOn '.')
  | _ => false

mutual

/-- `isinstance(child, Mapping) and mapping_has_prohibited_path(child)`. -/
def childHasProhibitedPath : AnyValue → Bool
  | .mapping entries => mappingHasProhibitedPath entries
  | _ => false

def mappingHasProhibitedPath : List (AnyKey × AnyValue) → Bool
  | [] => false
  | (key, child) :: rest =>
    prohibited lower key || (childHasProhibitedPath child || mappingHasProhibitedPath rest)

end

/-- The proposed values as one mapping. -/
def Arguments.values (a : Arguments) : AnyValue :=
  .mapping (a.proposedValues.entries.map fun entry => (.str entry.1, entry.2))

/-- `_contains_prohibited_path`. -/
def containsProhibitedPath (a : Arguments) : Bool :=
  (a.affectedKeys.any fun key => prohibited lower (.str key)) ||
    childHasProhibitedPath lower a.values

def propose (changeId : UUID) (a : Arguments) : Except Exc ConfigurationChangeProposal :=
  if a.sampleSize < minimumSampleSize then
    .error (.valueError "at least 30 observations are required")
  else if containsProhibitedPath lower a then
    .error (.valueError "learning cannot propose relaxing V1 prohibitions")
  else validate changeId a

end Prohibited

/-! ### What the check sees -/

variable {lower : String → String} {changeId : UUID} {a : Arguments}

theorem mappingHasProhibitedPath_of {entries : List (AnyKey × AnyValue)}
    (each : ∀ entry ∈ entries, childHasProhibitedPath lower entry.2 = true ↔
      ∃ key ∈ entry.2.openKeys, prohibited lower key = true) :
    mappingHasProhibitedPath lower entries = true ↔
      ∃ key ∈ Tree.openEntryKeys entries, prohibited lower key = true := by
  induction entries with
  | nil => simp [mappingHasProhibitedPath, Tree.openEntryKeys]
  | cons entry rest ih =>
    have here := each entry List.mem_cons_self
    have later := ih fun entry member => each entry (List.mem_cons_of_mem _ member)
    obtain ⟨key, child⟩ := entry
    simp only [mappingHasProhibitedPath, Bool.or_eq_true, here, later, Tree.openEntryKeys,
      List.mem_cons, List.mem_append, or_and_right, exists_or, exists_eq_left]

/-- The check finds exactly the prohibited keys that mappings alone lead to. -/
theorem childHasProhibitedPath_iff (value : AnyValue) :
    childHasProhibitedPath lower value = true ↔
      ∃ key ∈ value.openKeys, prohibited lower key = true := by
  induction value using Tree.induct with
  | scalar value => simp [childHasProhibitedPath, Tree.openKeys]
  | list items _ => simp [childHasProhibitedPath, Tree.openKeys]
  | tuple items _ => simp [childHasProhibitedPath, Tree.openKeys]
  | mapping entries ih =>
    simp only [childHasProhibitedPath, Tree.openKeys]
    exact mappingHasProhibitedPath_of ih

/-- No affected key and no key of a mapping anywhere leads to a prohibition. -/
def Arguments.Clean (lower : String → String) (a : Arguments) : Prop :=
  (∀ key ∈ a.affectedKeys, prohibited lower (.str key) = false) ∧
    ∀ key ∈ a.values.keys, prohibited lower key = false

/-- What `propose` raises on: too few observations, a key that leads to a prohibition outside of
lists, a confidence outside the unit interval, and a time without a zone. -/
structure Arguments.Admissible (lower : String → String) (a : Arguments) : Prop where
  enough : minimumSampleSize ≤ a.sampleSize
  affected : ∀ key ∈ a.affectedKeys, prohibited lower (.str key) = false
  outside : ∀ key ∈ a.values.openKeys, prohibited lower key = false
  confidence : 0 ≤ a.confidence ∧ a.confidence ≤ 1
  zoned : ∃ utc, a.createdAt = .aware utc

theorem containsProhibitedPath_eq_false : containsProhibitedPath lower a = false ↔
    (∀ key ∈ a.affectedKeys, prohibited lower (.str key) = false) ∧
      ∀ key ∈ a.values.openKeys, prohibited lower key = false := by
  have values : childHasProhibitedPath lower a.values = true ↔ _ :=
    childHasProhibitedPath_iff a.values
  rw [← Bool.not_eq_true, containsProhibitedPath, Bool.or_eq_true, not_or, values]
  simp

theorem validate_returns_iff : (∃ change, validate changeId a = .ok change) ↔
    0 < a.sampleSize ∧ (0 ≤ a.confidence ∧ a.confidence ≤ 1) ∧ ∃ utc, a.createdAt = .aware utc := by
  by_cases fields : 0 < a.sampleSize ∧ 0 ≤ a.confidence ∧ a.confidence ≤ 1
  · rw [validate, dif_pos fields]
    cases zone : a.createdAt <;> simp [fields]
  · rw [validate, dif_neg fields]
    constructor
    · rintro ⟨change, impossible⟩
      cases impossible
    · rintro ⟨enough, bounds, -⟩
      exact absurd ⟨enough, bounds⟩ fields

/-- A proposal is made exactly of admissible arguments. -/
theorem propose_returns_iff :
    (∃ change, propose lower changeId a = .ok change) ↔ a.Admissible lower := by
  rw [propose]
  split
  next few =>
    constructor
    · rintro ⟨change, impossible⟩
      cases impossible
    · intro admissible
      exact absurd few (not_lt.mpr admissible.enough)
  next enough =>
    split
    next found =>
      constructor
      · rintro ⟨change, impossible⟩
        cases impossible
      · intro admissible
        have clean := containsProhibitedPath_eq_false.mpr ⟨admissible.affected, admissible.outside⟩
        rw [clean] at found
        cases found
    next clean =>
      obtain ⟨affected, outside⟩ :=
        containsProhibitedPath_eq_false.mp (Bool.eq_false_of_not_eq_true clean)
      have sample : minimumSampleSize ≤ a.sampleSize := not_lt.mp enough
      have positive : 0 < a.sampleSize := lt_of_lt_of_le (by decide) sample
      rw [validate_returns_iff]
      constructor
      · rintro ⟨-, confidence, zoned⟩
        exact ⟨sample, affected, outside, confidence, zoned⟩
      · intro admissible
        exact ⟨positive, admissible.confidence, admissible.zoned⟩

/-- A proposal leads to no prohibition if and only if no key below a list does, or the
arguments are refused for something else. -/
theorem proposal_clean_iff (lower : String → String) (changeId : UUID) (a : Arguments) :
    (∀ change, propose lower changeId a = .ok change → a.Clean lower) ↔
      (∀ key ∈ a.values.hiddenKeys, prohibited lower key = false) ∨ ¬ a.Admissible lower := by
  constructor
  · intro clean
    by_cases admissible : a.Admissible lower
    · obtain ⟨change, proposed⟩ := propose_returns_iff.mpr admissible
      left
      intro key hidden
      exact (clean change proposed).2 key ((Tree.mem_keys _).mpr (Or.inr hidden))
    · exact Or.inr admissible
  · intro condition change proposed
    have admissible := propose_returns_iff.mp ⟨change, proposed⟩
    have hidden : ∀ key ∈ a.values.hiddenKeys, prohibited lower key = false :=
      condition.resolve_right (not_not.mpr admissible)
    refine ⟨admissible.affected, fun key listed => ?_⟩
    rcases (Tree.mem_keys _).mp listed with outside | below
    · exact admissible.outside key outside
    · exact hidden key below

namespace ReviewSample

/-- `str.lower` of a text without letters outside of ASCII. -/
def asciiLower (text : String) : String := String.ofList (text.toList.map Char.toLower)

/-- A prohibition that is relaxed in the only item of a list. -/
def listed : Arguments where
  createdAt := .aware 0
  sampleSize := 30
  affectedKeys := ["risk.max_open_positions"]
  proposedValues := Dict.empty.set "limits"
    (.list [.mapping [(.str "prohibited.naked_options", .scalar (.bool false))]])
  before := .empty
  after := .empty
  benefit := "fewer losses"
  downside := "none"
  confidence := 1 / 2

theorem prohibited_listed : prohibited asciiLower (.str "prohibited.naked_options") = true := by
  simp [prohibited, asciiLower]
  decide

theorem admissible_listed : listed.Admissible asciiLower where
  enough := by decide
  affected := by
    simp [listed, prohibited, asciiLower]
    decide
  outside := by
    simp [listed, Arguments.values, Tree.openKeys, Tree.openEntryKeys, prohibited, asciiLower,
      Dict.set, Dict.store, Dict.empty]
    decide
  confidence := by norm_num [listed]
  zoned := ⟨0, rfl⟩

end ReviewSample

open ReviewSample in
/-- The proposal that relaxes a prohibition inside a list is made. -/
theorem listed_prohibition_proposed :
    ∃ change, propose asciiLower ⟨1⟩ listed = .ok change ∧ ¬ listed.Clean asciiLower := by
  obtain ⟨change, proposed⟩ : ∃ change, propose asciiLower ⟨1⟩ listed = .ok change :=
    propose_returns_iff.mpr admissible_listed
  refine ⟨change, proposed, fun clean => ?_⟩
  have member : AnyKey.str "prohibited.naked_options" ∈ listed.values.keys :=
    List.mem_cons_of_mem _ List.mem_cons_self
  exact Bool.false_ne_true ((clean.2 _ member).symm.trans prohibited_listed)

end LearningReviewer

end Sentry
