import Mathlib.Algebra.BigOperators.Group.Finset.Basic
import Mathlib.Algebra.Order.BigOperators.Group.Finset
import Mathlib.Algebra.BigOperators.Ring.List
import Mathlib.Tactic.FieldSimp
import Sentry.Strategy.Scoring

/-!
# Laws of the transparent scores

In exact arithmetic the contributions are shares of one weighted mean, so the mean stays
between the bounds of the components, grows with each of them and does not see a common factor
of the weights. Rounding keeps order, and both the bounds and the order survive it. A score
is therefore built whenever its inputs are valid.
-/
namespace Sentry

open Support

/-! ### Figures -/

/-- The number that a dictionary gives for a name: zero where it has none. -/
def figureOf (parse : String → Except Exc ℚ) (given : Dict String Points) (name : String) : ℚ :=
  match ((given.get? name).getD (.int 0)).read parse with
  | .ok value => value
  | .error _ => 0

section Figures

variable {parse : String → Except Exc ℚ} {given : Dict String Points} {name : String}

theorem figureOf_of_read {points : Points} {value : ℚ} (found : given.get? name = some points)
    (read : points.read parse = .ok value) : figureOf parse given name = value := by
  simp [figureOf, found, read]

theorem figureOf_absent (absent : name ∉ given.keys) : figureOf parse given name = 0 := by
  have nothing : given.get? name = none := by
    cases found : given.get? name with
    | none => rfl
    | some points => exact absurd (Dict.mem_keys.mpr ⟨points, found⟩) absent
  simp [figureOf, nothing, Points.read]

/-- Two sums over the names of two dictionaries compare as their figures do. -/
theorem sum_figureOf_le {given' : Dict String Points}
    (le : ∀ name, figureOf parse given name ≤ figureOf parse given' name) :
    (given.keys.map (figureOf parse given)).sum ≤ (given'.keys.map (figureOf parse given')).sum := by
  have distinct : ∀ dict : Dict String Points, dict.keys.Nodup := fun dict => dict.distinct
  rw [← List.sum_toFinset _ (distinct given), ← List.sum_toFinset _ (distinct given')]
  -- both sums run over the names of either dictionary, where the missing ones count nothing
  have widened : ∀ dict : Dict String Points, ∀ names : Finset String,
      dict.keys.toFinset ⊆ names →
        ∑ name ∈ dict.keys.toFinset, figureOf parse dict name =
          ∑ name ∈ names, figureOf parse dict name := by
    intro dict names included
    apply Finset.sum_subset included
    intro name _ absent
    exact figureOf_absent (by simpa using absent)
  calc ∑ name ∈ given.keys.toFinset, figureOf parse given name
      = ∑ name ∈ given.keys.toFinset ∪ given'.keys.toFinset, figureOf parse given name :=
        widened given _ Finset.subset_union_left
    _ ≤ ∑ name ∈ given.keys.toFinset ∪ given'.keys.toFinset, figureOf parse given' name :=
        Finset.sum_le_sum fun name _ => le name
    _ = ∑ name ∈ given'.keys.toFinset, figureOf parse given' name :=
        (widened given' _ Finset.subset_union_right).symm

end Figures

/-- A positive factor on every weight. -/
theorem ScoringWeights.scaled_nonempty (weights : ScoringWeights) (factor : ℚ) :
    (weights.weights.mapValues (factor * ·)).entries ≠ [] := by
  simpa [Dict.mapValues] using weights.nonempty

theorem ScoringWeights.scaled_positive (weights : ScoringWeights) {factor : ℚ} (pos : 0 < factor) :
    ∀ weight ∈ (weights.weights.mapValues (factor * ·)).values, 0 < weight := by
  intro weight listed
  simp only [Dict.values, Dict.mapValues, List.map_map, List.mem_map, Function.comp_apply] at listed
  obtain ⟨entry, member, rfl⟩ := listed
  exact mul_pos pos (weights.positive entry.2 (List.mem_map_of_mem member))

def ScoringWeights.scaled (weights : ScoringWeights) (factor : ℚ) (pos : 0 < factor) :
    ScoringWeights where
  version := weights.version
  weights := weights.weights.mapValues (factor * ·)
  nonempty := weights.scaled_nonempty factor
  positive := weights.scaled_positive pos

namespace TransparentScorer

/-- The scorer with a positive factor on every weight. -/
def scaled (scorer : TransparentScorer) (factor : ℚ) (pos : 0 < factor) : TransparentScorer :=
  ⟨scorer.weights.scaled factor pos⟩

variable {parse : String → Except Exc ℚ} {scorer : TransparentScorer}
  {values values' penalties penalties' : Dict String Points}

/-- Components of the scorer between zero and one hundred, and penalties that are not
negative. -/
structure Accepted (parse : String → Except Exc ℚ) (scorer : TransparentScorer)
    (values penalties : Dict String Points) : Prop where
  known : ∀ name ∈ values.keys, name ∈ scorer.weights.weights.keys
  inRange : ∀ name points, values.get? name = some points →
    ∃ value, points.read parse = .ok value ∧ 0 ≤ value ∧ value ≤ 100
  nonneg : ∀ name points, penalties.get? name = some points →
    ∃ value, points.read parse = .ok value ∧ 0 ≤ value

/-! ### The mean -/

def totalWeight (scorer : TransparentScorer) : ℚ := scorer.weights.weights.values.sum

def contribution (parse : String → Except Exc ℚ) (scorer : TransparentScorer)
    (values : Dict String Points) (entry : String × ℚ) : ℚ :=
  figureOf parse values entry.1 * entry.2 / scorer.totalWeight

/-- The weighted mean of the components. -/
def mean (parse : String → Except Exc ℚ) (scorer : TransparentScorer)
    (values : Dict String Points) : ℚ :=
  (scorer.weights.weights.entries.map (scorer.contribution parse values)).sum

def penaltyOf (parse : String → Except Exc ℚ) (penalties : Dict String Points) : ℚ :=
  (penalties.keys.map (figureOf parse penalties)).sum

theorem weight_pos {entry : String × ℚ} (member : entry ∈ scorer.weights.weights.entries) :
    0 < entry.2 :=
  scorer.weights.positive entry.2 (List.mem_map_of_mem member)

theorem weight_le_total {entry : String × ℚ} (member : entry ∈ scorer.weights.weights.entries) :
    entry.2 ≤ scorer.totalWeight := by
  apply List.single_le_sum
  · exact fun weight listed => (scorer.weights.positive weight listed).le
  · exact List.mem_map_of_mem member

theorem totalWeight_pos (scorer : TransparentScorer) : 0 < scorer.totalWeight := by
  obtain ⟨entry, member⟩ := List.exists_mem_of_ne_nil _ scorer.weights.nonempty
  exact (weight_pos member).trans_le (weight_le_total member)

namespace Accepted

theorem figure_bounds (accepted : Accepted parse scorer values penalties) (name : String) :
    0 ≤ figureOf parse values name ∧ figureOf parse values name ≤ 100 := by
  cases found : values.get? name with
  | none => simp [figureOf, found, Points.read]
  | some points =>
    obtain ⟨value, read, low, high⟩ := accepted.inRange name points found
    rw [figureOf_of_read found read]
    exact ⟨low, high⟩

theorem penalty_nonneg (accepted : Accepted parse scorer values penalties) (name : String) :
    0 ≤ figureOf parse penalties name := by
  cases found : penalties.get? name with
  | none => simp [figureOf, found, Points.read]
  | some points =>
    obtain ⟨value, read, low⟩ := accepted.nonneg name points found
    rwa [figureOf_of_read found read]

theorem penaltyOf_nonneg (accepted : Accepted parse scorer values penalties) :
    0 ≤ penaltyOf parse penalties := by
  apply List.sum_nonneg
  intro figure listed
  obtain ⟨name, -, rfl⟩ := List.mem_map.mp listed
  exact accepted.penalty_nonneg name

theorem contribution_bounds (accepted : Accepted parse scorer values penalties)
    {entry : String × ℚ} (member : entry ∈ scorer.weights.weights.entries) :
    0 ≤ scorer.contribution parse values entry ∧ scorer.contribution parse values entry ≤ 100 := by
  obtain ⟨low, high⟩ := accepted.figure_bounds entry.1
  have total := scorer.totalWeight_pos
  constructor
  · exact div_nonneg (mul_nonneg low (weight_pos member).le) total.le
  · rw [contribution, div_le_iff₀ total]
    exact mul_le_mul high (weight_le_total member) (weight_pos member).le (by norm_num)

/-- Every component of the scorer is read. -/
theorem read_figure (accepted : Accepted parse scorer values penalties) (name : String) :
    ((values.get? name).getD (.int 0)).read parse = .ok (figureOf parse values name) := by
  cases found : values.get? name with
  | none => simp [figureOf, found, Points.read]
  | some points =>
    obtain ⟨value, read, -⟩ := accepted.inRange name points found
    rw [figureOf_of_read found read]
    exact read

end Accepted

theorem mean_mono (le : ∀ name, figureOf parse values name ≤ figureOf parse values' name) :
    scorer.mean parse values ≤ scorer.mean parse values' := by
  apply List.sum_le_sum
  intro entry member
  have total := scorer.totalWeight_pos
  rw [contribution, contribution, div_le_div_iff_of_pos_right total]
  exact mul_le_mul_of_nonneg_right (le entry.1) (weight_pos member).le

/-! ### A common factor -/

theorem totalWeight_scaled (scorer : TransparentScorer) {factor : ℚ} (pos : 0 < factor) :
    (scorer.scaled factor pos).totalWeight = factor * scorer.totalWeight := by
  have weights : (scorer.scaled factor pos).weights.weights.values =
      scorer.weights.weights.entries.map fun entry => factor * entry.2 := by
    simp [scaled, ScoringWeights.scaled, Dict.values, Dict.mapValues, Function.comp_def]
  rw [totalWeight, weights, List.sum_map_mul_left]
  rfl

theorem mean_scaled (scorer : TransparentScorer) {factor : ℚ} (pos : 0 < factor) :
    (scorer.scaled factor pos).mean parse values = scorer.mean parse values := by
  have entries : (scorer.scaled factor pos).weights.weights.entries =
      scorer.weights.weights.entries.map fun e => (e.1, factor * e.2) := rfl
  rw [mean, mean, entries, List.map_map]
  congr 1
  apply List.map_congr_left
  intro entry _
  have total := scorer.totalWeight_pos
  simp only [Function.comp_apply, contribution, scorer.totalWeight_scaled pos]
  field_simp

theorem Accepted.scaled (accepted : Accepted parse scorer values penalties) {factor : ℚ}
    (pos : 0 < factor) : Accepted parse (scorer.scaled factor pos) values penalties where
  known := by
    intro name listed
    have known := accepted.known name listed
    rwa [← Dict.keys_mapValues scorer.weights.weights (factor * ·)] at known
  inRange := accepted.inRange
  nonneg := accepted.nonneg

/-! ### The two loops -/

theorem consider_ok (accepted : Accepted parse scorer values penalties) {entry : String × ℚ}
    (member : entry ∈ scorer.weights.weights.entries) (tally : Tally) :
    ∃ tally', consider .exact parse values scorer.totalWeight tally entry = .ok tally' ∧
      tally'.contributionTotal =
        tally.contributionTotal + scorer.contribution parse values entry := by
  have figure := accepted.figure_bounds entry.1
  obtain ⟨low, high⟩ := accepted.contribution_bounds member
  have share : figureOf parse values entry.1 * entry.2 / scorer.totalWeight =
      scorer.contribution parse values entry := rfl
  obtain ⟨component, built⟩ := ScoreComponent.validate_ok entry.1 (values.get? entry.1).isSome
    figure (weight_pos member) (quantizeHalfUp_bounds low high)
  simp only [consider, accepted.read_figure entry.1, figure, and_self, not_true_eq_false, if_false,
    Decimal.Context.exact_mul, Decimal.Context.exact_div, share, built, bind, Except.bind]
  exact ⟨_, rfl, rfl⟩

theorem tally_ok (accepted : Accepted parse scorer values penalties) :
    ∃ tally, scorer.weights.weights.entries.foldlM
        (consider .exact parse values scorer.totalWeight) {} = .ok tally ∧
      tally.contributionTotal = scorer.mean parse values := by
  apply foldlM_ok (P := fun done (tally : Tally) =>
    tally.contributionTotal = (done.map (scorer.contribution parse values)).sum)
  · rfl
  · intro done entry rest tally listed total
    have member : entry ∈ scorer.weights.weights.entries := by simp [listed]
    obtain ⟨tally', considered, total'⟩ := consider_ok accepted member tally
    refine ⟨tally', considered, ?_⟩
    rw [total', total, List.map_append, List.sum_append, List.map_singleton, List.sum_singleton]

theorem normalize_ok (accepted : Accepted parse scorer values penalties) :
    ∃ normalized : Dict String ℚ, penalties.entries.foldlM (normalize parse) .empty =
        .ok normalized ∧
      normalized.values.sum = penaltyOf parse penalties := by
  have names : penalties.keys = penalties.entries.map Prod.fst := rfl
  have loop := foldlM_ok (f := normalize parse) (P := fun done (normalized : Dict String ℚ) =>
    normalized.entries = done.map fun entry => (entry.1, figureOf parse penalties entry.1))
    penalties.entries .empty rfl ?_
  · obtain ⟨normalized, ended, entries⟩ := loop
    refine ⟨normalized, ended, ?_⟩
    simp only [Dict.values, entries, penaltyOf, names, List.map_map]
    rfl
  · intro done entry rest normalized listed entries
    have found : penalties.get? entry.1 = some entry.2 :=
      Dict.mem_entries.mp (by simp [listed])
    obtain ⟨value, read, low⟩ := accepted.nonneg entry.1 entry.2 found
    have figure := figureOf_of_read found read
    -- no name comes twice, so every penalty is written at the end
    have fresh : entry.1 ∉ normalized.keys := by
      have distinct := penalties.distinct
      rw [listed, List.map_append, List.nodup_append] at distinct
      rw [Dict.keys, entries, List.map_map]
      intro again
      obtain ⟨earlier, member, same⟩ := List.mem_map.mp again
      exact distinct.2.2 earlier.1 (List.mem_map_of_mem member) entry.1 (by simp) same
    refine ⟨normalized.set entry.1 value, ?_, ?_⟩
    · simp only [normalize, read, bind, Except.bind, not_lt.mpr low, if_false]
      rfl
    · rw [Dict.entries_set_of_not_mem fresh, entries, List.map_append, List.map_singleton, figure]

/-! ### The score -/

/-- Valid inputs have a score, and its figures are those of the mean and the penalties. -/
theorem score_ok (given : Option (Dict String Points))
    (accepted : Accepted parse scorer values (given.getD .empty)) :
    ∃ s, scorer.score .exact parse values given = .ok s ∧
      s.baseScore = quantizeHalfUp (min 100 (max 0 (scorer.mean parse values))) ∧
      s.penaltyTotal = penaltyOf parse (given.getD .empty) := by
  obtain ⟨tally, tallied, total⟩ := tally_ok accepted
  obtain ⟨normalized, ended, penalty⟩ := normalize_ok accepted
  have unknown : (values.keys.filter fun name =>
      decide (name ∉ scorer.weights.weights.keys)) = [] := by
    simpa using accepted.known
  obtain ⟨s, built, base, points⟩ := ScoreBreakdown.validate_ok scorer.weights.version
    tally.components normalized tally.missing
    (quantizeHalfUp_bounds (le_min (by norm_num) (le_max_left 0 (scorer.mean parse values)))
      (min_le_left 100 _))
    accepted.penaltyOf_nonneg
  refine ⟨s, ?_, base, points⟩
  rw [← built, score, if_neg (not_not.mpr unknown), Decimal.Context.exact_sum]
  change (scorer.weights.weights.entries.foldlM (consider .exact parse values scorer.totalWeight) {}
    >>= _) = _
  rw [tallied]
  change ((given.getD .empty).entries.foldlM (normalize parse) .empty >>= _) = _
  rw [ended]
  change ScoreBreakdown.validate .exact _ _ (Decimal.Context.exact.sum normalized.values) _ _ _ _ = _
  rw [Decimal.Context.exact_sum, penalty, total]

/-- A base that is no lower and penalties that are no higher leave no lower score. -/
theorem lessPenalties_mono {base base' penalty penalty' : ℚ} (le : base ≤ base')
    (ge : penalty' ≤ penalty) :
    lessPenalties .exact base penalty ≤ lessPenalties .exact base' penalty' := by
  apply quantizeHalfUp_mono
  simp only [Decimal.Context.exact_sub]
  exact max_le_max le_rfl (by linarith)

theorem finalScore_mono {given given' : Option (Dict String Points)}
    {s s' : ScoreBreakdown .exact}
    (accepted : Accepted parse scorer values (given.getD .empty))
    (accepted' : Accepted parse scorer values' (given'.getD .empty))
    (scored : scorer.score .exact parse values given = .ok s)
    (scored' : scorer.score .exact parse values' given' = .ok s')
    (higher : ∀ name, figureOf parse values name ≤ figureOf parse values' name)
    (fewer : ∀ name, figureOf parse (given'.getD .empty) name ≤
      figureOf parse (given.getD .empty) name) :
    s.finalScore ≤ s'.finalScore := by
  obtain ⟨_, ok, base, penalty⟩ := score_ok _ accepted
  obtain ⟨_, ok', base', penalty'⟩ := score_ok _ accepted'
  cases scored.symm.trans ok
  cases scored'.symm.trans ok'
  rw [s.consistent, s'.consistent, base, base', penalty, penalty']
  apply lessPenalties_mono
  · apply quantizeHalfUp_mono
    exact min_le_min le_rfl (max_le_max le_rfl (mean_mono higher))
  · exact sum_figureOf_le fewer

/-- Valid inputs always have a score. It lies between zero and one hundred, is the base less the
penalties, falls with no component that rises and rises with no penalty that rises, and does
not change with a positive factor on all weights. -/
theorem score_laws (scorer : TransparentScorer) (given : Option (Dict String Points))
    (accepted : Accepted parse scorer values (given.getD .empty)) :
    ∃ s, scorer.score .exact parse values given = .ok s ∧
      (0 ≤ s.finalScore ∧ s.finalScore ≤ 100) ∧
      s.finalScore = quantizeHalfUp (max 0 (s.baseScore - s.penaltyTotal)) ∧
      (∀ values' given', Accepted parse scorer values' (given'.getD .empty) →
        (∀ name, figureOf parse values name ≤ figureOf parse values' name) →
        (∀ name, figureOf parse (given'.getD .empty) name ≤
          figureOf parse (given.getD .empty) name) →
        ∃ s', scorer.score .exact parse values' given' = .ok s' ∧
          s.finalScore ≤ s'.finalScore) ∧
      ∀ factor, ∀ pos : 0 < factor,
        ∃ s', (scorer.scaled factor pos).score .exact parse values given = .ok s' ∧
          s'.finalScore = s.finalScore := by
  obtain ⟨s, scored, base, penalty⟩ := score_ok _ accepted
  refine ⟨s, scored, s.finalScore_bounds, s.consistent, ?_, ?_⟩
  · intro values' given' accepted' higher fewer
    obtain ⟨s', scored', -⟩ := score_ok _ accepted'
    exact ⟨s', scored', finalScore_mono accepted accepted' scored scored' higher fewer⟩
  · intro factor pos
    obtain ⟨s', scored', base', penalty'⟩ := score_ok _ (accepted.scaled pos)
    refine ⟨s', scored', ?_⟩
    rw [s.consistent, s'.consistent, base, base', penalty, penalty', mean_scaled]

namespace ScorerSample

theorem surveillance_nonempty : surveillanceWeights.entries ≠ [] := by decide

theorem surveillance_positive : ∀ weight ∈ surveillanceWeights.values, 0 < weight := by
  decide +kernel

/-- The default surveillance scorer. -/
def surveillance : TransparentScorer :=
  ⟨⟨"surveillance-v1", surveillanceWeights, surveillance_nonempty, surveillance_positive⟩⟩

def noText (text : String) : Except Exc ℚ :=
  .error (.unlisted ("decimal.InvalidOperation: " ++ text))

def moving : Dict String Points :=
  (Dict.empty.set "momentum_anomaly" (.int 80)).set "federal_exposure" (.decimal ⟨125, -1⟩)

def stale : Dict String Points := Dict.empty.set "stale_data" (.decimal ⟨20, 0⟩)

theorem accepted : Accepted noText surveillance moving stale where
  known := by decide
  inRange := by
    intro name points found
    have listed := Dict.mem_entries.mpr found
    simp only [moving, Dict.set, Dict.empty, Dict.store, String.reduceEq, if_false, List.mem_cons,
      List.not_mem_nil, or_false, Prod.mk.injEq] at listed
    rcases listed with ⟨-, rfl⟩ | ⟨-, rfl⟩
    · exact ⟨80, rfl, by norm_num, by norm_num⟩
    · exact ⟨_, rfl, by norm_num [Decimal.val], by norm_num [Decimal.val]⟩
  nonneg := by
    intro name points found
    have listed := Dict.mem_entries.mpr found
    simp only [stale, Dict.set, Dict.empty, Dict.store, List.mem_cons, List.not_mem_nil, or_false,
      Prod.mk.injEq] at listed
    obtain ⟨-, rfl⟩ := listed
    exact ⟨_, rfl, by norm_num [Decimal.val]⟩

end ScorerSample

open ScorerSample in
theorem score_laws_surveillance :
    ∃ s, surveillance.score .exact noText moving (some stale) = .ok s ∧
      0 ≤ s.finalScore ∧ s.finalScore ≤ 100 := by
  obtain ⟨s, scored, bounds, -⟩ := score_laws surveillance (some stale) accepted
  exact ⟨s, scored, bounds⟩

end TransparentScorer

namespace TradeQualityScorer

variable {parse : String → Except Exc ℚ} {scorer : TradeQualityScorer}
  {values : Dict String Points} {flags flags' : Dict String Bool}

theorem entries_activePenalties (scorer : TradeQualityScorer) (flags : Dict String Bool) :
    (scorer.activePenalties flags).entries = flags.entries.filterMap fun entry =>
      if entry.2 then
        (scorer.penaltyPoints.get? entry.1).map fun points => (entry.1, .decimal points)
      else none := by
  apply Dict.entries_ofPairs
  obtain ⟨entries, distinct⟩ := flags
  dsimp only
  induction entries with
  | nil => exact List.nodup_nil
  | cons entry rest ih =>
    simp only [List.map_cons, List.nodup_cons] at distinct
    obtain ⟨absent, later⟩ := distinct
    rw [List.filterMap_cons]
    split
    · exact ih later
    next given found =>
      have same : given.1 = entry.1 := by
        split at found
        · obtain ⟨points, -, rfl⟩ := Option.map_eq_some_iff.mp found
          rfl
        · cases found
      rw [List.map_cons, List.nodup_cons, same]
      refine ⟨?_, ih later⟩
      -- what comes later has the name of a later flag
      intro again
      obtain ⟨given', listed, name⟩ := List.mem_map.mp again
      obtain ⟨entry', member, found'⟩ := List.mem_filterMap.mp listed
      split at found'
      · obtain ⟨points, -, rfl⟩ := Option.map_eq_some_iff.mp found'
        exact absent (name ▸ List.mem_map_of_mem member)
      · cases found'

theorem get?_activePenalties {name : String} {points : Points} :
    (scorer.activePenalties flags).get? name = some points ↔
      flags.get? name = some true ∧
        ∃ value, scorer.penaltyPoints.get? name = some value ∧ points = .decimal value := by
  rw [← Dict.mem_entries, entries_activePenalties, List.mem_filterMap]
  constructor
  · rintro ⟨⟨flag, active⟩, listed, found⟩
    split at found
    next on =>
      obtain ⟨value, known, same⟩ := Option.map_eq_some_iff.mp found
      obtain ⟨rfl, rfl⟩ := Prod.mk.inj same
      have active_true : active = true := on
      exact ⟨Dict.mem_entries.mp (active_true ▸ listed), value, known, rfl⟩
    · cases found
  · rintro ⟨active, value, known, rfl⟩
    exact ⟨(name, true), Dict.mem_entries.mpr active, by simp [known]⟩

/-- A flag counts its points while it is active. -/
theorem figureOf_activePenalties_le (parse : String → Except Exc ℚ)
    (nonneg : ∀ points ∈ scorer.penaltyPoints.values, 0 ≤ points.val)
    (more : ∀ name, flags.get? name = some true → flags'.get? name = some true) (name : String) :
    figureOf parse (scorer.activePenalties flags) name ≤
      figureOf parse (scorer.activePenalties flags') name := by
  cases found : (scorer.activePenalties flags).get? name with
  | some points =>
    obtain ⟨active, value, known, rfl⟩ := get?_activePenalties.mp found
    have found' := get?_activePenalties.mpr ⟨more name active, value, known, rfl⟩
    rw [figureOf_of_read found rfl, figureOf_of_read found' rfl]
  | none =>
    have nothing : figureOf parse (scorer.activePenalties flags) name = 0 := by
      simp [figureOf, found, Points.read]
    rw [nothing]
    cases found' : (scorer.activePenalties flags').get? name with
    | none => simp [figureOf, found', Points.read]
    | some points =>
      obtain ⟨-, value, known, rfl⟩ := get?_activePenalties.mp found'
      rw [figureOf_of_read found' rfl]
      exact nonneg value (Dict.mem_values.mpr ⟨name, known⟩)

/-- Known flags have a score, and a further active flag does not raise it. -/
theorem scoreWithFlags_anti (scorer : TradeQualityScorer)
    (nonneg : ∀ points ∈ scorer.penaltyPoints.values, 0 ≤ points.val)
    (known : ∀ name ∈ flags.keys, name ∈ scorer.penaltyPoints.keys)
    (known' : ∀ name ∈ flags'.keys, name ∈ scorer.penaltyPoints.keys)
    (accepted : TransparentScorer.Accepted parse scorer.toTransparentScorer values .empty)
    (more : ∀ name, flags.get? name = some true → flags'.get? name = some true) :
    ∃ s s', scorer.scoreWithFlags .exact parse values flags = .ok s ∧
      scorer.scoreWithFlags .exact parse values flags' = .ok s' ∧
      s'.finalScore ≤ s.finalScore := by
  have flagged : ∀ flags : Dict String Bool,
      TransparentScorer.Accepted parse scorer.toTransparentScorer values
        (scorer.activePenalties flags) := by
    intro flags
    refine ⟨accepted.known, accepted.inRange, ?_⟩
    intro name points found
    obtain ⟨-, value, listed, rfl⟩ := get?_activePenalties.mp found
    exact ⟨value.val, rfl, nonneg value (Dict.mem_values.mpr ⟨name, listed⟩)⟩
  have scored : ∀ flags : Dict String Bool, (∀ name ∈ flags.keys, name ∈ scorer.penaltyPoints.keys) →
      scorer.scoreWithFlags .exact parse values flags =
        scorer.score .exact parse values (some (scorer.activePenalties flags)) := by
    intro flags known
    exact if_neg (by simpa using known)
  obtain ⟨s, ok, -⟩ := TransparentScorer.score_ok (some (scorer.activePenalties flags))
    (flagged flags)
  obtain ⟨s', ok', -⟩ := TransparentScorer.score_ok (some (scorer.activePenalties flags'))
    (flagged flags')
  refine ⟨s, s', (scored flags known).trans ok, (scored flags' known').trans ok', ?_⟩
  exact TransparentScorer.finalScore_mono (flagged flags') (flagged flags) ok' ok (fun _ => le_rfl)
    (figureOf_activePenalties_le parse nonneg more)

end TradeQualityScorer

end Sentry
