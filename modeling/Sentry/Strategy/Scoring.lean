import Sentry.Options.Selector

/-!
# Transparent scores

`app/strategy/scoring.py`: a weighted mean of components between zero and one hundred, less
penalties, with the models that check the figures once more when they are built. Decimal
arithmetic goes through a context, and only the contributions, the base and the final score
are rounded to cents.
-/
namespace Sentry

open Support

/-- A value or a penalty as it is handed over: `Decimal | int | str`. -/
inductive Points where
  | decimal (value : Decimal)
  | int (value : ℤ)
  | text (value : String)

/-- `Decimal(str(points))`, with what the constructor makes of a text. -/
def Points.read (parse : String → Except Exc ℚ) : Points → Except Exc ℚ
  | .decimal value => .ok value.val
  | .int value => .ok value
  | .text value => parse value

/-! ### Models -/

structure ScoringWeights where
  version : String
  weights : Dict String ℚ
  nonempty : weights.entries ≠ []
  positive : ∀ weight ∈ weights.values, 0 < weight

def ScoringWeights.validate (version : String) (weights : Dict String ℚ) :
    Except Exc ScoringWeights :=
  if nonempty : weights.entries ≠ [] then
    if positive : ∀ weight ∈ weights.values, 0 < weight then
      .ok ⟨version, weights, nonempty, positive⟩
    else .error (.valueError "scoring weights must be positive")
  else .error (.valueError "scoring weights cannot be empty")

structure ScoreComponent where
  name : String
  rawValue : ℚ
  weight : ℚ
  weightedContribution : ℚ
  supplied : Bool
  rawValue_bounds : 0 ≤ rawValue ∧ rawValue ≤ 100
  weight_pos : 0 < weight
  contribution_bounds : 0 ≤ weightedContribution ∧ weightedContribution ≤ 100

def ScoreComponent.validate (name : String) (rawValue weight weightedContribution : ℚ)
    (supplied : Bool) : Except Exc ScoreComponent :=
  if fields : (0 ≤ rawValue ∧ rawValue ≤ 100) ∧ 0 < weight ∧
      0 ≤ weightedContribution ∧ weightedContribution ≤ 100 then
    .ok ⟨name, rawValue, weight, weightedContribution, supplied, fields.1, fields.2.1, fields.2.2⟩
  else .error (.valueError "Input is outside the bounds of its field")

theorem ScoreComponent.validate_ok (name : String) (supplied : Bool)
    {rawValue weight weightedContribution : ℚ} (raw : 0 ≤ rawValue ∧ rawValue ≤ 100) (positive : 0 < weight)
    (share : 0 ≤ weightedContribution ∧ weightedContribution ≤ 100) :
    ∃ component, ScoreComponent.validate name rawValue weight weightedContribution supplied =
      .ok component := by
  rw [ScoreComponent.validate, dif_pos ⟨raw, positive, share⟩]
  exact ⟨_, rfl⟩

/-- What a base and penalties come to. -/
def lessPenalties (D : Decimal.Context) (base penaltyTotal : ℚ) : ℚ :=
  quantizeHalfUp (max 0 (D.sub base penaltyTotal))

structure ScoreBreakdown (D : Decimal.Context) where
  version : String
  baseScore : ℚ
  penaltyTotal : ℚ
  finalScore : ℚ
  components : List ScoreComponent
  penalties : Dict String ℚ
  missingComponents : List String
  baseScore_bounds : 0 ≤ baseScore ∧ baseScore ≤ 100
  penaltyTotal_nonneg : 0 ≤ penaltyTotal
  finalScore_bounds : 0 ≤ finalScore ∧ finalScore ≤ 100
  consistent : finalScore = lessPenalties D baseScore penaltyTotal

def ScoreBreakdown.validate (D : Decimal.Context) (version : String)
    (baseScore penaltyTotal finalScore : ℚ) (components : List ScoreComponent)
    (penalties : Dict String ℚ) (missing : List String) : Except Exc (ScoreBreakdown D) :=
  if fields : (0 ≤ baseScore ∧ baseScore ≤ 100) ∧ 0 ≤ penaltyTotal ∧
      0 ≤ finalScore ∧ finalScore ≤ 100 then
    if consistent : finalScore = lessPenalties D baseScore penaltyTotal then
      .ok ⟨version, baseScore, penaltyTotal, finalScore, components, penalties, missing,
        fields.1, fields.2.1, fields.2.2, consistent⟩
    else .error (.valueError "final score does not equal base less penalties")
  else .error (.valueError "Input is outside the bounds of its field")

/-- A breakdown whose final score is the one the validator expects is always accepted. -/
theorem ScoreBreakdown.validate_ok (version : String) (components : List ScoreComponent)
    (penalties : Dict String ℚ) (missing : List String) {baseScore penaltyTotal : ℚ}
    (base : 0 ≤ baseScore ∧ baseScore ≤ 100) (penalty : 0 ≤ penaltyTotal) :
    ∃ s, ScoreBreakdown.validate .exact version baseScore penaltyTotal
        (lessPenalties .exact baseScore penaltyTotal) components penalties missing = .ok s ∧
      s.baseScore = baseScore ∧ s.penaltyTotal = penaltyTotal := by
  have final : 0 ≤ lessPenalties .exact baseScore penaltyTotal ∧
      lessPenalties .exact baseScore penaltyTotal ≤ 100 := by
    apply quantizeHalfUp_bounds (le_max_left 0 _)
    rw [Decimal.Context.exact_sub]
    exact max_le (by norm_num) (by linarith)
  rw [ScoreBreakdown.validate, dif_pos ⟨base, penalty, final⟩, dif_pos rfl]
  exact ⟨_, rfl, rfl, rfl⟩

/-! ### The scorer -/

structure TransparentScorer where
  weights : ScoringWeights

/-- What the loop over the weights has gathered. -/
structure Tally where
  components : List ScoreComponent := []
  missing : List String := []
  contributionTotal : ℚ := 0

/-- `", ".join(sorted(names))`. -/
def sortedNames (names : List String) : String :=
  ", ".intercalate (names.mergeSort fun a b => decide (a ≤ b))

namespace TransparentScorer

variable (D : Decimal.Context) (parse : String → Except Exc ℚ) (scorer : TransparentScorer)

/-- One turn of the loop over the weights. -/
def consider (values : Dict String Points) (totalWeight : ℚ) (tally : Tally)
    (entry : String × ℚ) : Except Exc Tally := do
  let (name, weight) := entry
  let supplied := (values.get? name).isSome
  let raw ← ((values.get? name).getD (.int 0)).read parse
  if ¬ (0 ≤ raw ∧ raw ≤ 100) then
    .error (.valueError ("component " ++ name ++ " must be in [0, 100]"))
  else
    let contribution := D.div (D.mul raw weight) totalWeight
    let component ←
      ScoreComponent.validate name raw weight (quantizeHalfUp contribution) supplied
    pure
      { components := tally.components ++ [component]
        missing := if supplied then tally.missing else tally.missing ++ [name]
        contributionTotal := D.add tally.contributionTotal contribution }

/-- One turn of the loop over the penalties. -/
def normalize (normalized : Dict String ℚ) (entry : String × Points) :
    Except Exc (Dict String ℚ) := do
  let (name, rawValue) := entry
  let value ← rawValue.read parse
  if value < 0 then .error (.valueError ("penalty " ++ name ++ " cannot be negative"))
  else pure (normalized.set name value)

def score (values : Dict String Points) (penalties : Option (Dict String Points)) :
    Except Exc (ScoreBreakdown D) := do
  let unknown := values.keys.filter fun name => decide (name ∉ scorer.weights.weights.keys)
  if unknown ≠ [] then
    .error (.valueError ("unknown scoring components: " ++ sortedNames unknown))
  else
    let totalWeight := D.sum scorer.weights.weights.values
    let tally ← scorer.weights.weights.entries.foldlM (consider D parse values totalWeight) {}
    let normalized ← (penalties.getD .empty).entries.foldlM (normalize parse) .empty
    let base := quantizeHalfUp (min 100 (max 0 tally.contributionTotal))
    let penaltyTotal := D.sum normalized.values
    let final := lessPenalties D base penaltyTotal
    ScoreBreakdown.validate D scorer.weights.version base penaltyTotal final tally.components
      normalized tally.missing

end TransparentScorer

/-! ### The two scorers -/

def surveillanceWeights : Dict String ℚ := .ofPairs
  [("catalyst_priority", 20), ("momentum_anomaly", 25), ("technical_structure", 15),
    ("market_sector_alignment", 10), ("underlying_liquidity", 10), ("federal_exposure", 10),
    ("event_urgency", 10)]

def tradeQualityWeights : Dict String ℚ := .ofPairs
  [("catalyst_materiality", 20), ("adversarial_evidence", 20), ("contract_execution", 20),
    ("timing_confirmation", 15), ("payoff_plausibility", 15), ("market_sector_alignment", 10)]

def tradeQualityPenalties : Dict String Decimal := .ofPairs
  [("extreme_spread", ⟨15, 0⟩), ("very_low_delta", ⟨8, 0⟩), ("excessive_short_dte", ⟨10, 0⟩),
    ("catalyst_priced_in", ⟨12, 0⟩), ("unmodeled_event_risk", ⟨15, 0⟩), ("stale_data", ⟨20, 0⟩),
    ("conflicting_primary_sources", ⟨20, 0⟩), ("low_underlying_liquidity", ⟨15, 0⟩),
    ("high_iv_vs_expected_move", ⟨12, 0⟩)]

/-- `given or default`: an empty dictionary is replaced as well. -/
def orDefault {ν : Type} (given : Option (Dict String ν)) (default_ : Dict String ν) :
    Dict String ν :=
  match given with
  | none => default_
  | some dict => if dict.entries.isEmpty then default_ else dict

def SurveillanceScorer.build (version : String) (weights : Option (Dict String ℚ)) :
    Except Exc TransparentScorer :=
  (ScoringWeights.validate version (orDefault weights surveillanceWeights)).map .mk

structure TradeQualityScorer extends TransparentScorer where
  penaltyPoints : Dict String Decimal

namespace TradeQualityScorer

def build (version : String) (weights : Option (Dict String ℚ))
    (penaltyPoints : Option (Dict String Decimal)) : Except Exc TradeQualityScorer :=
  (ScoringWeights.validate version (orDefault weights tradeQualityWeights)).map fun weights =>
    ⟨⟨weights⟩, orDefault penaltyPoints tradeQualityPenalties⟩

/-- The points of the flags that are active. -/
def activePenalties (scorer : TradeQualityScorer) (flags : Dict String Bool) :
    Dict String Points :=
  .ofPairs (flags.entries.filterMap fun entry =>
    if entry.2 then (scorer.penaltyPoints.get? entry.1).map fun points => (entry.1, .decimal points)
    else none)

def scoreWithFlags (D : Decimal.Context) (parse : String → Except Exc ℚ)
    (scorer : TradeQualityScorer) (values : Dict String Points) (flags : Dict String Bool) :
    Except Exc (ScoreBreakdown D) :=
  let unknown := flags.keys.filter fun name => decide (name ∉ scorer.penaltyPoints.keys)
  if unknown ≠ [] then
    .error (.valueError ("unknown trade-quality penalties: " ++ sortedNames unknown))
  else scorer.score D parse values (some (scorer.activePenalties flags))

end TradeQualityScorer

end Sentry
