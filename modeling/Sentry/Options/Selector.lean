import Mathlib.Data.Prod.Lex
import Mathlib.Data.String.Basic
import Sentry.Options.Calculations
import Sentry.Risk.Engine
import Sentry.Support.Dict
import Sentry.Support.Ranking

/-!
# The contract selector

`app/options/selector.py`: fail-closed filters over the measured quotes, a quality score, and
a ranking by score, spread, open interest and identifier. Every quote of the chain is
evaluated before any is ranked, so a quote that cannot be measured ends the whole selection.
-/
namespace Sentry

open Support

inductive Direction where
  | bullish | bearish | mixed | none_
  deriving DecidableEq, Repr

inductive SelectorStatus where
  | noContract | contractFound
  deriving DecidableEq, Repr

/-! ### Configuration -/

structure SelectorSettings where
  version : String := "selector-v1"
  minimumDte : ℤ := 7
  maximumDte : ℤ := 45
  maximumAbsoluteMoneynessPercent : ℚ := 20
  maximumCandidates : ℤ := 3
  maximumContractCost : ℚ
  requireNonzeroBid : Bool := true
  minimumOpenInterest : ℤ := 0
  minimumOptionVolume : ℤ := 0
  maximumBidAskPercent : ℚ := 25
  maximumImpliedVolatility : Option ℚ := none
  targetDte : ℤ := 21
  targetAbsoluteMoneynessPercent : ℚ := 3

namespace SelectorSettings

/-- The bounds of the single fields. -/
structure Bounded (s : SelectorSettings) : Prop where
  minimumDte : 0 ≤ s.minimumDte
  maximumDte : 0 ≤ s.maximumDte
  moneyness : 0 ≤ s.maximumAbsoluteMoneynessPercent
  candidates : 1 ≤ s.maximumCandidates ∧ s.maximumCandidates ≤ 20
  cost : 0 < s.maximumContractCost
  openInterest : 0 ≤ s.minimumOpenInterest
  optionVolume : 0 ≤ s.minimumOptionVolume
  bidAskPercent : 0 < s.maximumBidAskPercent
  impliedVolatility : ∀ limit ∈ s.maximumImpliedVolatility, 0 < limit
  targetDte : 0 ≤ s.targetDte
  targetMoneyness : 0 ≤ s.targetAbsoluteMoneynessPercent

theorem bounded_iff (s : SelectorSettings) :
    (0 ≤ s.minimumDte ∧ 0 ≤ s.maximumDte ∧ 0 ≤ s.maximumAbsoluteMoneynessPercent ∧
      (1 ≤ s.maximumCandidates ∧ s.maximumCandidates ≤ 20) ∧ 0 < s.maximumContractCost ∧
      0 ≤ s.minimumOpenInterest ∧ 0 ≤ s.minimumOptionVolume ∧ 0 < s.maximumBidAskPercent ∧
      (∀ limit ∈ s.maximumImpliedVolatility, 0 < limit) ∧ 0 ≤ s.targetDte ∧
      0 ≤ s.targetAbsoluteMoneynessPercent) ↔ s.Bounded :=
  ⟨fun ⟨a, b, c, d, e, f, g, h, i, j, k⟩ => ⟨a, b, c, d, e, f, g, h, i, j, k⟩,
    fun ⟨a, b, c, d, e, f, g, h, i, j, k⟩ => ⟨a, b, c, d, e, f, g, h, i, j, k⟩⟩

instance (s : SelectorSettings) : Decidable s.Bounded := decidable_of_iff _ s.bounded_iff

end SelectorSettings

structure ContractSelectorConfig extends SelectorSettings where
  bounded : toSelectorSettings.Bounded
  dte_ordered : minimumDte ≤ maximumDte
  target_within : minimumDte ≤ targetDte ∧ targetDte ≤ maximumDte

namespace ContractSelectorConfig

def validate (s : SelectorSettings) : Except Exc ContractSelectorConfig :=
  if bounded : s.Bounded then
    if dte_ordered : s.minimumDte ≤ s.maximumDte then
      if target_within : s.minimumDte ≤ s.targetDte ∧ s.targetDte ≤ s.maximumDte then
        .ok ⟨s, bounded, dte_ordered, target_within⟩
      else .error (.valueError "target_dte must fall inside the configured DTE range")
    else .error (.valueError "minimum_dte exceeds maximum_dte")
  else .error (.valueError "Input is outside the bounds of its field")

/-- `from_risk_config`. -/
def fromRiskConfig (risk : RiskConfig) (minimumDte : ℤ := 7) (maximumDte : ℤ := 45)
    (maximumAbsoluteMoneynessPercent : ℚ := 20) (maximumCandidates : ℤ := 3)
    (version : String := "selector-v1") : Except Exc ContractSelectorConfig :=
  validate
    { version := version
      minimumDte := minimumDte
      maximumDte := maximumDte
      maximumAbsoluteMoneynessPercent := maximumAbsoluteMoneynessPercent
      maximumCandidates := maximumCandidates
      maximumContractCost := risk.risk.maxNewTradePremiumDollars
      requireNonzeroBid := risk.liquidity.requireNonzeroBid
      minimumOpenInterest := risk.liquidity.startingMinimumOpenInterest
      minimumOptionVolume := risk.liquidity.startingMinimumOptionVolume
      maximumBidAskPercent := risk.liquidity.startingMaximumBidAskPercent }

theorem validate_ok {s : SelectorSettings} {config : ContractSelectorConfig}
    (ok : validate s = .ok config) : config.toSelectorSettings = s := by
  unfold validate at ok
  split at ok
  · split at ok
    · split at ok
      · cases ok
        rfl
      · cases ok
    · cases ok
  · cases ok

end ContractSelectorConfig

/-! ### Scores -/

/-- `quantize(Decimal("0.01"), rounding=ROUND_HALF_UP)` of a number that is not negative. -/
def quantizeHalfUp (q : ℚ) : ℚ := round (q * 100) / 100

namespace ContractSelector

variable (D : Decimal.Context) (config : ContractSelectorConfig)

def liquidityScore (value : Option ℕ) (minimum : ℤ) : ℚ :=
  match value with
  | none => 40
  | some value =>
    if minimum = 0 then if 0 < value then 100 else 60
    else min 100 (D.mul (D.div value minimum) 70)

/-- `spread or Decimal("100")`: no spread and a spread of zero are taken for a wide one. -/
def scoredSpread (spreadPercent : Option ℚ) : ℚ :=
  match spreadPercent with
  | none => 100
  | some spread => if spread = 0 then 100 else spread

def spreadScore (spreadPercent : Option ℚ) : ℚ :=
  max 0 (D.sub 100 (D.mul (scoredSpread spreadPercent) 3))

def dteScore (dte : ℤ) : ℚ :=
  let distance := D.round |((dte - config.targetDte : ℤ) : ℚ)|
  let span : ℚ := (max (config.maximumDte - config.minimumDte) 1 : ℤ)
  max 0 (D.sub 100 (D.mul (D.div distance span) 100))

def moneyScore (absoluteMoneynessPercent : ℚ) : ℚ :=
  let distance :=
    D.round |D.sub absoluteMoneynessPercent config.targetAbsoluteMoneynessPercent|
  let span := max config.maximumAbsoluteMoneynessPercent 1
  max 0 (D.sub 100 (D.mul (D.div distance span) 100))

def deltaScore (delta : Option ℚ) : ℚ :=
  match delta with
  | none => 50
  | some delta =>
    let distance := D.round |D.sub (D.round |delta|) (9 / 20)|
    max 0 (D.sub 100 (D.mul distance 200))

/-- What the other scores add to that of the spread, in the order of the source. -/
def weighted (spread dte money interest volume delta penalties : ℚ) : ℚ :=
  D.sub
    (D.add
      (D.add
        (D.add
          (D.add
            (D.add (D.mul spread (7 / 20)) (D.mul dte (1 / 5)))
            (D.mul money (1 / 5)))
          (D.mul interest (1 / 10)))
        (D.mul volume (1 / 20)))
      (D.mul delta (1 / 10)))
    penalties

/-- `_quality_score`. -/
def qualityScore (quote : OptionQuote) (metrics : ContractMetrics)
    (penalties : List (String × ℚ)) : ℚ :=
  let score := weighted D (spreadScore D metrics.spreadPercent) (dteScore D config metrics.dte)
    (moneyScore D config metrics.absoluteMoneynessPercent)
    (liquidityScore D quote.openInterest config.minimumOpenInterest)
    (liquidityScore D quote.volume config.minimumOptionVolume)
    (deltaScore D quote.delta) (D.sum (penalties.map Prod.snd))
  quantizeHalfUp (min 100 (max 0 score))

/-! ### The operations of a score -/

def liquidityResults (value : Option ℕ) (minimum : ℤ) : List ℚ :=
  match value with
  | none => []
  | some value => if minimum = 0 then [] else [D.div value minimum, D.mul (D.div value minimum) 70]

/-- Of a hundred less some points for each unit of a ratio. -/
def lessResults (ratio points : ℚ) : List ℚ := [D.mul ratio points, D.sub 100 (D.mul ratio points)]

def dteResults (dte : ℤ) : List ℚ :=
  let distance := D.round |((dte - config.targetDte : ℤ) : ℚ)|
  let ratio := D.div distance (max (config.maximumDte - config.minimumDte) 1 : ℤ)
  [distance, ratio] ++ lessResults D ratio 100

def moneyResults (absoluteMoneynessPercent : ℚ) : List ℚ :=
  let signed := D.sub absoluteMoneynessPercent config.targetAbsoluteMoneynessPercent
  let ratio := D.div (D.round |signed|) (max config.maximumAbsoluteMoneynessPercent 1)
  [signed, D.round |signed|, ratio] ++ lessResults D ratio 100

def deltaResults (delta : Option ℚ) : List ℚ :=
  match delta with
  | none => []
  | some delta =>
    let signed := D.sub (D.round |delta|) (9 / 20)
    [D.round |delta|, signed, D.round |signed|] ++ lessResults D (D.round |signed|) 200

/-- The products and their running sums, in the order of the source. -/
def weightedResults (spread dte money interest volume delta penalties : ℚ) : List ℚ :=
  let products := [D.mul spread (7 / 20), D.mul dte (1 / 5), D.mul money (1 / 5),
    D.mul interest (1 / 10), D.mul volume (1 / 20), D.mul delta (1 / 10)]
  products ++ (products.tail.scanl D.add (D.mul spread (7 / 20))).tail ++
    [weighted D spread dte money interest volume delta penalties]

/-- The results of all operations of the score of a quote with these figures. -/
def qualityResults (quote : OptionQuote) (figures : Figures) (penalties : List (String × ℚ)) :
    List ℚ :=
  lessResults D (scoredSpread figures.spreadPercent) 3 ++ dteResults D config figures.dte ++
    moneyResults D config figures.absoluteMoneynessPercent ++
    liquidityResults D quote.openInterest config.minimumOpenInterest ++
    liquidityResults D quote.volume config.minimumOptionVolume ++ deltaResults D quote.delta ++
    ((penalties.map Prod.snd).scanl D.add 0).tail ++
    weightedResults D (spreadScore D figures.spreadPercent) (dteScore D config figures.dte)
      (moneyScore D config figures.absoluteMoneynessPercent)
      (liquidityScore D quote.openInterest config.minimumOpenInterest)
      (liquidityScore D quote.volume config.minimumOptionVolume) (deltaScore D quote.delta)
      (D.sum (penalties.map Prod.snd))

/-! ### Filters -/

/-- The filters in the order of the source, with whether each of them rejects the quote. -/
def filters (optionType : OptionType) (cap : ℚ) (now : Time) (quote : OptionQuote)
    (metrics : ContractMetrics) : List (String × Bool) :=
  [("quote_not_yet_available",
      decide (now < quote.metadata.observedAt) || decide (now < quote.metadata.effectiveAt)),
    ("direction_mismatch", quote.contract.optionType != optionType),
    ("dte_below_minimum", decide (metrics.dte < config.minimumDte)),
    ("dte_above_maximum", decide (config.maximumDte < metrics.dte)),
    ("no_executable_ask", decide (quote.ask ≤ 0)),
    ("premium_cap_exceeded", decide (cap < metrics.askContractCost)),
    ("zero_bid", config.requireNonzeroBid && decide (quote.bid ≤ 0)),
    ("undefined_spread_percent", metrics.spreadPercent.isNone),
    ("spread_too_wide",
      metrics.spreadPercent.any fun spread => decide (config.maximumBidAskPercent < spread)),
    ("open_interest_below_minimum",
      quote.openInterest.any fun (interest : ℕ) =>
        decide ((interest : ℤ) < config.minimumOpenInterest)),
    ("volume_below_minimum",
      quote.volume.any fun (volume : ℕ) => decide ((volume : ℤ) < config.minimumOptionVolume)),
    ("moneyness_outside_limit",
      decide (config.maximumAbsoluteMoneynessPercent < metrics.absoluteMoneynessPercent)),
    ("implied_volatility_above_limit",
      config.maximumImpliedVolatility.any fun limit =>
        quote.impliedVolatility.any fun volatility => decide (limit < volatility))]

def reasons (optionType : OptionType) (cap : ℚ) (now : Time) (quote : OptionQuote)
    (metrics : ContractMetrics) : List String :=
  ((filters config optionType cap now quote metrics).filter Prod.snd).map Prod.fst

def penalties (quote : OptionQuote) (figures : Figures) : List (String × ℚ) :=
  (if figures.markIsSane then [] else [("mark_outside_market", 8)]) ++
    (if quote.openInterest.isNone then [("open_interest_missing", 4)] else []) ++
    if quote.volume.isNone then [("volume_missing", 3)] else []

end ContractSelector

/-! ### Evaluation -/

structure ContractEvaluation where
  quote : OptionQuote
  metrics : ContractMetrics
  eligible : Bool
  qualityScore : ℚ
  rejectionReasons : List String
  penalties : List (String × ℚ)
  quality_bounds : 0 ≤ qualityScore ∧ qualityScore ≤ 100

structure ContractSelection where
  status : SelectorStatus
  rankedQuotes : List OptionQuote
  rejectedReasons : Dict String (List String)
  status_matches : status = .contractFound ↔ rankedQuotes ≠ []

structure DetailedContractSelection where
  selection : ContractSelection
  evaluations : List ContractEvaluation
  selectorVersion : String
  evaluatedAt : Time

def optionTypeOf : Direction → Except Exc OptionType
  | .bullish => .ok .call
  | .bearish => .ok .put
  | _ => .error (.valueError "contract selection requires a bullish or bearish direction")

def statusOf (ranked : List OptionQuote) : SelectorStatus :=
  if ranked.isEmpty then .noContract else .contractFound

theorem statusOf_matches (ranked : List OptionQuote) :
    statusOf ranked = .contractFound ↔ ranked ≠ [] := by
  cases ranked with
  | nil => simp [statusOf]
  | cons first rest => simp [statusOf]

/-- A selector with its configuration and the date of an instant in New York. -/
structure ContractSelector where
  config : ContractSelectorConfig
  easternDate : Time → Date

namespace ContractSelector

variable (D : Decimal.Context) (selector : ContractSelector)

def evaluateQuote (optionType : OptionType) (underlyingPrice cap : ℚ) (now : Time)
    (quote : OptionQuote) : Except Exc ContractEvaluation := do
  let metrics ← Calculations.contractMetrics D quote underlyingPrice (selector.easternDate now)
  let rejections := reasons selector.config optionType cap now quote metrics
  let deductions := penalties quote metrics.toFigures
  trap D (qualityResults D selector.config quote metrics.toFigures deductions)
  let quality := qualityScore D selector.config quote metrics deductions
  if quality_bounds : 0 ≤ quality ∧ quality ≤ 100 then
    pure
      { quote := quote
        metrics := metrics
        eligible := rejections.isEmpty
        qualityScore := quality
        rejectionReasons := rejections
        penalties := deductions
        quality_bounds := quality_bounds }
  else .error (.valueError "Input should be less than or equal to 100")

/-- `spread or Decimal("999999")`: here as well, one of zero counts as missing. -/
def rankedSpread (spreadPercent : Option ℚ) : ℚ :=
  match spreadPercent with
  | none => 999999
  | some spread => if spread = 0 then 999999 else spread

/-- `_ranking_key`. -/
def rankingKey (e : ContractEvaluation) : ℚ ×ₗ ℚ ×ₗ ℤ ×ₗ String :=
  toLex (D.round (-e.qualityScore), toLex (rankedSpread e.metrics.spreadPercent,
    toLex (-((e.quote.openInterest.getD 0 : ℕ) : ℤ), e.quote.contract.instrumentId)))

/-- `maximum_contract_cost or self.config.maximum_contract_cost`: a cap of zero is no cap. -/
def capOf (maximumContractCost : Option ℚ) : ℚ :=
  match maximumContractCost with
  | none => selector.config.maximumContractCost
  | some cap => if cap = 0 then selector.config.maximumContractCost else cap

/-- The quotes that have been rejected, with their reasons. -/
def rejected (evaluations : List ContractEvaluation) : Dict String (List String) :=
  Dict.ofPairs ((evaluations.filter fun e => !e.rejectionReasons.isEmpty).map fun e =>
    (e.quote.contract.instrumentId, e.rejectionReasons))

def select (evaluations : List ContractEvaluation) : ContractSelection :=
  let ranked := (leading (rankingKey D) selector.config.maximumCandidates.toNat
    (evaluations.filter ContractEvaluation.eligible)).map ContractEvaluation.quote
  { status := statusOf ranked
    rankedQuotes := ranked
    rejectedReasons := rejected evaluations
    status_matches := statusOf_matches ranked }

def evaluate (direction : Direction) (underlyingPrice : ℚ) (quotes : List OptionQuote)
    (maximumContractCost : Option ℚ) (now : Time) : Except Exc DetailedContractSelection :=
  if underlyingPrice ≤ 0 then .error (.valueError "underlying_price must be positive")
  else do
    let optionType ← optionTypeOf direction
    let cap := selector.capOf maximumContractCost
    if cap ≤ 0 then .error (.valueError "maximum contract cost must be positive")
    else do
      let evaluations ←
        quotes.mapM (selector.evaluateQuote D optionType underlyingPrice cap now)
      pure
        { selection := selector.select D evaluations
          evaluations := ranking (fun e => e.quote.contract.instrumentId) evaluations
          selectorVersion := selector.config.version
          evaluatedAt := now }

end ContractSelector

/-! ### What an evaluation says -/

theorem quantizeHalfUp_mono {x y : ℚ} (le : x ≤ y) : quantizeHalfUp x ≤ quantizeHalfUp y := by
  have rounded : round (x * 100) ≤ round (y * 100) := by
    rw [round_eq, round_eq]
    exact Int.floor_mono (by linarith)
  have rounded' : (round (x * 100) : ℚ) ≤ round (y * 100) := by exact_mod_cast rounded
  unfold quantizeHalfUp
  linarith

theorem quantizeHalfUp_bounds {q : ℚ} (nonneg : 0 ≤ q) (le : q ≤ 100) :
    0 ≤ quantizeHalfUp q ∧ quantizeHalfUp q ≤ 100 := by
  have least : quantizeHalfUp 0 = 0 := by simp [quantizeHalfUp]
  have most : quantizeHalfUp 100 = 100 := by
    have whole : (100 : ℚ) * 100 = ((10000 : ℤ) : ℚ) := by norm_num
    rw [quantizeHalfUp, whole, round_intCast]
    norm_num
  constructor
  · rw [← least]
    exact quantizeHalfUp_mono nonneg
  · rw [← most]
    exact quantizeHalfUp_mono le

namespace ContractSelector

variable {D : Decimal.Context} {selector : ContractSelector} {optionType : OptionType}
  {underlyingPrice cap : ℚ} {now : Time} {quote : OptionQuote} {e : ContractEvaluation}

theorem qualityScore_bounds (D : Decimal.Context) (config : ContractSelectorConfig)
    (quote : OptionQuote) (metrics : ContractMetrics) (penalties : List (String × ℚ)) :
    0 ≤ qualityScore D config quote metrics penalties ∧
      qualityScore D config quote metrics penalties ≤ 100 :=
  quantizeHalfUp_bounds (le_min (by norm_num) (le_max_left 0 _)) (min_le_left 100 _)

/-- What is known of the evaluation of a quote. -/
structure Evaluates (D : Decimal.Context) (selector : ContractSelector) (optionType : OptionType)
    (underlyingPrice cap : ℚ) (now : Time) (quote : OptionQuote) (e : ContractEvaluation) : Prop where
  source : e.quote = quote
  measured : Calculations.contractMetrics D quote underlyingPrice (selector.easternDate now) =
    .ok e.metrics
  eligible : e.eligible = e.rejectionReasons.isEmpty
  reasons : e.rejectionReasons = reasons selector.config optionType cap now quote e.metrics
  quality : e.qualityScore =
    qualityScore D selector.config quote e.metrics (penalties quote e.metrics.toFigures)
  scored : D.Fits (qualityResults D selector.config quote e.metrics.toFigures
    (penalties quote e.metrics.toFigures))

theorem evaluateQuote_ok
    (ok : selector.evaluateQuote D optionType underlyingPrice cap now quote = .ok e) :
    Evaluates D selector optionType underlyingPrice cap now quote e := by
  obtain ⟨metrics, measured, ok⟩ := bind_ok ok
  dsimp only at ok
  obtain ⟨fits, ok⟩ := trap_bind_ok_iff.mp ok
  split at ok
  · cases ok
    exact ⟨rfl, measured, rfl, rfl, rfl, fits⟩
  · cases ok

/-- Once a quote is measured and scored without an overflow, its evaluation is valid. -/
theorem evaluateQuote_returns {metrics : ContractMetrics}
    (measured : Calculations.contractMetrics D quote underlyingPrice (selector.easternDate now) =
      .ok metrics)
    (fits : D.Fits (qualityResults D selector.config quote metrics.toFigures
      (penalties quote metrics.toFigures))) :
    ∃ e, selector.evaluateQuote D optionType underlyingPrice cap now quote = .ok e := by
  have bounds := qualityScore_bounds D selector.config quote metrics
    (penalties quote metrics.toFigures)
  rw [evaluateQuote, measured]
  exact ⟨_, trap_bind_ok_iff.mpr ⟨fits, dif_pos bounds⟩⟩

/-- An evaluation that returned has evaluated every quote in its place. -/
theorem evaluate_ok {direction : Direction} {quotes : List OptionQuote}
    {maximumContractCost : Option ℚ} {detailed : DetailedContractSelection}
    (ok : selector.evaluate D direction underlyingPrice quotes maximumContractCost now =
      .ok detailed) :
    0 < underlyingPrice ∧ ∃ optionType evaluations, optionTypeOf direction = .ok optionType ∧
      0 < selector.capOf maximumContractCost ∧
      List.Forall₂ (fun quote e => selector.evaluateQuote D optionType underlyingPrice
        (selector.capOf maximumContractCost) now quote = .ok e) quotes evaluations ∧
      detailed.selection = selector.select D evaluations ∧
      detailed.evaluations =
        ranking (fun e => e.quote.contract.instrumentId) evaluations := by
  unfold evaluate at ok
  split at ok
  · cases ok
  next positive =>
  obtain ⟨optionType, typed, ok⟩ := bind_ok ok
  dsimp only at ok
  split at ok
  · cases ok
  next capped =>
  obtain ⟨evaluations, mapped, ok⟩ := bind_ok ok
  cases ok
  exact ⟨not_le.mp positive, optionType, evaluations, typed, not_le.mp capped,
    mapM_ok_iff.mp mapped, rfl, rfl⟩

/-- Past its guards, the evaluation is that of the quotes in their order. -/
theorem evaluate_mapM {direction : Direction} {quotes : List OptionQuote}
    {maximumContractCost : Option ℚ} (positive : 0 < underlyingPrice)
    (typed : optionTypeOf direction = .ok optionType)
    (capped : 0 < selector.capOf maximumContractCost) :
    selector.evaluate D direction underlyingPrice quotes maximumContractCost now = (do
      let evaluations ← quotes.mapM (selector.evaluateQuote D optionType underlyingPrice
        (selector.capOf maximumContractCost) now)
      pure ⟨selector.select D evaluations,
        ranking (fun e => e.quote.contract.instrumentId) evaluations,
        selector.config.version, now⟩) := by
  rw [evaluate, if_neg (not_le.mpr positive), typed]
  change (if _ then _ else _) = _
  rw [if_neg (not_le.mpr capped)]

theorem evaluate_eq {direction : Direction} {quotes : List OptionQuote}
    {maximumContractCost : Option ℚ} {evaluations : List ContractEvaluation}
    (positive : 0 < underlyingPrice) (typed : optionTypeOf direction = .ok optionType)
    (capped : 0 < selector.capOf maximumContractCost)
    (each : List.Forall₂ (fun quote e => selector.evaluateQuote D optionType underlyingPrice
      (selector.capOf maximumContractCost) now quote = .ok e) quotes evaluations) :
    selector.evaluate D direction underlyingPrice quotes maximumContractCost now =
      .ok ⟨selector.select D evaluations,
        ranking (fun e => e.quote.contract.instrumentId) evaluations,
        selector.config.version, now⟩ := by
  rw [evaluate_mapM positive typed capped, mapM_ok_iff.mpr each]
  rfl

/-- The quotes of the evaluations are the quotes. -/
theorem quotes_of_forall₂ {quotes : List OptionQuote} {evaluations : List ContractEvaluation}
    (each : List.Forall₂ (fun quote e => selector.evaluateQuote D optionType underlyingPrice cap now
      quote = .ok e) quotes evaluations) :
    evaluations.map ContractEvaluation.quote = quotes := by
  induction each with
  | nil => rfl
  | cons first _ ih => rw [List.map_cons, ih, (evaluateQuote_ok first).source]

/-! ### When a chain is evaluated -/

end ContractSelector
end Sentry
