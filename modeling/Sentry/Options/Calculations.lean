import Sentry.Domain.Models
import Sentry.Support.Rounding

/-!
# The figures of an option quote

`app/options/calculations.py`: midpoint, spread, moneyness, premium and cost of a quote, each
with the preconditions it raises on, and `ContractMetrics`, which is validated once more when
it is built. A quote is measured exactly when no operation overflows and its bid does not exceed
its ask: the domain model does not ask that of a quote without an ask.
-/
namespace Sentry

open Support

/-- The fields of the metrics before they are validated. -/
structure Figures where
  dte : ℤ
  moneynessPercent : ℚ
  absoluteMoneynessPercent : ℚ
  spreadDollars : ℚ
  spreadPercent : Option ℚ
  midpoint : ℚ
  effectiveMark : ℚ
  markIsSane : Bool
  intrinsicValue : ℚ
  extrinsicValue : ℚ
  breakEvenAtExpiration : ℚ
  askContractCost : ℚ

/-- The fields that are declared with `ge=0`. -/
def Figures.bounded (f : Figures) : List ℚ :=
  [f.absoluteMoneynessPercent, f.spreadDollars] ++ f.spreadPercent.toList ++
    [f.midpoint, f.effectiveMark, f.intrinsicValue, f.extrinsicValue, f.breakEvenAtExpiration,
      f.askContractCost]

structure ContractMetrics extends Figures where
  bounded_nonneg : ∀ value ∈ toFigures.bounded, 0 ≤ value

namespace ContractMetrics

def validate (f : Figures) : Except Exc ContractMetrics :=
  if bounded_nonneg : ∀ value ∈ f.bounded, 0 ≤ value then .ok ⟨f, bounded_nonneg⟩
  else .error (.valueError "Input should be greater than or equal to 0")

end ContractMetrics

namespace Calculations

variable (D : Decimal.Context)

/-- `_valid_quote_prices`. -/
def validQuotePrices (bid ask : ℚ) : Except Exc Unit :=
  if bid < 0 ∨ ask < 0 then .error (.valueError "quote prices cannot be negative")
  else if ask < bid then .error (.valueError "bid cannot exceed ask")
  else .ok ()

def midpoint (bid ask : ℚ) : Except Exc ℚ := do
  validQuotePrices bid ask
  trap D [D.add bid ask, D.div (D.add bid ask) 2]
  pure (D.div (D.add bid ask) 2)

def quoteSpreadDollars (bid ask : ℚ) : Except Exc ℚ := do
  validQuotePrices bid ask
  trap D [D.sub ask bid]
  pure (D.sub ask bid)

def quoteSpreadPercent (bid ask : ℚ) : Except Exc (Option ℚ) := do
  let center ← midpoint D bid ask
  if center = 0 then pure none
  else do
    let spread ← quoteSpreadDollars D bid ask
    trap D [D.div spread center, D.mul (D.div spread center) 100]
    pure (some (D.mul (D.div spread center) 100))

def daysToExpiration (expiration asOf : Date) : ℤ := expiration - asOf

/-- Signed moneyness where positive means out-of-the-money for either option type. -/
def moneynessPercent (contract : OptionContract) (underlyingPrice : ℚ) : Except Exc ℚ :=
  if underlyingPrice ≤ 0 then .error (.valueError "underlying_price must be positive")
  else if contract.optionType = .call then do
    let distance := D.sub contract.strike underlyingPrice
    let ratio := D.div distance underlyingPrice
    trap D [distance, ratio, D.mul ratio 100]
    pure (D.mul ratio 100)
  else do
    let distance := D.sub underlyingPrice contract.strike
    let ratio := D.div distance underlyingPrice
    trap D [distance, ratio, D.mul ratio 100]
    pure (D.mul ratio 100)

def intrinsicValue (contract : OptionContract) (underlyingPrice : ℚ) : Except Exc ℚ :=
  if underlyingPrice < 0 then .error (.valueError "underlying_price cannot be negative")
  else if contract.optionType = .call then do
    trap D [D.sub underlyingPrice contract.strike]
    pure (max (D.sub underlyingPrice contract.strike) 0)
  else do
    trap D [D.sub contract.strike underlyingPrice]
    pure (max (D.sub contract.strike underlyingPrice) 0)

def extrinsicValue (contract : OptionContract) (underlyingPrice premium : ℚ) : Except Exc ℚ :=
  if premium < 0 then .error (.valueError "premium cannot be negative")
  else do
    let intrinsic ← intrinsicValue D contract underlyingPrice
    trap D [D.sub premium intrinsic]
    pure (max (D.sub premium intrinsic) 0)

def breakEvenAtExpiration (contract : OptionContract) (premium : ℚ) : Except Exc ℚ :=
  if premium < 0 then .error (.valueError "premium cannot be negative")
  else if contract.optionType = .call then do
    trap D [D.add contract.strike premium]
    pure (D.add contract.strike premium)
  else do
    trap D [D.sub contract.strike premium]
    pure (max (D.sub contract.strike premium) 0)

def contractCost (premium : ℚ) (quantity : ℤ := 1) (multiplier : ℤ := 100) : Except Exc ℚ :=
  if premium < 0 then .error (.valueError "premium cannot be negative")
  else if quantity ≤ 0 ∨ multiplier ≤ 0 then
    .error (.valueError "quantity and multiplier must be positive")
  else do
    trap D [D.mul premium quantity, D.mul (D.mul premium quantity) multiplier]
    pure (D.mul (D.mul premium quantity) multiplier)

/-- Whether the mark lies inside the market; without an ask it has to be the bid. -/
def markIsSane (quote : OptionQuote) (effectiveMark : ℚ) : Bool :=
  if quote.ask ≠ 0 then decide (quote.bid ≤ effectiveMark) && decide (effectiveMark ≤ quote.ask)
  else effectiveMark == quote.bid

def contractMetrics (quote : OptionQuote) (underlyingPrice : ℚ) (asOf : Date) :
    Except Exc ContractMetrics := do
  let center ← midpoint D quote.bid quote.ask
  let effectiveMark := quote.mark.getD center
  let sane := markIsSane quote effectiveMark
  let premiumForValue := if sane then effectiveMark else center
  let signedMoneyness ← moneynessPercent D quote.contract underlyingPrice
  trap D [D.round |signedMoneyness|]
  let spreadDollars ← quoteSpreadDollars D quote.bid quote.ask
  let spreadPercent ← quoteSpreadPercent D quote.bid quote.ask
  let intrinsic ← intrinsicValue D quote.contract underlyingPrice
  let extrinsic ← extrinsicValue D quote.contract underlyingPrice premiumForValue
  let breakEven ← breakEvenAtExpiration D quote.contract quote.ask
  let cost ← contractCost D quote.ask 1 quote.contract.multiplier
  ContractMetrics.validate
    { dte := daysToExpiration quote.contract.expiration asOf
      moneynessPercent := signedMoneyness
      absoluteMoneynessPercent := D.round |signedMoneyness|
      spreadDollars := spreadDollars
      spreadPercent := spreadPercent
      midpoint := center
      effectiveMark := effectiveMark
      markIsSane := sane
      intrinsicValue := intrinsic
      extrinsicValue := extrinsic
      breakEvenAtExpiration := breakEven
      askContractCost := cost }

end Calculations

/-! ### Quotes that can be measured -/

/-- What the domain model asks of the prices of a quote beside its market. -/
structure OptionQuote.Accepted (quote : OptionQuote) : Prop where
  last_nonneg : ∀ last ∈ quote.last, 0 ≤ last
  mark_nonneg : ∀ mark ∈ quote.mark, 0 ≤ mark
  impliedVolatility_nonneg : ∀ volatility ∈ quote.impliedVolatility, 0 ≤ volatility

namespace Calculations

variable {D : Decimal.Context} {bound : ℕ} {quote : OptionQuote} {underlyingPrice : ℚ}
  {asOf : Date}

def center (D : Decimal.Context) (quote : OptionQuote) : ℚ := D.div (D.add quote.bid quote.ask) 2

/-- The spread in percent of the midpoint, where that is not zero. -/
def spreadPercent (D : Decimal.Context) (quote : OptionQuote) : Option ℚ :=
  if center D quote = 0 then none
  else some (D.mul (D.div (D.sub quote.ask quote.bid) (center D quote)) 100)

/-- How far an option is out of the money. -/
def outside (D : Decimal.Context) (contract : OptionContract) (underlyingPrice : ℚ) : ℚ :=
  if contract.optionType = .call then D.sub contract.strike underlyingPrice
  else D.sub underlyingPrice contract.strike

def signedMoneyness (D : Decimal.Context) (contract : OptionContract) (underlyingPrice : ℚ) : ℚ :=
  D.mul (D.div (outside D contract underlyingPrice) underlyingPrice) 100

/-- How far an option is in the money. -/
def inside (D : Decimal.Context) (contract : OptionContract) (underlyingPrice : ℚ) : ℚ :=
  if contract.optionType = .call then D.sub underlyingPrice contract.strike
  else D.sub contract.strike underlyingPrice

def intrinsic (D : Decimal.Context) (contract : OptionContract) (underlyingPrice : ℚ) : ℚ :=
  max (inside D contract underlyingPrice) 0

/-- The strike with the premium added for a call and taken off for a put. -/
def atPremium (D : Decimal.Context) (contract : OptionContract) (premium : ℚ) : ℚ :=
  if contract.optionType = .call then D.add contract.strike premium
  else D.sub contract.strike premium

def breakEven (D : Decimal.Context) (quote : OptionQuote) : ℚ :=
  if quote.contract.optionType = .call then D.add quote.contract.strike quote.ask
  else max (D.sub quote.contract.strike quote.ask) 0

def askCost (D : Decimal.Context) (quote : OptionQuote) : ℚ :=
  D.mul (D.mul quote.ask (1 : ℤ)) quote.contract.multiplier

/-- The mark where it lies inside the market, else the midpoint. -/
def premiumForValue (D : Decimal.Context) (quote : OptionQuote) : ℚ :=
  let mark := quote.mark.getD (center D quote)
  if markIsSane quote mark then mark else center D quote

/-- The figures of a quote whose bid does not exceed its ask. -/
def figures (D : Decimal.Context) (quote : OptionQuote) (underlyingPrice : ℚ) (asOf : Date) :
    Figures :=
  let mark := quote.mark.getD (center D quote)
  let sane := markIsSane quote mark
  { dte := daysToExpiration quote.contract.expiration asOf
    moneynessPercent := signedMoneyness D quote.contract underlyingPrice
    absoluteMoneynessPercent := D.round |signedMoneyness D quote.contract underlyingPrice|
    spreadDollars := D.sub quote.ask quote.bid
    spreadPercent := spreadPercent D quote
    midpoint := center D quote
    effectiveMark := mark
    markIsSane := sane
    intrinsicValue := intrinsic D quote.contract underlyingPrice
    extrinsicValue := max (D.sub (premiumForValue D quote)
      (intrinsic D quote.contract underlyingPrice)) 0
    breakEvenAtExpiration := breakEven D quote
    askContractCost := askCost D quote }

def midpointResults (D : Decimal.Context) (quote : OptionQuote) : List ℚ :=
  [D.add quote.bid quote.ask, center D quote]

def spreadResults (D : Decimal.Context) (quote : OptionQuote) : List ℚ :=
  if center D quote = 0 then []
  else
    let ratio := D.div (D.sub quote.ask quote.bid) (center D quote)
    [D.sub quote.ask quote.bid, ratio, D.mul ratio 100]

def moneynessResults (D : Decimal.Context) (contract : OptionContract) (underlyingPrice : ℚ) :
    List ℚ :=
  [outside D contract underlyingPrice,
    D.div (outside D contract underlyingPrice) underlyingPrice,
    signedMoneyness D contract underlyingPrice]

/-- The results of the operations that measure a quote, in their order. -/
def results (D : Decimal.Context) (quote : OptionQuote) (underlyingPrice : ℚ) : List ℚ :=
  midpointResults D quote ++ moneynessResults D quote.contract underlyingPrice ++
    [D.round |signedMoneyness D quote.contract underlyingPrice|, D.sub quote.ask quote.bid] ++
    (midpointResults D quote ++ spreadResults D quote) ++
    [inside D quote.contract underlyingPrice, inside D quote.contract underlyingPrice,
      D.sub (premiumForValue D quote) (intrinsic D quote.contract underlyingPrice),
      atPremium D quote.contract quote.ask, D.mul quote.ask (1 : ℤ), askCost D quote]

theorem validQuotePrices_eq (quote : OptionQuote) :
    validQuotePrices quote.bid quote.ask =
      if quote.bid ≤ quote.ask then .ok () else .error (.valueError "bid cannot exceed ask") := by
  have signs : ¬ (quote.bid < 0 ∨ quote.ask < 0) := by
    rintro (negative | negative)
    · exact absurd quote.bid_nonneg (not_le.mpr negative)
    · exact absurd quote.ask_nonneg (not_le.mpr negative)
  unfold validQuotePrices
  rw [if_neg signs]
  by_cases ordered : quote.bid ≤ quote.ask
  · rw [if_neg (not_lt.mpr ordered), if_pos ordered]
  · rw [if_pos (not_le.mp ordered), if_neg ordered]

section Ordered

variable (ordered : quote.bid ≤ quote.ask)
include ordered

theorem midpoint_eq : midpoint D quote.bid quote.ask = (do
    trap D (midpointResults D quote)
    pure (center D quote)) := by
  rw [midpoint, validQuotePrices_eq, if_pos ordered]
  rfl

theorem quoteSpreadDollars_eq : quoteSpreadDollars D quote.bid quote.ask = (do
    trap D [D.sub quote.ask quote.bid]
    pure (D.sub quote.ask quote.bid)) := by
  rw [quoteSpreadDollars, validQuotePrices_eq, if_pos ordered]
  rfl

theorem quoteSpreadPercent_eq : quoteSpreadPercent D quote.bid quote.ask = (do
    trap D (midpointResults D quote ++ spreadResults D quote)
    pure (spreadPercent D quote)) := by
  rw [quoteSpreadPercent, midpoint_eq ordered, quoteSpreadDollars_eq ordered, trap_append]
  simp only [bind_assoc, pure_bind]
  unfold spreadPercent spreadResults
  split
  · simp only [trap_nil, pure_bind]
  · simp only [trap_cons_cons, bind_assoc]

end Ordered

/-- The first figure already refuses a quote whose bid exceeds its ask. -/
theorem contractMetrics_crossed (crossed : ¬ quote.bid ≤ quote.ask) :
    contractMetrics D quote underlyingPrice asOf =
      .error (.valueError "bid cannot exceed ask") := by
  rw [contractMetrics, midpoint, validQuotePrices_eq, if_neg crossed]
  rfl

theorem moneynessPercent_eq (contract : OptionContract) (positive : 0 < underlyingPrice) :
    moneynessPercent D contract underlyingPrice = (do
      trap D (moneynessResults D contract underlyingPrice)
      pure (signedMoneyness D contract underlyingPrice)) := by
  rw [moneynessPercent, if_neg (not_le.mpr positive), moneynessResults, signedMoneyness, outside]
  split
  · rfl
  · rfl

theorem intrinsicValue_eq (contract : OptionContract) (positive : 0 < underlyingPrice) :
    intrinsicValue D contract underlyingPrice = (do
      trap D [inside D contract underlyingPrice]
      pure (intrinsic D contract underlyingPrice)) := by
  rw [intrinsicValue, if_neg (not_lt.mpr positive.le), intrinsic, inside]
  split
  · rfl
  · rfl

theorem contractCost_eq (quote : OptionQuote) :
    contractCost D quote.ask 1 quote.contract.multiplier = (do
      trap D [D.mul quote.ask (1 : ℤ), askCost D quote]
      pure (askCost D quote)) := by
  have multiplier := quote.contract.multiplier_pos
  rw [contractCost, if_neg (not_lt.mpr quote.ask_nonneg), if_neg (by omega)]
  rfl

theorem breakEvenAtExpiration_eq (quote : OptionQuote) :
    breakEvenAtExpiration D quote.contract quote.ask = (do
      trap D [atPremium D quote.contract quote.ask]
      pure (breakEven D quote)) := by
  rw [breakEvenAtExpiration, if_neg (not_lt.mpr quote.ask_nonneg), breakEven, atPremium]
  split
  · rfl
  · rfl

section Faithful

variable (faithful : D.Faithful bound)
include faithful

theorem center_nonneg (quote : OptionQuote) : 0 ≤ center D quote :=
  faithful.div_sign (faithful.nonneg (add_nonneg quote.bid_nonneg quote.ask_nonneg)) (by norm_num)

theorem premium_nonneg (accepted : quote.Accepted) :
    0 ≤ quote.mark.getD (center D quote) := by
  cases marked : quote.mark with
  | none => exact center_nonneg faithful quote
  | some mark => exact accepted.mark_nonneg mark (by rw [marked]; rfl)

/-- The figures of a quote that the domain accepts pass their validation. -/
theorem figures_bounded (accepted : quote.Accepted) (ordered : quote.bid ≤ quote.ask) :
    ∀ value ∈ (figures D quote underlyingPrice asOf).bounded, 0 ≤ value := by
  have spread : 0 ≤ D.sub quote.ask quote.bid := faithful.nonneg (sub_nonneg.mpr ordered)
  have multiplier : (0 : ℚ) ≤ quote.contract.multiplier := by
    exact_mod_cast quote.contract.multiplier_pos.le
  have strike := quote.contract.strike_pos
  intro value member
  simp only [Figures.bounded, figures, List.cons_append, List.nil_append,
    List.mem_cons, List.mem_append, Option.mem_toList, List.not_mem_nil, or_false] at member
  rcases member with rfl | rfl | percent | rfl | rfl | rfl | rfl | rfl | rfl
  · exact faithful.nonneg (abs_nonneg _)
  · exact spread
  · unfold spreadPercent at percent
    split at percent
    · cases percent
    · cases percent
      exact faithful.mul_sign (faithful.div_sign spread (center_nonneg faithful quote))
        (by norm_num)
  · exact center_nonneg faithful quote
  · exact premium_nonneg faithful accepted
  · exact le_max_right _ _
  · exact le_max_right _ _
  · unfold breakEven
    split
    · exact faithful.nonneg (add_nonneg strike.le quote.ask_nonneg)
    · exact le_max_right _ _
  · exact faithful.mul_sign (faithful.mul_sign quote.ask_nonneg (by norm_num)) multiplier

/-- The measurement is that of the operations, and then of the figures they come to. -/
theorem contractMetrics_eq (accepted : quote.Accepted) (positive : 0 < underlyingPrice)
    (ordered : quote.bid ≤ quote.ask) :
    contractMetrics D quote underlyingPrice asOf = (do
      trap D (results D quote underlyingPrice)
      ContractMetrics.validate (figures D quote underlyingPrice asOf)) := by
  have sign := premium_nonneg faithful accepted
  have center_sign := center_nonneg faithful quote
  have extrinsic : extrinsicValue D quote.contract underlyingPrice (premiumForValue D quote) = (do
      trap D [inside D quote.contract underlyingPrice,
        D.sub (premiumForValue D quote) (intrinsic D quote.contract underlyingPrice)]
      pure (figures D quote underlyingPrice asOf).extrinsicValue) := by
    unfold extrinsicValue
    rw [if_neg (by unfold premiumForValue; dsimp only; split <;> exact not_lt.mpr (by assumption)),
      intrinsicValue_eq quote.contract positive]
    simp only [trap_cons_cons, bind_assoc, pure_bind]
    rfl
  have premium : (if markIsSane quote (quote.mark.getD (center D quote)) then
      quote.mark.getD (center D quote) else center D quote) = premiumForValue D quote := rfl
  rw [contractMetrics, midpoint_eq ordered]
  simp only [bind_assoc, pure_bind, premium, moneynessPercent_eq quote.contract positive,
    quoteSpreadDollars_eq ordered, quoteSpreadPercent_eq ordered,
    intrinsicValue_eq quote.contract positive, extrinsic, breakEvenAtExpiration_eq,
    contractCost_eq]
  simp only [results, trap_append, trap_cons_cons, bind_assoc]
  rfl

/-- A quote is measured, with its figures, if and only if its bid does not exceed its ask and
no operation overflows. -/
theorem contractMetrics_ok_iff (accepted : quote.Accepted) (positive : 0 < underlyingPrice)
    {metrics : ContractMetrics} :
    contractMetrics D quote underlyingPrice asOf = .ok metrics ↔
      quote.bid ≤ quote.ask ∧ D.Fits (results D quote underlyingPrice) ∧
        metrics.toFigures = figures D quote underlyingPrice asOf := by
  by_cases ordered : quote.bid ≤ quote.ask
  · rw [contractMetrics_eq faithful accepted positive ordered, trap_bind_ok_iff,
      ContractMetrics.validate, dif_pos (figures_bounded faithful accepted ordered)]
    constructor
    · rintro ⟨fits, same⟩
      cases same
      exact ⟨ordered, fits, rfl⟩
    · rintro ⟨-, fits, same⟩
      obtain ⟨figures, valid⟩ := metrics
      cases same
      exact ⟨fits, rfl⟩
  · rw [contractMetrics_crossed ordered]
    constructor
    · intro same
      cases same
    · rintro ⟨other, -⟩
      exact absurd other ordered

end Faithful

end Calculations
end Sentry
