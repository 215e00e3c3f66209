import Sentry.Domain.Models

/-!
# Fill models

`app/broker/fill_models.py`: the two built-in limit-fill decisions over one
quote that follows the order. Both are pure; queue uncertainty at the limit
comes from a hash of the order, the quote and the model version.
-/
namespace Sentry

open Support

structure FillDecision where
  quantity : ℤ
  price : Option ℚ
  deterministicSeed : Nat
  reason : String
  deriving DecidableEq

def FillDecision.shouldFill (d : FillDecision) : Bool := decide (0 < d.quantity) && d.price.isSome

/-- The parameters of `ConservativeFillModel`. -/
structure QueueParameters where
  touchFillProbability : Decimal := ⟨30, -2⟩
  displayedSizeParticipation : Decimal := ⟨50, -2⟩
  seedSalt : ℤ := 0
  touch_range : 0 ≤ touchFillProbability.val ∧ touchFillProbability.val ≤ 1 := by
    norm_num [Decimal.val]
  participation_range :
    0 < displayedSizeParticipation.val ∧ displayedSizeParticipation.val ≤ 1 := by
    norm_num [Decimal.val]

inductive FillModel where
  | optimistic
  | conservative (q : QueueParameters)

namespace FillModel

def version : FillModel → String
  | .optimistic => "optimistic-limit-v1"
  | .conservative q =>
    "conservative-queue-v1" ++ ";touch=" ++ q.touchFillProbability.str ++
      ";participation=" ++ q.displayedSizeParticipation.str ++ ";seed=" ++ toString q.seedSalt

def seedFor (H : Hashing) (order : BrokerOrder) (quote : OptionQuote) (version : String) : Nat :=
  H.fillSeed (order.orderId.str ++ ":" ++ quote.snapshotId.str ++ ":" ++ version)

/-- `OptimisticFillModel.evaluate`: a displayed price or last trade touching the
limit fills the whole remaining quantity. -/
def evaluateOptimistic (seed : Nat) (order : BrokerOrder) (quote : OptionQuote)
    (remaining : ℤ) : FillDecision :=
  if remaining ≤ 0 then ⟨0, none, seed, "order has no remaining quantity"⟩
  else
    let filled (price : ℚ) : FillDecision := ⟨remaining, some price, seed,
      "optimistic model filled the complete remaining quantity on touch"⟩
    match order.side with
    | .buyToOpen =>
      if quote.ask ≤ order.limitPrice ∧ 0 < quote.ask then filled (min order.limitPrice quote.ask)
      else if quote.last.any (fun last => decide (last ≤ order.limitPrice)) then
        filled order.limitPrice
      else ⟨0, none, seed, "buy limit was not touched"⟩
    | .sellToClose =>
      if order.limitPrice ≤ quote.bid ∧ 0 < quote.bid then filled (max order.limitPrice quote.bid)
      else if quote.last.any (fun last => decide (order.limitPrice ≤ last)) then
        filled order.limitPrice
      else ⟨0, none, seed, "sell limit was not touched"⟩

/-- The contracts a displayed size lets through: unknown liquidity is capped to
one contract, a known size to its participating share but at least one. -/
def displayedQuantity (D : Decimal.Context) (q : QueueParameters) (remaining : ℤ) :
    Option Nat → ℤ
  | none => min remaining 1
  | some size => min remaining (max 1 ⌊D.mul size q.displayedSizeParticipation.val⌋)

/-- The displayed price an order can trade at. -/
def executablePrice (order : BrokerOrder) (quote : OptionQuote) : ℚ :=
  match order.side with
  | .buyToOpen => quote.ask
  | .sellToClose => quote.bid

def displayedSize (order : BrokerOrder) (quote : OptionQuote) : Option Nat :=
  match order.side with
  | .buyToOpen => quote.askSize
  | .sellToClose => quote.bidSize

def improved (order : BrokerOrder) (price : ℚ) : Bool :=
  match order.side with
  | .buyToOpen => decide (0 < price ∧ price < order.limitPrice)
  | .sellToClose => decide (order.limitPrice < price)

def touched (order : BrokerOrder) (price : ℚ) : Bool :=
  decide (0 < price ∧ price = order.limitPrice)

/-- `ConservativeFillModel.evaluate`: strictly through the limit fills, at the
limit a stable hash decides, and displayed size bounds the quantity. -/
def evaluateConservative (D : Decimal.Context) (q : QueueParameters) (seed : Nat)
    (order : BrokerOrder) (quote : OptionQuote) (remaining : ℤ) : FillDecision :=
  let price := executablePrice order quote
  let size := displayedSize order quote
  if remaining ≤ 0 then ⟨0, none, seed, "order has no remaining quantity"⟩
  else if !improved order price && !touched order price then
    ⟨0, none, seed, "displayed market did not reach the limit"⟩
  else if size = some 0 then ⟨0, none, seed, "displayed executable size was zero"⟩
  else if touched order price && decide
      (q.touchFillProbability.val ≤ D.div ((seed % 1000000 : Nat) : ℚ) 1000000) then
    ⟨0, none, seed, "limit touched but deterministic queue gate missed"⟩
  else ⟨displayedQuantity D q remaining size, some price, seed,
    if improved order price then "market traded through limit"
    else "queue gate accepted limit touch"⟩

def evaluate (D : Decimal.Context) (H : Hashing) (model : FillModel) (order : BrokerOrder)
    (quote : OptionQuote) (remaining : ℤ) : FillDecision :=
  let seed := seedFor H order quote model.version
  match model with
  | .optimistic => evaluateOptimistic seed order quote remaining
  | .conservative q => evaluateConservative D q seed order quote remaining

/-! ### What a fill decision can be -/

/-- A price a fill of the order may have. -/
def WithinLimit (order : BrokerOrder) (price : ℚ) : Prop :=
  0 < price ∧ match order.side with
    | .buyToOpen => price ≤ order.limitPrice
    | .sellToClose => order.limitPrice ≤ price

/-- Either no fill, or some of the remaining quantity within the limit. -/
def Sound (order : BrokerOrder) (remaining : ℤ) (d : FillDecision) : Prop :=
  d.quantity = 0 ∨ (0 < d.quantity ∧ d.quantity ≤ remaining ∧
    ∃ price, d.price = some price ∧ WithinLimit order price)

theorem evaluateOptimistic_sound (seed : Nat) (order : BrokerOrder) (quote : OptionQuote)
    (remaining : ℤ) : Sound order remaining (evaluateOptimistic seed order quote remaining) := by
  unfold evaluateOptimistic
  split
  · exact Or.inl rfl
  next more =>
    have positive : 0 < remaining := by omega
    have limit := order.limitPrice_pos
    cases side : order.side with
    | buyToOpen =>
      dsimp only
      split
      next touch =>
        refine Or.inr ⟨positive, le_refl _, _, rfl, lt_min limit touch.2, ?_⟩
        simp only [side, min_le_left]
      · split
        · refine Or.inr ⟨positive, le_refl _, _, rfl, limit, ?_⟩
          simp only [side, le_refl]
        · exact Or.inl rfl
    | sellToClose =>
      dsimp only
      split
      next touch =>
        refine Or.inr ⟨positive, le_refl _, _, rfl, lt_max_of_lt_left limit, ?_⟩
        simp only [side, le_max_left]
      · split
        · refine Or.inr ⟨positive, le_refl _, _, rfl, limit, ?_⟩
          simp only [side, le_refl]
        · exact Or.inl rfl

theorem displayedQuantity_bounds (D : Decimal.Context) (q : QueueParameters) {remaining : ℤ}
    (positive : 0 < remaining) (size : Option Nat) :
    0 < displayedQuantity D q remaining size ∧ displayedQuantity D q remaining size ≤ remaining := by
  cases size <;> simp only [displayedQuantity] <;> omega

theorem withinLimit_of_reached {order : BrokerOrder} {price : ℚ}
    (reached : ¬(!improved order price && !touched order price) = true) :
    WithinLimit order price := by
  by_cases through : improved order price = true
  · cases side : order.side with
    | buyToOpen =>
      simp only [improved, side, decide_eq_true_eq] at through
      exact ⟨through.1, by simpa only [side] using le_of_lt through.2⟩
    | sellToClose =>
      simp only [improved, side, decide_eq_true_eq] at through
      exact ⟨lt_trans order.limitPrice_pos through, by simpa only [side] using le_of_lt through⟩
  · have touch : touched order price = true := by simpa [through] using reached
    simp only [touched, decide_eq_true_eq] at touch
    refine ⟨touch.1, ?_⟩
    cases order.side <;> simp only [touch.2, le_refl]

theorem evaluateConservative_sound (D : Decimal.Context) (q : QueueParameters) (seed : Nat)
    (order : BrokerOrder) (quote : OptionQuote) (remaining : ℤ) :
    Sound order remaining (evaluateConservative D q seed order quote remaining) := by
  unfold evaluateConservative
  dsimp only
  split
  · exact Or.inl rfl
  next more =>
    split
    · exact Or.inl rfl
    next reached =>
      split
      · exact Or.inl rfl
      · split
        · exact Or.inl rfl
        · obtain ⟨low, high⟩ := displayedQuantity_bounds D q (by omega : 0 < remaining)
            (displayedSize order quote)
          exact Or.inr ⟨low, high, _, rfl, withinLimit_of_reached reached⟩

/-- Neither built-in model can ask for an empty, oversized, free or off-limit fill. -/
theorem evaluate_sound (D : Decimal.Context) (H : Hashing) (model : FillModel)
    (order : BrokerOrder) (quote : OptionQuote) (remaining : ℤ) :
    Sound order remaining (evaluate D H model order quote remaining) := by
  cases model with
  | optimistic => exact evaluateOptimistic_sound _ order quote remaining
  | conservative q => exact evaluateConservative_sound D q _ order quote remaining

end FillModel

end Sentry
