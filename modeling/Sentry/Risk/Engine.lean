import Sentry.Domain.Models

/-!
# The risk engine

`app/risk/engine.py` and the limits of `app/config.py` that it reads: every rule is
judged on one account snapshot, one quote and the time of the injected clock, and a
decision is allowed exactly when no rule fails.
-/
namespace Sentry

open Support

inductive RiskRule where
  | environmentMatch | configVersionMatch | accountStateKnown | liveAccountAuthenticated
  | accountFresh | quoteFresh | quoteMatch | entrySide | allowedInstrument | contractLimit
  | premiumLimit | aggregateRiskLimit | openPositionLimit | dailyEntryLimit | cashAffordable
  | buyingPowerAffordable | liveCapitalCeiling | nonzeroBid | minimumOpenInterest
  | minimumOptionVolume | maximumBidAskSpread
  deriving DecidableEq, Repr

def RiskRule.value : RiskRule → String
  | .environmentMatch => "environment_match"
  | .configVersionMatch => "risk_config_version_match"
  | .accountStateKnown => "account_state_known"
  | .liveAccountAuthenticated => "live_account_authenticated"
  | .accountFresh => "account_data_fresh"
  | .quoteFresh => "market_data_fresh"
  | .quoteMatch => "exact_quote_matches_proposal"
  | .entrySide => "entry_is_buy_to_open"
  | .allowedInstrument => "allowed_long_option"
  | .contractLimit => "maximum_contracts_per_position"
  | .premiumLimit => "max_new_trade_premium_dollars"
  | .aggregateRiskLimit => "max_total_open_option_risk_dollars"
  | .openPositionLimit => "max_open_positions"
  | .dailyEntryLimit => "max_new_entries_per_day"
  | .cashAffordable => "cash_affordable"
  | .buyingPowerAffordable => "buying_power_affordable"
  | .liveCapitalCeiling => "live_capital_ceiling"
  | .nonzeroBid => "nonzero_bid"
  | .minimumOpenInterest => "minimum_open_interest"
  | .minimumOptionVolume => "minimum_option_volume"
  | .maximumBidAskSpread => "maximum_bid_ask_percent"

structure StrategyRiskConfig where
  allowedInstruments : List String
  maximumContractsPerPosition : ℤ
  contracts_pos : 0 < maximumContractsPerPosition := by norm_num

structure LimitsConfig where
  maxNewTradePremiumDollars : ℚ
  maxTotalOpenOptionRiskDollars : ℚ
  maxOpenPositions : Nat
  maxNewEntriesPerDay : Nat
  dailyNewEntriesEnabled : Bool := true
  premium_pos : 0 < maxNewTradePremiumDollars := by norm_num
  risk_pos : 0 < maxTotalOpenOptionRiskDollars := by norm_num
  positions_pos : 0 < maxOpenPositions := by norm_num
  entries_pos : 0 < maxNewEntriesPerDay := by norm_num

structure LiquidityConfig where
  requireNonzeroBid : Bool := true
  startingMinimumOpenInterest : Nat
  startingMinimumOptionVolume : Nat
  startingMaximumBidAskPercent : ℚ
  percent_pos : 0 < startingMaximumBidAskPercent := by norm_num

structure RiskConfig where
  version : String
  strategy : StrategyRiskConfig
  risk : LimitsConfig
  liquidity : LiquidityConfig

structure RiskDecision where
  createdAt : Time
  decisionId : UUID
  environment : ExecutionEnvironment
  proposalId : UUID
  allowed : Bool
  failedRules : List String
  passedRules : List String
  accountSnapshotId : UUID
  proposedMaxLoss : ℚ
  resultingAggregateRisk : ℚ
  dataFresh : Bool
  riskConfigVersion : String
  deriving DecidableEq

/-- The engine with its freshness windows, in microseconds. -/
structure RiskEngine where
  config : RiskConfig
  context : Decimal.Context
  maximumQuoteAge : ℤ := 120000000
  maximumAccountAge : ℤ := 60000000
  liveCapitalCeiling : Option ℚ := none
  quoteAge_pos : 0 < maximumQuoteAge := by norm_num
  accountAge_pos : 0 < maximumAccountAge := by norm_num
  ceiling_pos : ∀ c ∈ liveCapitalCeiling, 0 < c := by simp

namespace RiskEngine

variable (E : RiskEngine)

def accountFresh (now : Time) (account : AccountSnapshot) : Bool :=
  decide (0 ≤ now - account.asOf ∧ now - account.asOf ≤ E.maximumAccountAge)

def quoteFresh (now : Time) (p : TradeProposal) (quote : OptionQuote) : Bool :=
  decide (0 ≤ now - quote.metadata.observedAt ∧
    now - quote.metadata.observedAt ≤ E.maximumQuoteAge) &&
    decide (quote.metadata.effectiveAt ≤ quote.metadata.observedAt ∧
      quote.metadata.observedAt ≤ now) && decide (p.quoteAsOf ≤ now)

def instrumentName (p : TradeProposal) : String :=
  if p.contract.optionType = .call then "long_call" else "long_put"

/-- The relative spread in percent; without an ask it is infinite. -/
def spreadPercent (quote : OptionQuote) : Option ℚ :=
  if 0 < quote.ask then
    some (E.context.mul (E.context.div (E.context.sub quote.ask quote.bid) quote.ask) 100)
  else none

def resultingRisk (p : TradeProposal) (account : AccountSnapshot) : ℚ :=
  E.context.add account.openOptionRisk (p.maxLoss E.context)

/-- The rules every order is judged by. -/
def identityOutcomes (now : Time) (p : TradeProposal) (account : AccountSnapshot)
    (quote : OptionQuote) : List (RiskRule × Bool) :=
  [(.environmentMatch, p.environment == account.environment),
    (.configVersionMatch, p.riskConfigVersion == E.config.version),
    (.accountStateKnown, account.stateKnown),
    (.liveAccountAuthenticated, p.environment != .live || account.isAuthenticated),
    (.accountFresh, E.accountFresh now account),
    (.quoteFresh, E.quoteFresh now p quote),
    (.quoteMatch, quote.snapshotId == p.quoteSnapshotId && quote.contract == p.contract &&
      decide (p.quoteAsOf = quote.metadata.observedAt))]

/-- The rules an entry is judged by as well. -/
def entryOutcomes (p : TradeProposal) (account : AccountSnapshot) (quote : OptionQuote) :
    List (RiskRule × Bool) :=
  let loss := p.maxLoss E.context
  let resulting := E.resultingRisk p account
  [(.entrySide, p.side == .buyToOpen),
    (.allowedInstrument, E.config.strategy.allowedInstruments.contains (instrumentName p)),
    (.contractLimit, decide (p.quantity ≤ E.config.strategy.maximumContractsPerPosition)),
    (.premiumLimit, decide (loss ≤ E.config.risk.maxNewTradePremiumDollars)),
    (.aggregateRiskLimit, decide (resulting ≤ E.config.risk.maxTotalOpenOptionRiskDollars)),
    (.openPositionLimit, decide (account.openPositions < E.config.risk.maxOpenPositions)),
    (.dailyEntryLimit, !E.config.risk.dailyNewEntriesEnabled ||
      decide (account.newEntriesToday < E.config.risk.maxNewEntriesPerDay)),
    (.cashAffordable, decide (loss ≤ account.cash)),
    (.buyingPowerAffordable, decide (loss ≤ account.buyingPower)),
    (.liveCapitalCeiling, p.environment != .live ||
      E.liveCapitalCeiling.any (fun ceiling => decide (resulting ≤ ceiling))),
    (.nonzeroBid, !E.config.liquidity.requireNonzeroBid || decide (0 < quote.bid)),
    (.minimumOpenInterest, quote.openInterest.any fun interest =>
      decide (E.config.liquidity.startingMinimumOpenInterest ≤ interest)),
    (.minimumOptionVolume, quote.volume.any fun volume =>
      decide (E.config.liquidity.startingMinimumOptionVolume ≤ volume)),
    (.maximumBidAskSpread, (E.spreadPercent quote).any fun spread =>
      decide (spread ≤ E.config.liquidity.startingMaximumBidAskPercent))]

/-- `_decision`. -/
def decision (id : UUID) (now : Time) (p : TradeProposal) (account : AccountSnapshot)
    (outcomes : List (RiskRule × Bool)) (proposedLoss resultingRisk : ℚ) : RiskDecision :=
  let failed := (outcomes.filter fun outcome => !outcome.2).map fun outcome => outcome.1.value
  let passed := (outcomes.filter fun outcome => outcome.2).map fun outcome => outcome.1.value
  { createdAt := now
    decisionId := id
    environment := p.environment
    proposalId := p.proposalId
    allowed := failed.isEmpty
    failedRules := failed
    passedRules := passed
    accountSnapshotId := account.snapshotId
    proposedMaxLoss := proposedLoss
    resultingAggregateRisk := resultingRisk
    dataFresh := passed.contains RiskRule.accountFresh.value &&
      passed.contains RiskRule.quoteFresh.value
    riskConfigVersion := E.config.version }

/-- `evaluate` at the time of the clock; `id` is the identifier it draws. A close cannot add
option risk, so it is judged by the identity rules alone. -/
def evaluate (id : UUID) (now : Time) (p : TradeProposal) (account : AccountSnapshot)
    (quote : OptionQuote) : RiskDecision :=
  let identity := E.identityOutcomes now p account quote
  if p.side = .sellToClose then E.decision id now p account identity 0 account.openOptionRisk
  else E.decision id now p account (identity ++ E.entryOutcomes p account quote)
    (p.maxLoss E.context) (E.resultingRisk p account)

@[simp] theorem evaluate_decisionId (id : UUID) (now : Time) (p : TradeProposal)
    (account : AccountSnapshot) (quote : OptionQuote) :
    (E.evaluate id now p account quote).decisionId = id := by
  unfold evaluate
  split <;> rfl

theorem decision_allowed (id : UUID) (now : Time) (p : TradeProposal) (account : AccountSnapshot)
    (outcomes : List (RiskRule × Bool)) (loss risk : ℚ) :
    (E.decision id now p account outcomes loss risk).allowed = true ↔
      ∀ outcome ∈ outcomes, outcome.2 = true := by
  simp [decision, List.filter_eq_nil_iff]

/-- The identifier that an evaluation draws does not decide it. -/
theorem evaluate_allowed_congr (id id' : UUID) (now : Time) (p : TradeProposal)
    (account : AccountSnapshot) (quote : OptionQuote) :
    (E.evaluate id now p account quote).allowed =
      (E.evaluate id' now p account quote).allowed := by
  unfold evaluate
  split <;> rfl

/-- An allowed entry has passed each of its own rules. -/
theorem evaluate_entry {id : UUID} {now : Time} {p : TradeProposal} {account : AccountSnapshot}
    {quote : OptionQuote} (buy : p.side = .buyToOpen)
    (allowed : (E.evaluate id now p account quote).allowed = true) :
    ∀ outcome ∈ E.entryOutcomes p account quote, outcome.2 = true := by
  have entry : p.side ≠ .sellToClose := by simp [buy]
  rw [evaluate, if_neg entry, decision_allowed] at allowed
  exact fun outcome member => allowed outcome (List.mem_append_right _ member)

/-- An allowed order is for the account's environment, and its account is fresh. -/
theorem evaluate_identity {id : UUID} {now : Time} {p : TradeProposal} {account : AccountSnapshot}
    {quote : OptionQuote} (allowed : (E.evaluate id now p account quote).allowed = true) :
    ∀ outcome ∈ E.identityOutcomes now p account quote, outcome.2 = true := by
  unfold evaluate at allowed
  split at allowed
  · exact (E.decision_allowed ..).mp allowed
  · exact fun outcome member =>
      (E.decision_allowed ..).mp allowed outcome (List.mem_append_left _ member)

end RiskEngine
end Sentry
