import Sentry.Options.Selection

/-!
# The selector and the risk engine

The selector measures the spread against the midpoint and the risk engine against the ask,
which is never below it; the cost of one contract at the ask is the loss the engine allows.
So what a selector with the engine's limits ranks passes the engine's rules on the quote.
-/
namespace Sentry

open Support

namespace RiskRule

/-- The rule of a name. -/
def ofValue (name : String) : Option RiskRule :=
  [environmentMatch, configVersionMatch, accountStateKnown, liveAccountAuthenticated,
    accountFresh, quoteFresh, quoteMatch, entrySide, allowedInstrument, contractLimit,
    premiumLimit, aggregateRiskLimit, openPositionLimit, dailyEntryLimit, cashAffordable,
    buyingPowerAffordable, liveCapitalCeiling, nonzeroBid, minimumOpenInterest,
    minimumOptionVolume, maximumBidAskSpread].find? fun rule => rule.value == name

theorem ofValue_value (rule : RiskRule) : ofValue rule.value = some rule := by
  cases rule <;> decide

theorem value_injective : Function.Injective value := by
  intro a b same
  have found := ofValue_value a
  rw [same, ofValue_value] at found
  exact (Option.some.inj found).symm

/-- The rules on the quote that the selector knows of. -/
def ofSelector : List RiskRule :=
  [premiumLimit, nonzeroBid, minimumOpenInterest, minimumOptionVolume, maximumBidAskSpread]

end RiskRule

namespace RiskEngine

variable {E : RiskEngine} {p : TradeProposal} {account : AccountSnapshot} {quote : OptionQuote}

/-- A rule is passed, and does not fail, when every outcome of it is good. -/
theorem passed_of_outcomes {id : UUID} {now : Time} {outcomes : List (RiskRule × Bool)}
    {loss risk : ℚ} {rule : RiskRule} (judged : rule ∈ outcomes.map Prod.fst)
    (good : ∀ outcome ∈ outcomes, outcome.1 = rule → outcome.2 = true) :
    rule.value ∈ (E.decision id now p account outcomes loss risk).passedRules ∧
      rule.value ∉ (E.decision id now p account outcomes loss risk).failedRules := by
  constructor
  · obtain ⟨outcome, member, rfl⟩ := List.mem_map.mp judged
    exact List.mem_map.mpr ⟨outcome, List.mem_filter.mpr ⟨member, good outcome member rfl⟩, rfl⟩
  · intro failed
    obtain ⟨outcome, member, same⟩ := List.mem_map.mp failed
    obtain ⟨listed, bad⟩ := List.mem_filter.mp member
    rw [good outcome listed (RiskRule.value_injective same)] at bad
    exact absurd bad (by simp)

/-- One contract of a quote, bought at its ask. -/
structure OneAtAsk (p : TradeProposal) (quote : OptionQuote) : Prop where
  contract : p.contract = quote.contract
  side : p.side = .buyToOpen
  quantity : p.quantity = 1
  limit : p.limitPrice.val = quote.ask

/-- The limits of the selector, when they are those of the engine. -/
structure SameLimits (config : ContractSelectorConfig) (risk : RiskConfig) : Prop where
  cost : config.maximumContractCost = risk.risk.maxNewTradePremiumDollars
  bid : config.requireNonzeroBid = risk.liquidity.requireNonzeroBid
  interest : config.minimumOpenInterest = risk.liquidity.startingMinimumOpenInterest
  volume : config.minimumOptionVolume = risk.liquidity.startingMinimumOptionVolume
  percent : config.maximumBidAskPercent = risk.liquidity.startingMaximumBidAskPercent

theorem sameLimits_of_fromRiskConfig {risk : RiskConfig} {minimumDte maximumDte : ℤ}
    {moneyness : ℚ} {candidates : ℤ} {version : String} {config : ContractSelectorConfig}
    (built : ContractSelectorConfig.fromRiskConfig risk minimumDte maximumDte moneyness candidates
      version = .ok config) : SameLimits config risk := by
  have settings := ContractSelectorConfig.validate_ok built
  constructor <;> rw [settings]

/-- Measured against the ask the spread is no wider than against the midpoint. -/
theorem spreadPercent_le (exact : E.context = .exact) (ordered : quote.bid ≤ quote.ask)
    (executable : 0 < quote.ask) {spread : ℚ}
    (around : Calculations.spreadPercent .exact quote = some spread) :
    ∃ percent, E.spreadPercent quote = some percent ∧ percent ≤ spread := by
  refine ⟨_, if_pos executable, ?_⟩
  unfold Calculations.spreadPercent at around
  split at around
  · cases around
  next center =>
  cases around
  have bid := quote.bid_nonneg
  simp only [exact, Decimal.Context.exact_mul, Decimal.Context.exact_div,
    Decimal.Context.exact_sub, Decimal.Context.exact_add, Calculations.center]
  have below : (quote.bid + quote.ask) / 2 ≤ quote.ask := by linarith
  have sign : 0 < (quote.bid + quote.ask) / 2 := by linarith
  have dollars : 0 ≤ quote.ask - quote.bid := by linarith
  gcongr

/-- Each rule on the quote is among those an entry is judged by. -/
theorem judged_of_selector {now : Time} {rule : RiskRule}
    (known : rule ∈ RiskRule.ofSelector) :
    rule ∈ (E.identityOutcomes now p account quote ++ E.entryOutcomes p account quote).map
      Prod.fst := by
  simp only [RiskRule.ofSelector, List.mem_cons, List.not_mem_nil, or_false] at known
  rcases known with rfl | rfl | rfl | rfl | rfl <;>
    simp [identityOutcomes, entryOutcomes]

/-- A quote that passes the filters under the engine's limits passes the engine's rules. -/
theorem outcomes_good {config : ContractSelectorConfig} {optionType : OptionType}
    {underlyingPrice : ℚ} {asOf : Date} {now now' : Time} (limits : SameLimits config E.config)
    (exact : E.context = .exact) (one : OneAtAsk p quote) (ordered : quote.bid ≤ quote.ask)
    (admissible : ContractSelector.Admissible .exact config optionType underlyingPrice
      config.maximumContractCost asOf now' quote)
    (interest : quote.openInterest.isSome) (volume : quote.volume.isSome) :
    ∀ outcome ∈ E.identityOutcomes now p account quote ++ E.entryOutcomes p account quote,
      outcome.1 ∈ RiskRule.ofSelector → outcome.2 = true := by
  have affordable := admissible.affordable
  have bid := admissible.bid
  obtain ⟨spread, around, narrow⟩ := admissible.spread
  obtain ⟨percent, measured, below⟩ := spreadPercent_le exact ordered admissible.executable around
  obtain ⟨contracts, known⟩ := Option.isSome_iff_exists.mp interest
  obtain ⟨traded, known'⟩ := Option.isSome_iff_exists.mp volume
  have open_enough := admissible.interest contracts known
  have traded_enough := admissible.volume traded known'
  rw [limits.cost, Calculations.askCost, Decimal.Context.exact_mul, Decimal.Context.exact_mul]
    at affordable
  rw [limits.bid] at bid
  rw [limits.percent] at narrow
  rw [limits.interest] at open_enough
  rw [limits.volume] at traded_enough
  have loss : p.maxLoss E.context ≤ E.config.risk.maxNewTradePremiumDollars := by
    rw [TradeProposal.maxLoss, exact, Decimal.Context.exact_mul, Decimal.Context.exact_mul,
      one.limit, one.quantity, one.contract]
    exact affordable
  have wide_enough : percent ≤ E.config.liquidity.startingMaximumBidAskPercent :=
    below.trans narrow
  have bid_there : E.config.liquidity.requireNonzeroBid = false ∨ 0 < quote.bid := by
    cases required : E.config.liquidity.requireNonzeroBid with
    | false => exact .inl rfl
    | true => exact .inr (bid required)
  have open_enough' : E.config.liquidity.startingMinimumOpenInterest ≤ contracts := by omega
  have traded_enough' : E.config.liquidity.startingMinimumOptionVolume ≤ traded := by omega
  simp only [identityOutcomes, entryOutcomes, List.cons_append, List.nil_append,
    List.forall_mem_cons]
  -- the other rules are not asked about
  simp [RiskRule.ofSelector, known, known', measured, loss, bid_there, open_enough',
    traded_enough', wide_enough]

end RiskEngine

namespace ContractSelector

variable {selector : ContractSelector} {direction : Direction} {underlyingPrice : ℚ}
  {quotes : List OptionQuote} {now : Time} {quote : OptionQuote}
  {detailed : DetailedContractSelection}

/-- One contract of a ranked quote, bought at its ask, passes the rules of the risk engine on
which the selector is built. -/
theorem ranked_passes (E : RiskEngine) (exact : E.context = .exact) {minimumDte maximumDte : ℤ}
    {moneyness : ℚ} {candidates : ℤ} {version : String}
    (built : ContractSelectorConfig.fromRiskConfig E.config minimumDte maximumDte moneyness
      candidates version = .ok selector.config)
    (accepted : ∀ quote ∈ quotes, quote.Accepted)
    (ok : selector.evaluate .exact direction underlyingPrice quotes none now = .ok detailed)
    (ranked : quote ∈ detailed.selection.rankedQuotes) (interest : quote.openInterest.isSome)
    (volume : quote.volume.isSome) {p : TradeProposal} (one : RiskEngine.OneAtAsk p quote)
    (id : UUID) (at_ : Time) (account : AccountSnapshot) :
    ∀ rule ∈ RiskRule.ofSelector,
      rule.value ∈ (E.evaluate id at_ p account quote).passedRules ∧
        rule.value ∉ (E.evaluate id at_ p account quote).failedRules := by
  intro rule chosen
  obtain ⟨optionType, -, admissible⟩ :=
    admissible_of_ranked (Decimal.Context.faithful_exact 0) accepted ok ranked
  have ordered := quote.valid_market admissible.executable.ne'
  have entry : p.side ≠ .sellToClose := by simp [one.side]
  have good : ∀ outcome ∈ E.identityOutcomes at_ p account quote ++ E.entryOutcomes p account quote,
      outcome.1 ∈ RiskRule.ofSelector → outcome.2 = true :=
    RiskEngine.outcomes_good (RiskEngine.sameLimits_of_fromRiskConfig built) exact one ordered
      admissible interest volume
  rw [RiskEngine.evaluate, if_neg entry]
  apply RiskEngine.passed_of_outcomes (RiskEngine.judged_of_selector chosen)
  intro outcome member same
  exact good outcome member (same ▸ chosen)

namespace SelectorSample

/-- Limits with thresholds for the market, the interest and the volume. -/
def engine : RiskEngine where
  config :=
    { version := "risk-v1"
      strategy :=
        { allowedInstruments := ["long_call", "long_put"]
          maximumContractsPerPosition := 1
          contracts_pos := count_pos (nat_lit 1) }
      risk :=
        { maxNewTradePremiumDollars := 500
          maxTotalOpenOptionRiskDollars := 500
          maxOpenPositions := 1
          maxNewEntriesPerDay := 1
          premium_pos := amount_pos (nat_lit 500)
          risk_pos := amount_pos (nat_lit 500)
          positions_pos := Nat.succ_pos (nat_lit 0)
          entries_pos := Nat.succ_pos (nat_lit 0) }
      liquidity :=
        { startingMinimumOpenInterest := 100
          startingMinimumOptionVolume := 50
          startingMaximumBidAskPercent := 25
          percent_pos := amount_pos (nat_lit 25) } }
  context := .exact

def strictSettings : SelectorSettings :=
  { maximumContractCost := 500, minimumOpenInterest := 100, minimumOptionVolume := 50 }

theorem strict_bounded : strictSettings.Bounded := by
  decide +kernel

/-- The selector on these limits. -/
def strict : ContractSelector where
  config :=
    { strictSettings with
      bounded := strict_bounded
      dte_ordered := dte_ordered
      target_within := target_within }
  easternDate := fun _ => 0

theorem strict_built :
    ContractSelectorConfig.fromRiskConfig engine.config 7 45 20 3 "selector-v1" =
      .ok strict.config := by
  change ContractSelectorConfig.validate strictSettings = _
  have ordered : strictSettings.minimumDte ≤ strictSettings.maximumDte := dte_ordered
  have within : strictSettings.minimumDte ≤ strictSettings.targetDte ∧
      strictSettings.targetDte ≤ strictSettings.maximumDte := target_within
  rw [ContractSelectorConfig.validate, dif_pos strict_bounded, dif_pos ordered, dif_pos within]
  rfl

/-- A bid of 0.95 and an ask of 1.05. -/
def open_ : OptionQuote := listed "e" ⟨5, by decide⟩

/-- One contract of the quote at its ask. -/
def bought : TradeProposal where
  createdAt := 0
  proposalId := ⟨3⟩
  environment := .demo
  namespace_ := "demo"
  packetId := ⟨1⟩
  symbol := "SPY"
  contract := open_.contract
  side := .buyToOpen
  quantity := 1
  limitPrice := ⟨105, -2⟩
  quoteSnapshotId := ⟨5⟩
  quoteAsOf := 0
  policyVersion := "policy-v1"
  riskConfigVersion := "risk-v1"
  thesis := ""
  invalidationConditions := []
  quantity_pos := count_pos (nat_lit 1)
  limitPrice_pos := Decimal.val_pos (nat_lit 105) (nat_lit 2)

def account : AccountSnapshot where
  createdAt := 0
  snapshotId := ⟨4⟩
  environment := .demo
  accountKind := .simulated
  cash := 1000
  buyingPower := 1000
  asOf := 0
  isAuthenticated := false
  stateKnown := true

theorem bought_open : RiskEngine.OneAtAsk bought open_ where
  contract := rfl
  side := rfl
  quantity := rfl
  limit := by norm_num [bought, open_, listed, market, Decimal.val]

/-- Beside a market that nobody bids for. -/
def pair : List OptionQuote := [listed "a" ⟨100, by decide⟩, open_]

theorem pair_accepted : ∀ quote ∈ pair, quote.Accepted := by
  simp [pair, open_, listed, market_accepted]

theorem pair_ranked :
    (pair.mapM (strict.evaluateQuote .exact .call 100 500 0)).toOption.map
        (fun evaluations => (strict.select .exact evaluations).rankedQuotes.map fun quote =>
          quote.contract.instrumentId) =
      some ["spy-e"] := by
  decide +kernel

theorem open_ranked : ∃ detailed,
    strict.evaluate .exact .bullish 100 pair none 0 = .ok detailed ∧
      open_ ∈ detailed.selection.rankedQuotes := by
  have ranked := pair_ranked
  cases mapped : pair.mapM (strict.evaluateQuote .exact .call 100 500 0) with
  | error e =>
    rw [mapped] at ranked
    cases ranked
  | ok evaluations =>
    rw [mapped] at ranked
    have ids : (strict.select .exact evaluations).rankedQuotes.map
        (fun quote => quote.contract.instrumentId) = ["spy-e"] := Option.some.inj ranked
    have ok : strict.evaluate .exact .bullish 100 pair none 0 = .ok _ :=
      evaluate_eq (by norm_num) rfl (capOf_pos strict (by simp)) (mapM_ok_iff.mp mapped)
    refine ⟨_, ok, ?_⟩
    obtain ⟨first, shown⟩ : ∃ first, first ∈ (strict.select .exact evaluations).rankedQuotes :=
      List.exists_mem_of_ne_nil _ fun none_ => by simp [none_] at ids
    have id : first.contract.instrumentId ∈
        (strict.select .exact evaluations).rankedQuotes.map fun quote => quote.contract.instrumentId :=
      List.mem_map_of_mem shown
    rw [ids] at id
    have source := mem_quotes_of_ranked ok shown
    simp only [pair, List.mem_cons, List.not_mem_nil, or_false] at source id
    rcases source with rfl | rfl
    · exact absurd id (by decide)
    · exact shown

end SelectorSample

open SelectorSample in
theorem ranked_passes_open :
    (∀ rule ∈ RiskRule.ofSelector, rule.value ∈
        (engine.evaluate ⟨9⟩ 0 bought account open_).passedRules) ∧
      ∀ rule ∈ RiskRule.ofSelector, rule.value ∉
        (engine.evaluate ⟨9⟩ 0 bought account open_).failedRules := by
  obtain ⟨detailed, ok, ranked⟩ := open_ranked
  have passes := ranked_passes engine rfl strict_built pair_accepted ok ranked
    rfl rfl bought_open ⟨9⟩ 0 account
  exact ⟨fun rule chosen => (passes rule chosen).1, fun rule chosen => (passes rule chosen).2⟩

end ContractSelector
end Sentry
