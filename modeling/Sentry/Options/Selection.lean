import Sentry.Options.Selector

/-!
# What a selection is

A chain is evaluated to its end exactly when no operation overflows and no quote has its bid
above its ask, which the domain model lets through where nothing is offered. The selection is then the first few of
the eligible quotes under the ranking key, whatever order the quotes came in. Its cap is the
one that was asked for, unless that is zero.
-/
namespace Sentry

open Support

/-! ### A selector and some quotes -/

namespace ContractSelector.SelectorSample

theorem settings_bounded :
    ({ maximumContractCost := 500 } : SelectorSettings).Bounded := by
  decide +kernel

theorem dte_ordered : (7 : ℤ) ≤ 45 := by norm_num

theorem target_within : (7 : ℤ) ≤ 21 ∧ (21 : ℤ) ≤ 45 := by norm_num

/-- A selector with the default settings, on the first day. -/
def defaults : ContractSelector where
  config :=
    { maximumContractCost := 500
      bounded := settings_bounded
      dte_ordered := dte_ordered
      target_within := target_within }
  easternDate := fun _ => 0

theorem spy_call_named : "spy-call" ≠ "" := by simp

def contract : OptionContract where
  instrumentId := "spy-call"
  symbol := "SPY"
  optionType := .call
  strike := 100
  expiration := 21
  instrumentId_ne := spy_call_named
  strike_pos := amount_pos (nat_lit 100)
  multiplier_pos := count_pos (nat_lit 100)

/-- Bid and asked for at one. -/
def fair : OptionQuote where
  snapshotId := ⟨5⟩
  contract := contract
  bid := 1
  ask := 1
  volume := some 500
  openInterest := some 500
  metadata := ⟨"replay", "v1", 0, 0, none⟩
  bid_nonneg := amount_nonneg (nat_lit 1)
  ask_nonneg := amount_nonneg (nat_lit 1)
  valid_market := fun _ => le_refl 1

theorem market_ask_nonneg {bid ask : ℚ} (bid_nonneg : 0 ≤ bid) (ordered : bid ≤ ask) : ask ≥ 0 :=
  bid_nonneg.trans ordered

/-- The fair quote with another market, under another identifier. -/
def market (id : String) (named : id ≠ "") (bid ask : ℚ) (bid_nonneg : 0 ≤ bid)
    (ordered : bid ≤ ask) : OptionQuote :=
  { fair with
    contract := { contract with instrumentId := id, instrumentId_ne := named }
    bid := bid
    ask := ask
    bid_nonneg := bid_nonneg
    ask_nonneg := market_ask_nonneg bid_nonneg ordered
    valid_market := fun _ => ordered }

theorem market_accepted {id : String} {named : id ≠ ""} {bid ask : ℚ} {bid_nonneg : 0 ≤ bid}
    {ordered : bid ≤ ask} : (market id named bid ask bid_nonneg ordered).Accepted where
  last_nonneg := by simp [market, fair]
  mark_nonneg := by simp [market, fair]
  impliedVolatility_nonneg := by simp [market, fair]

theorem listed_named (suffix : String) : "spy-" ++ suffix ≠ "" := by
  simp [String.append_eq_empty_iff]

theorem listed_nonneg (cents : Fin 101) : (0 : ℚ) ≤ 1 - (cents : ℕ) / 100 := by
  have most : ((cents : ℕ) : ℚ) ≤ 100 := by exact_mod_cast Nat.le_of_lt_succ cents.isLt
  linarith

theorem listed_ordered (cents : Fin 101) : (1 : ℚ) - (cents : ℕ) / 100 ≤ 1 + (cents : ℕ) / 100 := by
  have least : (0 : ℚ) ≤ (cents : ℕ) / 100 := by positivity
  linarith

/-- A market around one. -/
def listed (suffix : String) (cents : Fin 101) : OptionQuote :=
  market ("spy-" ++ suffix) (listed_named suffix) (1 - (cents : ℕ) / 100) (1 + (cents : ℕ) / 100)
    (listed_nonneg cents) (listed_ordered cents)

/-- One that is not bid for, and four others. -/
def chain : List OptionQuote :=
  [listed "a" 100, listed "b" 10, listed "c" 1, listed "d" 0, listed "e" 5]

theorem chain_accepted : ∀ quote ∈ chain, quote.Accepted := by
  simp [chain, listed, market_accepted]

theorem dear_nonneg : (0 : ℚ) ≤ 10 ^ (999999 : ℤ) := zpow_nonneg (by norm_num) _

/-- Offered at a price whose cost is beyond the exponents of the context. -/
def dear : OptionQuote :=
  market "spy-call" spy_call_named 0 (10 ^ (999999 : ℤ)) (amount_nonneg (nat_lit 0)) dear_nonneg

theorem fair_accepted : fair.Accepted where
  last_nonneg := by simp [fair]
  mark_nonneg := by simp [fair]
  impliedVolatility_nonneg := by simp [fair]

end ContractSelector.SelectorSample

namespace ContractSelector

variable {D : Decimal.Context} {bound : ℕ} {selector : ContractSelector} {direction : Direction}
  {optionType : OptionType} {underlyingPrice cap : ℚ} {quotes : List OptionQuote}
  {maximumContractCost : Option ℚ} {now : Time} {quote : OptionQuote} {e : ContractEvaluation}
  {detailed : DetailedContractSelection}

/-! ### Chains that are evaluated -/

theorem capOf_pos (selector : ContractSelector) (capped : ∀ cap ∈ maximumContractCost, 0 ≤ cap) :
    0 < selector.capOf maximumContractCost := by
  have own := selector.config.bounded.cost
  cases maximumContractCost with
  | none => exact own
  | some cap =>
    change 0 < if cap = 0 then selector.config.maximumContractCost else cap
    split
    · exact own
    next other => exact lt_of_le_of_ne (capped cap rfl) (Ne.symm other)

/-- The figures of a quote that has been evaluated. -/
theorem figures_of_evaluated (faithful : D.Faithful bound) (accepted : quote.Accepted)
    (positive : 0 < underlyingPrice)
    (ok : selector.evaluateQuote D optionType underlyingPrice cap now quote = .ok e) :
    quote.bid ≤ quote.ask ∧ e.metrics.toFigures =
      Calculations.figures D quote underlyingPrice (selector.easternDate now) := by
  obtain ⟨ordered, -, figures⟩ := (Calculations.contractMetrics_ok_iff faithful accepted positive).mp
    (evaluateQuote_ok ok).measured
  exact ⟨ordered, figures⟩

/-- No operation of the figures and of the score of a quote overflows. -/
def InRange (D : Decimal.Context) (selector : ContractSelector) (underlyingPrice : ℚ) (now : Time)
    (quote : OptionQuote) : Prop :=
  let figures := Calculations.figures D quote underlyingPrice (selector.easternDate now)
  D.Fits (Calculations.results D quote underlyingPrice ++
    qualityResults D selector.config quote figures (penalties quote figures))

instance (D : Decimal.Context) (selector : ContractSelector) (underlyingPrice : ℚ) (now : Time)
    (quote : OptionQuote) : Decidable (selector.InRange D underlyingPrice now quote) :=
  inferInstanceAs (Decidable (D.Fits _))

/-- A quote is evaluated if and only if its bid does not exceed its ask and no operation
overflows. -/
theorem evaluateQuote_returns_iff (faithful : D.Faithful bound) (accepted : quote.Accepted)
    (positive : 0 < underlyingPrice) :
    (∃ e, selector.evaluateQuote D optionType underlyingPrice cap now quote = .ok e) ↔
      quote.bid ≤ quote.ask ∧ selector.InRange D underlyingPrice now quote := by
  constructor
  · rintro ⟨e, ok⟩
    have evaluates := evaluateQuote_ok ok
    obtain ⟨ordered, fits, figures⟩ :=
      (Calculations.contractMetrics_ok_iff faithful accepted positive).mp evaluates.measured
    have scored := evaluates.scored
    rw [figures] at scored
    exact ⟨ordered, D.fits_append.mpr ⟨fits, scored⟩⟩
  · rintro ⟨ordered, inRange⟩
    obtain ⟨fits, scored⟩ := D.fits_append.mp inRange
    let metrics : ContractMetrics :=
      ⟨Calculations.figures D quote underlyingPrice (selector.easternDate now),
        Calculations.figures_bounded faithful accepted ordered⟩
    have measured : Calculations.contractMetrics D quote underlyingPrice
        (selector.easternDate now) = .ok metrics :=
      (Calculations.contractMetrics_ok_iff faithful accepted positive).mpr ⟨ordered, fits, rfl⟩
    exact evaluateQuote_returns measured scored

/-- What the filters ask of a quote under a cap. -/
structure Admissible (D : Decimal.Context) (config : ContractSelectorConfig)
    (optionType : OptionType) (underlyingPrice cap : ℚ) (asOf : Date) (now : Time)
    (quote : OptionQuote) : Prop where
  available : quote.metadata.observedAt ≤ now ∧ quote.metadata.effectiveAt ≤ now
  direction : quote.contract.optionType = optionType
  dte : config.minimumDte ≤ Calculations.daysToExpiration quote.contract.expiration asOf ∧
    Calculations.daysToExpiration quote.contract.expiration asOf ≤ config.maximumDte
  executable : 0 < quote.ask
  affordable : Calculations.askCost D quote ≤ cap
  bid : config.requireNonzeroBid = true → 0 < quote.bid
  spread : ∃ spread, Calculations.spreadPercent D quote = some spread ∧
    spread ≤ config.maximumBidAskPercent
  interest : ∀ interest ∈ quote.openInterest, config.minimumOpenInterest ≤ (interest : ℤ)
  volume : ∀ volume ∈ quote.volume, config.minimumOptionVolume ≤ (volume : ℤ)
  moneyness : D.round |Calculations.signedMoneyness D quote.contract underlyingPrice| ≤
    config.maximumAbsoluteMoneynessPercent
  volatility : ∀ limit ∈ config.maximumImpliedVolatility,
    ∀ volatility ∈ quote.impliedVolatility, volatility ≤ limit

/-- A quote is rejected for no reason if and only if it passes the filters. -/
theorem reasons_eq_nil_iff {config : ContractSelectorConfig} {metrics : ContractMetrics}
    {asOf : Date}
    (figures : metrics.toFigures = Calculations.figures D quote underlyingPrice asOf) :
    reasons config optionType cap now quote metrics = [] ↔
      Admissible D config optionType underlyingPrice cap asOf now quote := by
  have none_rejects : reasons config optionType cap now quote metrics = [] ↔
      ∀ filter ∈ filters config optionType cap now quote metrics, filter.2 = false := by
    simp [reasons, List.filter_eq_nil_iff]
  rw [none_rejects]
  simp only [filters, figures, Calculations.figures, List.forall_mem_cons,
    Option.any_eq_false]
  constructor
  · rintro ⟨available, direction, low, high, ask, cost, bid, undefined, wide, interest, volume,
      moneyness, volatility, -⟩
    refine ⟨?_, ?_, ?_, ?_, ?_, ?_, ?_, ?_, ?_, ?_, ?_⟩
    · simpa using available
    · simpa using direction
    · exact ⟨by simpa using low, by simpa using high⟩
    · simpa using ask
    · simpa using cost
    · simpa using bid
    · obtain ⟨spread, defined⟩ := Option.isSome_iff_exists.mp (by simpa using undefined)
      exact ⟨spread, defined, by simpa using wide spread defined⟩
    · simpa using interest
    · simpa using volume
    · simpa using moneyness
    · simpa using volatility
  · intro admissible
    obtain ⟨spread, defined, narrow⟩ := admissible.spread
    refine ⟨?_, ?_, ?_, ?_, ?_, ?_, ?_, ?_, ?_, ?_, ?_, ?_, ?_, ?_⟩
    · simpa using admissible.available
    · simpa using admissible.direction
    · simpa using admissible.dte.1
    · simpa using admissible.dte.2
    · simpa using admissible.executable
    · simpa using admissible.affordable
    · simpa using admissible.bid
    · simp [defined]
    · simp [defined, narrow]
    · simpa using admissible.interest
    · simpa using admissible.volume
    · simpa using admissible.moneyness
    · simpa using admissible.volatility
    · simp

/-- The eligible quotes are those that pass the filters. -/
theorem eligible_iff (faithful : D.Faithful bound) (accepted : quote.Accepted)
    (positive : 0 < underlyingPrice)
    (ok : selector.evaluateQuote D optionType underlyingPrice cap now quote = .ok e) :
    e.eligible = true ↔ Admissible D selector.config optionType underlyingPrice cap
      (selector.easternDate now) now quote := by
  have evaluates := evaluateQuote_ok ok
  have figures := (figures_of_evaluated faithful accepted positive ok).2
  rw [evaluates.eligible, List.isEmpty_iff, evaluates.reasons, reasons_eq_nil_iff figures]

/-! ### The selection of a chain -/

/-- The selections agree; the rejected quotes are compared as a mapping. -/
structure SameSelection (a b : ContractSelection) : Prop where
  status : a.status = b.status
  rankedQuotes : a.rankedQuotes = b.rankedQuotes
  rejectedReasons : ∀ id, a.rejectedReasons.get? id = b.rejectedReasons.get? id

/-- What has been evaluated, in the order of the identifiers, holds the ranked quotes and the
reasons of the others. -/
structure Ranked (D : Decimal.Context) (count : ℕ) (evaluations best : List ContractEvaluation)
    (selection : ContractSelection) : Prop where
  leads : Leads (rankingKey D) count (evaluations.filter ContractEvaluation.eligible) best
  quotes : selection.rankedQuotes = best.map ContractEvaluation.quote
  others : ∀ e ∈ evaluations, e ∉ best →
    (e.rejectionReasons ≠ [] ∧
      selection.rejectedReasons.get? e.quote.contract.instrumentId = some e.rejectionReasons) ∨
    ∀ top ∈ best, rankingKey D top < rankingKey D e


/-- No two of the contracts share an identifier. -/
def DistinctIds (quotes : List OptionQuote) : Prop :=
  (quotes.map fun quote => quote.contract.instrumentId).Nodup

section Distinct

variable {evaluations others : List ContractEvaluation}
  (distinct : Distinguished (fun e => e.quote.contract.instrumentId) evaluations)
include distinct

/-- The identifier is the last part of the ranking key. -/
theorem distinguished_rankingKey (D : Decimal.Context) :
    Distinguished (rankingKey D) evaluations := by
  apply distinct.imp
  intro x y apart same
  apply apart
  have lasts := congrArg (fun key => (ofLex (ofLex (ofLex key).2).2).2) same
  exact lasts

/-- The reasons of the rejected quotes are found under their identifiers. -/
theorem get?_rejected (id : String) (reasons : List String) :
    (rejected evaluations).get? id = some reasons ↔
      ∃ e ∈ evaluations, e.rejectionReasons ≠ [] ∧ e.quote.contract.instrumentId = id ∧
        e.rejectionReasons = reasons := by
  have ids : ((evaluations.filter fun e => !e.rejectionReasons.isEmpty).map
      fun e => e.quote.contract.instrumentId).Nodup :=
    List.pairwise_map.mpr (distinct.filter _)
  rw [← Dict.mem_entries, rejected, Dict.entries_ofPairs]
  · constructor
    · intro listed
      obtain ⟨e, kept, same⟩ := List.mem_map.mp listed
      cases same
      have kept := List.mem_filter.mp kept
      exact ⟨e, kept.1, by simpa using kept.2, rfl, rfl⟩
    · rintro ⟨e, member, rejected, rfl, rfl⟩
      exact List.mem_map.mpr ⟨e, List.mem_filter.mpr ⟨member, by simpa using rejected⟩, rfl⟩
  · rw [List.map_map]
    exact ids

/-- The selection of the evaluations does not depend on their order. -/
theorem select_same (D : Decimal.Context) (selector : ContractSelector)
    (same : evaluations.Perm others) :
    SameSelection (selector.select D evaluations) (selector.select D others) := by
  have ranked : (selector.select D evaluations).rankedQuotes =
      (selector.select D others).rankedQuotes := by
    have first := ranking_eq_of_perm
      ((distinguished_rankingKey distinct D).filter ContractEvaluation.eligible)
      (same.filter ContractEvaluation.eligible)
    simp only [select, leading, first]
  refine ⟨?_, ranked, ?_⟩
  · change statusOf _ = statusOf _
    exact congrArg statusOf ranked
  · intro id
    apply Option.ext
    intro reasons
    change (rejected evaluations).get? id = some reasons ↔ (rejected others).get? id = some reasons
    rw [get?_rejected distinct, get?_rejected (distinct.perm same)]
    simp only [same.mem_iff]

end Distinct

/-- The ranked quotes are the first eligible ones, none of them over the cap that was asked
for, and the order of the chain does not matter. -/
structure TrueTopK (D : Decimal.Context) (selector : ContractSelector) (direction : Direction)
    (underlyingPrice : ℚ) (quotes : List OptionQuote) (maximumContractCost : Option ℚ)
    (now : Time) (detailed : DetailedContractSelection) : Prop where
  evaluated : (detailed.evaluations.map ContractEvaluation.quote).Perm quotes
  ranked : ∃ best, Ranked D selector.config.maximumCandidates.toNat detailed.evaluations best
    detailed.selection
  within : ∀ cap ∈ maximumContractCost, ∀ quote ∈ detailed.selection.rankedQuotes,
    Calculations.askCost D quote ≤ cap
  stable : ∀ permuted, permuted.Perm quotes → ∃ other,
    selector.evaluate D direction underlyingPrice permuted maximumContractCost now = .ok other ∧
      SameSelection other.selection detailed.selection

/-- Apart from the cap, every selection is what it should be. -/
theorem trueTopK_of_within (distinct : DistinctIds quotes)
    (ok : selector.evaluate D direction underlyingPrice quotes maximumContractCost now =
      .ok detailed)
    (within : ∀ cap ∈ maximumContractCost, ∀ quote ∈ detailed.selection.rankedQuotes,
      Calculations.askCost D quote ≤ cap) :
    TrueTopK D selector direction underlyingPrice quotes maximumContractCost now detailed := by
  obtain ⟨positive, optionType, evaluations, typed, capped, each, selected, listed⟩ :=
    evaluate_ok ok
  have apart : Distinguished (fun e => e.quote.contract.instrumentId) evaluations := by
    rw [DistinctIds, ← quotes_of_forall₂ each, List.map_map] at distinct
    exact List.pairwise_map.mp distinct
  have sorted := ranking_perm (fun e => e.quote.contract.instrumentId) evaluations
  have keyed := (distinguished_rankingKey apart D).filter ContractEvaluation.eligible
  have first : Leads (rankingKey D) selector.config.maximumCandidates.toNat _ _ :=
    leads_leading keyed
  refine ⟨?_, ⟨_, ⟨first.perm ?_, ?_, ?_⟩⟩, within, ?_⟩
  · rw [listed, ← quotes_of_forall₂ each]
    exact sorted.map _
  · rw [listed]
    exact sorted.symm.filter _
  · rw [selected]
    rfl
  · intro e member out
    rw [listed, sorted.mem_iff] at member
    rw [selected]
    by_cases judged : e.rejectionReasons = []
    · -- without a reason it is eligible, so it comes after the first ones
      right
      obtain ⟨quote, -, measured⟩ := exists_of_forall₂ each e member
      have eligible : e.eligible = true := by
        rw [(evaluateQuote_ok measured).eligible, judged]
        rfl
      exact first.others e (List.mem_filter.mpr ⟨member, eligible⟩) out
    · left
      exact ⟨judged, (get?_rejected apart _ _).mpr ⟨e, member, judged, rfl, rfl⟩⟩
  · intro permuted same
    obtain ⟨others, each', shuffled⟩ := List.perm_comp_forall₂ same each
    refine ⟨_, evaluate_eq positive typed capped each', ?_⟩
    rw [selected]
    exact select_same (apart.perm shuffled.symm) D selector shuffled

section Cap

variable (faithful : D.Faithful bound) (accepted : ∀ quote ∈ quotes, quote.Accepted)
  (ok : selector.evaluate D direction underlyingPrice quotes maximumContractCost now =
    .ok detailed)
include faithful accepted ok

/-- What is ranked passes the filters, under the cap that was used. -/
theorem admissible_of_ranked (member : quote ∈ detailed.selection.rankedQuotes) :
    ∃ optionType, optionTypeOf direction = .ok optionType ∧
      Admissible D selector.config optionType underlyingPrice (selector.capOf maximumContractCost)
        (selector.easternDate now) now quote := by
  obtain ⟨positive, optionType, evaluations, typed, -, each, selected, -⟩ := evaluate_ok ok
  rw [selected] at member
  obtain ⟨e, shown, rfl⟩ := List.mem_map.mp member
  obtain ⟨listed, eligible⟩ := List.mem_filter.mp (mem_leading shown)
  obtain ⟨quote, source, evaluated⟩ := exists_of_forall₂ each e listed
  rw [(evaluateQuote_ok evaluated).source]
  exact ⟨optionType, typed,
    (eligible_iff faithful (accepted quote source) positive evaluated).mp eligible⟩

omit faithful accepted in
theorem mem_quotes_of_ranked (member : quote ∈ detailed.selection.rankedQuotes) :
    quote ∈ quotes := by
  obtain ⟨-, _, evaluations, -, -, each, selected, -⟩ := evaluate_ok ok
  rw [selected] at member
  obtain ⟨e, top, rfl⟩ := List.mem_map.mp member
  have source := List.mem_map_of_mem (f := ContractEvaluation.quote)
    (List.mem_filter.mp (mem_leading top)).1
  rwa [quotes_of_forall₂ each] at source

/-- Something is ranked as soon as one quote passes the filters. -/
theorem ranked_ne_nil (typed : optionTypeOf direction = .ok optionType) (member : quote ∈ quotes)
    (admissible : Admissible D selector.config optionType underlyingPrice
      (selector.capOf maximumContractCost) (selector.easternDate now) now quote) :
    detailed.selection.rankedQuotes ≠ [] := by
  obtain ⟨positive, optionType, evaluations, typed', -, each, selected, -⟩ := evaluate_ok ok
  cases typed.symm.trans typed'
  obtain ⟨e, listed, evaluated⟩ := exists_of_forall₂ each.flip quote member
  have eligible := (eligible_iff faithful (accepted quote member) positive evaluated).mpr admissible
  have kept : e ∈ evaluations.filter ContractEvaluation.eligible :=
    List.mem_filter.mpr ⟨listed, eligible⟩
  have some_kept := List.length_pos_of_mem kept
  have candidates := selector.config.bounded.candidates.1
  rw [selected]
  apply List.ne_nil_of_length_pos
  change 0 < (List.map ContractEvaluation.quote (leading _ _ _)).length
  rw [List.length_map, leading, List.length_take, (ranking_perm _ _).length_eq]
  omega

/-- What is ranked keeps to the cap that was asked for, unless that is zero and ignored. -/
theorem within_iff :
    (∀ cap ∈ maximumContractCost, ∀ quote ∈ detailed.selection.rankedQuotes,
      Calculations.askCost D quote ≤ cap) ↔
    ¬ (maximumContractCost = some 0 ∧ ∃ quote ∈ quotes, ∃ optionType,
      optionTypeOf direction = .ok optionType ∧
      Admissible D selector.config optionType underlyingPrice selector.config.maximumContractCost
        (selector.easternDate now) now quote) := by
  constructor
  · rintro within ⟨rfl, quote, member, optionType, typed, admissible⟩
    have ranked := ranked_ne_nil faithful accepted ok typed member admissible
    obtain ⟨first, shown⟩ := List.exists_mem_of_ne_nil _ ranked
    obtain ⟨_, -, passed⟩ := admissible_of_ranked faithful accepted ok shown
    have cost : 0 < Calculations.askCost D first := by
      have multiplier : (0 : ℚ) < first.contract.multiplier := by
        exact_mod_cast first.contract.multiplier_pos
      have single : 0 < D.mul first.ask (1 : ℤ) :=
        faithful.pos (mul_pos passed.executable (by norm_num))
      exact faithful.pos (mul_pos single multiplier)
    exact absurd (within 0 rfl first shown) (not_le.mpr cost)
  · rintro unasked cap rfl quote shown
    obtain ⟨optionType, typed, passed⟩ := admissible_of_ranked faithful accepted ok shown
    have affordable := passed.affordable
    by_cases zero : cap = 0
    · -- nothing passes the filters under the configured cap, so nothing is ranked
      subst zero
      have source := mem_quotes_of_ranked ok shown
      exact absurd ⟨rfl, quote, source, optionType, typed, passed⟩ unasked
    · rwa [capOf, if_neg zero] at affordable

end Cap

/-- The selection is the true top of the eligible quotes, within the cap, if and only if that
is not zero while a quote passes the filters under the configured one. -/
theorem trueTopK_iff (selector : ContractSelector) (distinct : DistinctIds quotes)
    (accepted : ∀ quote ∈ quotes, quote.Accepted)
    (ok : selector.evaluate (.halfEven 28) direction underlyingPrice quotes maximumContractCost
      now = .ok detailed) :
    TrueTopK (.halfEven 28) selector direction underlyingPrice quotes maximumContractCost now
        detailed ↔
      ¬ (maximumContractCost = some 0 ∧ ∃ quote ∈ quotes, ∃ optionType,
        optionTypeOf direction = .ok optionType ∧
        Admissible (.halfEven 28) selector.config optionType underlyingPrice
          selector.config.maximumContractCost (selector.easternDate now) now quote) := by
  have faithful := Decimal.Context.faithful_halfEven (by norm_num : 1 ≤ 28)
  rw [← within_iff faithful accepted ok]
  constructor
  · intro top
    exact top.within
  · intro within
    exact trueTopK_of_within distinct ok within

namespace SelectorSample

/-- The fair quote passes the filters wherever numbers up to a hundred are kept. -/
theorem fair_admissible (faithful : D.Faithful bound) (room : 100 < bound) :
    Admissible D defaults.config .call 100 500 0 0 fair := by
  have zero := faithful.natCast 0 (by omega)
  have one := faithful.natCast 1 (by omega)
  have two := faithful.natCast 2 (by omega)
  have hundred := faithful.natCast 100 room
  norm_num at zero one two hundred
  have center : Calculations.center D fair = 1 := by
    norm_num [Calculations.center, fair, Decimal.Context.add, Decimal.Context.div, two, one]
  refine ⟨⟨le_refl 0, le_refl 0⟩, rfl, ⟨by decide, by decide⟩, one_pos, ?_, fun _ => one_pos,
    ⟨0, ?_, by norm_num [defaults]⟩, ?_, ?_, ?_, ?_⟩
  · norm_num [Calculations.askCost, fair, contract, Decimal.Context.mul, one, hundred]
  · rw [Calculations.spreadPercent, center]
    norm_num [fair, Decimal.Context.sub, Decimal.Context.mul, Decimal.Context.div, zero]
  · simp [fair, defaults]
  · simp [fair, defaults]
  · norm_num [Calculations.signedMoneyness, Calculations.outside, fair, contract, defaults,
      Decimal.Context.sub,
      Decimal.Context.mul, Decimal.Context.div, zero]
  · simp [fair]

theorem fair_evaluated (faithful : D.Faithful bound) (inRange : defaults.InRange D 100 0 fair)
    (maximumContractCost : Option ℚ) (capped : ∀ cap ∈ maximumContractCost, 0 ≤ cap) :
    ∃ detailed, defaults.evaluate D .bullish 100 [fair] maximumContractCost 0 = .ok detailed := by
  obtain ⟨e, evaluated⟩ : ∃ e, defaults.evaluateQuote D .call 100
      (defaults.capOf maximumContractCost) 0 fair = .ok e :=
    (evaluateQuote_returns_iff faithful fair_accepted (by norm_num)).mpr ⟨le_refl 1, inRange⟩
  exact ⟨_, evaluate_eq (by norm_num) rfl (capOf_pos defaults capped)
    (.cons evaluated .nil)⟩

theorem fair_only {p : OptionQuote → Prop} (holds : p fair) : ∀ quote ∈ [fair], p quote := by
  simpa using holds

theorem chain_judged :
    (chain.mapM (defaults.evaluateQuote (.halfEven 28) .call 100 150 0)).toOption.map
        (fun evaluations => ((evaluations.filter ContractEvaluation.eligible).length,
          (rejected evaluations).entries)) =
      some (4, [("spy-a", ["premium_cap_exceeded", "zero_bid", "spread_too_wide"])]) := by
  decide +kernel

/-- Of the four eligible quotes three are ranked. -/
theorem chain_evaluated : ∃ detailed,
    defaults.evaluate (.halfEven 28) .bullish 100 chain (some 150) 0 = .ok detailed ∧
      detailed.selection.rankedQuotes.length = 3 ∧
      detailed.selection.rejectedReasons.entries =
        [("spy-a", ["premium_cap_exceeded", "zero_bid", "spread_too_wide"])] := by
  have capped : 0 < defaults.capOf (some 150) := capOf_pos defaults (by norm_num)
  have cap : defaults.capOf (some 150) = 150 := by norm_num [capOf]
  cases mapped : chain.mapM (defaults.evaluateQuote (.halfEven 28) .call 100 150 0) with
  | error e =>
    have judged := chain_judged
    rw [mapped] at judged
    cases judged
  | ok evaluations =>
    have judged := chain_judged
    rw [mapped] at judged
    obtain ⟨eligible, reasons⟩ := Prod.mk.inj (Option.some.inj judged)
    rw [← cap] at mapped
    refine ⟨_, evaluate_eq (by norm_num) rfl capped (mapM_ok_iff.mp mapped), ?_, reasons⟩
    change (List.map _ (leading _ _ _)).length = 3
    rw [List.length_map, leading, List.length_take, (ranking_perm _ _).length_eq, eligible]
    rfl

end SelectorSample

open SelectorSample in
theorem trueTopK_iff_chain : ∃ detailed,
    defaults.evaluate (.halfEven 28) .bullish 100 chain (some 150) 0 =
        .ok detailed ∧
      detailed.selection.rankedQuotes.length = 3 ∧
      detailed.selection.rejectedReasons.entries =
        [("spy-a", ["premium_cap_exceeded", "zero_bid", "spread_too_wide"])] ∧
      TrueTopK (.halfEven 28) defaults .bullish 100 chain (some 150) 0 detailed := by
  obtain ⟨detailed, ok, three, reasons⟩ := chain_evaluated
  have distinct : DistinctIds chain := by
    unfold DistinctIds
    decide +kernel
  refine ⟨detailed, ok, three, reasons, ?_⟩
  exact (trueTopK_iff defaults distinct chain_accepted ok).mpr
    fun zero => by norm_num at zero

open SelectorSample in
/-- A cap of zero admits a quote that costs a hundred. -/
theorem not_trueTopK_zero : ∃ detailed,
    defaults.evaluate (.halfEven 28) .bullish 100 [fair] (some 0) 0 =
        .ok detailed ∧
      DistinctIds [fair] ∧ detailed.selection.rankedQuotes ≠ [] ∧
      ¬ TrueTopK (.halfEven 28) defaults .bullish 100 [fair] (some 0) 0 detailed := by
  have faithful := Decimal.Context.faithful_halfEven (by norm_num : 1 ≤ 28)
  have accepted := fair_only fair_accepted
  obtain ⟨detailed, ok⟩ := fair_evaluated faithful (by decide +kernel) (some 0)
    (by norm_num)
  have admissible := fair_admissible faithful (by norm_num)
  have first := List.mem_singleton_self fair
  refine ⟨detailed, ok, List.nodup_singleton _, ?_, ?_⟩
  · exact ranked_ne_nil faithful accepted ok rfl first admissible
  · intro top
    exact (within_iff faithful accepted ok).mp top.within
      ⟨rfl, _, first, _, rfl, admissible⟩

end ContractSelector
end Sentry
