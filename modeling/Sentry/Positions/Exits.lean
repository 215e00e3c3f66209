import Sentry.Broker.RobinhoodMcp
import Sentry.Execution.EqualProposals
import Sentry.Ledger.Solvency
import Sentry.Support.Register
import Sentry.Support.Writes

/-!
# Exits and their proposals

`evaluate_exit` of `app/positions/manager.py`, and `_propose_exits` and `add_proposal` of the
two runtimes, run after run and across restarts. A proposal is identified by its position
and the snapshot of the quote; its content also depends on the clock.
-/
namespace Sentry

open Support

/-! ### The position manager -/

inductive ExitTrigger where
  | profitTarget | lossThreshold | thesisInvalidated | catalystFailed | dteCutoff | endOfDay
  | liquidityDeterioration | hardPortfolioEmergency
  deriving DecidableEq

def ExitTrigger.value : ExitTrigger → String
  | .profitTarget => "profit_target"
  | .lossThreshold => "loss_threshold"
  | .thesisInvalidated => "thesis_invalidated"
  | .catalystFailed => "catalyst_failed"
  | .dteCutoff => "dte_cutoff"
  | .endOfDay => "end_of_day"
  | .liquidityDeterioration => "liquidity_deterioration"
  | .hardPortfolioEmergency => "hard_portfolio_emergency"

/-- A policy with what its constructor checks. Times are in microseconds. -/
structure ExitPolicy where
  version : String
  profitTargetFraction : ℚ := 1 / 2
  lossThresholdFraction : ℚ := 7 / 20
  sellToCloseDaysBeforeExpiration : ℤ := 1
  maximumBidAskPercent : ℚ := 40
  endOfDayExit : Bool := false
  endOfDayCutoff : ℤ := 56700000000
  maximumQuoteAge : ℤ := 120000000
  version_ne : version ≠ ""
  profitTargetFraction_nonneg : 0 ≤ profitTargetFraction
  lossThresholdFraction_nonneg : 0 ≤ lossThresholdFraction
  sellToCloseDays_nonneg : 0 ≤ sellToCloseDaysBeforeExpiration
  maximumBidAskPercent_pos : 0 < maximumBidAskPercent
  maximumQuoteAge_pos : 0 < maximumQuoteAge

/-- The zone of the policy, and the exchange's calendar. -/
structure MarketZone where
  localDate : Time → Date
  /-- The instant of a time of day. -/
  combine : Date → ℤ → Time
  sessionDay : Time → Date
  /-- The close of a session; a text where the year is not covered. -/
  regularSessionClose : Date → Except String (Option Time)

/-- A quote and the digits its bid is written with. -/
structure WrittenQuote where
  quote : OptionQuote
  bid : Decimal
  bid_val : bid.val = quote.bid

/-- What is reported to the manager beside the quote; the runtimes report nothing. -/
structure ExitSignals where
  invalidatedConditions : List String := []
  catalystFailed : Bool := false
  hardPortfolioEmergency : Bool := false

structure ExitDecision where
  positionId : UUID
  evaluatedAt : Time
  shouldExit : Bool
  executable : Bool
  side : OrderSide
  quantity : ℤ
  limitPrice : Option Decimal
  triggers : List ExitTrigger
  unrealizedPnl : ℚ
  unrealizedReturn : ℚ
  quoteSnapshotId : UUID
  policyVersion : String
  reason : String

namespace PositionManager

variable (D : Decimal.Context) (policy : ExitPolicy) (zone : MarketZone) (now : Time)
  (signals : ExitSignals) (position : Position) (quote : OptionQuote)

def pnl (liquidationPrice : ℚ) : ℚ :=
  D.mul (D.mul (D.sub liquidationPrice position.averageEntryPrice) position.quantity)
    position.contract.multiplier

def entryCost : ℚ :=
  D.mul (D.mul position.averageEntryPrice position.quantity) position.contract.multiplier

def returnFraction : ℚ :=
  if entryCost D position = 0 then 0
  else D.div (pnl D position quote.bid) (entryCost D position)

/-- The results of the operations for gain, cost and the thresholds. -/
def returnResults : List ℚ :=
  let gain := D.sub quote.bid position.averageEntryPrice
  [gain, D.mul gain position.quantity, pnl D position quote.bid,
    D.mul position.averageEntryPrice position.quantity, entryCost D position,
    returnFraction D position quote, D.round (-policy.lossThresholdFraction)]

/-- Those for the spread in percent of the ask. -/
def spreadResults : List ℚ :=
  if 0 < quote.ask then
    let ratio := D.div (D.sub quote.ask quote.bid) quote.ask
    [D.sub quote.ask quote.bid, ratio, D.mul ratio 100]
  else []

/-- An operator's earlier cutoff is kept, but never one within a quarter of an hour of the
session's close. -/
def endOfDayReached : Except Exc Bool :=
  if policy.endOfDayExit = false then .ok false
  else match zone.regularSessionClose (zone.sessionDay now) with
    | .error text => .error (.valueError text)
    | .ok none => .ok false
    | .ok (some close) =>
      let cutoff := min (zone.combine (zone.localDate now) policy.endOfDayCutoff)
        (close - 900000000)
      .ok (decide (cutoff ≤ now))

/-- Without an ask the spread is infinite. -/
def deteriorated : Bool :=
  decide (quote.bid ≤ 0) ||
    if 0 < quote.ask then
      decide (policy.maximumBidAskPercent <
        D.mul (D.div (D.sub quote.ask quote.bid) quote.ask) 100)
    else true

def exitTriggers (endOfDay : Bool) : List ExitTrigger :=
  let fraction := returnFraction D position quote
  (if policy.profitTargetFraction ≤ fraction then [ExitTrigger.profitTarget] else []) ++
  (if fraction ≤ D.round (-policy.lossThresholdFraction) then [ExitTrigger.lossThreshold] else []) ++
  (if signals.invalidatedConditions.any (position.invalidationConditions.contains ·) then
    [ExitTrigger.thesisInvalidated] else []) ++
  (if signals.catalystFailed then [ExitTrigger.catalystFailed] else []) ++
  (if position.contract.expiration - zone.localDate now ≤ policy.sellToCloseDaysBeforeExpiration
    then [ExitTrigger.dteCutoff] else []) ++
  (if endOfDay then [ExitTrigger.endOfDay] else []) ++
  (if deteriorated D policy quote then [ExitTrigger.liquidityDeterioration] else []) ++
  if signals.hardPortfolioEmergency then [ExitTrigger.hardPortfolioEmergency] else []

/-- Fresh evidence: a stale quote is no price to sell at. -/
def quoteFresh : Bool :=
  let age := now - quote.metadata.observedAt
  decide (0 ≤ age) && decide (age ≤ policy.maximumQuoteAge) &&
    decide (quote.metadata.effectiveAt ≤ quote.metadata.observedAt) &&
    decide (quote.metadata.observedAt ≤ now)

def evaluateExit (written : WrittenQuote) : Except Exc ExitDecision :=
  let quote := written.quote
  if position.contract ≠ quote.contract then
    .error (.valueError "quote does not describe the open position contract")
  else do
    trap D (returnResults D policy position quote)
    let endOfDay ← endOfDayReached policy zone now
    trap D (spreadResults D quote)
    let triggers := exitTriggers D policy zone now signals position quote endOfDay
    let shouldExit := !triggers.isEmpty
    let executable := shouldExit && quoteFresh policy now quote && decide (0 < quote.bid)
    pure
      { positionId := position.positionId
        evaluatedAt := now
        shouldExit := shouldExit
        executable := executable
        side := .sellToClose
        quantity := position.quantity
        limitPrice := if executable then some written.bid else none
        triggers := triggers
        unrealizedPnl := pnl D position quote.bid
        unrealizedReturn := returnFraction D position quote
        quoteSnapshotId := quote.snapshotId
        policyVersion := policy.version
        reason :=
          if !shouldExit then "no configured deterministic exit trigger"
          else if !executable then "exit required but fresh executable bid is unavailable"
          else "configured exit trigger(s): " ++
            ",".intercalate (triggers.map ExitTrigger.value) }

end PositionManager

/-! ### Proposing them -/

/-- A runtime that proposes exits, with what sets the two of them apart. -/
structure ExitRuntime where
  environment : ExecutionEnvironment
  namespace_ : String
  hashing : Hashing
  context : Decimal.Context
  zone : MarketZone
  policy : ExitPolicy
  riskVersion : String
  openStates : List OrderState
  bindingMismatch : String
  identityReused : String

/-- What one run of `_propose_exits` reads; a market that raises answers with a text. The clock
is read for the decision on a position, and once more for its proposal. -/
structure ExitRun where
  decidedAt : Position → Time
  createdAt : Position → Time
  /-- The process was started anew before this run. -/
  restarted : Bool := false
  orders : List BrokerOrder
  positions : List Position
  quote : String → Except String WrittenQuote

/-- The rows of `trade_proposals`, of which every identifier has at most one, and the view. -/
structure ProposalState where
  table : Register TradeProposal.proposalId
  view : Dict UUID TradeProposal

/-- An exit that is due, from which its proposal is made. -/
structure Exit where
  decidedAt : Time
  createdAt : Time
  position : Position
  quote : WrittenQuote
  decision : ExitDecision
  limitPrice : Decimal
  quantity_pos : 0 < position.quantity
  limitPrice_pos : 0 < limitPrice.val

namespace ExitRuntime

variable (rt : ExitRuntime) (run : ExitRun) (position : Position)

def exitProposalId (quote : OptionQuote) : UUID :=
  rt.hashing.uuid5 namespaceUrl
    ("exit:" ++ rt.namespace_ ++ ":" ++ position.positionId.str ++ ":" ++ quote.snapshotId.str)

def packetId : UUID := rt.hashing.uuid5 namespaceUrl ("position:" ++ position.positionId.str)

def proposal (e : Exit) : TradeProposal where
  createdAt := e.createdAt
  proposalId := rt.exitProposalId e.position e.quote.quote
  environment := rt.environment
  namespace_ := rt.namespace_
  packetId := rt.packetId e.position
  symbol := e.position.contract.symbol
  contract := e.position.contract
  side := .sellToClose
  quantity := e.position.quantity
  limitPrice := e.limitPrice
  quoteSnapshotId := e.quote.quote.snapshotId
  quoteAsOf := e.quote.quote.metadata.observedAt
  policyVersion := e.decision.policyVersion
  riskConfigVersion := rt.riskVersion
  thesis := e.decision.reason
  invalidationConditions := e.position.invalidationConditions
  quantity_pos := e.quantity_pos
  limitPrice_pos := e.limitPrice_pos

/-- `add_proposal`. -/
def addProposal (proposal : TradeProposal) : Write ProposalState Exc := fun s =>
  if proposal.environment ≠ rt.environment ∨ proposal.namespace_ ≠ rt.namespace_ then
    .error (.safetyCritical rt.bindingMismatch)
  else match s.table.put TradeProposal.Same proposal with
    | none => .error (.safetyCritical rt.identityReused)
    | some table => .ok ⟨table, s.view.set proposal.proposalId proposal⟩

/-- A position whose sale is under way is passed over. -/
def covered : Bool :=
  run.orders.any fun order => rt.openStates.contains order.state &&
    order.contract == position.contract && order.side == .sellToClose

/-- The exit of a position, if it is due. -/
def exitFor : Except Exc (Option Exit) :=
  if rt.covered run position then .ok none
  else match run.quote position.contract.instrumentId with
    | .error text => .error (.unlisted text)
    | .ok quote =>
      match PositionManager.evaluateExit rt.context rt.policy rt.zone (run.decidedAt position) {}
          position quote with
      | .error e => .error e
      | .ok decision =>
        match decision.executable, decision.limitPrice with
        | true, some limitPrice =>
          if quantity_pos : 0 < position.quantity then
            if limitPrice_pos : 0 < limitPrice.val then
              .ok (some ⟨run.decidedAt position, run.createdAt position, position, quote, decision,
                limitPrice, quantity_pos, limitPrice_pos⟩)
            else .error (.valueError "Input should be greater than 0")
          else .error (.valueError "Input should be greater than 0")
        | _, _ => .ok none

def proposeExit : Write ProposalState Exc := fun s =>
  match rt.exitFor run position with
  | .error e => .error e
  | .ok none => .ok s
  | .ok (some e) => rt.addProposal (rt.proposal e) s

/-- `_propose_exits`. -/
def proposeExits (s : ProposalState) : Except Exc Unit × ProposalState :=
  Write.perform (run.positions.map (rt.proposeExit run))
    (if run.restarted then { s with view := .empty } else s)

/-- Run after run, with the outcome of each. -/
def proposeRuns : List ExitRun → ProposalState → List (Except Exc Unit) × ProposalState
  | [], s => ([], s)
  | run :: rest, s =>
    let after := rt.proposeExits run s
    let others := proposeRuns rest after.2
    (after.1 :: others.1, others.2)

/-- The exits that are due in a run, up to the first position that cannot be evaluated. -/
def dueExits : List Position → List Exit
  | [] => []
  | position :: rest =>
    match rt.exitFor run position with
    | .error _ => []
    | .ok none => dueExits rest
    | .ok (some e) => e :: dueExits rest

def exitsDue (runs : List ExitRun) : List Exit :=
  runs.flatMap fun run => rt.dueExits run run.positions

/-- Two exits that are proposed with the same content. -/
structure Alike (e e' : Exit) : Prop where
  createdAt : e.createdAt = e'.createdAt
  packetId : rt.packetId e.position = rt.packetId e'.position
  contract : e.position.contract = e'.position.contract
  quantity : e.position.quantity = e'.position.quantity
  conditions : e.position.invalidationConditions = e'.position.invalidationConditions
  bid : e.quote.quote.bid = e'.quote.quote.bid
  snapshotId : e.quote.quote.snapshotId = e'.quote.quote.snapshotId
  observedAt : e.quote.quote.metadata.observedAt = e'.quote.quote.metadata.observedAt
  reason : e.decision.reason = e'.decision.reason

end ExitRuntime

/-! ### What is due -/

/-- A decision with what the proposal takes from it. -/
theorem PositionManager.evaluateExit_ok {D : Decimal.Context} {policy : ExitPolicy}
    {zone : MarketZone} {now : Time} {signals : ExitSignals} {position : Position}
    {written : WrittenQuote} {decision : ExitDecision}
    (evaluated : evaluateExit D policy zone now signals position written = .ok decision) :
    decision.policyVersion = policy.version ∧
      ∀ price, decision.limitPrice = some price → price = written.bid := by
  unfold evaluateExit at evaluated
  dsimp only at evaluated
  split at evaluated
  · cases evaluated
  obtain ⟨-, evaluated⟩ := trap_bind_ok_iff.mp evaluated
  obtain ⟨endOfDay, -, evaluated⟩ := bind_ok evaluated
  obtain ⟨-, evaluated⟩ := trap_bind_ok_iff.mp evaluated
  cases evaluated
  refine ⟨rfl, ?_⟩
  intro price priced
  dsimp only at priced
  split at priced
  · exact (Option.some.inj priced).symm
  · cases priced

namespace ExitRuntime

variable {rt : ExitRuntime} {run : ExitRun} {position : Position} {e e' : Exit}

/-- The exit is what the manager decided on. -/
structure Due (rt : ExitRuntime) (e : Exit) : Prop where
  evaluated : PositionManager.evaluateExit rt.context rt.policy rt.zone e.decidedAt {} e.position
    e.quote = .ok e.decision
  price : e.decision.limitPrice = some e.limitPrice

theorem due_of_exitFor (due : rt.exitFor run position = .ok (some e)) :
    Due rt e ∧ (e.decidedAt = run.decidedAt position ∧ e.createdAt = run.createdAt position) ∧
      e.position = position ∧ run.quote position.contract.instrumentId = .ok e.quote := by
  unfold exitFor at due
  split at due
  · cases due
  split at due
  · cases due
  next quote answered =>
    split at due
    · cases due
    next decision evaluated =>
      split at due
      next limitPrice _ price =>
        split at due
        · split at due
          · cases due
            exact ⟨⟨evaluated, price⟩, ⟨rfl, rfl⟩, rfl, answered⟩
          · cases due
        · cases due
      · cases due

theorem trap_error {D : Decimal.Context} {results : List ℚ} {exc : Exc}
    (failed : trap D results = .error exc) : exc = .unlisted "Overflow" := by
  unfold trap at failed
  split at failed
  · cases failed
  · exact (Except.error.inj failed).symm

/-- The manager fails with a `ValueError` or an overflow. -/
theorem evaluateExit_error {D : Decimal.Context} {policy : ExitPolicy} {zone : MarketZone}
    {now : Time} {signals : ExitSignals} {written : WrittenQuote} {exc : Exc}
    (failed : PositionManager.evaluateExit D policy zone now signals position written =
      .error exc) : (∃ text, exc = .valueError text) ∨ exc = .unlisted "Overflow" := by
  unfold PositionManager.evaluateExit at failed
  dsimp only at failed
  split at failed
  · exact .inl ⟨_, (Except.error.inj failed).symm⟩
  cases first : trap D (PositionManager.returnResults D policy position written.quote) with
  | error e =>
    rw [first] at failed
    exact .inr (Except.error.inj failed ▸ trap_error first)
  | ok _ =>
    rw [first] at failed
    cases ended : PositionManager.endOfDayReached policy zone now with
    | error e =>
      rw [ended] at failed
      obtain rfl : e = exc := Except.error.inj failed
      unfold PositionManager.endOfDayReached at ended
      split at ended
      · cases ended
      · split at ended <;> cases ended
        exact .inl ⟨_, rfl⟩
    | ok endOfDay =>
      rw [ended] at failed
      cases second : trap D (PositionManager.spreadResults D written.quote) with
      | error e =>
        rw [second] at failed
        exact .inr (Except.error.inj failed ▸ trap_error second)
      | ok _ =>
        rw [second] at failed
        cases failed

/-- What stops a run before it comes to a proposal is not a refusal of one. -/
theorem exitFor_error {exc : Exc} (failed : rt.exitFor run position = .error exc) (text : String) :
    exc ≠ .safetyCritical text := by
  rintro rfl
  unfold exitFor at failed
  split at failed
  · cases failed
  split at failed
  · cases failed
  split at failed
  next evaluated =>
    cases failed
    rcases evaluateExit_error evaluated with ⟨_, same⟩ | same <;> cases same
  · split at failed
    · split at failed
      · split at failed <;> cases failed
      · cases failed
    · cases failed

/-- What a due exit was made from. -/
theorem mem_dueExits {positions : List Position} (member : e ∈ rt.dueExits run positions) :
    Due rt e ∧ (e.decidedAt = run.decidedAt e.position ∧ e.createdAt = run.createdAt e.position) ∧
      e.position ∈ positions ∧ run.quote e.position.contract.instrumentId = .ok e.quote := by
  induction positions with
  | nil => cases member
  | cons position rest ih =>
    unfold dueExits at member
    split at member
    · cases member
    · obtain ⟨due, now, inside, answered⟩ := ih member
      exact ⟨due, now, List.mem_cons_of_mem _ inside, answered⟩
    next found =>
      rcases List.mem_cons.mp member with rfl | later
      · obtain ⟨due, now, rfl, answered⟩ := due_of_exitFor found
        exact ⟨due, now, List.mem_cons_self, answered⟩
      · obtain ⟨due, now, inside, answered⟩ := ih later
        exact ⟨due, now, List.mem_cons_of_mem _ inside, answered⟩

theorem mem_exitsDue {runs : List ExitRun} (member : e ∈ rt.exitsDue runs) :
    Due rt e ∧ ∃ run ∈ runs,
      (e.decidedAt = run.decidedAt e.position ∧ e.createdAt = run.createdAt e.position) ∧
      e.position ∈ run.positions ∧ run.quote e.position.contract.instrumentId = .ok e.quote := by
  obtain ⟨run, listed, inside⟩ := List.mem_flatMap.mp member
  obtain ⟨due, from_⟩ := mem_dueExits inside
  exact ⟨due, run, listed, from_⟩

/-- The two proposals of one identifier are equal as model values when they are made alike. -/
theorem same_iff_alike (due : Due rt e) (due' : Due rt e')
    (shared : rt.exitProposalId e.position e.quote.quote =
      rt.exitProposalId e'.position e'.quote.quote) :
    (rt.proposal e).Same (rt.proposal e') ↔ rt.Alike e e' := by
  obtain ⟨version, price⟩ := PositionManager.evaluateExit_ok due.evaluated
  obtain ⟨version', price'⟩ := PositionManager.evaluateExit_ok due'.evaluated
  have bid : e.limitPrice.val = e.quote.quote.bid := by
    rw [price _ due.price, e.quote.bid_val]
  have bid' : e'.limitPrice.val = e'.quote.quote.bid := by
    rw [price' _ due'.price, e'.quote.bid_val]
  constructor
  · rintro ⟨fields, value⟩
    simp only [proposal, TradeProposal.mk.injEq] at fields
    obtain ⟨now, -, -, -, packetId, -, contract, -, quantity, -, snapshotId, observedAt, -, -,
      reason, conditions⟩ := fields
    exact ⟨now, packetId, contract, quantity, conditions, by rw [← bid, ← bid']; exact value,
      snapshotId, observedAt, reason⟩
  · intro alike
    refine ⟨?_, ?_⟩
    · simp only [proposal, version, version', shared, alike.createdAt, alike.packetId, alike.contract,
        alike.quantity, alike.conditions, alike.snapshotId, alike.observedAt, alike.reason]
    · exact bid.trans (alike.bid.trans bid'.symm)

/-- From one position and one quote, exits are alike when they are created at one time for one
reason. -/
theorem alike_iff_created (position : e.position = e'.position) (quote : e.quote = e'.quote) :
    rt.Alike e e' ↔ e.createdAt = e'.createdAt ∧ e.decision.reason = e'.decision.reason := by
  constructor
  · intro alike
    exact ⟨alike.createdAt, alike.reason⟩
  · rintro ⟨created, reason⟩
    exact ⟨created, by rw [position], by rw [position], by rw [position], by rw [position],
      by rw [quote], by rw [quote], by rw [quote], reason⟩

/-- From one position and one quote, decisions at one time are the same. -/
theorem decision_eq (due : Due rt e) (due' : Due rt e') (position : e.position = e'.position)
    (quote : e.quote = e'.quote) (decided : e.decidedAt = e'.decidedAt) :
    e.decision = e'.decision := by
  have evaluated := due.evaluated
  rw [decided, position, quote, due'.evaluated] at evaluated
  exact (Except.ok.inj evaluated).symm

/-! ### Whole runs -/

theorem Same_euclid (p q r : TradeProposal) (first : p.Same q) (second : p.Same r) : q.Same r := by
  obtain ⟨fields, value⟩ := first
  obtain ⟨fields', value'⟩ := second
  refine ⟨?_, value.symm.trans value'⟩
  rw [← fields, ← fields']

/-- The outcome of a run that finds an identifier in use with other content. -/
abbrev reused (rt : ExitRuntime) : Except Exc Unit := .error (.safetyCritical rt.identityReused)

theorem addProposal_eq (e : Exit) (s : ProposalState) :
    rt.addProposal (rt.proposal e) s = match s.table.put TradeProposal.Same (rt.proposal e) with
      | none => .error (.safetyCritical rt.identityReused)
      | some table => .ok ⟨table, s.view.set (rt.proposal e).proposalId (rt.proposal e)⟩ := by
  unfold addProposal
  rw [if_neg (by simp [proposal])]

/-- A run puts its proposals into the table one after the other. Its outcome is the refusal of
one of them, or the table has them all and it is any other. -/
theorem perform_exits (rt : ExitRuntime) (run : ExitRun) (positions : List Position) (s : ProposalState) :
    let proposals := (rt.dueExits run positions).map rt.proposal
    let after := Write.perform (positions.map (rt.proposeExit run)) s
    (s.table.puts TradeProposal.Same proposals = none → after.1 = rt.reused) ∧
      ∀ table, s.table.puts TradeProposal.Same proposals = some table →
        after.1 ≠ rt.reused ∧ after.2.table = table := by
  -- on the positions still to come, over the proposals left by those before them
  induction positions generalizing s with
  | nil =>
    refine ⟨fun none_ => (by cases none_), ?_⟩
    intro table same
    cases same
    refine ⟨?_, rfl⟩
    intro bad
    cases bad
  | cons position rest ih =>
    dsimp only
    rw [List.map_cons, dueExits]
    cases due : rt.exitFor run position with
    | error exc =>
      have refused : rt.proposeExit run position s = .error exc := by rw [proposeExit, due]
      rw [Write.perform_cons_error refused]
      refine ⟨fun none_ => (by cases none_), ?_⟩
      intro table same
      cases same
      refine ⟨?_, rfl⟩
      intro bad
      exact exitFor_error due _ (Except.error.inj bad)
    | ok found =>
      cases found with
      | none =>
        have passed : rt.proposeExit run position s = .ok s := by rw [proposeExit, due]
        rw [Write.perform_cons_ok passed]
        exact ih s
      | some e =>
        have asked : rt.proposeExit run position s = rt.addProposal (rt.proposal e) s := by
          rw [proposeExit, due]
        rw [addProposal_eq] at asked
        rw [List.map_cons, Register.puts]
        cases went : s.table.put TradeProposal.Same (rt.proposal e) with
        | none =>
          rw [went] at asked
          rw [Write.perform_cons_error asked]
          refine ⟨fun _ => rfl, ?_⟩
          intro table bad
          cases bad
        | some table =>
          rw [went] at asked
          rw [Write.perform_cons_ok asked]
          exact ih ⟨table, s.view.set (rt.proposal e).proposalId (rt.proposal e)⟩

/-- No run is refused an identifier if and only if the table takes all proposals. -/
theorem proposeRuns_iff (runs : List ExitRun) (s : ProposalState) :
    (∀ outcome ∈ (rt.proposeRuns runs s).1, outcome ≠ rt.reused) ↔
      (s.table.puts TradeProposal.Same ((rt.exitsDue runs).map rt.proposal)).isSome := by
  induction runs generalizing s with
  | nil => simp [proposeRuns, exitsDue, Register.puts]
  | cons run rest ih =>
    have start : (if run.restarted then { s with view := .empty } else s).table = s.table := by
      split <;> rfl
    have first := perform_exits rt run run.positions
      (if run.restarted then { s with view := .empty } else s)
    rw [start] at first
    change _ ∧ ∀ table, _ → (rt.proposeExits run s).1 ≠ _ ∧ (rt.proposeExits run s).2.table = _
      at first
    have split : rt.exitsDue (run :: rest) = rt.dueExits run run.positions ++ rt.exitsDue rest := rfl
    rw [proposeRuns, split, List.map_append, Register.puts_append]
    cases puts : s.table.puts TradeProposal.Same
        ((rt.dueExits run run.positions).map rt.proposal) with
    | none =>
      simp only [Option.bind_none, Option.isSome_none, Bool.false_eq_true, iff_false]
      intro none_
      exact none_ _ List.mem_cons_self (first.1 puts)
    | some table =>
      obtain ⟨other, same⟩ := first.2 table puts
      rw [Option.bind_some, List.forall_mem_cons, ih, and_iff_right other, same]

/-- Whatever the runs, their clock readings, orders, positions, quotes and restarts: an
identifier has at most one row; no run finds an identifier in use with other content if and
only if the exits that fall due under one identifier are alike and are the proposal that the
table already had under it; and exits of one position on one quote are alike exactly when
they are created at the same time and for the same reason, which decisions at one time share. -/
theorem exits_reproposable_iff (rt : ExitRuntime) (runs : List ExitRun) (s : ProposalState) :
    (∀ position quote, ((rt.proposeRuns runs s).2.table.rows.filter fun row =>
      row.proposalId == rt.exitProposalId position quote).length ≤ 1) ∧
    ((∀ outcome ∈ (rt.proposeRuns runs s).1,
        outcome ≠ .error (.safetyCritical rt.identityReused)) ↔
      (∀ row ∈ s.table.rows, ∀ e ∈ rt.exitsDue runs,
        row.proposalId = rt.exitProposalId e.position e.quote.quote → row.Same (rt.proposal e)) ∧
      (rt.exitsDue runs).Pairwise fun e e' =>
        rt.exitProposalId e.position e.quote.quote = rt.exitProposalId e'.position e'.quote.quote →
          rt.Alike e e') ∧
    ∀ e ∈ rt.exitsDue runs, ∀ e' ∈ rt.exitsDue runs, e.position = e'.position →
      e.quote = e'.quote →
        (rt.Alike e e' ↔ e.createdAt = e'.createdAt ∧ e.decision.reason = e'.decision.reason) ∧
        (e.decidedAt = e'.decidedAt → e.decision.reason = e'.decision.reason) := by
  refine ⟨fun position quote => Register.count_le_one _ _, ?_, ?_⟩
  · rw [proposeRuns_iff, Register.puts_isSome_iff Same_euclid, List.pairwise_map]
    apply and_congr
    · apply forall₂_congr
      intro row _
      simp [Register.Agree, proposal]
    · apply List.Pairwise.iff_of_mem
      intro e e' member member'
      exact forall_congr' fun shared => same_iff_alike (mem_exitsDue member).1 (mem_exitsDue member').1 shared
  · intro e member e' member' position quote
    refine ⟨alike_iff_created position quote, fun decided => ?_⟩
    rw [decision_eq (mem_exitsDue member).1 (mem_exitsDue member').1 position quote decided]

end ExitRuntime

/-! ### The two runtimes -/

theorem exitPolicy_defaults : (0 : ℚ) ≤ 1 / 2 ∧ (0 : ℚ) ≤ 7 / 20 ∧ (0 : ℤ) ≤ 1 ∧ (0 : ℚ) < 40 ∧
    (0 : ℤ) < 120000000 ∧ "exit-policy-v1" ≠ "" := by
  refine ⟨?_, ?_, ?_, ?_, ?_, by decide⟩ <;> norm_num

/-- `ExitPolicy(version="exit-policy-v1")`. -/
def exitPolicyV1 : ExitPolicy where
  version := "exit-policy-v1"
  version_ne := exitPolicy_defaults.2.2.2.2.2
  profitTargetFraction_nonneg := exitPolicy_defaults.1
  lossThresholdFraction_nonneg := exitPolicy_defaults.2.1
  sellToCloseDays_nonneg := exitPolicy_defaults.2.2.1
  maximumBidAskPercent_pos := exitPolicy_defaults.2.2.2.1
  maximumQuoteAge_pos := exitPolicy_defaults.2.2.2.2.1

section Runtimes

variable (hashing : Hashing) (context : Decimal.Context) (zone : MarketZone)
  (namespace_ riskVersion : String)

def OfflineRuntime.exits : ExitRuntime where
  environment := .demo
  namespace_ := namespace_
  hashing := hashing
  context := context
  zone := zone
  policy := exitPolicyV1
  riskVersion := riskVersion
  openStates := [.open_, .partial_, .submitting, .submissionUnknown]
  bindingMismatch := "proposal startup binding mismatch"
  identityReused := "proposal identity reused with different content"

def BrokerShadowRuntime.exits : ExitRuntime where
  environment := .demo
  namespace_ := namespace_
  hashing := hashing
  context := context
  zone := zone
  policy := exitPolicyV1
  riskVersion := riskVersion
  openStates := [.open_, .partial_]
  bindingMismatch := "proposal does not match the broker-shadow startup binding"
  identityReused := "proposal identity was reused with different content"

end Runtimes

namespace ExitSample

open ShadowLedger

theorem one_val : (⟨1, 0⟩ : Decimal).val = 1 := by norm_num [Decimal.val]

/-- A position that has lost half of its value, and its quote. -/
def held : Position where
  createdAt := 0
  positionId := ⟨9⟩
  environment := .demo
  contract := sampleContract
  quantity := 1
  averageEntryPrice := 2
  currentBid := 1
  currentAsk := 5 / 4
  thesisId := ⟨1⟩
  invalidationConditions := []
  exitPolicyVersion := "exit-policy-v1"

def halved : WrittenQuote := ⟨sampleQuote 5 15 15 1 (5 / 4), ⟨1, 0⟩, one_val⟩

def zone : MarketZone where
  localDate := fun now => now / 86400000000
  combine := fun date time => date * 86400000000 + time
  sessionDay := fun now => now / 86400000000
  regularSessionClose := fun date => .ok (some (date * 86400000000 + 57600000000))

/-- A run over the position and its quote, whose proposal takes another microsecond. -/
def runAt (now : Time) (restarted : Bool) : ExitRun where
  decidedAt := fun _ => now
  createdAt := fun _ => now + 1
  restarted := restarted
  orders := []
  positions := [held]
  quote := fun _ => .ok halved

def offline : ExitRuntime := OfflineRuntime.exits sampleHashing .exact zone "demo" "risk"

def shadow : ExitRuntime := BrokerShadowRuntime.exits sampleHashing .exact zone "shadow" "risk"

def nothing : ProposalState := ⟨.empty _, .empty⟩

end ExitSample

open ExitSample in
/-- A run that is repeated at the same time, here by a new process, is accepted. -/
theorem exits_reproposable_iff_restarted :
    (offline.exitsDue [runAt 20 false, runAt 20 true]).length = 2 ∧
      (offline.proposeRuns [runAt 20 false, runAt 20 true] nothing).2.table.rows.length = 1 ∧
      ∀ outcome ∈ (offline.proposeRuns [runAt 20 false, runAt 20 true] nothing).1,
        outcome ≠ .error (.safetyCritical offline.identityReused) := by
  have seen : ∀ e ∈ offline.exitsDue [runAt 20 false, runAt 20 true],
      (e.decidedAt = 20 ∧ e.createdAt = 21) ∧ e.position = held ∧ e.quote = halved := by
    intro e member
    obtain ⟨-, run, listed, now, inside, answered⟩ := ExitRuntime.mem_exitsDue member
    simp only [List.mem_cons, List.not_mem_nil, or_false] at listed
    rcases listed with rfl | rfl <;>
      exact ⟨now, List.mem_singleton.mp inside, (Except.ok.inj answered).symm⟩
  obtain ⟨-, accepted, alike⟩ := ExitRuntime.exits_reproposable_iff offline
    [runAt 20 false, runAt 20 true] nothing
  refine ⟨by decide +kernel, by decide +kernel, accepted.mpr ⟨?_, ?_⟩⟩
  · intro row member
    cases member
  · apply List.pairwise_of_forall_mem_list
    intro e member e' member' _
    obtain ⟨now, position, quote⟩ := seen e member
    obtain ⟨now', position', quote'⟩ := seen e' member'
    obtain ⟨created, reason⟩ := alike e member e' member' (position.trans position'.symm)
      (quote.trans quote'.symm)
    exact created.mpr ⟨now.2.trans now'.2.symm, reason (now.1.trans now'.1.symm)⟩

open ExitSample in
/-- The same position and the same quote, looked at again ten microseconds later. -/
theorem exit_reproposed_later :
    ((offline.proposeRuns [runAt 20 false, runAt 30 false] nothing).1 =
      [.ok (), .error (.safetyCritical "proposal identity reused with different content")]) ∧
    ((shadow.proposeRuns [runAt 20 false, runAt 30 false] nothing).1 =
      [.ok (), .error (.safetyCritical "proposal identity was reused with different content")]) := by
  decide +kernel

end Sentry
