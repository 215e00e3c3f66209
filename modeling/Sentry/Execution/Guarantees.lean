import Sentry.Execution.Calls

/-!
# What holds of all calls over one store

For any number of service instances, any calls on them and any schedule: an order
fingerprint reaches the broker at most once and only with its evidence already durable,
every gate holds at the moment the broker is asked, and what the store says about an
order that was placed rests on what the broker has said.
-/
namespace Sentry

open Support Coroutine

variable {B : Type}

abbrev ServiceSystem (B : Type) := System (Ambient B) Exc Ans ServiceResult (ServiceCall B) Rows

abbrev ServiceIssue (B : Type) := Issue (Ambient B) Exc Ans (ServiceCall B) Rows

theorem services_meets : Meets (services B) ServiceCall.spec fun _ => anyEnd where
  body c := by
    cases c with
    | execute x => exact execute_sat x
    | cancelOrder svc target limitPrice written g =>
      exact cancelOrder_sat svc target limitPrice written g
    | reconcileSubmission svc intentId g => exact reconcileSubmission_sat svc intentId g
  rely _ _ _ _ _ _ := trivial

theorem services_persistent : Persistent (services B) written where
  made performed := written_made performed
  kept performed known := written_kept (performs_grown performed) known
  failed := written_failed

/-- Distinct executions draw distinct identifiers for the decisions they act on. -/
def DistinctDraws (s : ServiceSystem B) : Prop :=
  ∀ i j x y, s.callOf i = some (.execute x) → s.callOf j = some (.execute y) →
    x.draws.secondDecision = y.draws.secondDecision → i = j

section Runs

variable {d : Rows} {s : ServiceSystem B}

theorem run_consistent (run : Reachable (services B) d s) :
    Consistent ServiceCall.spec (fun _ => anyEnd) written s :=
  Reachable.consistent services_meets services_persistent run

theorem run_keyed (keyed : d.Keyed) (run : Reachable (services B) d s) : s.durable.Keyed :=
  Reachable.durable_invariant services_meets services_persistent (J := fun _ d => d.Keyed)
    (fun _ => keyed) (fun _ known => known) (fun _ performed known => performs_keyed performed known)
    run

/-- Every saved order was asked for by some call. -/
theorem run_orders (empty : d.orders = []) (run : Reachable (services B) d s) :
    ∀ order ∈ s.durable.orders, ∃ e ∈ s.issued, e.op = .saveOrder order := by
  refine Reachable.durable_invariant services_meets services_persistent
    (J := fun A d => ∀ order ∈ d.orders, A (.saveOrder order)) ?_ ?_ ?_ run
  · intro A order member
    rw [empty] at member
    cases member
  · exact fun more known order member => more _ (known order member)
  · intro A op d r d' asked performed known order member
    rcases performs_cases performed with rfl | ⟨intent, -, -, rfl⟩ | ⟨command, -, rfl⟩ |
      ⟨saved, rfl, rfl⟩
    · exact known order member
    · exact known order member
    · exact known order member
    · rcases List.mem_append.mp member with old | new
      · exact known order old
      · rw [List.mem_singleton] at new
        exact new ▸ asked

/-- A placement is asked for by an execution that stands where it must. -/
theorem placed_mediated (run : Reachable (services B) d s) {e : ServiceIssue B} (member : e ∈ s.issued)
    {command : BrokerCommandIntent} {contract : OptionContract}
    (place : e.op = .placeOptionOrder command contract) :
    ∃ x, e.call = .execute x ∧ x.Mediated e.history command contract e.ambient := by
  have met := (run_consistent run).met e member
  rw [place] at met
  exact met

/-- What has been written when an execution comes to the broker. -/
theorem written_of_mediated {x : Execution B} {y : ExecutionService.Gathered}
    {pendingTime recordTime : Time}
    (known : ∀ item ∈ y.written x.svc x.proposal x.approval pendingTime recordTime,
      written item d) :
    y.intent x.svc x.proposal x.approval ∈ d.orderIntents ∧
      y.command x.svc x.proposal x.approval ∈ d.commandIntents ∧
      y.pending x.svc x.proposal x.approval pendingTime ∈ d.orders := by
  refine ⟨?_, ?_, ?_⟩
  · exact (known ⟨.saveOrderIntent _, .ok ()⟩ (by simp [ExecutionService.Gathered.written])).1 _ rfl
  · exact (known ⟨.saveCommandIntent _, .ok ()⟩
      (by simp [ExecutionService.Gathered.written])).2.1 _ rfl
  · exact (known ⟨.saveOrder _, .ok ()⟩ (by simp [ExecutionService.Gathered.written])).2.2 _ rfl

/-- The decision an execution acts on is the one it drew. -/
theorem intent_decision {x : Execution B} {y : ExecutionService.Gathered}
    (lawful : y.Lawful x.svc x.proposal x.draws) :
    (y.intent x.svc x.proposal x.approval).riskDecisionId = x.draws.secondDecision := by
  obtain ⟨now, decided⟩ := lawful.decision
  change y.risk.decisionId = _
  rw [decided, RiskEngine.evaluate_decisionId]

/-- Two executions that saved one intent are one execution. -/
theorem same_task (drawn : DistinctDraws s) (run : Reachable (services B) d s)
    {e e' : ServiceIssue B} (member : e ∈ s.issued) (member' : e' ∈ s.issued)
    {x x' : Execution B} (call : e.call = .execute x) (call' : e'.call = .execute x')
    {y y' : ExecutionService.Gathered} (lawful : y.Lawful x.svc x.proposal x.draws)
    (lawful' : y'.Lawful x'.svc x'.proposal x'.draws)
    (same : y.intent x.svc x.proposal x.approval = y'.intent x'.svc x'.proposal x'.approval) :
    e.task = e'.task := by
  have consistent := run_consistent run
  obtain ⟨t, found, owner, -, -⟩ := consistent.owner e member
  obtain ⟨t', found', owner', -, -⟩ := consistent.owner e' member'
  apply drawn e.task e'.task x x'
  · rw [System.callOf, found, Option.map_some, owner, call]
  · rw [System.callOf, found', Option.map_some, owner', call']
  rw [← intent_decision lawful, ← intent_decision lawful', same]

end Runs

/-! ### At most one placement -/

/-- The fingerprint an execution asks the broker to place, if it asks for that. -/
def placedFingerprint (e : ServiceIssue B) : Option String :=
  match e.call, e.op with
  | .execute x, .placeOptionOrder _ _ => some (x.proposal.orderFingerprint x.svc.hashing)
  | _, _ => none

theorem placedFingerprint_some {e : ServiceIssue B} {fingerprint : String}
    (placed : placedFingerprint e = some fingerprint) :
    ∃ x command contract, e.call = .execute x ∧ e.op = .placeOptionOrder command contract ∧
      fingerprint = x.proposal.orderFingerprint x.svc.hashing := by
  unfold placedFingerprint at placed
  split at placed
  next x command contract call op =>
    exact ⟨x, command, contract, call, op, (Option.some.inj placed).symm⟩
  · cases placed

theorem unplaced_written (svc : ExecutionService) (p : TradeProposal)
    (approval : Option ExactApproval) (y : ExecutionService.Gathered) (pendingTime recordTime : Time) :
    Unplaced (y.written svc p approval pendingTime recordTime) := rfl

/-- A later execution never places the fingerprint of an earlier one. -/
theorem placed_apart {d : Rows} {s : ServiceSystem B} (unique : d.Keyed)
    (run : Reachable (services B) d s) (drawn : DistinctDraws s) {e e' : ServiceIssue B}
    (member : e ∈ s.issued) (member' : e' ∈ s.issued)
    (ordered : e.task = e'.task → e.op ∈ Done.ops e'.history)
    {fingerprint : String} (first : placedFingerprint e = some fingerprint) :
    placedFingerprint e' ≠ some fingerprint := by
  intro second
  have consistent := run_consistent run
  have keyed : s.durable.Keyed := run_keyed unique run
  obtain ⟨x, command, contract, call, place, rfl⟩ := placedFingerprint_some first
  obtain ⟨x', command', contract', call', place', same⟩ := placedFingerprint_some second
  obtain ⟨_, known, y, _, _, lawful, -, history, -, -⟩ := placed_mediated run member place
  obtain ⟨_, known', y', _, _, lawful', -, history', -, -⟩ := placed_mediated run member' place'
  obtain rfl := ServiceCall.execute.inj (call.symm.trans known)
  obtain rfl := ServiceCall.execute.inj (call'.symm.trans known')
  have saved := consistent.now e member
  rw [history] at saved
  have saved' := consistent.now e' member'
  rw [history'] at saved'
  -- both intents are rows of one store and share a unique key, so they are one row
  have equal := Rows.eq_of_not_apart keyed (written_of_mediated saved).1
    (written_of_mediated saved').1 (fun apart => apart.2.1 same)
  have task := same_task drawn run member member' call call' lawful lawful' equal
  have again := ordered task
  rw [history', place] at again
  cases (unplaced_written _ _ _ _ _ _).op again

/-- Each order fingerprint is placed at most once, whatever the calls, the instances and the
schedule, and only after its intent, its command and its SUBMITTING order were saved. -/
theorem placed_at_most_once (s : ServiceSystem B) (run : Reachable (services B) {} s)
    (drawn : DistinctDraws s) :
    (∀ fingerprint, (s.issued.filterMap placedFingerprint).count fingerprint ≤ 1) ∧
      ∀ e ∈ s.issued, ∀ command contract, e.op = .placeOptionOrder command contract →
        ∃ x intent, e.call = .execute x ∧
          intent ∈ e.durable.orderIntents ∧
          intent.orderFingerprint = x.proposal.orderFingerprint x.svc.hashing ∧
          (∃ saved ∈ e.durable.commandIntents, saved.orderIntentId = intent.intentId) ∧
          ∃ order ∈ e.durable.orders, order.intentId = intent.intentId ∧
            order.state = .submitting := by
  have consistent := run_consistent run
  constructor
  · apply List.nodup_iff_count_le_one.mp
    apply List.pairwise_filterMap.mpr
    apply consistent.ordered.imp_of_mem
    intro e e' member member' ordered fingerprint first fingerprint' second same
    exact placed_apart (d := {}) List.Pairwise.nil run drawn member member' ordered first
      (same ▸ second)
  · intro e member command contract place
    obtain ⟨x, call, y, pendingTime, recordTime, lawful, -, history, rfl, -⟩ :=
      placed_mediated run member place
    have known := consistent.then_ e member
    rw [history] at known
    obtain ⟨intent, saved, pending⟩ := written_of_mediated known
    exact ⟨x, _, call, intent, rfl, ⟨_, saved, rfl⟩, _, pending, rfl, rfl⟩

/-! ### A sample execution -/

namespace Sample

/-- A stand-in for the digest that spells its document out. -/
def hashing : Hashing where
  sha256Json := fun document => match document with
    | .obj members => String.join (members.map fun entry => entry.1 ++ "=" ++
        (match entry.2 with
          | .str text => text
          | .int n => toString n
          | _ => "") ++ ";")
    | _ => ""
  uuid5 := fun _ name => ⟨name.toList.foldl (fun acc c => acc * 31 + c.toNat) 7⟩
  fillSeed := fun text => text.length

def contract : OptionContract where
  instrumentId := "spy-put"
  symbol := "SPY"
  optionType := .put
  strike := 500
  expiration := 900
  instrumentId_ne := spy_put_named
  strike_pos := amount_pos (nat_lit 500)
  multiplier_pos := count_pos (nat_lit 100)

def quote : OptionQuote where
  snapshotId := ⟨5⟩
  contract := contract
  bid := 1
  ask := 5 / 4
  volume := some 500
  openInterest := some 500
  metadata := ⟨"replay", "v1", 10, 10, none⟩
  bid_nonneg := amount_nonneg (nat_lit 1)

def account : AccountSnapshot where
  createdAt := 10
  snapshotId := ⟨4⟩
  environment := .demo
  accountKind := .simulated
  cash := 1000
  buyingPower := 1000
  asOf := 10
  isAuthenticated := false
  stateKnown := true

theorem no_ceiling : ∀ c ∈ (none : Option ℚ), 0 < c := by simp

def engine : RiskEngine where
  config :=
    { version := "risk-v1"
      strategy :=
        { allowedInstruments := ["long_call", "long_put"]
          maximumContractsPerPosition := 2
          contracts_pos := count_pos (nat_lit 2) }
      risk :=
        { maxNewTradePremiumDollars := 250
          maxTotalOpenOptionRiskDollars := 500
          maxOpenPositions := 2
          maxNewEntriesPerDay := 2
          risk_pos := amount_pos (nat_lit 500)
          positions_pos := Nat.succ_pos (nat_lit 1)
          entries_pos := Nat.succ_pos (nat_lit 1) }
      liquidity :=
        { startingMinimumOpenInterest := 100
          startingMinimumOptionVolume := 100
          startingMaximumBidAskPercent := 25 } }
  context := .exact
  quoteAge_pos := count_pos (nat_lit 120000000)
  accountAge_pos := count_pos (nat_lit 60000000)
  ceiling_pos := no_ceiling

def service : ExecutionService where
  hashing := hashing
  risk := engine
  environment := .demo
  namespace_ := "demo"
  validate := fun _ arguments => .ok arguments
  namespace_ne := demo_named

def proposal (id : Nat) : TradeProposal where
  createdAt := 10
  proposalId := ⟨id⟩
  environment := .demo
  namespace_ := "demo"
  packetId := ⟨1⟩
  symbol := "SPY"
  contract := contract
  side := .buyToOpen
  quantity := 1
  limitPrice := ⟨150, -2⟩
  quoteSnapshotId := ⟨5⟩
  quoteAsOf := 10
  policyVersion := "policy-v1"
  riskConfigVersion := "risk-v1"
  thesis := ""
  invalidationConditions := []
  quantity_pos := count_pos (nat_lit 1)
  limitPrice_pos := Decimal.val_pos (nat_lit 150) (nat_lit 2)

/-- The intent of an order that was placed. -/
def placed : OrderIntent :=
  { createdAt := 10, intentId := ⟨50⟩, environment := .demo, namespace_ := "demo",
    proposalId := ⟨3⟩, riskDecisionId := ⟨101⟩, approvalId := none, reviewId := ⟨9⟩,
    orderFingerprint := "placed", idempotencyKey := "place-key", action := .placeOptionOrder }

def openOrder : BrokerOrder :=
  { service.pendingOrder (proposal 3) placed 10 with state := .open_ }

def surroundings : Ambient Unit where
  tradingMode := .auto
  killSwitchActive := false
  healthy := true
  now := 20
  safety := { window := 0, state := .normal, reason := "all deterministic health gates passed" }
  interruptedWriteIntents := []
  broker := ()

/-- The broker's part of a run that goes well. -/
def answers : (op : Op) → Except Exc (Ans op)
  | .findIntentByFingerprint _ | .getOrderIntent _ => .ok none
  | .getOrder _ => .ok none
  | .getCommandForOrderIntent _ => .ok none
  | .saveReconciliation _ | .saveRiskDecision _ | .saveReview _ | .saveOrderIntent _
  | .saveCommandIntent _ | .saveOrder _ | .recordTransition _
  | .recordNegativeReconciliation _ | .recordCommand _ => .ok ()
  | .getEffectiveExecutionAccountState | .getObservedBrokerAccountState => .ok account
  | .reconcile => .ok
      { environment := .demo
        reconciledAt := 20
        successful := true
        observedAccount := account
        effectiveAccount := account
        positionCount := 0
        openOrderCount := 0 }
  | .getCapabilities => .ok
      { descriptors := [⟨"place_option_order", "place_option_order", "v1", "schema", false, .obj [], true⟩]
        executionReady := true }
  | .getOrders => .ok []
  | .getOptionQuote _ => .ok quote
  | .reviewOptionOrder p => .ok ⟨20, ⟨9⟩, .demo, p.proposalId, true, [], none, true⟩
  | .placeOptionOrder command contract => .ok
      { createdAt := 20
        orderId := ⟨77⟩
        intentId := command.orderIntentId
        environment := .demo
        state := .open_
        contract := contract
        side := command.side
        quantity := command.quantity
        limitPrice := command.limitPrice.val
        quantity_pos := command.quantity_pos
        limitPrice_pos := command.limitPrice_pos }
  | .cancelOptionOrder _ _ => .error .connection
  | .validateCommand command => .ok command.validatedArguments
  | .callTool _ _ => .ok (.json .null)
  | .authorize command => .ok ⟨20, command.commandIntentId, .demo, .blockedShadow, "", false, by simp⟩

/-- An execution of one proposal that draws from a given number on. -/
def execution (id draw : Nat) : ServiceCall Unit :=
  .execute ⟨service, proposal id, none, ⟨⟨draw⟩, ⟨draw + 1⟩, ⟨draw + 2⟩⟩, surroundings⟩

/-- Two executions of one proposal on one store. -/
def started : ServiceSystem Unit :=
  ((System.idle {}).put 0 ⟨execution 3 100, [], (execution 3 100).body.settle surroundings⟩).put 1
    ⟨execution 3 200, [], (execution 3 200).body.settle surroundings⟩

/-- Turns of one task in surroundings that stay as they are. -/
def turn (i n : ℕ) (s : ServiceSystem Unit) : ServiceSystem Unit :=
  (System.turn (InMemoryExecutionStore.perform answers) (fun _ => surroundings) i)^[n] s

-- both pass the duplicate check before either has saved its intent
def run : ServiceSystem Unit := turn 0 14 (turn 1 20 (turn 0 13 started))

theorem reachable_turn {s : ServiceSystem Unit} (reached : Reachable (services Unit) {} s)
    (i n : ℕ) : Reachable (services Unit) {} (turn i n s) :=
  reached.turns (InMemoryExecutionStore.perform_performs answers) (fun _ _ _ => trivial) i n

theorem reachable_started : Reachable (services Unit) {} started :=
  (Reachable.start Relation.ReflTransGen.refl 0 (execution 3 100) rfl).start 1 (execution 3 200) rfl

theorem reachable_run : Reachable (services Unit) {} run :=
  reachable_turn (reachable_turn (reachable_turn reachable_started 0 13) 1 20) 0 14

theorem callOf_run (i : ℕ) : run.callOf i = started.callOf i := by
  unfold run turn
  rw [System.callOf_turns, System.callOf_turns, System.callOf_turns]

theorem distinctDraws_run : DistinctDraws run := by
  intro i j x y first second same
  rw [callOf_run, started, System.callOf_put, System.callOf_put] at first second
  split at first <;> split at second
  · next one other => rw [one, other]
  · split at second
    · cases first
      cases second
      cases same
    · cases second
  · split at first
    · cases first
      cases second
      cases same
    · cases first
  · split at first <;> split at second
    · next one other => rw [one, other]
    · cases second
    · cases first
    · cases first

theorem fingerprints_run : run.issued.filterMap placedFingerprint =
    [(proposal 3).orderFingerprint hashing] := by decide +kernel

theorem placed_run : ∃ e ∈ run.issued, ∃ x command contract, e.call = .execute x ∧
    e.op = .placeOptionOrder command contract := by
  have listed : (proposal 3).orderFingerprint hashing ∈ run.issued.filterMap placedFingerprint := by
    rw [fingerprints_run]
    exact List.mem_singleton_self _
  obtain ⟨e, member, placed⟩ := List.mem_filterMap.mp listed
  obtain ⟨x, command, contract, call, op, -⟩ := placedFingerprint_some placed
  exact ⟨e, member, x, command, contract, call, op⟩

end Sample

/-- One proposal executed twice at once: both executions find no duplicate, one of them
places the order. -/
theorem placed_at_most_once_sample :
    Sample.run.issued.filterMap placedFingerprint =
        [(Sample.proposal 3).orderFingerprint Sample.hashing] ∧
      ∀ fingerprint, (Sample.run.issued.filterMap placedFingerprint).count fingerprint ≤ 1 :=
  ⟨Sample.fingerprints_run,
    (placed_at_most_once Sample.run Sample.reachable_run Sample.distinctDraws_run).1⟩

/-! ### Complete mediation -/

/-- Everything that must hold at the moment an execution asks the broker to place an order:
of the surroundings as they are now, and of what the call itself has recorded. -/
structure Execution.Mediation (x : Execution B) (h : History) (command : BrokerCommandIntent)
    (contract : OptionContract) (g : Ambient B) : Prop where
  binding : x.proposal.environment = x.svc.environment ∧ x.proposal.namespace_ = x.svc.namespace_
  exact_ : contract = x.proposal.contract ∧ ⟨.saveCommandIntent command, .ok ()⟩ ∈ h
  latch : g.interruptedWriteIntents = []
  mode : g.tradingMode = x.origin.tradingMode ∧ g.tradingMode ≠ .research ∧
    ¬ (x.svc.environment = .live ∧ g.tradingMode = .shadow)
  killSwitch : g.killSwitchActive = false
  healthy : g.healthy = true
  entry : x.proposal.side = .buyToOpen → g.safety.state = .normal
  exit : x.proposal.side = .sellToClose → g.safety.state ≠ .halted
  approval : ExecutionService.approvalRequired x.proposal g.tradingMode = true →
    ∃ a, x.approval = some a ∧ a.createdAt ≤ g.now ∧
      a.isValidFor x.svc.hashing x.proposal g.now = true
  risk : ∃ account quote, ⟨.getEffectiveExecutionAccountState, .ok account⟩ ∈ h ∧
    ⟨.getOptionQuote x.proposal.contract.instrumentId, .ok quote⟩ ∈ h ∧
    command.effectiveAccountSnapshotId = account.snapshotId ∧
    command.quoteSnapshotId = quote.snapshotId ∧
    ∀ id, (x.svc.risk.evaluate id g.now x.proposal account quote).allowed = true
  reconciliation : ∃ report, ⟨.saveReconciliation report, .ok ()⟩ ∈ h ∧
    report.successful = true ∧ ∀ other, .saveReconciliation other ∈ Done.ops h → other = report
  review : ∃ review, ⟨.saveReview review, .ok ()⟩ ∈ h ∧ review.accepted = true ∧
    review.sideEffectFree = true ∧ ∀ other, .saveReview other ∈ Done.ops h → other = review

/-- The gates of an execution, read off the history it comes to the broker with. -/
theorem Execution.Mediated.mediation {x : Execution B} {h : History}
    {command : BrokerCommandIntent} {contract : OptionContract} {g : Ambient B}
    (mediated : x.Mediated h command contract g) : x.Mediation h command contract g := by
  obtain ⟨y, pendingTime, recordTime, lawful, cleared, rfl, rfl, rfl⟩ := mediated
  have same := cleared.unchanged
  constructor
  · exact lawful.binding
  · exact ⟨rfl, by simp [ExecutionService.Gathered.written]⟩
  · exact cleared.passed.latch
  · rw [same]
    exact ⟨rfl, cleared.passed.active, cleared.passed.defined⟩
  · exact cleared.passed.killSwitch
  · exact cleared.passed.healthy
  · exact cleared.passed.entry
  · exact cleared.passed.exit
  · intro required
    rw [same] at required
    have holds := cleared.approved required
    simpa [ExecutionService.approvalHolds, Option.any_eq_true] using holds
  · refine ⟨y.account, y.quote, ?_, ?_, rfl, rfl, fun id => ?_⟩
    · simp [ExecutionService.Gathered.written, ExecutionService.Gathered.history]
    · simp [ExecutionService.Gathered.written, ExecutionService.Gathered.history]
    · rw [RiskEngine.evaluate_allowed_congr _ id x.draws.lastDecision]
      exact cleared.allowed
  · refine ⟨y.reconciliation, ?_, lawful.reconciled, ?_⟩
    · simp [ExecutionService.Gathered.written, ExecutionService.Gathered.history]
    · intro other member
      simpa [ExecutionService.Gathered.written, ExecutionService.Gathered.history, Done.ops]
        using member
  · refine ⟨y.review, ?_, lawful.accepted, lawful.sideEffectFree, ?_⟩
    · simp [ExecutionService.Gathered.written, ExecutionService.Gathered.history]
    · intro other member
      simpa [ExecutionService.Gathered.written, ExecutionService.Gathered.history, Done.ops]
        using member

/-- Whatever happens to its surroundings while it waits, an execution asks the broker only
when every gate holds at that very moment. -/
theorem placed_only_mediated (d : Rows) (s : ServiceSystem B) (run : Reachable (services B) d s) :
    ∀ e ∈ s.issued, ∀ command contract, e.op = .placeOptionOrder command contract →
      ∃ x, e.call = .execute x ∧ x.Mediation e.history command contract e.ambient := by
  intro e member command contract place
  obtain ⟨x, call, mediated⟩ := placed_mediated run member place
  exact ⟨x, call, mediated.mediation⟩

theorem placed_only_mediated_sample :
    (∃ e ∈ Sample.run.issued, ∃ command contract, e.op = .placeOptionOrder command contract) ∧
      ∀ e ∈ Sample.run.issued, ∀ command contract, e.op = .placeOptionOrder command contract →
        ∃ x, e.call = .execute x ∧ x.Mediation e.history command contract e.ambient := by
  obtain ⟨e, member, x, command, contract, -, op⟩ := Sample.placed_run
  exact ⟨⟨e, member, command, contract, op⟩,
    placed_only_mediated {} Sample.run Sample.reachable_run⟩

/-! ### Evidence of a placement -/

/-- An order the broker returned for an intent: to the execution that placed it, or to a
reconciliation of that intent. -/
def Returned (s : ServiceSystem B) (t : Task (Ambient B) Exc Ans ServiceResult (ServiceCall B))
    (intentId : UUID) (order : BrokerOrder) : Prop :=
  (∃ command contract, ⟨.placeOptionOrder command contract, .ok order⟩ ∈ t.history) ∨
    ∃ j u svc g orders, s.tasks j = some u ∧ u.call = .reconcileSubmission svc intentId g ∧
      ⟨.getOrders, .ok orders⟩ ∈ u.history ∧ order ∈ orders

theorem unresolved_iff {d : Rows} {intent : OrderIntent} (member : intent ∈ d.orderIntents) :
    intent ∈ d.unresolvedIntents ↔ d.unresolved intent = true := by
  simp [Rows.unresolvedIntents, member]

/-- An order whose state does not tell whether the broker has it leaves its intent unresolved. -/
theorem unresolved_of_state {d : Rows} {intent : OrderIntent} {order : BrokerOrder}
    (found : d.getOrder intent.intentId = some order)
    (state : order.state = .submitting ∨ order.state = .submissionUnknown) :
    d.unresolved intent = true := by
  rcases state with state | state <;> simp [Rows.unresolved, found, state]

/-- Once an execution has asked the broker, whatever becomes of it, its intent is in the
store, and it is either unresolved or its order is exactly one the broker returned. -/
theorem placed_evidence_kept (s : ServiceSystem B) (run : Reachable (services B) {} s)
    (drawn : DistinctDraws s) (i : ℕ) (t : Task (Ambient B) Exc Ans ServiceResult (ServiceCall B))
    (found : s.tasks i = some t) (x : Execution B) (call : t.call = .execute x)
    (command : BrokerCommandIntent) (contract : OptionContract)
    (placed : .placeOptionOrder command contract ∈ t.asked) :
    ∃ intent ∈ s.durable.orderIntents, intent.intentId = command.orderIntentId ∧
      intent.orderFingerprint = x.proposal.orderFingerprint x.svc.hashing ∧
      (intent ∈ s.durable.unresolvedIntents ∨
        ∃ order, s.durable.getOrder intent.intentId = some order ∧
          Returned s t intent.intentId order) := by
  have consistent := run_consistent run
  have keyed : s.durable.Keyed := run_keyed (d := {}) List.Pairwise.nil run
  obtain ⟨e, member, rfl, place⟩ := consistent.asked found _ placed
  obtain ⟨x', known, y, pendingTime, recordTime, lawful, -, history, rfl, -⟩ :=
    placed_mediated run member place
  obtain ⟨u, same, called, -, -⟩ := consistent.owner e member
  obtain rfl := Option.some.inj (found.symm.trans same)
  obtain rfl := ServiceCall.execute.inj ((call.symm.trans called).trans known)
  have saved := consistent.now e member
  rw [history] at saved
  have intent := (written_of_mediated saved).1
  refine ⟨_, intent, rfl, rfl, ?_⟩
  rw [unresolved_iff intent]
  cases stored : s.durable.getOrder (y.intent x.svc x.proposal x.approval).intentId with
  | none => exact Or.inl (by simp [Rows.unresolved, stored])
  | some order =>
    obtain ⟨row, own⟩ := Rows.getOrder_mem stored
    obtain ⟨e', member', save⟩ := run_orders rfl run order row
    have met := consistent.met e' member'
    rw [save] at met
    cases called' : e'.call with
    | execute x' =>
      rw [called'] at met
      obtain ⟨grounded, y', lawful', written', own'⟩ := met
      have equal := Rows.eq_of_not_apart keyed intent
        ((consistent.now e' member' _ written').1 _ rfl)
        (fun apart => apart.1 (own.symm.trans own'))
      have task := same_task drawn run member member' known called' lawful lawful' equal
      rcases grounded with unplaced | unknown | ⟨command, contract, answered⟩
      · -- saved before the broker was asked: then it is the pending order
        have other : e.op ≠ e'.op := by
          rw [place, save]
          nofun
        rcases consistent.before_or_after member member' task other with earlier | later
        · rw [place] at earlier
          cases unplaced.op earlier
        · rw [save, history] at later
          have pending : order = y.pending x.svc x.proposal x.approval pendingTime := by
            simpa [ExecutionService.Gathered.written, ExecutionService.Gathered.history, Done.ops]
              using later
          exact Or.inl (unresolved_of_state stored (Or.inl (pending ▸ rfl)))
      · exact Or.inl (unresolved_of_state stored (Or.inr unknown))
      · obtain ⟨u, same', -, -, past⟩ := consistent.owner e' member'
        rw [← task, found] at same'
        obtain rfl := Option.some.inj same'
        exact Or.inr ⟨order, rfl, Or.inl ⟨command, contract, past answered⟩⟩
    | cancelOrder svc target limitPrice written g =>
      rw [called'] at met
      obtain ⟨cancel, action, written', own'⟩ := met
      have equal := Rows.eq_of_not_apart keyed intent
        ((consistent.now e' member' _ written').1 _ rfl)
        (fun apart => apart.1 (own.symm.trans own'))
      rw [← equal] at action
      cases action
    | reconcileSubmission svc id g =>
      rw [called'] at met
      obtain ⟨same', orders, listed, member''⟩ := met
      obtain ⟨u, found', call', -, past⟩ := consistent.owner e' member'
      refine Or.inr ⟨order, rfl, Or.inr ⟨e'.task, u, svc, g, orders, found', ?_, past listed,
        member''⟩⟩
      rw [call', called', ← own, same']

theorem placed_evidence_kept_sample :
    ∃ i t x command contract, Sample.run.tasks i = some t ∧ t.call = .execute x ∧
      .placeOptionOrder command contract ∈ t.asked ∧
      ∃ intent ∈ Sample.run.durable.orderIntents, intent.intentId = command.orderIntentId ∧
        intent.orderFingerprint = x.proposal.orderFingerprint x.svc.hashing ∧
        (intent ∈ Sample.run.durable.unresolvedIntents ∨
          ∃ order, Sample.run.durable.getOrder intent.intentId = some order ∧
            Returned Sample.run t intent.intentId order) := by
  obtain ⟨e, member, x, command, contract, call, op⟩ := Sample.placed_run
  obtain ⟨t, found, called, asked, -⟩ := (run_consistent Sample.reachable_run).owner e member
  rw [op] at asked
  exact ⟨e.task, t, x, command, contract, found, called.trans call, asked,
    placed_evidence_kept Sample.run Sample.reachable_run Sample.distinctDraws_run e.task t found x
      (called.trans call) command contract asked⟩

end Sentry
