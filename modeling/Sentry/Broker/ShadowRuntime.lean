import Sentry.Broker.Capabilities
import Sentry.Execution.Service
import Sentry.Sentinel.LiveReads
import Sentry.Support.Components

/-!
# The broker-shadow runtime

`BrokerShadowRuntime` of `app/broker/shadow_runtime.py`: reconciliation, the scan of the current
market, the monitoring of shadow positions, and the calls of its execution service. The service
and the surveillance worker are components: they run over their part of what the process keeps
in memory. The synchronisation of the journal, the proposal of exits and the ledger behind the
broker are operations here, as are the research and the dispatch that lead to a call of
`execute`.
-/
namespace Sentry

open Support Coroutine

/-- The capabilities a reconciliation looks at. -/
structure RuntimeCapabilities extends BrokerCapabilities where
  reviewOptionOrders : Bool := false

/-- What the process keeps in memory: the runtime's own fields, those of its view, and what its
components keep. -/
structure RuntimeMemory where
  initialized : Bool := false
  requiresReconciliation : Bool := true
  journalHealthy : Bool := false
  snapshotPersisted : Bool
  /-- `broker.state_persisted`. -/
  statePersisted : Bool := true
  databaseHealthy : Bool := false
  marketDataFresh : Bool := false
  reconciled : Bool := false
  unresolvedSubmission : Bool := false
  executionServiceHealthy : Bool := false
  brokerConnected : Bool := false
  tradingMode : TradingMode
  killSwitchActive : Bool := false
  safety : SafetyController
  interruptedWriteIntents : List UUID := []
  now : Time
  market : MarketDataState
  surveillance : SurveillanceMemory := {}

namespace RuntimeMemory

variable (m : RuntimeMemory)

/-- `_execution_healthcheck`. -/
def executionHealthcheck : Bool :=
  m.initialized && !m.requiresReconciliation && m.journalHealthy && m.snapshotPersisted &&
    m.statePersisted && m.databaseHealthy && m.marketDataFresh && m.reconciled &&
    !m.unresolvedSubmission

def checkExecution : RuntimeMemory := { m with executionServiceHealthy := m.executionHealthcheck }

end RuntimeMemory

inductive RuntimeOp where
  | execution (op : Op)
  | surveillance (op : LiveReadOp)
  -- the repository
  | healthcheck
  | appendCapabilities (capabilities : RuntimeCapabilities)
  | appendObservedAccount (account : AccountSnapshot)
  | appendEffectiveAccount (account : AccountSnapshot)
  | unresolvedIntents
  -- the broker, its ledger and the market
  | getCapabilities
  | flushState
  | getPositions
  | getOptionQuote (instrumentId : String)
  | consumeQuote (quote : OptionQuote)
  -- methods of the runtime that are not looked into
  | syncExecutionJournal (recovery : Bool)
  | proposeExits
  | refreshViewFromLedger

abbrev RuntimeAns : RuntimeOp → Type
  | .execution op => Ans op
  | .surveillance op => LiveReadAns op
  | .healthcheck => Bool
  | .unresolvedIntents => List OrderIntent
  | .getCapabilities => RuntimeCapabilities
  | .getPositions => List Position
  | .getOptionQuote _ => OptionQuote
  | .appendCapabilities _ | .appendObservedAccount _ | .appendEffectiveAccount _ | .flushState
  | .consumeQuote _ | .syncExecutionJournal _ | .proposeExits | .refreshViewFromLedger => Unit

abbrev RuntimeProgram (α : Type) := Coroutine RuntimeMemory Exc RuntimeAns α

namespace LiveReadSurveillanceWorker

variable (worker : LiveReadSurveillanceWorker)

/-- `health`: the ages of the last quotes are checked anew. -/
def health : LiveReadProgram Bool :=
  attempt (do
      worker.guard
      let memory ← peek SurveillanceStore.memory
      match memory.lastSuccessfulAt with
      | none => pure false
      | some cutoff =>
        if !memory.lastScanHealthy || memory.lastSuccessfulQuotes.isEmpty then pure false
        else do
          worker.revalidate cutoff memory.lastSuccessfulQuotes
          pure true)
    fun e =>
      if e.isException then do
        change (SurveillanceStore.updateMemory fun memory =>
          { memory with lastScanHealthy := false })
        pure false
      else raise e

end LiveReadSurveillanceWorker

/-- A runtime with the components it is composed of. -/
structure BrokerShadowRuntime where
  execution : ExecutionService
  surveillance : LiveReadSurveillanceWorker
  /-- `quote.model_dump(mode="json")`. -/
  quoteDump : Quote → Json

namespace BrokerShadowRuntime

variable (rt : BrokerShadowRuntime)

/-! ### Components -/

/-- The trading mode, the kill switch and the healthcheck are injected into the service. -/
def executionComponent : Component RuntimeMemory (Ambient Unit) RuntimeAns Ans where
  get m :=
    { tradingMode := m.tradingMode
      killSwitchActive := m.killSwitchActive
      healthy := m.executionHealthcheck
      now := m.now
      safety := m.safety
      interruptedWriteIntents := m.interruptedWriteIntents
      broker := () }
  put g m := { m with safety := g.safety, interruptedWriteIntents := g.interruptedWriteIntents }
  op := .execution
  answer _ answer := answer

/-- The worker reads its tables through operations only. -/
def surveillanceComponent : Component RuntimeMemory SurveillanceStore RuntimeAns LiveReadAns where
  get m :=
    { snapshots := fun _ => []
      sentinelEvents := []
      market := m.market
      now := m.now
      memory := m.surveillance }
  put g m := { m with surveillance := g.memory }
  op := .surveillance
  answer _ answer := answer

def ask (op : RuntimeOp) : RuntimeProgram (RuntimeAns op) := call op

/-! ### Reconciliation -/

/-- A report of a broker that is not ready is not successful. -/
def qualify (capabilities : RuntimeCapabilities) (report : ReconciliationReport) :
    ReconciliationReport :=
  if !capabilities.executionReady || capabilities.externalWritesEnabled ||
      !capabilities.reviewOptionOrders then
    { report with
      successful := false
      discrepancies := report.discrepancies ++
        ["broker read/review/write-schema capabilities are not ready"] }
  else report

/-- What follows the report of a reconciliation. -/
def conclude (report : ReconciliationReport) : RuntimeProgram Bool := do
  ask (.execution (.saveReconciliation report))
  ask (.appendObservedAccount report.observedAccount)
  ask (.appendEffectiveAccount report.effectiveAccount)
  change fun m => { m with
    brokerConnected := report.observedAccount.isAuthenticated && report.observedAccount.stateKnown }
  if report.successful then ask (.syncExecutionJournal true)
  else change fun m => { m with journalHealthy := false }
  let unresolved ← ask .unresolvedIntents
  change fun m => { m with unresolvedSubmission := !unresolved.isEmpty }
  let journalHealthy ← peek RuntimeMemory.journalHealthy
  let success := report.successful && journalHealthy && unresolved.isEmpty
  change fun m => { m with
    initialized := m.initialized || success
    requiresReconciliation := !success
    reconciled := success }
  ask .refreshViewFromLedger
  change RuntimeMemory.checkExecution
  pure success

def reconcile : RuntimeProgram Bool := do
  change fun m => { m with requiresReconciliation := true, reconciled := false }
  let healthy ← ask .healthcheck
  change fun m => { m with databaseHealthy := healthy }
  if !healthy then do
    change fun m => { m with executionServiceHealthy := false }
    pure false
  else do
    let statePersisted ← peek RuntimeMemory.statePersisted
    if !statePersisted then ask .flushState else pure ()
    let capabilities ← ask .getCapabilities
    ask (.appendCapabilities capabilities)
    let report ← ask (.execution .reconcile)
    let report := qualify capabilities report
    let snapshotPersisted ← peek RuntimeMemory.snapshotPersisted
    -- a fresh account binding becomes durable once the account has reconciled
    if report.successful && !snapshotPersisted then ask .flushState else pure ()
    conclude report

def health : RuntimeProgram Bool := do
  let healthy ← ask .healthcheck
  change fun m => { m with databaseHealthy := healthy }
  let unresolved ← ask .unresolvedIntents
  change fun m => { m with unresolvedSubmission := !unresolved.isEmpty }
  change RuntimeMemory.checkExecution
  peek RuntimeMemory.executionServiceHealthy

/-! ### The current market -/

def isActive (order : BrokerOrder) : Bool := order.state == .open_ || order.state == .partial_

/-- The instruments of the active orders and of the positions, each once and sorted. -/
def instruments (orders : List BrokerOrder) (positions : List Position) : List String :=
  (((orders.filter isActive).map fun order => order.contract.instrumentId) ++
    positions.map fun position => position.contract.instrumentId).eraseDups.mergeSort
      fun a b => decide (a ≤ b)

def observeInstruments : List String → RuntimeProgram Unit
  | [] => pure ()
  | instrumentId :: rest => do
    let quote ← ask (.getOptionQuote instrumentId)
    ask (.consumeQuote quote)
    ask (.syncExecutionJournal false)
    observeInstruments rest

def monitorShadowPositions : RuntimeProgram Unit := do
  let ready ← peek fun m => m.initialized && !m.requiresReconciliation
  raiseIf (!ready)
    (.safetyCritical "shadow position monitoring requires successful account reconciliation")
  let orders ← ask (.execution .getOrders)
  let positions ← ask .getPositions
  observeInstruments (instruments orders positions)
  ask .proposeExits
  ask .refreshViewFromLedger
  change RuntimeMemory.checkExecution

def scanCurrentMarket : RuntimeProgram (List SentinelEvent) :=
  attempt (do
      let events ← within surveillanceComponent rt.surveillance.tick
      let fresh ← within surveillanceComponent rt.surveillance.health
      change fun m => { m with marketDataFresh := fresh }
      monitorShadowPositions
      let _ ← health
      pure events)
    fun e => do
      change fun m => { m with marketDataFresh := false, executionServiceHealthy := false }
      raise e

/-! ### Runs -/

inductive RuntimeCall where
  | reconcile
  | health
  | scanCurrentMarket
  | monitorShadowPositions
  | execute (proposal : TradeProposal) (approval : Option ExactApproval) (draws : Draws)
  | cancelOrder (target : BrokerOrder) (limitPrice : Decimal)
      (written : limitPrice.val = target.limitPrice)
  | reconcileSubmission (intentId : UUID)

def body : RuntimeCall → RuntimeProgram Unit
  | .reconcile => do
    let _ ← reconcile
    pure ()
  | .health => do
    let _ ← health
    pure ()
  | .scanCurrentMarket => do
    let _ ← rt.scanCurrentMarket
    pure ()
  | .monitorShadowPositions => monitorShadowPositions
  | .execute proposal approval draws => do
    let _ ← within executionComponent (rt.execution.execute proposal approval draws)
    pure ()
  | .cancelOrder target limitPrice written => do
    let _ ← within executionComponent (rt.execution.cancelOrder target limitPrice written)
    pure ()
  | .reconcileSubmission intentId => do
    let _ ← within executionComponent (rt.execution.reconcileSubmission intentId)
    pure ()

end BrokerShadowRuntime
end Sentry
