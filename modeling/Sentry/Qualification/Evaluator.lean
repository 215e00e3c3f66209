import Mathlib.Data.List.Dedup
import Mathlib.Data.List.Sort
import Mathlib.Data.Prod.Lex
import Sentry.Qualification.Evidence
import Sentry.Support.Ranking

/-!
# The qualification evaluator

`QualificationEvaluator.evaluate` of `app/qualification/evaluator.py`: fourteen gates over the
recorded sessions and the audit of their commands. The report is passed when each of the gates
is; what that asks of the sessions is said without the gates in `Qualified`.
-/
namespace Sentry

open Support

inductive GateStatus where
  | pass | pending | fail
  deriving DecidableEq

inductive QualificationStatus where
  | notStarted | inProgress | failed | passed
  deriving DecidableEq

structure QualificationGate where
  code : String
  status : GateStatus
  detail : String

structure QualificationReport where
  createdAt : Time
  qualificationId : UUID
  evaluatorVersion : String
  status : QualificationStatus
  accountFingerprint : Option String
  sessionsObserved : ℕ
  requiredSessions : ℕ
  sessionDates : List Date
  gates : List QualificationGate
  warnings : List String
  totals : List (String × ℕ)
  sessionIds : List UUID
  currentRealBroker : List (String × Json)
  currentShadowLedger : List (String × Json)
  capability : List (String × Json)
  auditIssues : List String

def QualificationReport.failedGates (report : QualificationReport) : List String :=
  (report.gates.filter fun gate => gate.status == .fail).map QualificationGate.code

structure QualificationEvaluator where
  requiredRegularSessions : ℕ := 5
  calendar : UsEquityCalendar
  atLeastFive : 5 ≤ requiredRegularSessions

namespace QualificationEvaluator

def version : String := "broker-shadow-qualification-v2"

/-! ### The calendar and the coverage -/

section Sessions

variable (calendar : UsEquityCalendar) (s : SessionRecord)

/-- Half past nine in New York. -/
def openedAt : Time := calendar.timezone.combine s.regularSessionDate (hours 9 + minutes 30)

/-- What is wrong with a session on the first record of its day. -/
def sessionIssues : List String :=
  let day := Date.isoformat s.regularSessionDate
  match calendar.regularSessionClose s.regularSessionDate with
  | .error _ => ["unverified exchange calendar for " ++ day]
  | .ok none => [day ++ " is not a scheduled regular session"]
  | .ok (some closed) =>
    let opened := openedAt calendar s
    (if s.calendarVersion ≠ UsEquityCalendar.scheduleVersion then
      ["calendar version mismatch on " ++ day] else []) ++
    (if opened ≤ s.premarketObservedAt then
      ["premarket startup missing on " ++ day] else []) ++
    (if opened < s.regularMarketOpenObservedAt then
      ["regular open coverage started late on " ++ day] else []) ++
    (if s.regularMarketCloseObservedAt < closed then
      ["regular close coverage ended early on " ++ day] else []) ++
    if s.eodCompletedAt < closed then
      ["end-of-day completion predates close on " ++ day] else []

/-- The days in `seen` have had a record. -/
def calendarIssues (seen : List Date) : List SessionRecord → List String
  | [] => []
  | s :: rest =>
    if seen.contains s.regularSessionDate then
      ("duplicate finalized session date " ++ Date.isoformat s.regularSessionDate) ::
        calendarIssues seen rest
    else sessionIssues calendar s ++ calendarIssues (s.regularSessionDate :: seen) rest

/-- A session without a close has been reported with the calendar's issues. -/
def sessionCoverageFailures : List String :=
  match calendar.regularSessionClose s.regularSessionDate with
  | .ok (some closed) =>
    ([("official sources", s.publicSourceHealth), ("market data", s.marketDataHealth),
      ("broker reads", s.brokerReadHealth)].filter fun entry =>
        !entry.2.covers (openedAt calendar s) closed).map fun entry =>
      entry.1 ++ " coverage incomplete on " ++ Date.isoformat s.regularSessionDate
  | _ => []

def coverageFailures (sessions : List SessionRecord) : List String :=
  sessions.flatMap (sessionCoverageFailures calendar)

def missingText (text : Option String) : Bool := text.all fun t => t.isEmpty

def missingCapability : Bool :=
  !s.authenticated || s.capabilitySnapshotId.isNone || missingText s.mcpProtocolVersion ||
    missingText s.capabilityCatalogVersion || missingText s.capabilityCatalogHash ||
    s.commandSchemaHashes.entries.isEmpty

def driftUnreviewed (sessions : List SessionRecord) : Bool :=
  (sessions.zip sessions.tail).any fun pair =>
    pair.2.capabilityCatalogHash != pair.1.capabilityCatalogHash &&
      !pair.2.capabilityDriftReviewed

def fundingBreach : Bool :=
  decide (s.realCash.val ≠ 0) || decide (s.realBuyingPower.val ≠ 0) ||
    decide (s.realOpenPositions ≠ 0) || decide (s.realOpenOrders ≠ 0) || s.unexpectedRealDeposit

def missingAccounts : Bool :=
  s.realBrokerAccountSnapshotIds.isEmpty || s.shadowAccountSnapshotIds.isEmpty

def unreconciled : Bool := !s.eodReconciled || s.reconciliationEventIds.isEmpty

end Sessions

/-! ### The gates -/

section Gates

variable (ev : QualificationEvaluator) (ordered : List SessionRecord)
  (audit : Option AuditCompleteness) (invalidRecords : List String)

def recordIntegrity : QualificationGate :=
  if invalidRecords ≠ [] then
    ⟨"session_record_integrity", .fail, toString invalidRecords.length ++
      " stored session record(s) are malformed or duplicated"⟩
  else if ordered ≠ [] then
    ⟨"session_record_integrity", .pass, "all stored session summaries validate"⟩
  else ⟨"session_record_integrity", .pending, "no session summary has been recorded"⟩

/-- Each date once, in order. -/
def uniqueDates : List Date :=
  (ordered.map SessionRecord.regularSessionDate).dedup.insertionSort (· ≤ ·)

def fullRegularSessions : QualificationGate :=
  let issues := calendarIssues ev.calendar [] ordered
  let observed := (uniqueDates ordered).length
  let count := toString observed ++ "/" ++ toString ev.requiredRegularSessions ++
    " complete regular sessions"
  if issues ≠ [] then ⟨"full_regular_sessions", .fail, "; ".intercalate issues⟩
  else if ordered = [] then
    ⟨"full_regular_sessions", .pending, "waiting for authenticated current-market sessions"⟩
  else if observed < ev.requiredRegularSessions then ⟨"full_regular_sessions", .pending, count⟩
  else ⟨"full_regular_sessions", .pass, count⟩

def fingerprints : List String := (ordered.map SessionRecord.accountFingerprint).dedup

/-- A gate that waits for the first session and then fails or passes. -/
def checkedGate (code : String) (failed : Bool) (pending fail pass : String) :
    QualificationGate :=
  if ordered = [] then ⟨code, .pending, pending⟩
  else if failed then ⟨code, .fail, fail⟩
  else ⟨code, .pass, pass⟩

def sameAccountContinuity : QualificationGate :=
  checkedGate ordered "same_account_continuity" ((fingerprints ordered).length != 1)
    "intended account has not been observed"
    "account fingerprint changed during qualification"
    "one masked account identity spans all sessions"

def authenticatedCapabilities : QualificationGate :=
  checkedGate ordered "authenticated_mcp_capabilities"
    (ordered.any missingCapability || driftUnreviewed ordered)
    "authentication and discovery have not run"
    "authentication/capability schema evidence is incomplete or drift is unreviewed"
    "authenticated schema snapshots are complete"

def continuousCoverage : QualificationGate :=
  let failures := coverageFailures ev.calendar ordered
  checkedGate ordered "continuous_health_coverage" (!failures.isEmpty)
    "source, market, and broker coverage is pending"
    ("; ".intercalate failures)
    "source, market, and broker checks cover every session"

def realAccountUnfunded : QualificationGate :=
  checkedGate ordered "real_account_unfunded"
    (ordered.any fundingBreach || audit.any fun a => a.realAccountBreaches != 0)
    "real broker account has not been observed"
    "unexpected real funds/order/position detected"
    "real observed cash, buying power, positions, and open orders remain zero"

def accountSeparation : QualificationGate :=
  checkedGate ordered "real_shadow_account_separation"
    (ordered.any missingAccounts || audit.any fun a => a.accountSeparationIssues != 0)
    "both account ledgers are pending"
    "real or shadow account snapshots are missing"
    "real and shadow account snapshots are separately identified"

def totalDeclared : ℕ := (ordered.map fun s => s.commandIntentIds.length).sum

/-- A gate over the audit, which waits for a command to be declared. -/
def commandGate (code : String) (ok : AuditCompleteness → Bool) (pending : String)
    (detail : AuditCompleteness → String) : QualificationGate :=
  match audit with
  | none => ⟨code, .pending, pending⟩
  | some a =>
    if totalDeclared ordered = 0 then ⟨code, .pending, pending⟩
    else ⟨code, if ok a then .pass else .fail, detail a⟩

def exactCommandAudit : QualificationGate :=
  commandGate ordered audit "exact_command_audit"
    (fun a => a.issues.isEmpty && a.completeCommandIntents == a.declaredCommandIntents &&
      a.undeclaredCommandIntents == 0)
    "no complete exact command-intent path is yet proven"
    fun a => toString a.completeCommandIntents ++ "/" ++ toString a.declaredCommandIntents ++
      " command paths have complete durable linkage"

def shadowWriteFirewall : QualificationGate :=
  commandGate ordered audit "shadow_write_firewall"
    (fun a => a.transmittedExternalWrites == 0 && a.firewallDenials == a.declaredCommandIntents)
    "no durable deny-all command path is yet proven"
    fun a => toString a.firewallDenials ++ " denied, " ++ toString a.transmittedExternalWrites ++
      " transmitted"

def requiredCounterfactuals : ℕ :=
  (ordered.map SessionRecord.policyCounterfactualsRequired).sum

def recordedCounterfactuals : ℕ := (ordered.map fun s => s.policyCounterfactualIds.length).sum

def policyCounterfactuals : QualificationGate :=
  ⟨"live_policy_counterfactuals",
    if ordered = [] ∨ totalDeclared ordered = 0 then .pending
    else if recordedCounterfactuals ordered ≠ requiredCounterfactuals ordered then .fail
    else .pass,
    toString (recordedCounterfactuals ordered) ++ "/" ++
      toString (requiredCounterfactuals ordered) ++ " required decisions recorded"⟩

/-- `_period_gate`. -/
def periodGate (code : String) (completed : Bool) (completedDetail : String) :
    QualificationGate :=
  ⟨code, if completed then .pass else .pending,
    if completed then completedDetail else "pending: " ++ completedDetail⟩

def restartReconciliation : QualificationGate :=
  periodGate "restart_reconciliation"
    (ordered.any fun s => !s.restartEventIds.isEmpty && s.restartReconciled)
    "a process/service restart reconciled"

def transientFailureRecovery : QualificationGate :=
  periodGate "transient_failure_recovery"
    (ordered.any fun s =>
      !s.transientFailureEventIds.isEmpty && s.transientFailureRecoveredSafely)
    "a transient provider failure recovered safely"

def authenticatedReconnect : QualificationGate :=
  periodGate "authenticated_mcp_reconnect" (ordered.any SessionRecord.reconnectExercised)
    "the authenticated MCP reconnect path was exercised"

def incidents : List String := ordered.flatMap SessionRecord.unresolvedSafetyIncidents

def reconciliationAndIncidents : QualificationGate :=
  let open_ := ordered.filter unreconciled
  checkedGate ordered "reconciliation_and_incidents"
    (!open_.isEmpty || !(incidents ordered).isEmpty)
    "end-of-day reconciliation is pending"
    (toString open_.length ++ " unreconciled session(s), " ++
      toString (incidents ordered).length ++ " unresolved incident(s)")
    "all sessions reconciled with no unresolved incident"

/-- All gates, in the order in which they are added. -/
def gates : List QualificationGate :=
  [recordIntegrity ordered invalidRecords, ev.fullRegularSessions ordered,
    sameAccountContinuity ordered, authenticatedCapabilities ordered,
    ev.continuousCoverage ordered, realAccountUnfunded ordered audit,
    accountSeparation ordered audit, exactCommandAudit ordered audit,
    shadowWriteFirewall ordered audit, policyCounterfactuals ordered,
    restartReconciliation ordered, transientFailureRecovery ordered,
    authenticatedReconnect ordered, reconciliationAndIncidents ordered]

/-- `_status`. -/
def status (gates : List QualificationGate) : QualificationStatus :=
  if ordered = [] ∧ (gates.any fun gate => gate.status == .fail) = false then .notStarted
  else if gates.any fun gate => gate.status == .fail then .failed
  else if gates.any fun gate => gate.status == .pending then .inProgress
  else .passed

end Gates

/-! ### The report -/

section Report

variable (ev : QualificationEvaluator)

/-- Sessions in the order of their dates. -/
def inOrder (sessions : List SessionRecord) : List SessionRecord :=
  ranking (fun s => toLex (s.regularSessionDate, s.sessionId.val)) sessions

def totals (ordered : List SessionRecord) (audit : Option AuditCompleteness) :
    List (String × ℕ) :=
  let count (f : AuditCompleteness → ℕ) := audit.elim 0 f
  [("natural_command_intents", count (·.naturalCommandIntents)),
    ("plumbing_command_intents", count (·.plumbingCommandIntents)),
    ("complete_command_intents", count (·.completeCommandIntents)),
    ("side_effect_free_reviews", count (·.sideEffectFreeReviews)),
    ("firewall_denials", count (·.firewallDenials)),
    ("external_writes_transmitted", count (·.transmittedExternalWrites)),
    ("policy_counterfactuals_required", requiredCounterfactuals ordered),
    ("policy_counterfactuals_recorded", recordedCounterfactuals ordered),
    ("restart_events", (ordered.map fun s => s.restartEventIds.length).sum),
    ("reconciliation_events", (ordered.map fun s => s.reconciliationEventIds.length).sum),
    ("unresolved_incidents", (incidents ordered).length)]

/-- A value of the last session, none without one. -/
def ofCurrent (current : Option SessionRecord) (f : SessionRecord → Json) : Json :=
  current.elim .null f

def currentRealBroker (current : Option SessionRecord) : List (String × Json) :=
  [("observed", .bool current.isSome),
    ("cash", ofCurrent current fun s => .str s.realCash.str),
    ("buying_power", ofCurrent current fun s => .str s.realBuyingPower.str),
    ("open_positions", ofCurrent current fun s => .int s.realOpenPositions),
    ("open_orders", ofCurrent current fun s => .int s.realOpenOrders),
    ("unexpected_deposit", ofCurrent current fun s => .bool s.unexpectedRealDeposit)]

def currentShadowLedger (current : Option SessionRecord) : List (String × Json) :=
  [("observed", .bool current.isSome),
    ("cash", ofCurrent current fun s => .str s.shadowCash.str),
    ("buying_power", ofCurrent current fun s => .str s.shadowBuyingPower.str),
    ("realized_pnl", ofCurrent current fun s => .str s.shadowRealizedPnl.str),
    ("unrealized_pnl", ofCurrent current fun s => .str s.shadowUnrealizedPnl.str)]

def currentCapability (current : Option SessionRecord) : List (String × Json) :=
  [("snapshot_present", .bool (current.any fun s => s.capabilitySnapshotId.isSome)),
    ("mcp_protocol_version", ofCurrent current fun s => .optionStr s.mcpProtocolVersion),
    ("catalog_version", ofCurrent current fun s => .optionStr s.capabilityCatalogVersion),
    ("catalog_hash", ofCurrent current fun s => .optionStr s.capabilityCatalogHash),
    ("command_schema_count",
      .int (current.elim 0 fun s => s.commandSchemaHashes.entries.length))]

def evaluate (sessions : List (SessionEvidence ev.calendar.timezone)) (at_ : Time)
    (audit : Option AuditCompleteness) (invalidRecords : List String) (qualificationId : UUID) :
    QualificationReport :=
  let ordered := inOrder (sessions.map SessionEvidence.toSessionRecord)
  let gates := ev.gates ordered audit invalidRecords
  let current := ordered.getLast?
  { createdAt := at_
    qualificationId := qualificationId
    evaluatorVersion := version
    status := status ordered gates
    accountFingerprint :=
      if (fingerprints ordered).length = 1 then (fingerprints ordered).head? else none
    sessionsObserved := (uniqueDates ordered).length
    requiredSessions := ev.requiredRegularSessions
    sessionDates := uniqueDates ordered
    gates := gates
    warnings :=
      if totalDeclared ordered ≠ 0 ∧ audit.any (fun a => a.naturalCommandIntents == 0) then
        ["command-path coverage is plumbing-only; it is not market-performance evidence"]
      else []
    totals := totals ordered audit
    sessionIds := ordered.map SessionRecord.sessionId
    currentRealBroker := currentRealBroker current
    currentShadowLedger := currentShadowLedger current
    capability := currentCapability current
    auditIssues := audit.elim [] AuditCompleteness.issues }

end Report

end QualificationEvaluator
end Sentry
