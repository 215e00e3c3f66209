import Sentry.Broker.Schema
import Sentry.Execution.Operations
import Sentry.Market.Models
import Sentry.Qualification.Service
import Sentry.Risk.Engine

/-!
# The audit of the qualification service

`_audit` of `app/qualification/service.py`: the commands that sessions declare are followed
through the tables of the binding, and the tables are searched for commands and transmissions
that no session declares. What the schema library makes of a payload, the text of a value that
is no text and the parsing of a time are parameters.
-/
namespace Sentry

open Support

/-! ### Rows -/

abbrev Document := Dict String JsonLike

/-- What a row has for its time. -/
inductive RowTime where
  | datetime (value : Datetime)
  | value (document : JsonLike)

def RowTime.eq : RowTime → RowTime → Bool
  | .datetime a, .datetime b => a == b
  | .value a, .value b => a.eq b
  | _, _ => false

/-- A row of an audit table as it is listed. Its payload is a mapping, and the columns that
nothing here reads are left out. -/
structure AuditRecord where
  id : UUID
  createdAt : Option RowTime
  payload : Document

abbrev Listed := AuditRow AuditRecord

/-- `==` of two rows. -/
def Listed.same (a b : Listed) : Bool :=
  decide (a.payload.id = b.payload.id) && a.appendSequence == b.appendSequence &&
    (match a.payload.createdAt, b.payload.createdAt with
      | none, none => true
      | some s, some t => s.eq t
      | _, _ => false) &&
    (JsonLike.obj a.payload.payload.entries).eq (.obj b.payload.payload.entries)

/-- The rows of the binding in every table. -/
abbrev AuditTables := String → List Listed

structure QualificationAudit where
  namespace_ : String
  newYork : ZoneInfo
  /-- `str(value)` of a value that is no text. -/
  str : JsonLike → String
  fromisoformat : String → Option Datetime
  command : Document → Option BrokerCommandIntent
  orderIntent : Document → Option OrderIntent
  proposal : Document → Option TradeProposal
  risk : Document → Option RiskDecision
  review : Document → Option BrokerReview
  account : Document → Option AccountSnapshot
  firewallDecision : Document → Option FirewallDecision

namespace QualificationAudit

variable (svc : QualificationAudit)

def text : JsonLike → String
  | .str s => s
  | other => svc.str other

/-- `payload.get(key)`, where a null is as good as nothing. -/
def given (payload : Document) (key : String) : Option JsonLike :=
  (payload.get? key).filter fun value => match value with
    | .null => false
    | _ => true

/-- `value.replace("Z", "+00:00")`. -/
def replaceZ (text : String) : String :=
  String.ofList (text.toList.flatMap fun c => if c = 'Z' then "+00:00".toList else [c])

/-- A time that carries its zone. -/
def instant : Datetime → Option Time
  | .aware utc => some utc
  | .naive _ => none

/-- The time of a row, of its own column or else of its payload. -/
def timeOf (row : Listed) : Option RowTime :=
  row.payload.createdAt.orElse fun _ => (row.payload.payload.get? "created_at").map .value

/-- `_row_created_at`. -/
def rowCreatedAt (row : Listed) : Option Time :=
  match timeOf row with
  | some (.datetime value) => instant value
  | some (.value (.str text)) => (svc.fromisoformat (replaceZ text)).bind instant
  | _ => none

/-- `_in_any_session`. -/
def inAnySession (row : Listed) (sessions : List SessionRecord) : Bool :=
  (svc.rowCreatedAt row).any fun createdAt => sessions.any fun session =>
    decide (session.premarketObservedAt ≤ createdAt) && decide (createdAt ≤ session.createdAt)

/-- `_in_regular_window`. -/
def inRegularWindow (row : Listed) (session : SessionRecord) : Bool :=
  (svc.rowCreatedAt row).any fun createdAt =>
    decide (svc.newYork.combine session.regularSessionDate (hours 9 + minutes 30) ≤ createdAt) &&
      decide (createdAt ≤ session.regularMarketCloseObservedAt)

/-- `_on_session_date`. -/
def onSessionDate (row : Listed) (session : SessionRecord) : Bool :=
  (svc.rowCreatedAt row).any fun createdAt =>
    decide (svc.newYork.date createdAt = session.regularSessionDate)

/-! ### Tables and indices -/

def tableLimit : ℕ := 10000

def tableNames : List String :=
  ["trade_proposals", "risk_decisions", "approvals", "broker_reviews", "order_intents",
    "broker_command_intents", "market_snapshots", "option_snapshots",
    "broker_capability_snapshots", "broker_observed_account_snapshots",
    "shadow_account_snapshots", "external_write_firewall_events", "demo_live_policy_divergences",
    "reconciliation_events", "environment_audit_events", "health_events"]

/-- The newest rows of a table, the newest first. -/
def listed (tables : AuditTables) (table : String) : List Listed :=
  AuditRow.listPayloads (fun _ => true) tableLimit none (tables table)

def scanIssue (table : String) : String := table ++ " audit scan reached its safety bound"

def scanIssues (tables : AuditTables) : List String :=
  (tableNames.filter fun table => (listed tables table).length == tableLimit).map scanIssue

/-- Rows under their identities. -/
structure Index where
  rows : Dict String Listed := .empty
  issues : List String := []

/-- A later row takes the place of an earlier one. -/
def Index.put (issue : String) (row : Listed) (index : Index) (key : String) : Index where
  rows := index.rows.set key row
  issues := if (index.rows.get? key).any fun other => !other.same row then
      index.issues ++ [issue]
    else index.issues

/-- The identities of a row. -/
def identities (payloadKey : String) (includeRowId : Bool) (row : Listed) : List String :=
  ((given row.payload.payload payloadKey).map svc.text).toList ++
    if includeRowId then [row.payload.id.str] else []

def duplicateIssue (payloadKey : String) : String :=
  "duplicate immutable identity in " ++ payloadKey

/-- `_index`. -/
def index (rows : List Listed) (payloadKey : String) (includeRowId : Bool) : Index :=
  rows.foldl (fun index row =>
    (svc.identities payloadKey includeRowId row).foldl (Index.put (duplicateIssue payloadKey) row)
      index) {}

/-- The rows of the equity table and of the option table under one identity. -/
def marketIndex (tables : AuditTables) : Index :=
  let market := svc.index (listed tables "market_snapshots") "snapshot_id" false
  let options := svc.index (listed tables "option_snapshots") "snapshot_id" false
  options.rows.entries.foldl (fun index entry =>
      index.put "snapshot identity appears in both equity and option tables" entry.2 entry.1)
    { market with issues := market.issues ++ options.issues }

/-! ### Declarations -/

/-- The command identities that sessions declare. -/
structure Declarations where
  declared : Dict String SessionRecord := .empty
  natural : List String := []
  plumbing : List String := []
  issues : List String := []

def Declarations.declare (session : SessionRecord) (d : Declarations) (id : UUID) : Declarations :=
  { d with
    declared := d.declared.set id.str session
    issues := if (d.declared.get? id.str).isSome then
        d.issues ++ ["a command intent is declared by multiple qualification sessions"]
      else d.issues }

def Declarations.declareNatural (session : SessionRecord) (d : Declarations) (id : UUID) :
    Declarations :=
  let d := d.declare session id
  { d with natural := d.natural.insert id.str }

def Declarations.declarePlumbing (session : SessionRecord) (d : Declarations) (id : UUID) :
    Declarations :=
  let d := d.declare session id
  { d with plumbing := d.plumbing.insert id.str }

def Declarations.session (d : Declarations) (session : SessionRecord) : Declarations :=
  session.plumbingCommandIntentIds.foldl (Declarations.declarePlumbing session)
    (session.naturalCommandIntentIds.foldl (Declarations.declareNatural session) d)

def declarations (sessions : List SessionRecord) : Declarations :=
  sessions.foldl Declarations.session {}

/-! ### One command -/

/-- `_validate_model`. -/
def validateModel {α : Type} (model : Document → Option α) (row : Option Listed) : Option α :=
  row.bind fun row => model row.payload.payload

def firewallFields : List String :=
  ["created_at", "firewall_event_id", "command_intent_id", "environment", "disposition", "reason",
    "transmitted"]

/-- `_validate_firewall_decision`. -/
def validateFirewallDecision (row : Listed) : Option FirewallDecision :=
  let payload := row.payload.payload
  if firewallFields.any fun field => (payload.get? field).isNone then none
  else svc.firewallDecision (Dict.ofPairs (firewallFields.filterMap fun field =>
    (payload.get? field).map fun value => (field, value)))

/-- The tables under the identities of their rows. -/
structure Links where
  proposals : Dict String Listed
  risks : Dict String Listed
  approvals : Dict String Listed
  reviews : Dict String Listed
  orderIntents : Dict String Listed
  marketSnapshots : Dict String Listed
  realAccounts : Dict String Listed
  shadowAccounts : Dict String Listed
  /-- The rows of the firewall that name a command. -/
  firewall : String → List Listed

/-- What is found of one command. -/
structure Findings where
  issues : List String := []
  safeReview : Option String := none
  denied : Bool := false

/-- An issue unless something holds. -/
def issueUnless (holds : Bool) (issue : String) : List String := if holds then [] else [issue]

/-- The issues of an intent and of its review. -/
def intentFindings (links : Links) (command : BrokerCommandIntent) : Findings :=
  match validateModel svc.orderIntent (links.orderIntents.get? command.orderIntentId.str) with
  | none => { issues := ["durable OrderIntent link missing or invalid"] }
  | some intent =>
    let linked := intent.proposalId == command.proposalId &&
      intent.riskDecisionId == command.riskDecisionId && intent.approvalId == command.approvalId &&
      intent.orderFingerprint == command.orderFingerprint &&
      intent.idempotencyKey == command.idempotencyKey && intent.action == command.action
    let issues := issueUnless linked "BrokerCommandIntent differs from OrderIntent"
    let review := validateModel svc.review (links.reviews.get? intent.reviewId.str)
    match review.filter fun review =>
        review.proposalId == command.proposalId && review.sideEffectFree with
    | none => { issues := issues ++ ["safe broker review link missing or invalid"] }
    | some review => { issues, safeReview := some review.reviewId.str }

/-- Whether the quote and the account snapshots of a command are in their tables. -/
def snapshotIssues (links : Links) (command : BrokerCommandIntent) : List String :=
  issueUnless (links.marketSnapshots.get? command.quoteSnapshotId.str).isSome
      "market snapshot link missing" ++
    issueUnless (command.brokerObservedAccountSnapshotId.any fun id =>
        (links.realAccounts.get? id.str).isSome) "real broker account snapshot link missing" ++
    issueUnless (links.shadowAccounts.get? command.effectiveAccountSnapshotId.str).isSome
      "shadow account snapshot link missing"

/-- A denial that is valid for a shadow command. -/
def validDenial (row : Listed) : Bool :=
  (svc.validateFirewallDecision row).any fun decision =>
    decision.disposition == .blockedShadow && !decision.transmitted &&
      decision.environment == .demo

/-- The checks of a command whose row is valid. -/
def commandFindings (links : Links) (d : Declarations) (session : SessionRecord)
    (commandId : String) (row : Listed) (command : BrokerCommandIntent) : Findings :=
  let intent := svc.intentFindings links command
  let proposal := validateModel svc.proposal (links.proposals.get? command.proposalId.str)
  let risk := validateModel svc.risk (links.risks.get? command.riskDecisionId.str)
  let decisions := links.firewall commandId
  let denied := decisions.length == 1 && (decisions.filter svc.validDenial).length == 1
  { issues :=
      issueUnless (command.environment == .demo && command.namespace_ == svc.namespace_)
          "runtime binding differs" ++
        issueUnless (session.commandSchemaHashes.get? command.capabilityName ==
          some command.capabilitySchemaHash)
          "capability schema hash is not in the session snapshot" ++
        issueUnless (!d.natural.contains commandId || svc.inRegularWindow row session)
          "natural intent is outside the regular market window" ++
        issueUnless (!d.plumbing.contains commandId || svc.onSessionDate row session)
          "plumbing-only intent is outside its labeled session date" ++
        intent.issues ++
        issueUnless (proposal.any fun proposal => proposal.quoteSnapshotId == command.quoteSnapshotId)
          "proposal/quote link missing or invalid" ++
        issueUnless (risk.any fun risk => risk.proposalId == command.proposalId)
          "risk-decision link missing or invalid" ++
        issueUnless (command.approvalId.all fun id => (links.approvals.get? id.str).isSome)
          "approval link missing" ++
        snapshotIssues links command ++
        issueUnless denied "exactly one non-transmitted shadow firewall denial is required"
    safeReview := intent.safeReview
    denied }

/-- The counts and the issues of the declared commands. -/
structure CommandTotals where
  complete : ℕ := 0
  safeReviews : List String := []
  deniedCommands : ℕ := 0
  issues : List String := []

/-- One declared command. -/
def auditCommand (links : Links) (commands : Dict String Listed) (d : Declarations)
    (totals : CommandTotals) (declaration : String × SessionRecord) : CommandTotals :=
  let (commandId, session) := declaration
  let issue (text : String) : String := "command " ++ commandId ++ ": " ++ text
  match commands.get? commandId with
  | none => { totals with issues := totals.issues ++ [issue "command record missing"] }
  | some row =>
    match svc.command row.payload.payload with
    | none => { totals with issues := totals.issues ++ [issue "command schema is invalid"] }
    | some command =>
      let findings := svc.commandFindings links d session commandId row command
      { complete := if findings.issues.isEmpty then totals.complete + 1 else totals.complete
        safeReviews := findings.safeReview.toList.foldl (fun ids id => ids.insert id)
          totals.safeReviews
        deniedCommands := if findings.denied then totals.deniedCommands + 1
          else totals.deniedCommands
        issues := totals.issues ++ findings.issues.map issue }

/-! ### One session -/

/-- The counts and the issues of the records that sessions name. -/
structure SessionTotals where
  separationIssues : ℕ := 0
  breaches : ℕ := 0
  issues : List String := []

def SessionTotals.add (totals more : SessionTotals) : SessionTotals where
  separationIssues := totals.separationIssues + more.separationIssues
  breaches := totals.breaches + more.breaches
  issues := totals.issues ++ more.issues

/-- Whether the capability snapshot of a session is the one of the table. -/
def capabilityLinked (capabilities : Dict String Listed) (session : SessionRecord) : Bool :=
  let id := (session.capabilitySnapshotId.map UUID.str).getD "None"
  (capabilities.get? id).any fun row =>
    let payload := row.payload.payload
    let states (key : String) (expected : Option String) : Bool :=
      match given payload key, expected with
      | none, none => true
      | some (.str text), some other => text == other
      | _, _ => false
    states "schema_hash" session.capabilityCatalogHash &&
      states "version" session.capabilityCatalogVersion &&
      match payload.get? "external_write_authority" with
      | some (.bool authority) => !authority
      | _ => false

def realAccountTotals (realAccounts : Dict String Listed) (session : SessionRecord)
    (issue : String → String) (id : UUID) : SessionTotals :=
  let account := validateModel svc.account (realAccounts.get? id.str)
  match account.filter fun account => account.accountKind == .brokerObserved &&
      account.accountFingerprint == some session.accountFingerprint with
  | none =>
    { separationIssues := 1, issues := [issue "real account snapshot is missing or mismatched"] }
  | some account =>
    { breaches := if account.cash ≠ 0 ∨ account.buyingPower ≠ 0 ∨ account.openPositions ≠ 0 then 1
        else 0 }

def shadowAccountTotals (shadowAccounts : Dict String Listed) (issue : String → String)
    (id : UUID) : SessionTotals :=
  let account := validateModel svc.account (shadowAccounts.get? id.str)
  if account.any fun account => account.accountKind == .shadow then {}
  else
    { separationIssues := 1, issues := [issue "shadow account snapshot is missing or mismatched"] }

/-- An issue for every record that is not in its table. -/
def missing (rows : Dict String Listed) (issue : String) (ids : List UUID) : SessionTotals :=
  { issues := (ids.filter fun id => (rows.get? id.str).isNone).map fun _ => issue }

/-- The tables that a session names records of. -/
structure SessionLinks where
  capabilities : Dict String Listed
  realAccounts : Dict String Listed
  shadowAccounts : Dict String Listed
  divergences : Dict String Listed
  reconciliations : Dict String Listed
  operationalEvents : Dict String Listed

def auditSession (links : SessionLinks) (totals : SessionTotals) (session : SessionRecord) :
    SessionTotals :=
  let issue (text : String) : String :=
    "session " ++ Date.isoformat session.regularSessionDate ++ ": " ++ text
  let overlap := (session.realBrokerAccountSnapshotIds.map UUID.str).any
    (session.shadowAccountSnapshotIds.map UUID.str).contains
  let parts : List SessionTotals :=
    [{ issues := issueUnless (capabilityLinked links.capabilities session)
        (issue "capability snapshot link is incomplete") },
      { separationIssues := if overlap then 1 else 0
        issues := issueUnless (!overlap) (issue "real and shadow snapshot IDs overlap") }] ++
    session.realBrokerAccountSnapshotIds.map
      (svc.realAccountTotals links.realAccounts session issue) ++
    session.shadowAccountSnapshotIds.map (svc.shadowAccountTotals links.shadowAccounts issue) ++
    [missing links.divergences (issue "policy counterfactual record is missing")
        session.policyCounterfactualIds,
      missing links.reconciliations (issue "reconciliation record is missing")
        session.reconciliationEventIds,
      missing links.operationalEvents (issue "referenced operational event is missing")
        (session.restartEventIds ++ session.transientFailureEventIds)]
  parts.foldl SessionTotals.add totals

/-! ### The audit -/

/-- The rows of the firewall that name a command. -/
def firewallByCommand (rows : List Listed) (commandId : String) : List Listed :=
  rows.filter fun row => (given row.payload.payload "command_intent_id").map svc.text ==
    some commandId

def isTransmitted (row : Listed) : Bool :=
  match row.payload.payload.get? "transmitted" with
  | some (.bool transmitted) => transmitted
  | _ => false

/-- The transmitted rows of the firewall inside the sessions. -/
def transmittedRows (rows : List Listed) (sessions : List SessionRecord) : List Listed :=
  rows.filter fun row => isTransmitted row && svc.inAnySession row sessions

/-- The commands inside the sessions that none of them declares. -/
def undeclared (commands : Dict String Listed) (d : Declarations)
    (sessions : List SessionRecord) : List String :=
  (commands.entries.filter fun entry =>
    svc.inAnySession entry.2 sessions && (d.declared.get? entry.1).isNone).map Prod.fst

/-- `_audit`. -/
def audit (tables : AuditTables) (sessions : List SessionRecord) : AuditCompleteness :=
  let rows := listed tables
  let d := declarations sessions
  let proposals := svc.index (rows "trade_proposals") "proposal_id" false
  let risks := svc.index (rows "risk_decisions") "decision_id" false
  let approvals := svc.index (rows "approvals") "approval_id" false
  let reviews := svc.index (rows "broker_reviews") "review_id" false
  let orderIntents := svc.index (rows "order_intents") "intent_id" false
  let commands := svc.index (rows "broker_command_intents") "command_intent_id" false
  let marketSnapshots := svc.marketIndex tables
  let capabilities :=
    svc.index (rows "broker_capability_snapshots") "capability_snapshot_id" true
  let realAccounts := svc.index (rows "broker_observed_account_snapshots") "snapshot_id" false
  let shadowAccounts := svc.index (rows "shadow_account_snapshots") "snapshot_id" false
  let divergences := svc.index (rows "demo_live_policy_divergences") "divergence_id" true
  let reconciliations := svc.index (rows "reconciliation_events") "reconciliation_id" true
  let operationalEvents :=
    svc.index (rows "environment_audit_events" ++ rows "health_events") "event_id" true
  let indices := [proposals, risks, approvals, reviews, orderIntents, commands, marketSnapshots,
    capabilities, realAccounts, shadowAccounts, divergences, reconciliations, operationalEvents]
  let firewall := rows "external_write_firewall_events"
  let undeclared := svc.undeclared commands.rows d sessions
  let links : Links :=
    { proposals := proposals.rows, risks := risks.rows, approvals := approvals.rows
      reviews := reviews.rows, orderIntents := orderIntents.rows
      marketSnapshots := marketSnapshots.rows, realAccounts := realAccounts.rows
      shadowAccounts := shadowAccounts.rows, firewall := svc.firewallByCommand firewall }
  let commandTotals := d.declared.entries.foldl (svc.auditCommand links commands.rows d) {}
  let sessionTotals := sessions.foldl (svc.auditSession
    { capabilities := capabilities.rows, realAccounts := realAccounts.rows
      shadowAccounts := shadowAccounts.rows, divergences := divergences.rows
      reconciliations := reconciliations.rows, operationalEvents := operationalEvents.rows }) {}
  { declaredCommandIntents := d.declared.entries.length
    naturalCommandIntents := d.natural.length
    plumbingCommandIntents := d.plumbing.length
    completeCommandIntents := commandTotals.complete
    sideEffectFreeReviews := commandTotals.safeReviews.length
    firewallDenials := commandTotals.deniedCommands
    transmittedExternalWrites := (svc.transmittedRows firewall sessions).length
    undeclaredCommandIntents := undeclared.length
    realAccountBreaches := sessionTotals.breaches
    accountSeparationIssues := sessionTotals.separationIssues
    issues := (scanIssues tables ++ d.issues ++ indices.flatMap Index.issues ++
      issueUnless undeclared.isEmpty (toString undeclared.length ++
        " command intent(s) inside qualification windows are undeclared") ++
      commandTotals.issues ++ sessionTotals.issues).eraseDups }

end QualificationAudit

end Sentry
