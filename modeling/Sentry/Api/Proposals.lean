import Sentry.Db.Repository
import Sentry.Domain.Models
import Sentry.Safety.RuntimeState
import Sentry.Support.Dict
import Sentry.Support.Interleaving

/-!
# Approving, rejecting and dispatching proposals

`approve_proposal` and `reject_proposal` of `app/api/dashboard.py`, and `dispatch_proposals`
of `OfflineRuntime` (`app/demo/runtime.py`) and of `BrokerShadowRuntime`
(`app/broker/shadow_runtime.py`), over one view and the append-only tables of
`app/db/repository.py`. Of several rows about one proposal only the newest counts.
-/
namespace Sentry

open Support Coroutine Relation

/-! ### What the handlers share -/

structure RuntimeBinding where
  environment : ExecutionEnvironment
  idempotencyNamespace : String

/-- The fields of the dashboard's view that the handlers read or write. -/
structure RuntimeView where
  binding : RuntimeBinding
  tradingMode : TradingMode
  safety : SafetyController
  reconciled : Bool := false
  executionServiceHealthy : Bool := false
  proposals : Dict UUID TradeProposal := .empty

structure ReviewEvidence where
  observedStateBeforeHash : Option String
  observedStateAfterHash : Option String
  observedStateUnchanged : Bool

/-- The view, what a runtime keeps about itself, and the tables. -/
structure ApprovalDesk where
  view : RuntimeView
  now : Time
  sessionComplete : Bool := false
  journalHealthy : Bool := true
  requiresReconciliation : Bool := false
  lastReviewEvidence : Option ReviewEvidence := none
  approvals : List (AuditRow ExactApproval) := []
  tradeProposals : List (AuditRow TradeProposal) := []

inductive DeskExc where
  /-- `HTTPException`. -/
  | http (statusCode : ℕ) (detail : String)
  | raised (e : Exc)

inductive DeskRecord where
  | approval (a : ExactApproval)
  | auditEvent (createdAt : Time) (fields : List (String × String))

inductive DeskOp where
  | append (record : DeskRecord)
  | findApproval (proposalId : UUID)
  | listProposals (limit : ℕ) (beforeSequence : Option ℕ)
  | findIntentByFingerprint (fingerprint : String)
  | execute (proposal : TradeProposal) (approval : Option ExactApproval)
  | syncExecutionJournal
  | refreshViewFromLedger

abbrev DeskAns : DeskOp → Type
  | .append _ => Unit
  | .findApproval _ => Option (AuditRow ExactApproval)
  | .listProposals _ _ => List (AuditRow TradeProposal)
  | .findIntentByFingerprint _ => Option OrderIntent
  | .execute _ _ => Unit
  | .syncExecutionJournal => Unit
  | .refreshViewFromLedger => Unit

abbrev DeskProgram (α : Type) := Coroutine ApprovalDesk DeskExc DeskAns α

namespace ApprovalDesk

def pop (id : UUID) (g : ApprovalDesk) : ApprovalDesk :=
  { g with view := { g.view with proposals := g.view.proposals.erase id } }

def offer (p : TradeProposal) (g : ApprovalDesk) : ApprovalDesk :=
  { g with view := { g.view with proposals := g.view.proposals.set p.proposalId p } }

theorem pop_approvals (id : UUID) (g : ApprovalDesk) : (g.pop id).approvals = g.approvals := rfl

theorem offer_approvals (p : TradeProposal) (g : ApprovalDesk) :
    (g.offer p).approvals = g.approvals := rfl

def ask (op : DeskOp) : DeskProgram (DeskAns op) := call op

/-! ### The dashboard -/

structure ApprovalRequest where
  maximumLimitPrice : ℚ
  expiresInSeconds : ℕ := 300
  approvedBy : String := "local-dashboard"
  price_pos : 0 < maximumLimitPrice := by norm_num
  expires_bounds : 10 ≤ expiresInSeconds ∧ expiresInSeconds ≤ 1800 := by norm_num

/-- A new identifier and the two readings of the clock. -/
structure ApprovalDraws where
  approvalId : UUID
  createdAt : Time
  expiresFrom : Time

variable (H : Hashing)

def audit (action result : String) : DeskProgram Unit := do
  let g ← peek id
  ask (.append (.auditEvent g.now [("environment", g.view.binding.environment.value),
    ("action", action), ("result", result), ("actor", "local-dashboard")]))

def approveProposal (proposalId : UUID) (request : ApprovalRequest) (draws : ApprovalDraws) :
    DeskProgram Unit := do
  let g ← peek id
  match g.view.proposals.get? proposalId with
  | none => raise (.http 404 "proposal not found")
  | some proposal =>
    raiseIf (!(g.view.tradingMode == .approval || g.view.tradingMode == .exitAuto))
      (.http 409 "current mode does not accept entry approvals")
    raiseIf (decide (request.maximumLimitPrice < proposal.limitPrice.val))
      (.http 422 "approval bound is below proposal limit")
    ask (.append (.approval
      { createdAt := draws.createdAt
        approvalId := draws.approvalId
        environment := proposal.environment
        namespace_ := proposal.namespace_
        proposalId := proposal.proposalId
        orderFingerprint := proposal.orderFingerprint H
        maximumLimitPrice := request.maximumLimitPrice
        expiresAt := draws.expiresFrom + request.expiresInSeconds * 1000000
        approvedBy := request.approvedBy }))
    audit "APPROVE_EXACT_PROPOSAL" proposalId.str

def rejectProposal (proposalId : UUID) (draws : ApprovalDraws) : DeskProgram Unit := do
  let g ← peek id
  match g.view.proposals.get? proposalId with
  | none => raise (.http 404 "proposal not found")
  | some proposal =>
    ask (.append (.approval
      { createdAt := draws.createdAt
        approvalId := draws.approvalId
        environment := proposal.environment
        namespace_ := proposal.namespace_
        proposalId := proposal.proposalId
        orderFingerprint := proposal.orderFingerprint H
        maximumLimitPrice := proposal.limitPrice.val
        expiresAt := draws.expiresFrom
        approvedBy := "local-dashboard"
        rejected := true }))
    audit "REJECT_PROPOSAL" proposalId.str
    change (pop proposalId)

/-! ### Dispatching -/

/-- What `_dispatch` of both runtimes does before an execution: it comes to nothing, or to
the approval to execute with. -/
def consider (proposal : TradeProposal) : DeskProgram (Option (Option ExactApproval)) := do
  let approvalRow ← ask (.findApproval proposal.proposalId)
  let approval := approvalRow.map AuditRow.payload
  let existing ← ask (.findIntentByFingerprint (proposal.orderFingerprint H))
  if existing.isSome || approval.any ExactApproval.rejected then
    change (pop proposal.proposalId)
    pure none
  else
    change (offer proposal)
    let g ← peek id
    let mode := g.view.tradingMode
    if mode = .research then pure none
    else if (mode = .approval ∨ mode = .exitAuto ∧ proposal.side = .buyToOpen) ∧
        approval.any (fun a => a.isValidFor H proposal g.now) = false then pure none
    else if !g.view.executionServiceHealthy || !g.view.reconciled then pure none
    else pure (some approval)

/-- The end of `OfflineRuntime._dispatch`. -/
def carryOutOffline (proposal : TradeProposal) (approval : Option ExactApproval) :
    DeskProgram Unit := do
  let executed ← attempt (do
    ask (.execute proposal approval)
    pure true) fun e => match e with
      | .raised (.duplicateOrder _) => pure true
      | .raised (.executionDenied reason) => do
        let now ← peek ApprovalDesk.now
        ask (.append (.auditEvent now [("environment", "DEMO"),
          ("action", "PROPOSAL_EXECUTION_DENIED"),
          ("proposal_id", proposal.proposalId.str), ("reason", reason)]))
        pure false
      | e => raise e
  if executed then change (pop proposal.proposalId) else pure ()

/-- `OfflineRuntime._dispatch`. -/
def dispatchOffline (proposal : TradeProposal) : DeskProgram Unit := do
  let complete ← peek sessionComplete
  if complete then pure ()
  else
    match ← consider H proposal with
    | none => pure ()
    | some approval => carryOutOffline proposal approval

/-- The broker's state was observed on both sides of a review, and had changed. -/
def reviewMovedState (g : ApprovalDesk) : Bool :=
  g.lastReviewEvidence.any fun evidence => evidence.observedStateBeforeHash.isSome &&
    evidence.observedStateAfterHash.isSome && !evidence.observedStateUnchanged

def stopAfterReview (g : ApprovalDesk) : ApprovalDesk :=
  if g.reviewMovedState then
    { g with
      requiresReconciliation := true
      view := { g.view with
        safety := g.view.safety.emergencyStop
          "broker-observed state changed across a purportedly safe review"
        reconciled := false
        executionServiceHealthy := false } }
  else g

theorem stopAfterReview_approvals (g : ApprovalDesk) :
    g.stopAfterReview.approvals = g.approvals := by
  unfold stopAfterReview
  split <;> rfl

/-- The end of `BrokerShadowRuntime._dispatch`. -/
def carryOutShadow (proposal : TradeProposal) (approval : Option ExactApproval) :
    DeskProgram Unit := do
  let executed ← attempt (do
    ask (.execute proposal approval)
    ask .syncExecutionJournal
    pure true) fun e => match e with
      | .raised (.duplicateOrder _) => pure true
      | .raised (.executionDenied _) => do
        change stopAfterReview
        let g ← peek id
        ask (.append (.auditEvent g.now [("environment", "DEMO"),
          ("namespace", g.view.binding.idempotencyNamespace),
          ("action", "BROKER_SHADOW_PROPOSAL_EXECUTION_DENIED"),
          ("proposal_id", proposal.proposalId.str), ("reason_type", "ExecutionDenied")]))
        pure false
      | e => raise e
  if executed then
    change (pop proposal.proposalId)
    ask .refreshViewFromLedger
  else pure ()

/-- `BrokerShadowRuntime._dispatch`. -/
def dispatchShadow (proposal : TradeProposal) : DeskProgram Unit := do
  match ← consider H proposal with
  | none => pure ()
  | some approval => carryOutShadow proposal approval

/-- The pages of `trade_proposals`, newest first, at most `pages` of them. -/
def dispatchPages (dispatch : TradeProposal → DeskProgram Unit) (exceeded : String) :
    ℕ → Option ℕ → DeskProgram Unit
  | 0, _ => raise (.raised (.safetyCritical exceeded))
  | pages + 1, cursor => do
    let rows ← ask (.listProposals 500 cursor)
    rows.forM fun row => dispatch row.payload
    if rows.length < 500 then pure ()
    else dispatchPages dispatch exceeded pages (rows.map AuditRow.appendSequence).min?

def markUnhealthy (g : ApprovalDesk) : ApprovalDesk :=
  { g with
    journalHealthy := false
    requiresReconciliation := true
    view := { g.view with executionServiceHealthy := false, reconciled := false } }

theorem markUnhealthy_approvals (g : ApprovalDesk) : g.markUnhealthy.approvals = g.approvals := rfl

/-- `OfflineRuntime.dispatch_proposals`, once it holds its lock. -/
def dispatchProposalsOffline : DeskProgram Unit :=
  attempt (dispatchPages (dispatchOffline H)
    "proposal dispatch exceeded its complete-history bound" 200 none) fun e => do
    change markUnhealthy
    raise e

/-- `BrokerShadowRuntime.dispatch_proposals`, once it holds its locks. -/
def dispatchProposalsShadow : DeskProgram Unit :=
  dispatchPages (dispatchShadow H)
    "broker-shadow proposal history exceeded its bounded scan" 200 none

end ApprovalDesk
end Sentry
