import Sentry.Execution.Placement

/-!
# Any calls on any service instances

The calls that applications make on execution services, all sharing one durable store
and nothing else that could be relied on: the surroundings of each call may change
arbitrarily whenever it waits, so instances, restarts and locks need no model of their
own. For every call this module states what holds whenever it asks for an operation and
what its whole history can be.
-/
namespace Sentry

open Support Coroutine

variable {B : Type}

/-- One call of `execute` on an instance, with the surroundings it finds at its start. -/
structure Execution (B : Type) where
  svc : ExecutionService
  proposal : TradeProposal
  approval : Option ExactApproval
  draws : Draws
  origin : Ambient B

inductive ServiceCall (B : Type) where
  | execute (x : Execution B)
  | cancelOrder (svc : ExecutionService) (target : BrokerOrder) (limitPrice : Decimal)
      (written : limitPrice.val = target.limitPrice) (origin : Ambient B)
  | reconcileSubmission (svc : ExecutionService) (intentId : UUID) (origin : Ambient B)

inductive ServiceResult where
  | executed (result : ExecutionResult)
  | canceled (result : CancellationResult)
  | reconciled (result : SubmissionReconciliation)

namespace ServiceCall

def origin : ServiceCall B → Ambient B
  | .execute x => x.origin
  | .cancelOrder _ _ _ _ g | .reconcileSubmission _ _ g => g

def body : ServiceCall B → Program B ServiceResult
  | .execute x => do
    let result ← x.svc.execute x.proposal x.approval x.draws
    pure (.executed result)
  | .cancelOrder svc target limitPrice written _ => do
    let result ← svc.cancelOrder target limitPrice written
    pure (.canceled result)
  | .reconcileSubmission svc intentId _ => do
    let result ← svc.reconcileSubmission intentId
    pure (.reconciled result)

end ServiceCall

/-- Calls over one store, with nothing assumed of their surroundings. -/
def services (B : Type) : World (Ambient B) Exc Ans ServiceResult (ServiceCall B) Rows where
  body := ServiceCall.body
  origin := ServiceCall.origin
  performs := performs
  rely _ _ _ _ := True

/-! ### What a call may ask for -/

/-- An execution asks the broker only with all its evidence saved and every gate just passed. -/
def Execution.Mediated (x : Execution B) (h : History) (command : BrokerCommandIntent)
    (contract : OptionContract) (g : Ambient B) : Prop :=
  ∃ (y : ExecutionService.Gathered) (pendingTime recordTime : Time),
    y.Lawful x.svc x.proposal x.draws ∧
      ExecutionService.Cleared x.svc x.proposal x.approval x.draws y x.origin.tradingMode g ∧
      h = y.written x.svc x.proposal x.approval pendingTime recordTime ∧
      command = y.command x.svc x.proposal x.approval ∧ contract = x.proposal.contract

/-- What may be saved about an order in a history: anything before the broker was asked,
then that the outcome is unknown, or exactly the order the broker returned. -/
def Grounded (h : History) (order : BrokerOrder) : Prop :=
  Unplaced h ∨ order.state = .submissionUnknown ∨
    ∃ command contract, ⟨.placeOptionOrder command contract, .ok order⟩ ∈ h

/-- The order a call saves belongs to the intent it has saved itself, or was found at the
broker for the intent it was asked about. -/
def ServiceCall.Owns (h : History) (order : BrokerOrder) : ServiceCall B → Prop
  | .execute x => Grounded h order ∧
      ∃ y : ExecutionService.Gathered, y.Lawful x.svc x.proposal x.draws ∧
        ⟨.saveOrderIntent (y.intent x.svc x.proposal x.approval), .ok ()⟩ ∈ h ∧
        order.intentId = (y.intent x.svc x.proposal x.approval).intentId
  | .cancelOrder _ _ _ _ _ => ∃ intent : OrderIntent, intent.action = .cancelOptionOrder ∧
      ⟨.saveOrderIntent intent, .ok ()⟩ ∈ h ∧ order.intentId = intent.intentId
  | .reconcileSubmission _ intentId _ => order.intentId = intentId ∧
      ∃ orders, ⟨.getOrders, .ok orders⟩ ∈ h ∧ order ∈ orders

def ServiceCall.spec (c : ServiceCall B) : Spec (Ambient B) Exc Ans where
  issue h op g :=
    match op with
    | .placeOptionOrder command contract => ∃ x, c = .execute x ∧ x.Mediated h command contract g
    | .saveOrder order => c.Owns h order
    | _ => True
  rely _ _ _ _ := True

/-- Nothing is claimed of how a call ends. -/
def anyEnd : Post (Ambient B) Exc Ans ServiceResult := fun _ _ _ => True

/-! ### Executions -/

namespace ExecutionService

/-- What an execution may ask for once the broker has answered `r`. -/
def Journal (intentId : UUID) (r : Except Exc BrokerOrder) : Op → Prop
  | .saveOrder order =>
    order.intentId = intentId ∧ (order.state = .submissionUnknown ∨ r = .ok order)
  | .recordTransition _ => True
  | _ => False

variable {id : UUID} {r : Except Exc BrokerOrder}

theorem emits_transition {ok : Op → Prop} {intentId : UUID} {previous current : OrderState}
    {reason : String} {evidence : Bool} (recording : ∀ record, ok (.recordTransition record)) :
    Emits ok (fun _ => True) (transition intentId previous current reason evidence : Program B Unit) :=
  (emits_lift _).bind fun _ _ => (emits_peek _).bind fun _ _ => emits_call (recording _)

theorem emits_recordInterruptedWrite {ok : Op → Prop} {pending : BrokerOrder} {action : String}
    {observed : Option BrokerOrder} (recording : ∀ record, ok (.recordTransition record))
    (saving : ok (.saveOrder ((observed.getD pending).withState .submissionUnknown))) :
    Emits ok (fun _ => True) (recordInterruptedWrite pending action observed : Program B Unit) := by
  refine (emits_change _).bind fun _ _ => (emits_change _).bind fun _ _ => Emits.attempt ?_ ?_
  · exact (emits_call saving).bind fun _ _ => emits_transition recording
  · intro e
    split
    · exact emits_change _
    · exact emits_raise e

theorem emits_journal {ok : Op → Prop} {pending order : BrokerOrder} {action reason : String}
    (recording : ∀ record, ok (.recordTransition record)) (saving : ok (.saveOrder order))
    (interrupted : ok (.saveOrder (order.withState .submissionUnknown))) :
    Emits ok (fun _ => True) (journal pending order action reason : Program B Unit) := by
  refine Emits.attempt ?_ ?_
  · exact (emits_call saving).bind fun _ _ => emits_transition recording
  · intro e
    split
    · refine Emits.bind (emits_recordInterruptedWrite recording ?_) fun _ _ => emits_raise e
      exact interrupted
    · exact emits_raise e

/-- Only an answer for this very intent is taken further. -/
theorem emits_correlate {ok : Op → Prop} {svc : ExecutionService} (intentId : UUID)
    (order : BrokerOrder) :
    Emits ok (fun _ => order.intentId = intentId)
      (svc.correlate intentId order : Program B Unit) := by
  unfold correlate
  split
  · split
    · exact (emits_change _).bind fun _ _ => emits_raise _
    · exact emits_raise _
  next matches_ => exact emits_pure (not_not.mp fun other => matches_ (Or.inl other))

/-- A failed broker call leaves nothing but the record of an unknown outcome. -/
theorem emits_classifyFailure {ok : Op → Prop} {svc : ExecutionService} {pending : BrokerOrder}
    {e : Exc} (recording : ∀ record, ok (.recordTransition record))
    (unknown : ok (.saveOrder (pending.withState .submissionUnknown))) :
    Emits ok (fun _ => False) (svc.classifyFailure pending e : Program B BrokerOrder) := by
  unfold classifyFailure
  split
  · refine Emits.bind (emits_recordInterruptedWrite recording ?_) fun _ _ => emits_raise e
    exact unknown
  · split
    · split
      · exact emits_raise e
      · exact (emits_change _).bind fun _ _ => (emits_call unknown).bind fun _ _ =>
          (emits_transition recording).bind fun _ _ => emits_raise _
    · exact emits_raise e

end ExecutionService

theorem execute_sat (x : Execution B) :
    Sat (ServiceCall.execute x).spec anyEnd (ServiceCall.execute x).body [] x.origin := by
  have free : ∀ {h : History} {op : Op} {g : Ambient B}, op.isPreparatory = true →
      (ServiceCall.execute x).spec.issue h op g := by
    intro h op g preparatory
    cases op <;> trivial
  change Sat _ _ (x.svc.execute x.proposal x.approval x.draws >>= _) [] x.origin
  rw [sat_bind]
  refine ExecutionService.sat_executeWith (fun _ _ _ => free) ?_
    ⟨fun _ => trivial, fun _ _ => id⟩ (fun _ _ _ _ => trivial) ?_
  · intro y h op g lawful saving
    cases saving with
    | intent => trivial
    | command => trivial
    | order o saved own unplaced => exact ⟨Or.inl unplaced, y, lawful, saved, own⟩
    | transition record => trivial
  · intro y pendingTime recordTime g lawful _ cleared
    have unplaced : Unplaced (y.written x.svc x.proposal x.approval pendingTime recordTime) := rfl
    have saved : ⟨.saveOrderIntent (y.intent x.svc x.proposal x.approval), .ok ()⟩ ∈
        y.written x.svc x.proposal x.approval pendingTime recordTime := by
      simp [ExecutionService.Gathered.written]
    rw [ExecutionService.submit, sat_bind, sat_attempt]
    refine (sat_call _ _).mpr
      ⟨⟨x, rfl, y, pendingTime, recordTime, lawful, cleared, rfl, rfl, rfl⟩, ?_⟩
    intro r g' _
    -- what is asked for from here on only journals the broker's answer
    have issue : ∀ (rest : History) op (g : Ambient B),
        (∀ item ∈ rest, ExecutionService.Journal
          (y.intent x.svc x.proposal x.approval).intentId r item.op) →
        ExecutionService.Journal (y.intent x.svc x.proposal x.approval).intentId r op →
        (ServiceCall.execute x).spec.issue
          (y.written x.svc x.proposal x.approval pendingTime recordTime ++
            [⟨.placeOptionOrder (y.command x.svc x.proposal x.approval) x.proposal.contract, r⟩] ++
            rest) op g := by
      intro rest op g _ journal
      cases op with
      | saveOrder order =>
        refine ⟨?_, y, lawful, by simp [saved], journal.1⟩
        rcases journal.2 with unknown | rfl
        · exact Or.inr (Or.inl unknown)
        · exact Or.inr (Or.inr ⟨y.command x.svc x.proposal x.approval, x.proposal.contract, by simp⟩)
      | recordTransition record => trivial
      | _ => cases journal
    cases r with
    | error e =>
      refine Emits.sat (ExecutionService.emits_classifyFailure (fun _ => trivial) ?_) issue
        (fun _ _ _ _ => trivial) (fun _ _ _ _ never => never.elim)
      exact ⟨rfl, Or.inl rfl⟩
    | ok order =>
      refine Emits.sat (Emits.bind (ExecutionService.emits_correlate _ order) fun _ own =>
        Emits.bind (ExecutionService.emits_journal (fun _ => trivial) ⟨own, Or.inr rfl⟩
          ⟨own, Or.inl rfl⟩) fun _ _ => emits_done _) issue
        (fun _ _ _ _ => trivial) (fun _ _ _ _ _ => trivial)

/-! ### Cancellations and reconciliations -/

namespace ExecutionService

/-- An operation that neither places an order nor saves one of another intent. -/
def Minds (intentId : UUID) : Op → Prop
  | .saveOrder order => order.intentId = intentId
  | .placeOptionOrder _ _ => False
  | _ => True

theorem emits_classifyCancelFailure {ok : Op → Prop} {svc : ExecutionService}
    {pending : BrokerOrder} {e : Exc} {returns : BrokerOrder → Prop}
    (recording : ∀ record, ok (.recordTransition record))
    (unknown : ok (.saveOrder (pending.withState .submissionUnknown))) :
    Emits ok returns (svc.classifyCancelFailure pending e : Program B BrokerOrder) := by
  unfold classifyCancelFailure
  split
  · refine Emits.bind (emits_recordInterruptedWrite recording ?_) fun _ _ => emits_raise e
    exact unknown
  · split
    · split
      · exact emits_raise e
      · exact (emits_change _).bind fun _ _ => (emits_call unknown).bind fun _ _ =>
          (emits_transition recording).bind fun _ _ => emits_raise _
    · exact emits_raise e

theorem emits_refuseExternalWrites {ok : Op → Prop} {svc : ExecutionService}
    {capabilities : BrokerCapabilities} :
    Emits ok (fun _ => True) (svc.refuseExternalWrites capabilities : Program B Unit) := by
  unfold refuseExternalWrites
  split
  · exact (emits_change _).bind fun _ _ => emits_raise _
  · exact emits_done ()

/-- A cancellation only saves orders under its own intent. -/
theorem emits_submitCancellation {svc : ExecutionService} {target : BrokerOrder}
    {limitPrice : Decimal} {written : limitPrice.val = target.limitPrice}
    {original : BrokerCommandIntent} {intent : OrderIntent} {observed effective : AccountSnapshot} :
    Emits (Minds intent.intentId) (fun _ => True)
      (svc.submitCancellation target limitPrice written original intent observed effective :
        Program B CancellationResult) := by
  have recording : ∀ record, Minds intent.intentId (.recordTransition record) := fun _ => trivial
  refine Emits.bind (emits_call trivial) fun capabilities _ => ?_
  split
  · exact emits_raise _
  · refine Emits.bind (emits_raiseIf _ _) fun _ _ => ?_
    refine Emits.bind emits_refuseExternalWrites fun _ _ => ?_
    refine Emits.bind (emits_lift _) fun arguments _ => ?_
    refine Emits.bind (emits_peek _) fun now _ => ?_
    refine Emits.bind (emits_call trivial) fun _ _ => ?_
    refine Emits.bind (emits_call rfl) fun _ _ => ?_
    refine Emits.bind (emits_transition recording) fun _ _ => ?_
    refine Emits.bind (emits_peek _) fun blocked _ => ?_
    split
    · refine Emits.bind (emits_call rfl) fun _ _ => ?_
      exact Emits.bind (emits_transition recording) fun _ _ => emits_raise _
    · refine Emits.bind (Emits.attempt (emits_call trivial) fun e =>
        emits_classifyCancelFailure recording rfl) fun result _ => ?_
      exact Emits.bind (emits_journal recording rfl rfl) fun _ _ => emits_done _

/-- An operation that neither places an order nor saves one. -/
def sparesOrders : Op → Bool
  | .saveOrder _ | .placeOptionOrder _ _ => false
  | _ => true

theorem sparesOrders_of_isPreparatory {op : Op} (preparatory : op.isPreparatory = true) :
    sparesOrders op = true := by
  cases op <;> first | exact preparatory | rfl

/-- A cancellation places nothing, and saves orders only under the intent it has saved. -/
theorem sat_cancelOrder {S : Spec (Ambient B) Exc Ans} {svc : ExecutionService}
    {target : BrokerOrder} {limitPrice : Decimal} {written : limitPrice.val = target.limitPrice}
    {g : Ambient B}
    (issue : ∀ h op g, sparesOrders op = true → S.issue h op g)
    (saves : ∀ h (intent : OrderIntent) (order : BrokerOrder) g,
      intent.action = .cancelOptionOrder → ⟨.saveOrderIntent intent, .ok ()⟩ ∈ h →
      order.intentId = intent.intentId → S.issue h (.saveOrder order) g) :
    Sat S (fun _ _ _ => True) (svc.cancelOrder target limitPrice written) [] g := by
  rw [cancelOrder, sat_bind]
  refine sat_denyInterruptedWrites (fun _ _ => trivial) fun _ => ?_
  refine Sat.raiseIf_bind (fun _ => trivial) fun _ => ?_
  refine Sat.raiseIf_bind (fun _ => trivial) fun _ => ?_
  refine Sat.peek_bind (Sat.raiseIf_bind (fun _ => trivial) fun _ => ?_)
  refine Sat.peek_bind (Sat.raiseIf_bind (fun _ => trivial) fun _ => ?_)
  refine Sat.call_bind (issue _ _ _ rfl) (fun _ _ _ => trivial) fun originalIntent g₁ _ => ?_
  refine Sat.call_bind (issue _ _ _ rfl) (fun _ _ _ => trivial) fun originalCommand g₂ _ => ?_
  rcases originalIntent with _ | original
  · trivial
  rcases originalCommand with _ | originalCommand
  · trivial
  refine Sat.call_bind (issue _ _ _ rfl) (fun _ _ _ => trivial) fun effective g₃ _ => ?_
  refine Sat.call_bind (issue _ _ _ rfl) (fun _ _ _ => trivial) fun observed g₄ _ => ?_
  refine Sat.call_bind (issue _ _ _ rfl) (fun _ _ _ => trivial) fun report g₅ _ => ?_
  refine Sat.call_bind (issue _ _ _ rfl) (fun _ _ _ => trivial) fun _ g₆ _ => ?_
  refine Sat.raiseIf_bind (fun _ => trivial) fun _ => ?_
  rw [sat_bind]
  refine sat_refuseDuplicate ?_ (fun _ _ _ _ => trivial) fun g₇ => ?_
  · exact fun h op g preparatory => issue h op g (sparesOrders_of_isPreparatory preparatory)
  refine Sat.peek_bind (Sat.call_bind (issue _ _ _ rfl) (fun _ _ _ => trivial)
    fun _ g₈ _ => ?_)
  -- the intent is saved, and everything that follows minds it
  refine Emits.sat emits_submitCancellation ?_ (fun _ _ _ _ => trivial)
    (fun _ _ _ _ _ => trivial)
  intro rest op g _ minds
  cases op with
  | saveOrder order =>
    exact saves _ (svc.cancelIntent target original g₇.now) order g rfl (by simp) minds
  | placeOptionOrder command contract => cases minds
  | _ => exact issue _ _ _ rfl

end ExecutionService

theorem cancelOrder_sat (svc : ExecutionService) (target : BrokerOrder) (limitPrice : Decimal)
    (written : limitPrice.val = target.limitPrice) (g : Ambient B) :
    Sat (ServiceCall.cancelOrder svc target limitPrice written g).spec anyEnd
      (ServiceCall.cancelOrder svc target limitPrice written g).body [] g := by
  change Sat _ _ (svc.cancelOrder target limitPrice written >>= _) [] g
  rw [sat_bind]
  refine Sat.mono ?_ (ExecutionService.sat_cancelOrder ?_ ?_)
  · intro h g r _
    cases r <;> trivial
  · intro h op g spared
    cases op with
    | saveOrder order => cases spared
    | placeOptionOrder command contract => cases spared
    | _ => trivial
  · exact fun h intent order g action saved own => ⟨intent, action, saved, own⟩

theorem reconcileSubmission_sat (svc : ExecutionService) (intentId : UUID) (g : Ambient B) :
    Sat (ServiceCall.reconcileSubmission svc intentId g).spec anyEnd
      (ServiceCall.reconcileSubmission svc intentId g).body [] g := by
  change Sat _ _ (svc.reconcileSubmission intentId >>= _) [] g
  rw [sat_bind]
  refine Sat.call_bind trivial (fun _ _ _ => trivial) fun local_ g₁ _ => ?_
  cases local_ with
  | none => trivial
  | some local_ =>
    refine Sat.raiseIf_bind (fun _ => trivial) fun _ => ?_
    refine Sat.call_bind trivial (fun _ _ _ => trivial) fun report g₂ _ => ?_
    refine Sat.call_bind trivial (fun _ _ _ => trivial) fun _ g₃ _ => ?_
    split
    · trivial
    · refine Sat.call_bind trivial (fun _ _ _ => trivial) fun orders g₄ _ => ?_
      split
      · refine Sat.call_bind trivial (fun _ _ _ => trivial) fun intent g₅ _ => ?_
        split
        · exact Sat.call_bind trivial (fun _ _ _ => trivial) fun _ g₆ _ => trivial
        · trivial
      next match_ found =>
        have same : match_.intentId = intentId := by simpa using List.find?_some found
        have listed : match_ ∈ orders := List.mem_of_find?_eq_some found
        split
        · refine Sat.call_bind ⟨same, orders, by simp, listed⟩ (fun _ _ _ => trivial)
            fun _ g₅ _ => ?_
          have recording : Emits (fun op => ∃ record, op = .recordTransition record) (fun _ => True)
              (ExecutionService.transition intentId .submissionUnknown match_.state
                "broker reconciliation matched durable intent" true : Program B Unit) :=
            ExecutionService.emits_transition fun record => ⟨record, rfl⟩
          refine Emits.sat (Emits.bind recording fun _ _ => emits_done _) ?_
            (fun _ _ _ _ => trivial) (fun _ _ _ _ _ => trivial)
          rintro rest op g _ ⟨record, rfl⟩
          trivial
        · trivial

/-! ### What a call leaves alone -/

/-- A property of the surroundings that stopping trading and latching a write respect. Those
are the only changes a call makes to its surroundings. -/
structure Spared (I : Ambient B → Prop) : Prop where
  stop : ∀ reason g, I g → I (g.stop reason)
  latch : ∀ intentId g, I g → I (g.latch intentId)

namespace ExecutionService

variable {I : Ambient B → Prop} {svc : ExecutionService} {p : TradeProposal}
  {approval : Option ExactApproval} {draws : Draws} {pending : BrokerOrder}

theorem keeps_transition {intentId : UUID} {previous current : OrderState} {reason : String}
    {evidence : Bool} :
    Keeps I (transition intentId previous current reason evidence : Program B Unit) :=
  (keeps_lift _).bind fun _ => (keeps_peek _).bind fun _ => keeps_call _

theorem keeps_validateApproval {mode : TradingMode} :
    Keeps I (svc.validateApproval p mode approval : Program B Unit) := by
  unfold validateApproval
  split
  · exact (keeps_peek _).bind fun _ => keeps_raiseIf _ _
  · exact keeps_pure ()

theorem keeps_refuseDuplicate {fingerprint unresolved existing : String} :
    Keeps I (refuseDuplicate fingerprint unresolved existing : Program B Unit) := by
  refine (keeps_call _).bind fun duplicate => ?_
  cases duplicate with
  | none => exact keeps_pure ()
  | some intent =>
    exact (keeps_call _).bind fun _ => (keeps_raiseIf _ _).bind fun _ => keeps_raise _

theorem keeps_evaluateRisk {account : AccountSnapshot} {quote : OptionQuote} {id : UUID}
    {denial : String} :
    Keeps I (svc.evaluateRisk p account quote id denial : Program B RiskDecision) :=
  (keeps_peek _).bind fun _ => (keeps_call _).bind fun _ => (keeps_raiseIf _ _).bind fun _ =>
    keeps_pure _

theorem keeps_persist {intent : OrderIntent} {command : BrokerCommandIntent} :
    Keeps I (svc.persist p intent command : Program B BrokerOrder) :=
  (keeps_call _).bind fun _ => (keeps_call _).bind fun _ => (keeps_peek _).bind fun _ =>
    (keeps_call _).bind fun _ => keeps_transition.bind fun _ => keeps_pure _

theorem keeps_recordDenial {e : Exc} : Keeps I (recordDenial pending e : Program B Unit) := by
  unfold recordDenial
  split
  · exact (keeps_call _).bind fun _ => keeps_transition.bind fun _ => keeps_raise _
  · exact keeps_raise _

variable (spared : Spared I)
include spared

theorem keeps_denyInterruptedWrites : Keeps I (denyInterruptedWrites : Program B Unit) := by
  refine (keeps_peek _).bind fun latched => ?_
  split
  · exact keeps_pure ()
  · exact (keeps_change (spared.stop _)).bind fun _ => keeps_raise _

theorem keeps_preflight {mode : TradingMode} : Keeps I (svc.preflight p mode : Program B Unit) := by
  refine (keeps_denyInterruptedWrites spared).bind fun _ => ?_
  refine (keeps_raiseIf _ _).bind fun _ => (keeps_raiseIf _ _).bind fun _ => ?_
  refine (keeps_peek _).bind fun _ => (keeps_raiseIf _ _).bind fun _ => ?_
  refine (keeps_peek _).bind fun _ => (keeps_raiseIf _ _).bind fun _ => ?_
  exact (keeps_peek _).bind fun _ => (keeps_raiseIf _ _).bind fun _ => keeps_raiseIf _ _

theorem keeps_recordInterruptedWrite {action : String} {observed : Option BrokerOrder} :
    Keeps I (recordInterruptedWrite pending action observed : Program B Unit) := by
  refine (keeps_change (spared.latch _)).bind fun _ => (keeps_change (spared.stop _)).bind fun _ => ?_
  apply Keeps.attempt
  · exact (keeps_call _).bind fun _ => keeps_transition
  · intro e
    split
    · exact keeps_change (spared.stop _)
    · exact keeps_raise e

theorem keeps_refuseExternalWrites {capabilities : BrokerCapabilities} :
    Keeps I (svc.refuseExternalWrites capabilities : Program B Unit) := by
  unfold refuseExternalWrites
  split
  · exact (keeps_change (spared.stop _)).bind fun _ => keeps_raise _
  · exact keeps_pure ()

theorem keeps_prepare : Keeps I (svc.prepare p approval draws : Program B Prepared) := by
  refine (keeps_peek _).bind fun mode => (keeps_raiseIf _ _).bind fun _ => ?_
  refine keeps_refuseDuplicate.bind fun _ => (keeps_preflight spared).bind fun _ => ?_
  refine (keeps_call _).bind fun _ => (keeps_call _).bind fun _ => (keeps_call _).bind fun _ => ?_
  refine (keeps_call _).bind fun _ => (keeps_raiseIf _ _).bind fun _ => ?_
  refine (keeps_call _).bind fun _ => keeps_evaluateRisk.bind fun _ => ?_
  refine (keeps_call _).bind fun _ => (keeps_call _).bind fun _ => ?_
  refine (keeps_raiseIf _ _).bind fun _ => (keeps_raiseIf _ _).bind fun _ => ?_
  refine keeps_validateApproval.bind fun _ => ?_
  refine (keeps_call _).bind fun _ => (keeps_call _).bind fun _ => keeps_evaluateRisk.bind fun _ => ?_
  refine (keeps_peek _).bind fun _ => (keeps_raiseIf _ _).bind fun _ => ?_
  refine (keeps_preflight spared).bind fun _ => keeps_validateApproval.bind fun _ => ?_
  refine (keeps_peek _).bind fun _ => (keeps_call _).bind fun capabilities => ?_
  split
  · exact keeps_raise _
  · refine (keeps_raiseIf _ _).bind fun _ => (keeps_refuseExternalWrites spared).bind fun _ => ?_
    exact (keeps_lift _).bind fun _ => (keeps_peek _).bind fun _ => keeps_pure _

theorem keeps_lastGates {prepared : Prepared} :
    Keeps I (svc.lastGates p approval draws prepared : Program B Unit) := by
  refine (keeps_peek _).bind fun _ => (keeps_raiseIf _ _).bind fun _ => ?_
  refine (keeps_preflight spared).bind fun _ => keeps_validateApproval.bind fun _ => ?_
  exact (keeps_peek _).bind fun _ => keeps_raiseIf _ _

theorem keeps_classifyFailure {e : Exc} :
    Keeps I (svc.classifyFailure pending e : Program B BrokerOrder) := by
  unfold classifyFailure
  split
  · exact (keeps_recordInterruptedWrite spared).bind fun _ => keeps_raise _
  · split
    · split
      · exact keeps_raise _
      · exact (keeps_change (spared.stop _)).bind fun _ => (keeps_call _).bind fun _ =>
          keeps_transition.bind fun _ => keeps_raise _
    · exact keeps_raise _

theorem keeps_correlate {intentId : UUID} {order : BrokerOrder} :
    Keeps I (svc.correlate intentId order : Program B Unit) := by
  unfold correlate
  split
  · split
    · exact (keeps_change (spared.stop _)).bind fun _ => keeps_raise _
    · exact keeps_raise _
  · exact keeps_pure ()

theorem keeps_journal {order : BrokerOrder} {action reason : String} :
    Keeps I (journal pending order action reason : Program B Unit) := by
  apply Keeps.attempt
  · exact (keeps_call _).bind fun _ => keeps_transition
  · intro e
    split
    · exact (keeps_recordInterruptedWrite spared).bind fun _ => keeps_raise _
    · exact keeps_raise _

theorem keeps_execute : Keeps I (svc.execute p approval draws : Program B ExecutionResult) := by
  refine (keeps_prepare spared).bind fun prepared => keeps_persist.bind fun pending => ?_
  refine Keeps.bind (Keeps.attempt (keeps_lastGates spared) fun _ => keeps_recordDenial) fun _ => ?_
  refine Keeps.bind (Keeps.attempt (keeps_call _) fun _ => keeps_classifyFailure spared) fun _ => ?_
  exact (keeps_correlate spared).bind fun _ => (keeps_journal spared).bind fun _ => keeps_pure _

theorem keeps_classifyCancelFailure {e : Exc} :
    Keeps I (svc.classifyCancelFailure pending e : Program B BrokerOrder) := by
  unfold classifyCancelFailure
  split
  · exact (keeps_recordInterruptedWrite spared).bind fun _ => keeps_raise _
  · split
    · split
      · exact keeps_raise _
      · exact (keeps_change (spared.stop _)).bind fun _ => (keeps_call _).bind fun _ =>
          keeps_transition.bind fun _ => keeps_raise _
    · exact keeps_raise _

theorem keeps_submitCancellation {target : BrokerOrder} {limitPrice : Decimal}
    {written : limitPrice.val = target.limitPrice} {original : BrokerCommandIntent}
    {intent : OrderIntent} {observed effective : AccountSnapshot} :
    Keeps I (svc.submitCancellation target limitPrice written original intent observed effective :
      Program B CancellationResult) := by
  refine (keeps_call _).bind fun capabilities => ?_
  split
  · exact keeps_raise _
  · refine (keeps_raiseIf _ _).bind fun _ => (keeps_refuseExternalWrites spared).bind fun _ => ?_
    refine (keeps_lift _).bind fun _ => (keeps_peek _).bind fun _ => (keeps_call _).bind fun _ => ?_
    refine (keeps_call _).bind fun _ => keeps_transition.bind fun _ => (keeps_peek _).bind fun _ => ?_
    split
    · exact (keeps_call _).bind fun _ => keeps_transition.bind fun _ => keeps_raise _
    · refine Keeps.bind (Keeps.attempt (keeps_call _) fun _ => keeps_classifyCancelFailure spared)
        fun _ => ?_
      exact (keeps_journal spared).bind fun _ => keeps_pure _

theorem keeps_cancelOrder {target : BrokerOrder} {limitPrice : Decimal}
    {written : limitPrice.val = target.limitPrice} :
    Keeps I (svc.cancelOrder target limitPrice written : Program B CancellationResult) := by
  refine (keeps_denyInterruptedWrites spared).bind fun _ => ?_
  refine (keeps_raiseIf _ _).bind fun _ => (keeps_raiseIf _ _).bind fun _ => ?_
  refine (keeps_peek _).bind fun _ => (keeps_raiseIf _ _).bind fun _ => ?_
  refine (keeps_peek _).bind fun _ => (keeps_raiseIf _ _).bind fun _ => ?_
  refine (keeps_call _).bind fun originalIntent => (keeps_call _).bind fun originalCommand => ?_
  split
  · refine (keeps_call _).bind fun _ => (keeps_call _).bind fun _ => (keeps_call _).bind fun _ => ?_
    refine (keeps_call _).bind fun _ => (keeps_raiseIf _ _).bind fun _ => ?_
    refine keeps_refuseDuplicate.bind fun _ => (keeps_peek _).bind fun _ => ?_
    exact (keeps_call _).bind fun _ => keeps_submitCancellation spared
  · exact keeps_raise _

omit spared in
theorem keeps_reconcileSubmission {intentId : UUID} :
    Keeps I (svc.reconcileSubmission intentId : Program B SubmissionReconciliation) := by
  refine (keeps_call _).bind fun local_ => ?_
  cases local_ with
  | none => exact keeps_raise _
  | some local_ =>
    refine (keeps_raiseIf _ _).bind fun _ => (keeps_call _).bind fun report => ?_
    refine (keeps_call _).bind fun _ => ?_
    split
    · exact keeps_pure _
    · refine (keeps_call _).bind fun orders => ?_
      split
      · refine (keeps_call _).bind fun intent => ?_
        split
        · exact (keeps_call _).bind fun _ => keeps_pure _
        · exact keeps_pure _
      · split
        · exact (keeps_call _).bind fun _ => keeps_transition.bind fun _ => keeps_pure _
        · exact keeps_pure _

end ExecutionService

end Sentry
