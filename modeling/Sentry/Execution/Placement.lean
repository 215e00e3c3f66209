import Sentry.Execution.Service
import Sentry.Execution.Store

/-!
# What an execution does before it asks the broker

The gates of `_execute` as rules of the coroutine logic, and the one history that
leads to a placement: everything an execution has asked for and been told when it
comes to the broker, with the facts its gates have established on the way.
-/
namespace Sentry

open Support Coroutine

variable {B : Type}

/-- An operation an execution may ask for while it has written nothing durable about its
order yet. -/
def Op.isPreparatory : Op → Bool
  | .findIntentByFingerprint _ | .getOrder _ | .getEffectiveExecutionAccountState
  | .getObservedBrokerAccountState | .reconcile | .saveReconciliation _ | .getOptionQuote _
  | .saveRiskDecision _ | .reviewOptionOrder _ | .saveReview _ | .getCapabilities => true
  | _ => false

/-- An operation that no broker can mistake for an order. -/
def Op.isLocal : Op → Bool
  | .saveOrderIntent _ | .saveCommandIntent _ | .saveOrder _ | .recordTransition _ => true
  | op => op.isPreparatory

theorem Op.isLocal_of_isPreparatory {op : Op} (preparatory : op.isPreparatory = true) :
    op.isLocal = true := by
  cases op <;> first | exact preparatory | rfl

/-- Nothing that a broker could mistake for an order has been asked for. -/
def Unplaced (h : History) : Prop := (h.all fun item => item.op.isLocal) = true

theorem Unplaced.op {h : History} (unplaced : Unplaced h) {op : Op} (member : op ∈ Done.ops h) :
    op.isLocal = true := by
  obtain ⟨item, known, rfl⟩ := List.mem_map.mp member
  exact List.all_eq_true.mp unplaced item known

theorem Unplaced.snoc {h : History} (unplaced : Unplaced h) (item : Done Exc Ans)
    (last : item.op.isLocal = true) : Unplaced (h ++ [item]) := by
  simp only [Unplaced, List.all_append, Bool.and_eq_true] at unplaced ⊢
  exact ⟨unplaced, by simpa using last⟩

/-- Only preparatory operations have been asked for. -/
def Quiet (h : History) : Prop := (h.all fun item => item.op.isPreparatory) = true

theorem Quiet.unplaced {h : History} (quiet : Quiet h) : Unplaced h := by
  apply List.all_eq_true.mpr
  intro item member
  exact Op.isLocal_of_isPreparatory (List.all_eq_true.mp quiet item member)

theorem Quiet.op {h : History} (quiet : Quiet h) {op : Op} (member : op ∈ Done.ops h) :
    op.isPreparatory = true := by
  obtain ⟨item, known, rfl⟩ := List.mem_map.mp member
  exact List.all_eq_true.mp quiet item known

theorem Quiet.snoc {h : History} (quiet : Quiet h) (item : Done Exc Ans)
    (last : item.op.isPreparatory = true) : Quiet (h ++ [item]) := by
  simp only [Quiet, List.all_append, Bool.and_eq_true] at quiet ⊢
  exact ⟨quiet, by simpa using last⟩

namespace ExecutionService

variable {svc : ExecutionService} {S : Spec (Ambient B) Exc Ans} {h : History} {g : Ambient B}

/-! ### Gates -/

/-- What `_preflight` has seen when it lets a proposal pass. -/
structure Passed (svc : ExecutionService) (p : TradeProposal) (mode : TradingMode)
    (g : Ambient B) : Prop where
  latch : g.interruptedWriteIntents = []
  defined : ¬ (svc.environment = .live ∧ mode = .shadow)
  active : mode ≠ .research
  killSwitch : g.killSwitchActive = false
  healthy : g.healthy = true
  entry : p.side = .buyToOpen → g.safety.state = .normal
  exit : p.side = .sellToClose → g.safety.state ≠ .halted

theorem sat_denyInterruptedWrites {Q : Post (Ambient B) Exc Ans Unit}
    (denied : ∀ g' text, Q h g' (.error (.executionDenied text)))
    (passed : g.interruptedWriteIntents = [] → Q h g (.ok ())) :
    Sat S Q denyInterruptedWrites h g := by
  unfold denyInterruptedWrites
  apply Sat.peek_bind
  split
  next empty => exact passed (by simpa using empty)
  · exact denied _ _

theorem sat_preflight {p : TradeProposal} {mode : TradingMode} {Q : Post (Ambient B) Exc Ans Unit}
    (denied : ∀ g' text, Q h g' (.error (.executionDenied text)))
    (passed : Passed svc p mode g → Q h g (.ok ())) :
    Sat S Q (svc.preflight p mode) h g := by
  rw [preflight, sat_bind]
  apply sat_denyInterruptedWrites
  · exact fun g' text => denied g' text
  intro latch
  apply Sat.raiseIf_bind (fun _ => denied _ _)
  intro defined
  apply Sat.raiseIf_bind (fun _ => denied _ _)
  intro active
  apply Sat.peek_bind
  apply Sat.raiseIf_bind (fun _ => denied _ _)
  intro killSwitch
  apply Sat.peek_bind
  apply Sat.raiseIf_bind (fun _ => denied _ _)
  intro healthy
  apply Sat.peek_bind
  apply Sat.raiseIf_bind (fun _ => denied _ _)
  intro entry
  rw [sat_raiseIf]
  refine ⟨fun _ => denied _ _, fun exit => passed ?_⟩
  constructor
  · exact latch
  · simpa using defined
  · simpa using active
  · exact killSwitch
  · simpa using healthy
  · intro buy
    simpa [buy, SafetyController.permitsNewEntry] using entry
  · intro sell halted
    simp [sell, halted, SafetyController.permitsRiskReducingExit] at exit

/-- The approval a mode asks for is exact for the proposal and unexpired at a time. -/
def Approved (svc : ExecutionService) (p : TradeProposal) (mode : TradingMode)
    (approval : Option ExactApproval) (now : Time) : Prop :=
  approvalRequired p mode = true → svc.approvalHolds p approval now = true

theorem sat_validateApproval {p : TradeProposal} {mode : TradingMode}
    {approval : Option ExactApproval} {Q : Post (Ambient B) Exc Ans Unit}
    (denied : ∀ text, Q h g (.error (.executionDenied text)))
    (passed : Approved svc p mode approval g.now → Q h g (.ok ())) :
    Sat S Q (svc.validateApproval p mode approval) h g := by
  unfold validateApproval
  split
  next required =>
    apply Sat.peek_bind
    rw [sat_raiseIf]
    exact ⟨fun _ => denied _, fun holds => passed fun _ => by simpa using holds⟩
  next waived => exact passed fun required => absurd required waived

/-! ### Preparation -/

/-- The answers an execution has been given when its command is ready. -/
structure Gathered where
  firstAccount : AccountSnapshot
  observed : AccountSnapshot
  reconciliation : ReconciliationReport
  firstQuote : OptionQuote
  firstRisk : RiskDecision
  review : BrokerReview
  quote : OptionQuote
  account : AccountSnapshot
  risk : RiskDecision
  intentTime : Time
  capabilities : BrokerCapabilities
  capability : CapabilityDescriptor
  arguments : Json
  commandTime : Time

namespace Gathered

variable (svc : ExecutionService) (p : TradeProposal) (approval : Option ExactApproval)
  (x : Gathered)

def intent : OrderIntent := svc.placeIntent p approval x.risk x.review x.intentTime

def command : BrokerCommandIntent :=
  svc.placeCommand p approval (x.intent svc p approval) x.capability x.arguments x.quote
    x.observed x.account x.commandTime

def prepared (mode : TradingMode) : Prepared :=
  ⟨mode, x.account, x.quote, x.risk, x.review, x.intent svc p approval, x.command svc p approval⟩

/-- Everything that was asked for on the way, in order. -/
def history : History :=
  [⟨.findIntentByFingerprint (p.orderFingerprint svc.hashing), .ok none⟩,
    ⟨.getEffectiveExecutionAccountState, .ok x.firstAccount⟩,
    ⟨.getObservedBrokerAccountState, .ok x.observed⟩,
    ⟨.reconcile, .ok x.reconciliation⟩,
    ⟨.saveReconciliation x.reconciliation, .ok ()⟩,
    ⟨.getOptionQuote p.contract.instrumentId, .ok x.firstQuote⟩,
    ⟨.saveRiskDecision x.firstRisk, .ok ()⟩,
    ⟨.reviewOptionOrder p, .ok x.review⟩,
    ⟨.saveReview x.review, .ok ()⟩,
    ⟨.getOptionQuote p.contract.instrumentId, .ok x.quote⟩,
    ⟨.getEffectiveExecutionAccountState, .ok x.account⟩,
    ⟨.saveRiskDecision x.risk, .ok ()⟩,
    ⟨.getCapabilities, .ok x.capabilities⟩]

/-- What the gates on the way have established for good. -/
structure Lawful (draws : Draws) : Prop where
  binding : p.environment = svc.environment ∧ p.namespace_ = svc.namespace_
  reconciled : x.reconciliation.successful = true
  sideEffectFree : x.review.sideEffectFree = true
  accepted : x.review.accepted = true
  decision : ∃ now, x.risk = svc.risk.evaluate draws.secondDecision now p x.account x.quote
  allowed : x.risk.allowed = true

theorem quiet_history : Quiet (x.history svc p) := rfl

end Gathered

/-- A fact about an account snapshot and the surroundings that holds once the snapshot was
taken and is kept while an execution waits. -/
structure Tracks (S : Spec (Ambient B) Exc Ans) (fresh : AccountSnapshot → Ambient B → Prop) :
    Prop where
  taken : ∀ {g account g'}, S.rely .getEffectiveExecutionAccountState g (.ok account) g' →
    fresh account g'
  kept : ∀ {op g r g' account}, op.isLocal = true → S.rely op g r g' → fresh account g →
    fresh account g'

theorem sat_refuseDuplicate {fingerprint unresolved existing : String}
    {Q : Post (Ambient B) Exc Ans Unit}
    (issue : ∀ h op g, op.isPreparatory = true → S.issue h op g)
    (denied : ∀ rest g' e, Quiet rest → Q (h ++ rest) g' (.error e))
    (unused : ∀ g', Q (h ++ [⟨.findIntentByFingerprint fingerprint, .ok none⟩]) g' (.ok ())) :
    Sat S Q (refuseDuplicate fingerprint unresolved existing) h g := by
  apply Sat.call_bind (issue _ _ _ rfl)
  · exact fun e g' _ => denied _ _ _ rfl
  intro found g' _
  cases found with
  | none => exact unused g'
  | some intent =>
    apply Sat.call_bind (issue _ _ _ rfl)
    · intro e g'' _
      rw [List.append_assoc]
      exact denied _ _ _ rfl
    intro order g'' _
    rw [List.append_assoc]
    exact Sat.raiseIf_bind (fun _ => denied _ _ _ rfl) (fun _ => denied _ _ _ rfl)

theorem sat_evaluateRisk {p : TradeProposal} {account : AccountSnapshot} {quote : OptionQuote}
    {id : UUID} {denial : String} {Q : Post (Ambient B) Exc Ans RiskDecision}
    (issue : ∀ h op g, op.isPreparatory = true → S.issue h op g)
    (denied : ∀ item g' e, item.op.isPreparatory = true → Q (h ++ [item]) g' (.error e))
    (decided : ∀ risk g', risk = svc.risk.evaluate id g.now p account quote →
      risk.allowed = true → S.rely (.saveRiskDecision risk) g (.ok ()) g' →
      Q (h ++ [⟨.saveRiskDecision risk, .ok ()⟩]) g' (.ok risk)) :
    Sat S Q (svc.evaluateRisk p account quote id denial) h g := by
  apply Sat.peek_bind
  apply Sat.call_bind (issue _ _ _ rfl)
  · exact fun e g' _ => denied _ _ _ rfl
  intro _ g' moved
  apply Sat.raiseIf_bind
  · exact fun _ => denied _ _ _ rfl
  · exact fun allowed => decided _ g' rfl (by simpa using allowed) moved

/-- Asking for a preparatory operation keeps the history quiet, whether it is answered or not. -/
theorem sat_askQuietly {α : Type} {Q : Post (Ambient B) Exc Ans α} {op : Op}
    {f : Ans op → Program B α} (quiet : Quiet h)
    (issue : ∀ h op g, op.isPreparatory = true → S.issue h op g)
    (denied : ∀ h g' e, Quiet h → Q h g' (.error e)) (preparatory : op.isPreparatory = true)
    (answered : ∀ a g', Quiet (h ++ [⟨op, .ok a⟩]) → S.rely op g (.ok a) g' →
      Sat S Q (f a) (h ++ [⟨op, .ok a⟩]) g') :
    Sat S Q (ask op >>= f) h g :=
  Sat.call_bind (issue _ _ _ preparatory)
    (fun _ _ _ => denied _ _ _ (quiet.snoc _ preparatory))
    fun a g' moved => answered a g' (quiet.snoc _ preparatory) moved

/-- An execution that gets as far as its command has gathered its evidence in order; one
that does not has only asked for preparatory operations. -/
theorem sat_prepare {p : TradeProposal} {approval : Option ExactApproval} {draws : Draws}
    {fresh : AccountSnapshot → Ambient B → Prop} {Q : Post (Ambient B) Exc Ans Prepared}
    (issue : ∀ h op g, op.isPreparatory = true → S.issue h op g) (tracks : Tracks S fresh)
    (denied : ∀ h g' e, Quiet h → Q h g' (.error e))
    (ready : ∀ (x : Gathered) g', x.Lawful svc p draws → fresh x.account g' →
      Q (x.history svc p) g' (.ok (x.prepared svc p approval g.tradingMode))) :
    Sat S Q (svc.prepare p approval draws) [] g := by
  unfold prepare
  apply Sat.peek_bind
  refine Sat.raiseIf_bind (fun _ => denied _ _ _ rfl) fun bound => ?_
  rw [sat_bind]
  apply sat_refuseDuplicate issue
  · exact fun rest g' e quiet => denied _ _ _ quiet
  intro g₁
  have quiet : Quiet
      [⟨.findIntentByFingerprint (p.orderFingerprint svc.hashing), .ok none⟩] := rfl
  change Sat S Q _ _ _
  rw [sat_bind]
  refine sat_preflight (fun _ _ => denied _ _ _ quiet) fun _ => ?_
  refine sat_askQuietly quiet issue denied rfl fun firstAccount g₂ quiet _ => ?_
  refine sat_askQuietly quiet issue denied rfl fun observed g₃ quiet _ => ?_
  refine sat_askQuietly quiet issue denied rfl fun reconciliation g₄ quiet _ => ?_
  refine sat_askQuietly quiet issue denied rfl fun _ g₅ quiet _ => ?_
  refine Sat.raiseIf_bind (fun _ => denied _ _ _ quiet) fun reconciled => ?_
  refine sat_askQuietly quiet issue denied rfl fun firstQuote g₆ quiet _ => ?_
  rw [sat_bind]
  apply sat_evaluateRisk issue
  · exact fun item g' e last => denied _ _ _ (quiet.snoc _ last)
  intro firstRisk g₇ _ _ _
  replace quiet := quiet.snoc ⟨.saveRiskDecision firstRisk, .ok ()⟩ rfl
  refine sat_askQuietly quiet issue denied rfl fun review g₈ quiet _ => ?_
  refine sat_askQuietly quiet issue denied rfl fun _ g₉ quiet _ => ?_
  refine Sat.raiseIf_bind (fun _ => denied _ _ _ quiet) fun sideEffectFree => ?_
  refine Sat.raiseIf_bind (fun _ => denied _ _ _ quiet) fun accepted => ?_
  rw [sat_bind]
  refine sat_validateApproval (fun _ => denied _ _ _ quiet) fun _ => ?_
  refine sat_askQuietly quiet issue denied rfl fun quote g₁₀ quiet _ => ?_
  refine sat_askQuietly quiet issue denied rfl fun account g₁₁ quiet taken => ?_
  rw [sat_bind]
  apply sat_evaluateRisk issue
  · exact fun item g' e last => denied _ _ _ (quiet.snoc _ last)
  intro risk g₁₂ decision allowed decided
  replace quiet := quiet.snoc ⟨.saveRiskDecision risk, .ok ()⟩ rfl
  -- from here on the account is the one the command will name
  have current := tracks.kept rfl decided (tracks.taken taken)
  apply Sat.peek_bind
  refine Sat.raiseIf_bind (fun _ => denied _ _ _ quiet) fun _ => ?_
  rw [sat_bind]
  refine sat_preflight (fun _ _ => denied _ _ _ quiet) fun _ => ?_
  change Sat S Q _ _ _
  rw [sat_bind]
  refine sat_validateApproval (fun _ => denied _ _ _ quiet) fun _ => ?_
  apply Sat.peek_bind
  refine sat_askQuietly quiet issue denied rfl fun capabilities g₁₃ quiet asked => ?_
  replace current := tracks.kept rfl asked current
  split
  · exact denied _ _ _ quiet
  next capability _ =>
    refine Sat.raiseIf_bind (fun _ => denied _ _ _ quiet) fun _ => ?_
    rw [sat_bind]
    unfold refuseExternalWrites
    split
    · exact denied _ _ _ quiet
    · refine Sat.lift_bind (fun _ _ => denied _ _ _ quiet) fun arguments _ => ?_
      apply Sat.peek_bind
      refine ready ⟨firstAccount, observed, reconciliation, firstQuote, firstRisk, review, quote,
        account, risk, g₁₂.now, capabilities, capability, arguments, g₁₃.now⟩ g₁₃ ?_ current
      constructor
      · simpa using bound
      · simpa using reconciled
      · simpa using sideEffectFree
      · simpa using accepted
      · exact ⟨_, decision⟩
      · exact allowed

/-! ### Persistence and the last gates -/

section Submission

variable {p : TradeProposal} {approval : Option ExactApproval} {draws : Draws} {x : Gathered}

/-- An operation that an execution asks for about its own order, after its command is ready
and before the broker is asked. -/
inductive Saving (svc : ExecutionService) (p : TradeProposal) (approval : Option ExactApproval)
    (x : Gathered) : History → Op → Prop where
  | intent (h : History) : Saving svc p approval x h (.saveOrderIntent (x.intent svc p approval))
  | command (h : History) :
      Saving svc p approval x h (.saveCommandIntent (x.command svc p approval))
  | order (h : History) (o : BrokerOrder)
      (saved : ⟨.saveOrderIntent (x.intent svc p approval), .ok ()⟩ ∈ h)
      (own : o.intentId = (x.intent svc p approval).intentId) (unplaced : Unplaced h) :
      Saving svc p approval x h (.saveOrder o)
  | transition (h : History) (record : StateTransitionRecord) :
      Saving svc p approval x h (.recordTransition record)

namespace Gathered

def pending (svc : ExecutionService) (p : TradeProposal) (approval : Option ExactApproval)
    (x : Gathered) (now : Time) : BrokerOrder :=
  svc.pendingOrder p (x.intent svc p approval) now

/-- The history of an execution that has come to the broker: its preparation, then the
intent, the command, the pending order and its transition. -/
def written (svc : ExecutionService) (p : TradeProposal) (approval : Option ExactApproval)
    (x : Gathered) (pendingTime recordTime : Time) : History :=
  x.history svc p ++
    [⟨.saveOrderIntent (x.intent svc p approval), .ok ()⟩,
      ⟨.saveCommandIntent (x.command svc p approval), .ok ()⟩,
      ⟨.saveOrder (x.pending svc p approval pendingTime), .ok ()⟩,
      ⟨.recordTransition
        { intentId := (x.intent svc p approval).intentId
          previous := .intentPersisted
          current := .submitting
          reason := "durable command ready"
          recordedAt := recordTime }, .ok ()⟩]

end Gathered

/-- What the gates have seen just before the broker is asked. -/
structure Cleared (svc : ExecutionService) (p : TradeProposal) (approval : Option ExactApproval)
    (draws : Draws) (x : Gathered) (mode : TradingMode) (g : Ambient B) : Prop where
  passed : Passed svc p mode g
  unchanged : g.tradingMode = mode
  approved : Approved svc p mode approval g.now
  allowed : (svc.risk.evaluate draws.lastDecision g.now p x.account x.quote).allowed = true

theorem sat_transition {id : UUID} {previous current : OrderState} {reason : String}
    {Q : Post (Ambient B) Exc Ans Unit} (legal : OrderStateMachine.canTransition previous current)
    (issue : ∀ record, S.issue h (.recordTransition record) g)
    (recorded : ∀ r g', S.rely (.recordTransition ⟨id, previous, current, reason, g.now, false⟩) g r g' →
      Q (h ++ [⟨.recordTransition ⟨id, previous, current, reason, g.now, false⟩, r⟩]) g' r) :
    Sat S Q (transition id previous current reason) h g := by
  refine Sat.lift_bind ?_ ?_
  · intro e illegal
    simp [OrderStateMachine.transition, legal] at illegal
  · intro _ _
    apply Sat.peek_bind
    exact (sat_call _ _).mpr ⟨issue _, recorded⟩

theorem sat_lastGates {mode : TradingMode} {Q : Post (Ambient B) Exc Ans Unit}
    (denied : ∀ g' e, Q h g' (.error e))
    (cleared : Cleared svc p approval draws x mode g → Q h g (.ok ())) :
    Sat S Q (svc.lastGates p approval draws (x.prepared svc p approval mode)) h g := by
  apply Sat.peek_bind
  refine Sat.raiseIf_bind (fun _ => denied _ _) fun same => ?_
  have mode_eq : g.tradingMode = mode := by simpa [Gathered.prepared] using same
  rw [sat_bind]
  refine sat_preflight (fun _ _ => denied _ _) fun passed => ?_
  change Sat S Q _ _ _
  rw [sat_bind]
  refine sat_validateApproval (fun _ => denied _ _) fun approved => ?_
  apply Sat.peek_bind
  rw [sat_raiseIf]
  refine ⟨fun _ => denied _ _, fun allowed => cleared ⟨?_, mode_eq, ?_, ?_⟩⟩
  · exact mode_eq ▸ passed
  · exact mode_eq ▸ approved
  · simpa [Gathered.prepared] using allowed

/-- A denial is recorded for the intent that was saved, and raised again. -/
theorem sat_recordDenial {pending : BrokerOrder} {e : Exc} {Q : Post (Ambient B) Exc Ans Unit}
    (saves : ∀ h op g, Saving svc p approval x h op → S.issue h op g)
    (saved : ⟨.saveOrderIntent (x.intent svc p approval), .ok ()⟩ ∈ h)
    (own : pending.intentId = (x.intent svc p approval).intentId) (unplaced : Unplaced h)
    (denied : ∀ h g' e, Unplaced h → Q h g' (.error e)) :
    Sat S Q (recordDenial pending e) h g := by
  unfold recordDenial
  split
  · refine Sat.call_bind (saves _ _ _ (.order _ _ saved own unplaced))
      (fun _ _ _ => denied _ _ _ (unplaced.snoc _ rfl)) fun _ g' _ => ?_
    have unplaced' := unplaced.snoc ⟨.saveOrder (pending.withState .rejected), .ok ()⟩ rfl
    rw [sat_bind]
    apply sat_transition rfl (fun _ => saves _ _ _ (.transition _ _))
    intro r g'' _
    cases r with
    | error e => exact denied _ _ _ (unplaced'.snoc _ rfl)
    | ok _ => exact denied _ _ _ (unplaced'.snoc _ rfl)
  · exact denied _ _ _ unplaced

end Submission

/-- An execution either ends without having asked the broker for anything, or comes to the
broker with all its evidence saved and every gate just passed. -/
theorem sat_executeWith {place : BrokerCommandIntent → OptionContract → Program B BrokerOrder}
    {p : TradeProposal} {approval : Option ExactApproval} {draws : Draws}
    {fresh : AccountSnapshot → Ambient B → Prop} {Q : Post (Ambient B) Exc Ans ExecutionResult}
    (issue : ∀ h op g, op.isPreparatory = true → S.issue h op g)
    (saves : ∀ (x : Gathered) h op g, x.Lawful svc p draws → Saving svc p approval x h op →
      S.issue h op g)
    (tracks : Tracks S fresh) (denied : ∀ h g' e, Unplaced h → Q h g' (.error e))
    (placed : ∀ (x : Gathered) pendingTime recordTime g', x.Lawful svc p draws →
      fresh x.account g' → Cleared svc p approval draws x g.tradingMode g' →
      Sat S Q (svc.submit place p (x.prepared svc p approval g.tradingMode)
        (x.pending svc p approval pendingTime)) (x.written svc p approval pendingTime recordTime) g') :
    Sat S Q (svc.executeWith place p approval draws) [] g := by
  rw [executeWith, sat_bind]
  refine sat_prepare issue tracks (fun _ _ _ quiet => denied _ _ _ quiet.unplaced) ?_
  intro x g₁ lawful current₁
  have unplaced := (Gathered.quiet_history svc p x).unplaced
  change Sat S Q _ _ _
  rw [sat_bind, persist]
  refine Sat.call_bind (saves x _ _ _ lawful (.intent _))
    (fun _ _ _ => denied _ _ _ (unplaced.snoc _ rfl)) fun _ g₂ moved₁ => ?_
  replace unplaced := unplaced.snoc ⟨.saveOrderIntent (x.intent svc p approval), .ok ()⟩ rfl
  have saved : ⟨.saveOrderIntent (x.intent svc p approval), .ok ()⟩ ∈ x.history svc p ++
      [⟨.saveOrderIntent (x.intent svc p approval), .ok ()⟩] := by simp
  refine Sat.call_bind (saves x _ _ _ lawful (.command _))
    (fun _ _ _ => denied _ _ _ (unplaced.snoc _ rfl)) fun _ g₃ moved₂ => ?_
  replace unplaced := unplaced.snoc ⟨.saveCommandIntent (x.command svc p approval), .ok ()⟩ rfl
  replace saved := List.mem_append_left
    [⟨.saveCommandIntent (x.command svc p approval), .ok ()⟩] saved
  apply Sat.peek_bind
  refine Sat.call_bind (saves x _ _ _ lawful (.order _ _ saved rfl unplaced))
    (fun _ _ _ => denied _ _ _ (unplaced.snoc _ rfl)) fun _ g₄ moved₃ => ?_
  replace unplaced :=
    unplaced.snoc ⟨.saveOrder (x.pending svc p approval g₃.now), .ok ()⟩ rfl
  replace saved := List.mem_append_left
    [⟨.saveOrder (x.pending svc p approval g₃.now), .ok ()⟩] saved
  rw [sat_bind]
  apply sat_transition rfl (fun _ => saves x _ _ _ lawful (.transition _ _))
  intro r g₅ moved₄
  cases r with
  | error e => exact denied _ _ _ (unplaced.snoc _ rfl)
  | ok _ =>
    have current₅ := tracks.kept rfl moved₄ (tracks.kept rfl moved₃ (tracks.kept rfl moved₂
      (tracks.kept rfl moved₁ current₁)))
    replace unplaced := unplaced.snoc ⟨.recordTransition ⟨(x.intent svc p approval).intentId,
      .intentPersisted, .submitting, "durable command ready", g₄.now, false⟩, .ok ()⟩ rfl
    replace saved := List.mem_append_left [⟨.recordTransition ⟨(x.intent svc p approval).intentId,
      .intentPersisted, .submitting, "durable command ready", g₄.now, false⟩, .ok ()⟩] saved
    have history : x.history svc p ++ [⟨.saveOrderIntent (x.intent svc p approval), .ok ()⟩] ++
        [⟨.saveCommandIntent (x.command svc p approval), .ok ()⟩] ++
        [⟨.saveOrder (x.pending svc p approval g₃.now), .ok ()⟩] ++
        [⟨.recordTransition ⟨(x.intent svc p approval).intentId, .intentPersisted, .submitting,
          "durable command ready", g₄.now, false⟩, .ok ()⟩] =
        x.written svc p approval g₃.now g₄.now := by
      simp [Gathered.written]
    rw [history] at unplaced saved
    change Sat S _ _ (x.history svc p ++ [⟨.saveOrderIntent (x.intent svc p approval), .ok ()⟩] ++
        [⟨.saveCommandIntent (x.command svc p approval), .ok ()⟩] ++
        [⟨.saveOrder (x.pending svc p approval g₃.now), .ok ()⟩] ++
        [⟨.recordTransition ⟨(x.intent svc p approval).intentId, .intentPersisted, .submitting,
          "durable command ready", g₄.now, false⟩, .ok ()⟩]) _
    rw [history]
    change Sat S Q _ _ _
    rw [sat_bind, sat_attempt]
    refine sat_lastGates (fun g' e => ?_) (placed x g₃.now g₄.now g₅ lawful current₅)
    exact sat_recordDenial (fun h op g => saves x h op g lawful) saved rfl unplaced denied

end ExecutionService
end Sentry
