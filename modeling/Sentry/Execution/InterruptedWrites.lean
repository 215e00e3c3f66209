import Sentry.Execution.Guarantees
import Sentry.Support.Serial

/-!
# The latch of interrupted writes

`_record_interrupted_write` and `_deny_interrupted_writes` of one execution service. Its
lock lets one `execute`, `execute_entry` or `cancel_order` run at a time, and nothing else
touches the latch; everything around the service may change at any await, its safety
controller included.
-/
namespace Sentry

open Support Coroutine

variable {B : Type}

/-- The two operations that write to the broker. -/
def Op.isBrokerWrite : Op → Bool
  | .placeOptionOrder _ _ | .cancelOptionOrder _ _ => true
  | _ => false

/-- A write that was cut off by a cancellation, or whose answer was being journaled when the
cancellation came. -/
def Interrupted (h : History) : Prop :=
  ∃ before op after, h = before ++ ⟨op, .error .cancelled⟩ :: after ∧
    (op.isBrokerWrite = true ∨
      ∃ item ∈ before, item.op.isBrokerWrite = true ∧ item.answer.toOption.isSome = true)

/-- No write was asked for. -/
def Unwritten (h : History) : Prop := ∀ item ∈ h, item.op.isBrokerWrite = false

theorem Unwritten.snoc {h : History} (unwritten : Unwritten h) (item : Done Exc Ans)
    (last : item.op.isBrokerWrite = false) : Unwritten (h ++ [item]) := by
  intro other member
  rcases List.mem_append.mp member with old | new
  · exact unwritten other old
  · exact List.mem_singleton.mp new ▸ last

theorem Unwritten.append {h rest : History} (first : Unwritten h) (second : Unwritten rest) :
    Unwritten (h ++ rest) := by
  intro item member
  rcases List.mem_append.mp member with old | new
  · exact first item old
  · exact second item new

theorem Unwritten.uninterrupted {h : History} (unwritten : Unwritten h) : ¬ Interrupted h := by
  rintro ⟨before, op, after, rfl, write | ⟨item, member, write, -⟩⟩
  · have none_here := unwritten ⟨op, .error .cancelled⟩ (by simp)
    simp [write] at none_here
  · have none_before := unwritten item (by simp [member])
    simp [write] at none_before

theorem Unplaced.unwritten {h : History} (unplaced : Unplaced h) : Unwritten h := by
  intro item member
  have isLocal := unplaced.op (List.mem_map_of_mem member)
  cases op : item.op <;> simp_all [Op.isBrokerWrite, Op.isLocal, Op.isPreparatory]

/-- Writes failed at most, and not by a cancellation. -/
def Harmless (h : History) : Prop :=
  ∀ item ∈ h, item.op.isBrokerWrite = true → ∃ e, item.answer = .error e ∧ e ≠ .cancelled

theorem Unwritten.harmless {h : History} (unwritten : Unwritten h) : Harmless h := by
  intro item member write
  rw [unwritten item member] at write
  cases write

theorem Harmless.append {h rest : History} (first : Harmless h) (second : Harmless rest) :
    Harmless (h ++ rest) := by
  intro item member
  rcases List.mem_append.mp member with old | new
  · exact first item old
  · exact second item new

theorem Harmless.uninterrupted {h : History} (harmless : Harmless h) : ¬ Interrupted h := by
  rintro ⟨before, op, after, rfl, write | ⟨item, member, write, answered⟩⟩
  · obtain ⟨e, cut, other⟩ := harmless ⟨op, .error .cancelled⟩ (by simp) write
    cases cut
    exact other rfl
  · obtain ⟨e, failed, -⟩ := harmless item (by simp [member]) write
    simp [failed, Except.toOption] at answered

/-- Only a cancellation interrupts. -/
theorem interrupted_snoc {h : History} {item : Done Exc Ans} (interrupted : Interrupted (h ++ [item])) :
    Interrupted h ∨ ∃ op, item = ⟨op, .error .cancelled⟩ := by
  obtain ⟨before, op, after, split, write⟩ := interrupted
  rcases List.eq_nil_or_concat after with rfl | ⟨later, last, rfl⟩
  · obtain ⟨-, same⟩ := List.append_inj' split rfl
    cases same
    exact Or.inr ⟨op, rfl⟩
  · rw [List.concat_eq_append, ← List.cons_append, ← List.append_assoc] at split
    obtain ⟨same, -⟩ := List.append_inj' split rfl
    exact Or.inl ⟨before, op, later, same, write⟩

/-- A write that was answered, before a harmless history, interrupts nothing. -/
theorem uninterrupted_answered {h : History} {op : Op} {a : Ans op} (harmless : Harmless h) :
    ¬ Interrupted (h ++ [⟨op, .ok a⟩]) := by
  intro interrupted
  rcases interrupted_snoc interrupted with earlier | ⟨op', same⟩
  · exact harmless.uninterrupted earlier
  · cases same

theorem Harmless.failed {h : History} {op : Op} {e : Exc} (harmless : Harmless h) (other : e ≠ .cancelled) :
    Harmless (h ++ [⟨op, .error e⟩]) := by
  apply harmless.append
  intro item member _
  cases List.mem_singleton.mp member
  exact ⟨e, rfl, other⟩

theorem Harmless.snoc {h : History} (harmless : Harmless h) (item : Done Exc Ans)
    (last : item.op.isBrokerWrite = false) : Harmless (h ++ [item]) := by
  apply harmless.append
  intro other member write
  rw [List.mem_singleton.mp member, last] at write
  cases write

/-- The calls of one service that its lock serialises. -/
inductive GuardedCall where
  | execute (p : TradeProposal) (approval : Option ExactApproval) (draws : Draws)
  | executeEntry (p : TradeProposal) (approval : Option ExactApproval) (draws : Draws)
  | cancelOrder (target : BrokerOrder) (limitPrice : Decimal)
      (written : limitPrice.val = target.limitPrice)

namespace GuardedCall

variable (svc : ExecutionService)

def body : GuardedCall → Program B Unit
  | .execute p approval draws => do
    let _ ← svc.execute p approval draws
  | .executeEntry p approval draws => do
    let _ ← svc.executeEntry p approval draws
  | .cancelOrder target limitPrice written => do
    let _ ← svc.cancelOrder target limitPrice written

/-- A cancellation begins with its preflight, an execution comes to it once no intent with its
fingerprint was found. -/
def AtPreflight (h : History) : GuardedCall → Prop
  | .execute _ _ _ | .executeEntry _ _ _ =>
    ∃ fingerprint, ⟨.findIntentByFingerprint fingerprint, .ok none⟩ ∈ h
  | .cancelOrder _ _ _ => True

end GuardedCall

/-- Nothing but the service itself touches its latch. -/
def LatchKept (g g' : Ambient B) : Prop :=
  g'.interruptedWriteIntents = g.interruptedWriteIntents

def anyMeanwhile (op : Op) (g : Ambient B) (_ : Except Exc (Ans op)) (g' : Ambient B) : Prop :=
  LatchKept g g'

/-- Some write was interrupted in this process. -/
def Latched (g : Ambient B) : Prop := g.interruptedWriteIntents ≠ []

theorem latched_spared : Spared (Latched (B := B)) where
  stop _ _ latched := latched
  latch _ _ _ := by simp [Latched, Ambient.latch]

theorem Harmless.latched {h : History} {g : Ambient B} (harmless : Harmless h) (interrupted : Interrupted h) : Latched g :=
  absurd interrupted harmless.uninterrupted

theorem LatchKept.latched {g g' : Ambient B} (kept : LatchKept g g') (latched : Latched g) :
    Latched g' := by
  unfold Latched at latched ⊢
  rw [kept]
  exact latched

namespace ExecutionService

variable {svc : ExecutionService} {issue : History → Op → Ambient B → Prop} {h : History}
  {g : Ambient B}

/-! ### Once the latch is set -/

/-- What a call leaves that started with the latch set. -/
def Blocked (c : GuardedCall) (h : History) (g : Ambient B) (r : Except Exc Unit) : Prop :=
  Unwritten h ∧ (c.AtPreflight h → g.safety.state = .halted ∧
    r = .error (.executionDenied "interrupted write latch blocks execution until process restart"))

/-- With the latch set no gate is passed. -/
theorem sat_denyInterruptedWrites_latched {Q : Post (Ambient B) Exc Ans Unit}
    {S : Spec (Ambient B) Exc Ans} (latched : Latched g)
    (denied : Q h (g.stop "interrupted broker command requires reconciliation")
      (.error (.executionDenied
        "interrupted write latch blocks execution until process restart"))) :
    Sat S Q denyInterruptedWrites h g := by
  unfold denyInterruptedWrites
  apply Sat.peek_bind
  rw [if_neg (by simpa [Latched] using latched)]
  exact denied

/-- An execution that starts with the latch set ends at its first gate at the latest. -/
theorem sat_prepare_latched {p : TradeProposal} {approval : Option ExactApproval} {draws : Draws}
    {α : Type} {Q : Post (Ambient B) Exc Ans α} {f : Prepared → Program B α} (latched : Latched g)
    (early : ∀ h g' e, Unwritten h → Latched g' →
      (∀ fingerprint, ⟨.findIntentByFingerprint fingerprint, .ok none⟩ ∉ h) → Q h g' (.error e))
    (denied : ∀ h g', Unwritten h → Latched g' →
      Q h (g'.stop "interrupted broker command requires reconciliation") (.error (.executionDenied
        "interrupted write latch blocks execution until process restart"))) :
    Sat ⟨fun _ op _ => op.isBrokerWrite = false, anyMeanwhile⟩ Q
      (svc.prepare p approval draws >>= f) [] g := by
  rw [sat_bind, prepare]
  apply Sat.peek_bind
  apply Sat.raiseIf_bind
  · intro _
    exact early [] g _ (by simp [Unwritten]) latched (by simp)
  intro _
  rw [sat_bind]
  apply Sat.call_bind rfl
  · intro e g' kept
    exact early _ g' e (by simp [Unwritten, Op.isBrokerWrite]) (kept.latched latched) (by simp)
  intro found g₁ kept
  have latched₁ : Latched g₁ := LatchKept.latched kept latched
  cases found with
  | none =>
    change Sat _ _ (svc.preflight p g.tradingMode >>= _) _ g₁
    rw [sat_bind, preflight, sat_bind]
    apply sat_denyInterruptedWrites_latched latched₁
    exact denied _ g₁ (by simp [Unwritten, Op.isBrokerWrite]) latched₁
  | some intent =>
    apply Sat.call_bind rfl
    · intro e g₂ kept
      exact early _ g₂ e (by simp [Unwritten, Op.isBrokerWrite]) (kept.latched latched₁) (by simp)
    intro order g₂ kept
    have latched₂ : Latched g₂ := LatchKept.latched kept latched₁
    apply Sat.raiseIf_bind
    · intro _
      exact early _ g₂ _ (by simp [Unwritten, Op.isBrokerWrite]) latched₂ (by simp)
    · intro _
      exact early _ g₂ _ (by simp [Unwritten, Op.isBrokerWrite]) latched₂ (by simp)

/-- What a call does that starts with the latch set. -/
theorem sat_body_latched (c : GuardedCall) (latched : Latched g) :
    Sat ⟨fun _ op _ => op.isBrokerWrite = false, anyMeanwhile⟩
      (fun h g' r => Latched g' ∧ Blocked c h g' r) (c.body svc) [] g := by
  cases c with
  | execute p approval draws =>
    rw [GuardedCall.body, execute, executeWith, sat_bind]
    apply sat_prepare_latched latched
    · intro h g' e unwritten latched absent
      refine ⟨latched, unwritten, ?_⟩
      rintro ⟨fingerprint, member⟩
      exact absurd member (absent fingerprint)
    · intro h g' unwritten latched
      exact ⟨latched, unwritten, fun _ => ⟨rfl, rfl⟩⟩
  | executeEntry p approval draws =>
    rw [GuardedCall.body, executeEntry, sat_bind]
    apply Sat.raiseIf_bind
    · intro _
      refine ⟨latched, by simp [Unwritten], ?_⟩
      rintro ⟨_, member⟩
      cases member
    intro _
    rw [execute, executeWith]
    apply sat_prepare_latched latched
    · intro h g' e unwritten latched absent
      refine ⟨latched, unwritten, ?_⟩
      rintro ⟨fingerprint, member⟩
      exact absurd member (absent fingerprint)
    · intro h g' unwritten latched
      exact ⟨latched, unwritten, fun _ => ⟨rfl, rfl⟩⟩
  | cancelOrder target limitPrice written =>
    rw [GuardedCall.body, cancelOrder, sat_bind, sat_bind]
    apply sat_denyInterruptedWrites_latched latched
    exact ⟨latched, by simp [Unwritten], fun _ => ⟨rfl, rfl⟩⟩

/-! ### How the latch is set -/

/-- A call of which a write was interrupted has set the latch. -/
def Recorded {α : Type} : Post (Ambient B) Exc Ans α := fun h g _ => Interrupted h → Latched g

abbrev meanwhile : Spec (Ambient B) Exc Ans := ⟨fun _ _ _ => True, anyMeanwhile⟩

variable {pending : BrokerOrder} {action : String} {observed : Option BrokerOrder} {e : Exc}

/-- A part that asks for no write leaves no trace of one. -/
theorem sat_harmless {α : Type} {p : Program B α} {Q : Post (Ambient B) Exc Ans α}
    {returns : α → Prop} (emits : Emits (fun op => op.isBrokerWrite = false) returns p)
    (harmless : Harmless h) (ended : ∀ h' g' r, Harmless h' → Q h' g' r) :
    Sat meanwhile Q p h g := by
  apply emits.sat
  · exact fun _ _ _ _ _ => trivial
  · exact fun rest g' e all => ended _ _ _ (harmless.append (Unwritten.harmless all))
  · exact fun rest g' a all _ => ended _ _ _ (harmless.append (Unwritten.harmless all))

/-- The record of an interrupted write ends in the exception that cut it off, or another one. -/
theorem sat_recordInterruptedWrite_raise {α : Type} {Q : Post (Ambient B) Exc Ans α}
    (ended : ∀ h' g' e', Latched g' → Q h' g' (.error e')) :
    Sat meanwhile Q
      (recordInterruptedWrite pending action observed >>= fun _ => raise e) h g := by
  have keeps : Keeps Latched (recordInterruptedWrite pending action observed : Program B Unit) :=
    keeps_recordInterruptedWrite latched_spared
  rw [sat_bind]
  -- the first thing it does is to latch the intent
  have latched : Latched (g.latch pending.intentId) := by simp [Latched, Ambient.latch]
  apply Keeps.sat (h := h) (g := g.latch pending.intentId) keeps.2
  · exact fun _ _ _ => trivial
  · exact fun _ _ _ _ kept latched => LatchKept.latched kept latched
  · intro rest g' r latched
    cases r with
    | ok _ => exact ended _ _ _ latched
    | error e' => exact ended _ _ _ latched
  · exact latched

theorem sat_journal_recorded {order : BrokerOrder} {reason : String} (calm : ¬ Interrupted h) :
    Sat meanwhile Recorded (journal pending order action reason : Program B Unit) h g := by
  have handled : ∀ (h : History) (g : Ambient B) (e : Exc),
      (e ≠ .cancelled → ¬ Interrupted h) →
      Sat meanwhile Recorded (if e = .cancelled then do
        recordInterruptedWrite pending action (some order)
        raise e
      else raise e : Program B Unit) h g := by
    intro h g e calm
    split
    · exact sat_recordInterruptedWrite_raise fun _ _ _ latched _ => latched
    next other => exact fun interrupted => absurd interrupted (calm other)
  have answered : ∀ {h : History} {op : Op} (r : Except Exc (Ans op)), ¬ Interrupted h →
      (∀ e, r = .error e → e ≠ .cancelled) → ¬ Interrupted (h ++ [⟨op, r⟩]) := by
    intro h op r calm uncut interrupted
    rcases interrupted_snoc interrupted with earlier | ⟨op', same⟩
    · exact calm earlier
    · cases same
      exact uncut .cancelled rfl rfl
  rw [journal, sat_attempt]
  apply Sat.call_bind trivial
  · intro e g' _
    exact handled _ _ e fun other => answered _ calm fun e' same => by cases same; exact other
  intro saved g₁ _
  have calm₁ : ¬ Interrupted (h ++ [⟨.saveOrder order, .ok saved⟩]) :=
    answered (.ok saved) calm (by simp)
  apply Sat.lift_bind
  · intro e illegal
    exact handled _ _ e fun _ => calm₁
  intro _ _
  apply Sat.peek_bind
  apply (sat_call _ _).mpr
  refine ⟨trivial, ?_⟩
  intro r g₂ _
  cases r with
  | ok recorded =>
    exact fun interrupted => absurd interrupted (answered (.ok recorded) calm₁ (by simp))
  | error e =>
    exact handled _ _ e fun other => answered _ calm₁ fun e' same => by cases same; exact other

theorem sat_submit_recorded {p : TradeProposal} {prepared : Prepared} (harmless : Harmless h) :
    Sat meanwhile Recorded (svc.submit (fun command contract =>
      ask (.placeOptionOrder command contract)) p prepared pending : Program B ExecutionResult)
      h g := by
  rw [submit, sat_bind, sat_attempt]
  apply (sat_call _ _).mpr
  refine ⟨trivial, ?_⟩
  intro r g₁ _
  cases r with
  | error e =>
    change Sat meanwhile _ (svc.classifyFailure pending e) _ g₁
    by_cases cut : e = .cancelled
    · rw [classifyFailure, if_pos cut]
      exact sat_recordInterruptedWrite_raise fun _ _ _ latched _ => latched
    · have unwritten : Emits (fun op : Op => op.isBrokerWrite = false) (fun _ => False)
          (svc.classifyFailure pending e : Program B BrokerOrder) :=
        emits_classifyFailure (fun _ => rfl) rfl
      apply unwritten.sat
      · exact fun _ _ _ _ _ => trivial
      · intro rest g' e' all interrupted
        refine absurd interrupted (Harmless.uninterrupted ?_)
        exact (harmless.failed cut).append (Unwritten.harmless all)
      · exact fun _ _ _ _ never => never.elim
  | ok order =>
    change Sat meanwhile Recorded (svc.correlate prepared.intent.intentId order >>= _) _ g₁
    have calm : ¬ Interrupted
        (h ++ [⟨.placeOptionOrder prepared.command p.contract, .ok order⟩]) :=
      uninterrupted_answered harmless
    rw [sat_bind, correlate]
    split
    · split
      · exact fun interrupted => absurd interrupted calm
      · exact fun interrupted => absurd interrupted calm
    · change Sat meanwhile Recorded (journal pending order _ _ >>= _) _ g₁
      rw [sat_bind]
      apply (sat_journal_recorded calm).mono
      rintro h g (e | ⟨⟩) recorded
      · exact recorded
      · exact recorded

theorem sat_execute_recorded {p : TradeProposal} {approval : Option ExactApproval} {draws : Draws} :
    Sat meanwhile Recorded (svc.execute p approval draws : Program B ExecutionResult) [] g := by
  have tracks : Tracks meanwhile (fun (_ : AccountSnapshot) (_ : Ambient B) => True) :=
    ⟨fun _ => trivial, fun _ _ => id⟩
  apply sat_executeWith (fun _ _ _ _ => trivial) (fun _ _ _ _ _ _ => trivial) tracks
  · intro h g' e unplaced interrupted
    exact absurd interrupted unplaced.unwritten.uninterrupted
  · intro x pendingTime recordTime g' _ _ _
    have unplaced : Unplaced (x.written svc p approval pendingTime recordTime) := rfl
    exact sat_submit_recorded unplaced.unwritten.harmless

theorem sat_transition_harmless {α : Type} {Q : Post (Ambient B) Exc Ans α}
    {intentId : UUID} {previous current : OrderState} {reason : String} {f : Unit → Program B α}
    (harmless : Harmless h) (failed : ∀ h' g' e', Harmless h' → Q h' g' (.error e'))
    (continued : ∀ h' g', Harmless h' → Sat meanwhile Q (f ()) h' g') :
    Sat meanwhile Q (transition intentId previous current reason >>= f) h g := by
  rw [sat_bind]
  apply sat_harmless (emits_transition fun _ => rfl) harmless
  intro h' g' r harmless'
  cases r with
  | error e => exact failed _ _ _ harmless'
  | ok _ => exact continued _ _ harmless'

/-- The broker call of a cancellation and what is made of its answer. -/
theorem sat_cancelled_recorded {command : BrokerCommandIntent} {targetId : String}
    {f : BrokerOrder → Program B CancellationResult} (harmless : Harmless h)
    (continued : ∀ order h' g', ¬ Interrupted h' → Sat meanwhile Recorded (f order) h' g') :
    Sat meanwhile Recorded (attempt (ask (.cancelOptionOrder command targetId))
      (svc.classifyCancelFailure pending) >>= f) h g := by
  rw [sat_bind, sat_attempt]
  apply (sat_call _ _).mpr
  refine ⟨trivial, ?_⟩
  intro r g₁ _
  cases r with
  | error e =>
    change Sat meanwhile _ (svc.classifyCancelFailure pending e) _ g₁
    by_cases cut : e = .cancelled
    · rw [classifyCancelFailure, if_pos cut]
      exact sat_recordInterruptedWrite_raise fun _ _ _ latched _ => latched
    · have unwritten : Emits (fun op : Op => op.isBrokerWrite = false) (fun _ => True)
          (svc.classifyCancelFailure pending e : Program B BrokerOrder) :=
        emits_classifyCancelFailure (fun _ => rfl) rfl
      apply unwritten.sat
      · exact fun _ _ _ _ _ => trivial
      · intro rest g' e' all
        exact ((harmless.failed cut).append (Unwritten.harmless all)).latched
      · intro rest g' order all _
        refine continued order _ g' (Harmless.uninterrupted ?_)
        exact (harmless.failed cut).append (Unwritten.harmless all)
  | ok order => exact continued order _ g₁ (uninterrupted_answered harmless)

theorem sat_submitCancellation_recorded {target : BrokerOrder} {limitPrice : Decimal}
    {written : limitPrice.val = target.limitPrice} {original : BrokerCommandIntent}
    {intent : OrderIntent} {observed effective : AccountSnapshot} (harmless : Harmless h) :
    Sat meanwhile Recorded (svc.submitCancellation target limitPrice written original intent
      observed effective : Program B CancellationResult) h g := by
  unfold submitCancellation
  apply Sat.call_bind trivial
  · exact fun e g' _ => (harmless.snoc _ rfl).latched
  intro capabilities g₁ _
  replace harmless := harmless.snoc ⟨.getCapabilities, .ok capabilities⟩ rfl
  split
  · exact harmless.latched
  apply Sat.raiseIf_bind (fun _ => harmless.latched)
  intro _
  rw [sat_bind]
  apply sat_harmless emits_refuseExternalWrites harmless
  intro h g r harmless
  cases r with
  | error e => exact harmless.latched
  | ok _ =>
    apply Sat.lift_bind (fun _ _ => harmless.latched)
    intro arguments _
    apply Sat.peek_bind
    apply Sat.call_bind trivial
    · exact fun e g' _ => (harmless.snoc _ rfl).latched
    intro _ g₂ _
    apply Sat.call_bind trivial
    · exact fun e g' _ => ((harmless.snoc _ rfl).snoc _ rfl).latched
    intro _ g₃ _
    apply sat_transition_harmless ((harmless.snoc _ rfl).snoc _ rfl)
      (fun _ _ _ harmless => harmless.latched)
    intro h g harmless
    apply Sat.peek_bind
    split
    · apply Sat.call_bind trivial
      · exact fun e g' _ => (harmless.snoc _ rfl).latched
      intro _ g₄ _
      exact sat_transition_harmless (harmless.snoc _ rfl) (fun _ _ _ harmless => harmless.latched)
        fun _ _ harmless => harmless.latched
    · apply sat_cancelled_recorded harmless
      intro order h g calm
      rw [sat_bind]
      apply (sat_journal_recorded calm).mono
      rintro h g (e | ⟨⟩) recorded
      · exact recorded
      · exact recorded

theorem sat_cancelOrder_recorded {target : BrokerOrder} {limitPrice : Decimal}
    {written : limitPrice.val = target.limitPrice} :
    Sat meanwhile Recorded
      (svc.cancelOrder target limitPrice written : Program B CancellationResult) [] g := by
  have harmless : Harmless [] := by simp [Harmless]
  rw [cancelOrder, sat_bind]
  apply sat_denyInterruptedWrites (fun _ _ => harmless.latched)
  intro _
  apply Sat.raiseIf_bind (fun _ => harmless.latched)
  intro _
  apply Sat.raiseIf_bind (fun _ => harmless.latched)
  intro _
  apply Sat.peek_bind
  apply Sat.raiseIf_bind (fun _ => harmless.latched)
  intro _
  apply Sat.peek_bind
  apply Sat.raiseIf_bind (fun _ => harmless.latched)
  intro _
  apply Sat.call_bind trivial
  · exact fun e g' _ => (harmless.snoc _ rfl).latched
  intro originalIntent g₁ _
  replace harmless := harmless.snoc ⟨.getOrderIntent target.intentId, .ok originalIntent⟩ rfl
  apply Sat.call_bind trivial
  · exact fun e g' _ => (harmless.snoc _ rfl).latched
  intro originalCommand g₂ _
  replace harmless := harmless.snoc
    ⟨.getCommandForOrderIntent target.intentId, .ok originalCommand⟩ rfl
  rcases originalIntent with _ | original
  · exact harmless.latched
  rcases originalCommand with _ | originalCommand
  · exact harmless.latched
  apply Sat.call_bind trivial
  · exact fun e g' _ => (harmless.snoc _ rfl).latched
  intro effective g₃ _
  replace harmless := harmless.snoc ⟨.getEffectiveExecutionAccountState, .ok effective⟩ rfl
  apply Sat.call_bind trivial
  · exact fun e g' _ => (harmless.snoc _ rfl).latched
  intro observed g₄ _
  replace harmless := harmless.snoc ⟨.getObservedBrokerAccountState, .ok observed⟩ rfl
  apply Sat.call_bind trivial
  · exact fun e g' _ => (harmless.snoc _ rfl).latched
  intro report g₅ _
  replace harmless := harmless.snoc ⟨.reconcile, .ok report⟩ rfl
  apply Sat.call_bind trivial
  · exact fun e g' _ => (harmless.snoc _ rfl).latched
  intro saved g₆ _
  replace harmless := harmless.snoc ⟨.saveReconciliation report, .ok saved⟩ rfl
  apply Sat.raiseIf_bind (fun _ => harmless.latched)
  intro _
  rw [sat_bind]
  apply sat_refuseDuplicate (fun _ _ _ _ => trivial)
  · intro rest g' e quiet
    exact (harmless.append quiet.unplaced.unwritten.harmless).latched
  intro g₇
  replace harmless := harmless.snoc
    ⟨.findIntentByFingerprint (svc.cancelFingerprint target), .ok none⟩ rfl
  apply Sat.peek_bind
  apply Sat.call_bind trivial
  · exact fun e g' _ => (harmless.snoc _ rfl).latched
  intro _ g₈ _
  exact sat_submitCancellation_recorded (harmless.snoc _ rfl)

/-- However a call goes, an interrupted write has set the latch by its end. -/
theorem sat_body_recorded (c : GuardedCall) :
    Sat meanwhile Recorded (c.body svc : Program B Unit) [] g := by
  have ignored : ∀ {α : Type} {p : Program B α}, Sat meanwhile Recorded p [] g →
      Sat meanwhile Recorded (p >>= fun _ => pure ()) [] g := by
    intro α p sat
    rw [sat_bind]
    apply sat.mono
    rintro h g (e | a) recorded
    · exact recorded
    · exact recorded
  cases c with
  | execute p approval draws => exact ignored sat_execute_recorded
  | executeEntry p approval draws =>
    apply ignored
    apply Sat.raiseIf_bind
    · intro _
      exact Harmless.latched (by simp [Harmless])
    · exact fun _ => sat_execute_recorded
  | cancelOrder target limitPrice written => exact ignored sat_cancelOrder_recorded

/-- Once a write of a service was interrupted, no later call reaches the broker, and one that
comes to its preflight leaves the service halted, whatever happened in between. -/
theorem interrupted_write_latch {g₀ : Ambient B} {before after : List (Ended (Ambient B) Exc Ans Unit
      GuardedCall)} {e : Ended (Ambient B) Exc Ans Unit GuardedCall}
    (run : Serial anyMeanwhile LatchKept (GuardedCall.body svc) g₀ (before ++ e :: after) g)
    (interrupted : Interrupted e.history) :
    (∀ later ∈ after, Unwritten later.history ∧
      (later.call.AtPreflight later.history → later.final.safety.state = .halted)) ∧
    ∀ (c : GuardedCall) (h : History) (op : Op) (k : Except Exc (Ans op) → Program B Unit)
      (g' : Ambient B), Passes anyMeanwhile (c.body svc) g h (.await op k) g' →
      op.isBrokerWrite = false := by
  obtain ⟨first, rest⟩ := run.split
  obtain ⟨g₁, passes⟩ := first.passed (e := e) (by simp)
  have latched : Latched e.final := by
    have recorded : Sat meanwhile Recorded (lift e.outcome) ([] ++ e.history) e.final :=
      (sat_body_recorded e.call).passes passes
    rw [sat_lift] at recorded
    exact recorded (by simpa using interrupted)
  have kept := rest.sound (P := Blocked) (fun latched moved => LatchKept.latched moved latched)
    (fun c _ latched => sat_body_latched c latched) latched
  constructor
  · intro later member
    obtain ⟨unwritten, denied⟩ := kept.2 later member
    exact ⟨unwritten, fun reached => (denied reached).1⟩
  · intro c h op k g' passes
    exact ((sat_body_latched c kept.1).passes passes).1

end ExecutionService

namespace Sample

/-- The broker call of a placement is cancelled, or everything goes well. -/
def cutOff (cut : Bool) (op : Op) (g : Ambient Unit) : Except Exc (Ans op) × Ambient Unit :=
  match op with
  | .placeOptionOrder command contract =>
    (if cut then .error .cancelled else answers (.placeOptionOrder command contract), g)
  | op => (answers op, g)

theorem cutOff_meanwhile (cut : Bool) (op : Op) (g : Ambient Unit) :
    anyMeanwhile op g (cutOff cut op g).1 (cutOff cut op g).2 := by
  unfold anyMeanwhile LatchKept cutOff
  split <;> rfl

def isCutWrite : Done Exc Ans → Bool
  | ⟨op, .error .cancelled⟩ => op.isBrokerWrite
  | _ => false

theorem interrupted_of_cut {h : History} (found : h.any isCutWrite = true) : Interrupted h := by
  obtain ⟨item, member, cut⟩ := List.any_eq_true.mp found
  obtain ⟨before, after, split⟩ := List.append_of_mem member
  unfold isCutWrite at cut
  split at cut
  next op => exact ⟨before, op, after, split, Or.inl cut⟩
  · cases cut

def isUnusedFingerprint : Done Exc Ans → Bool
  | ⟨.findIntentByFingerprint _, .ok none⟩ => true
  | _ => false

theorem unused_of_found {h : History} (found : h.any isUnusedFingerprint = true) :
    ∃ fingerprint, ⟨.findIntentByFingerprint fingerprint, .ok none⟩ ∈ h := by
  obtain ⟨item, member, unused⟩ := List.any_eq_true.mp found
  unfold isUnusedFingerprint at unused
  split at unused
  · exact ⟨_, member⟩
  · cases unused

def placing (id : Nat) : Program Unit Unit :=
  (GuardedCall.execute (proposal id) none ⟨⟨1⟩, ⟨2⟩, ⟨3⟩⟩).body service

/-- What the interrupted call leaves, once the operator has resumed the controller. -/
def resumed : Ambient Unit :=
  { ((placing 1).run (cutOff true) surroundings).2 with safety := surroundings.safety }

def interruptedCall : Ended (Ambient Unit) Exc Ans Unit GuardedCall where
  call := .execute (proposal 1) none ⟨⟨1⟩, ⟨2⟩, ⟨3⟩⟩
  history := trace (cutOff true) (placing 1) surroundings
  outcome := ((placing 1).run (cutOff true) surroundings).1
  final := ((placing 1).run (cutOff true) surroundings).2

def blockedCall : Ended (Ambient Unit) Exc Ans Unit GuardedCall where
  call := .execute (proposal 2) none ⟨⟨1⟩, ⟨2⟩, ⟨3⟩⟩
  history := trace (cutOff false) (placing 2) resumed
  outcome := ((placing 2).run (cutOff false) resumed).1
  final := ((placing 2).run (cutOff false) resumed).2

end Sample

open Sample ExecutionService in
/-- A placement is cancelled at the broker, the controller is resumed to NORMAL, and a second
proposal comes to its preflight. -/
theorem interrupted_write_latch_resumed :
    Serial anyMeanwhile LatchKept (GuardedCall.body service) surroundings
        ([] ++ interruptedCall :: [blockedCall]) blockedCall.final ∧
      Interrupted interruptedCall.history ∧ resumed.safety.state = .normal ∧
      blockedCall.call.AtPreflight blockedCall.history ∧ Unwritten blockedCall.history ∧
      blockedCall.final.safety.state = .halted := by
  have none_yet : Serial anyMeanwhile LatchKept (GuardedCall.body service) surroundings []
      surroundings := .none
  have first := none_yet.call (c := interruptedCall.call)
    (passes_trace (cutOff true) (cutOff_meanwhile true) (placing 1) surroundings)
  have idle : LatchKept interruptedCall.final resumed := rfl
  have run : Serial anyMeanwhile LatchKept (GuardedCall.body service) surroundings
      ([] ++ interruptedCall :: [blockedCall]) blockedCall.final :=
    (first.idle idle).call (c := blockedCall.call)
      (passes_trace (cutOff false) (cutOff_meanwhile false) (placing 2) resumed)
  have cut : Interrupted interruptedCall.history := interrupted_of_cut (by decide +kernel)
  have preflight : blockedCall.call.AtPreflight blockedCall.history :=
    unused_of_found (by decide +kernel)
  have latch := interrupted_write_latch run cut
  obtain ⟨unwritten, halted⟩ := latch.1 blockedCall (by simp)
  exact ⟨run, cut, rfl, preflight, unwritten, halted preflight⟩

end Sentry
