import Sentry.Execution.Guarantees
import Sentry.Execution.InterruptedWrites
import Sentry.Support.Attempts

/-!
# What a denied cancellation leaves behind

A cancellation saves its intent before it asks for the broker's capabilities, and an intent
without a command is unresolved. Stated here is when a cancellation that ends with a denial,
without having reached the broker, leaves the unresolved intents as they were.
-/
namespace Sentry

open Support Coroutine

/-- A denial or a validation error. -/
def Exc.isDenial : Exc → Bool
  | .executionDenied _ | .duplicateOrder _ | .valueError _ | .typeError _ => true
  | _ => false

namespace Rows

/-- A command is saved after its intent. -/
def Founded (d : Rows) : Prop :=
  ∀ command ∈ d.commandIntents, ∃ intent ∈ d.orderIntents, intent.intentId = command.orderIntentId

instance (d : Rows) : Decidable d.Founded := inferInstanceAs (Decidable (∀ _ ∈ _, _))

/-- One intent was added, and what is kept under other intents is as it was. -/
structure Beside (intent : OrderIntent) (d d' : Rows) : Prop where
  intents : d'.orderIntents = d.orderIntents ++ [intent]
  commands : ∀ id, id ≠ intent.intentId →
    d'.getCommandForOrderIntent id = d.getCommandForOrderIntent id
  orders : ∀ id, id ≠ intent.intentId → d'.getOrder id = d.getOrder id

variable {d d' : Rows} {intent : OrderIntent}

theorem mem_unresolvedIntents {other : OrderIntent} :
    other ∈ d.unresolvedIntents ↔ other ∈ d.orderIntents ∧ d.unresolved other = true := by
  simp [unresolvedIntents]

theorem beside_addIntent : Beside intent d (d.addIntent intent) :=
  ⟨rfl, fun _ _ => rfl, fun _ _ => rfl⟩

theorem Beside.addCommand {command : BrokerCommandIntent} (beside : Beside intent d d')
    (own : command.orderIntentId = intent.intentId) : Beside intent d (d'.addCommand command) where
  intents := beside.intents
  commands := by
    intro id other
    rw [← beside.commands id other]
    have apart : command.orderIntentId ≠ id := fun same => other (same ▸ own)
    simp [getCommandForOrderIntent, Rows.addCommand, apart]
  orders := beside.orders

theorem Beside.addOrder {order : BrokerOrder} (beside : Beside intent d d')
    (own : order.intentId = intent.intentId) : Beside intent d (d'.addOrder order) where
  intents := beside.intents
  commands := beside.commands
  orders := by
    intro id other
    have apart : order.intentId ≠ id := fun same => other (same ▸ own)
    rw [getOrder_addOrder_of_ne d' apart]
    exact beside.orders id other

/-- The unresolved intents are as they were if and only if the new one is resolved. -/
theorem Beside.unresolvedIntents_iff (beside : Beside intent d d')
    (apart : ∀ other ∈ d.orderIntents, Apart other intent) :
    (∀ other, other ∈ d'.unresolvedIntents ↔ other ∈ d.unresolvedIntents) ↔
      d'.unresolved intent = false := by
  have new : intent ∉ d.orderIntents := fun member => (apart intent member).1 rfl
  constructor
  · intro same
    by_contra unresolved
    have member : intent ∈ d'.unresolvedIntents :=
      mem_unresolvedIntents.mpr ⟨by simp [beside.intents], by simpa using unresolved⟩
    exact new (mem_unresolvedIntents.mp ((same intent).mp member)).1
  · intro resolved other
    rw [mem_unresolvedIntents, mem_unresolvedIntents, beside.intents, List.mem_append,
      List.mem_singleton]
    have old : other ∈ d.orderIntents → d'.unresolved other = d.unresolved other := by
      intro member
      have named := (apart other member).1
      rw [unresolved, unresolved, beside.commands _ named, beside.orders _ named]
    constructor
    · rintro ⟨member | rfl, open_⟩
      · exact ⟨member, old member ▸ open_⟩
      · rw [resolved] at open_
        cases open_
    · rintro ⟨member, open_⟩
      exact ⟨Or.inl member, (old member).symm ▸ open_⟩

end Rows

/-! ### The surroundings of a cancellation -/

/-- An operation that no denial answers: a row that has no key is appended. -/
def Op.appends : Op → Bool
  | .saveOrder _ | .recordTransition _ => true
  | _ => false

variable {B : Type}

/-- What the call asks of its store is all that happens to the rows, and an operation that is
denied changes nothing. -/
def StoreMoves (rows : B → Rows) (op : Op) (g : Ambient B) (r : Except Exc (Ans op))
    (g' : Ambient B) : Prop :=
  performs op (rows g.broker) r (rows g'.broker) ∧
    ∀ e, r = .error e → e.isDenial = true → rows g'.broker = rows g.broker ∧ op.appends = false

namespace ExecutionService

variable {rows : B → Rows} {svc : ExecutionService} {target : BrokerOrder} {limitPrice : Decimal}
  {written : limitPrice.val = target.limitPrice} {d : Rows} {h : History} {g : Ambient B}

/-- The arguments that a cancellation shows to the capability. -/
def cancelArguments (svc : ExecutionService) (target : BrokerOrder) : Json :=
  .obj [("order_id", .str (cancelTargetId target)),
    ("client_order_id",
      .str (svc.idempotencyKey (svc.cancelFingerprint target) .cancelOptionOrder))]

/-- The gates that follow the durable intent. -/
def Offers (svc : ExecutionService) (target : BrokerOrder) (capabilities : BrokerCapabilities) :
    Prop :=
  ∃ capability arguments,
    capabilities.descriptorForAction .cancelOptionOrder = some capability ∧
      capabilities.cancelOptionOrders = true ∧
      ¬ (svc.environment = .demo ∧ capabilities.externalWritesEnabled = true) ∧
      svc.validate capability (svc.cancelArguments target) = .ok arguments

/-- Whatever capabilities the broker answered pass the gates, and the command was taken. -/
def Offered (svc : ExecutionService) (target : BrokerOrder) (h : History) : Prop :=
  (∀ r, ⟨.getCapabilities, r⟩ ∈ h → ∃ capabilities, r = .ok capabilities ∧
    svc.Offers target capabilities) ∧
  ∀ command r, ⟨.saveCommandIntent command, r⟩ ∈ h → r = .ok ()

/-- What is to be shown of a cancellation that ends. -/
def DenialSettled (svc : ExecutionService) (target : BrokerOrder) (rows : B → Rows) (d : Rows)
    {α : Type} : Post (Ambient B) Exc Ans α :=
  fun h g r => ∀ e, r = .error e → e.isDenial = true →
    (∀ command id answer, ⟨.cancelOptionOrder command id, answer⟩ ∉ h) →
      ((∀ intent, intent ∈ (rows g.broker).unresolvedIntents ↔ intent ∈ d.unresolvedIntents) ↔
        svc.Offered target h)

/-! ### Up to the durable intent -/

theorem offered_append {h' : History} :
    svc.Offered target (h ++ h') ↔ svc.Offered target h ∧ svc.Offered target h' := by
  simp only [Offered, List.mem_append, or_imp, forall_and]
  tauto

/-- An operation whose answer the gates do not depend on. -/
def ungated : Op → Bool
  | .getCapabilities | .saveCommandIntent _ => false
  | _ => true

theorem Offered.snoc (offered : svc.Offered target h) {op : Op} {r : Except Exc (Ans op)}
    (free : ungated op = true) : svc.Offered target (h ++ [⟨op, r⟩]) := by
  apply offered_append.mpr
  refine ⟨offered, ?_, ?_⟩
  · intro r asked
    cases List.mem_singleton.mp asked
    cases free
  · intro command r asked
    cases List.mem_singleton.mp asked
    cases free

theorem Offered.capabilities (offered : svc.Offered target h) {capabilities : BrokerCapabilities}
    (offers : svc.Offers target capabilities) :
    svc.Offered target (h ++ [⟨.getCapabilities, .ok capabilities⟩]) := by
  apply offered_append.mpr
  refine ⟨offered, ?_, ?_⟩
  · intro r asked
    cases List.mem_singleton.mp asked
    exact ⟨capabilities, rfl, offers⟩
  · intro command r asked
    cases List.mem_singleton.mp asked

theorem Offered.command (offered : svc.Offered target h) {command : BrokerCommandIntent} :
    svc.Offered target (h ++ [⟨.saveCommandIntent command, .ok ()⟩]) := by
  apply offered_append.mpr
  refine ⟨offered, ?_, ?_⟩
  · intro r asked
    cases List.mem_singleton.mp asked
  · intro other r asked
    cases List.mem_singleton.mp asked
    rfl

/-- Nothing was saved yet. -/
structure Early (svc : ExecutionService) (target : BrokerOrder) (rows : B → Rows) (d : Rows)
    (h : History) (g : Ambient B) : Prop where
  rows : rows g.broker = d
  offered : svc.Offered target h

theorem Early.settled {α : Type} {r : Except Exc α} (early : Early svc target rows d h g) :
    DenialSettled svc target rows d h g r := by
  intro e _ _ _
  rw [early.rows]
  exact ⟨fun _ => early.offered, fun _ _ => Iff.rfl⟩

theorem Early.snoc (early : Early svc target rows d h g) {op : Op} {r : Except Exc (Ans op)}
    {g' : Ambient B} (free : ungated op = true) (same : rows g'.broker = rows g.broker) :
    Early svc target rows d (h ++ [⟨op, r⟩]) g' :=
  ⟨same.trans early.rows, early.offered.snoc free⟩

/-! ### After the durable intent -/

/-- The intent is saved, and so is its command. -/
structure Commanded (intent : OrderIntent) (d d' : Rows) : Prop where
  beside : Rows.Beside intent d d'
  command : ∃ command ∈ d'.commandIntents, command.orderIntentId = intent.intentId

theorem Commanded.saveOrder {intent : OrderIntent} {order : BrokerOrder} {d' d'' : Rows}
    (commanded : Commanded intent d d') (own : order.intentId = intent.intentId)
    (saved : performs (.saveOrder order) d' (.ok ()) d'') : Commanded intent d d'' := by
  rcases saved.1 with rfl | rfl
  · exact commanded
  · exact ⟨commanded.beside.addOrder own, commanded.command⟩

/-- A rejected order of a commanded intent resolves it. -/
theorem Commanded.resolved {intent : OrderIntent} {order : BrokerOrder} {d' : Rows}
    (commanded : Commanded intent d d') (found : d'.getOrder intent.intentId = some order)
    (rejected : order.state = .rejected) : d'.unresolved intent = false := by
  obtain ⟨command, member, own⟩ := commanded.command
  have known : (d'.getCommandForOrderIntent intent.intentId).isSome = true := by
    rw [Rows.getCommandForOrderIntent, List.find?_isSome]
    exact ⟨command, member, by simpa using own⟩
  have listed := Option.isNone_eq_false_iff.mpr known
  simp [Rows.unresolved, listed, found, rejected]

theorem unresolved_of_uncommanded {intent : OrderIntent} {d' : Rows}
    (bare : d'.getCommandForOrderIntent intent.intentId = none) : d'.unresolved intent = true := by
  simp [Rows.unresolved, bare]

/-- A denial that leaves the intent without a command. -/
theorem settled_uncommanded {α : Type} {r : Except Exc α} {intent : OrderIntent}
    (beside : Rows.Beside intent d (rows g.broker))
    (apart : ∀ other ∈ d.orderIntents, Rows.Apart other intent)
    (bare : (rows g.broker).getCommandForOrderIntent intent.intentId = none)
    (refused : ¬ svc.Offered target h) : DenialSettled svc target rows d h g r := by
  intro e _ _ _
  rw [beside.unresolvedIntents_iff apart, unresolved_of_uncommanded bare]
  constructor
  · intro resolved
    cases resolved
  · intro offered
    exact absurd offered refused

theorem settled_appended {α : Type} {op : Op} {e : Exc} {g' : Ambient B}
    (moved : StoreMoves rows op g (.error e) g') (appended : op.appends = true) :
    DenialSettled svc target rows d (α := α) (h ++ [⟨op, .error e⟩]) g' (.error e) := by
  intro e' raised denial
  cases raised
  have never := (moved.2 e rfl denial).2
  rw [appended] at never
  cases never

theorem sat_refuseExternalWrites {S : Spec (Ambient B) Exc Ans}
    {capabilities : BrokerCapabilities} {Q : Post (Ambient B) Exc Ans Unit}
    (refused : svc.environment = .demo ∧ capabilities.externalWritesEnabled = true →
      ∀ g' e, g'.broker = g.broker → Q h g' (.error e))
    (passed : ¬ (svc.environment = .demo ∧ capabilities.externalWritesEnabled = true) →
      Q h g (.ok ())) :
    Sat S Q (svc.refuseExternalWrites capabilities) h g := by
  unfold refuseExternalWrites
  split
  next authority => exact refused authority _ _ rfl
  next harmless => exact passed harmless

/-- A denial of the capabilities, which the gates did not let through. -/
theorem settled_withheld {α : Type} {ended : Except Exc α} {intent : OrderIntent} {g' : Ambient B}
    {r : Except Exc BrokerCapabilities} (apart : ∀ other ∈ d.orderIntents, Rows.Apart other intent)
    (beside : Rows.Beside intent d (rows g.broker))
    (bare : (rows g.broker).getCommandForOrderIntent intent.intentId = none)
    (same : rows g'.broker = rows g.broker)
    (lacking : ∀ capabilities, r = .ok capabilities → ¬ svc.Offers target capabilities) :
    DenialSettled svc target rows d (h ++ [⟨.getCapabilities, r⟩]) g' ended := by
  apply settled_uncommanded (same ▸ beside) apart (same ▸ bare)
  intro offered
  obtain ⟨capabilities, answered, offers⟩ := offered.1 r (by simp)
  exact lacking capabilities answered offers

/-- The command of the intent was taken. -/
theorem Commanded.of_saved {intent : OrderIntent} {command : BrokerCommandIntent} {d' d'' : Rows}
    (beside : Rows.Beside intent d d') (own : command.orderIntentId = intent.intentId)
    (saved : performs (.saveCommandIntent command) d' (.ok ()) d'') : Commanded intent d d'' := by
  refine ⟨?_, _, saved.2 rfl, own⟩
  rcases saved.1 with rfl | rfl
  · exact beside
  · exact beside.addCommand own

/-- A rejected order of a commanded intent is the last one, and resolves it. -/
theorem sat_rejectPending_settled {intent : OrderIntent} {order : BrokerOrder} {reason : String}
    {e : Exc} (apart : ∀ other ∈ d.orderIntents, Rows.Apart other intent)
    (commanded : Commanded intent d (rows g.broker)) (own : order.intentId = intent.intentId)
    (rejected : order.state = .rejected) (offered : svc.Offered target h) :
    Sat ⟨fun _ _ _ => True, StoreMoves rows⟩ (DenialSettled svc target rows d)
      (do
        ask (.saveOrder order)
        transition intent.intentId .submitting .rejected reason
        raise e : Program B CancellationResult) h g := by
  apply Sat.call_bind trivial
  · exact fun e g₁ moved₁ => settled_appended moved₁ rfl
  intro _ g₁ moved₁
  have commanded₁ := commanded.saveOrder own moved₁.1
  have found := moved₁.1.2 rfl
  rw [sat_bind]
  apply sat_transition rfl (fun _ => trivial)
  intro r g₂ moved₂
  cases r with
  | error e => exact settled_appended moved₂ rfl
  | ok _ =>
    have same₂ : rows g₂.broker = rows g₁.broker := moved₂.1
    intro e _ _ _
    rw [same₂, commanded₁.beside.unresolvedIntents_iff apart,
      commanded₁.resolved (own ▸ found) rejected]
    simp only [true_iff]
    exact (offered.snoc rfl).snoc rfl

theorem sat_submitCancellation_settled {intent : OrderIntent} {original : BrokerCommandIntent}
    {observed effective : AccountSnapshot}
    (key : intent.idempotencyKey =
      svc.idempotencyKey (svc.cancelFingerprint target) .cancelOptionOrder)
    (apart : ∀ other ∈ d.orderIntents, Rows.Apart other intent)
    (beside : Rows.Beside intent d (rows g.broker))
    (bare : (rows g.broker).getCommandForOrderIntent intent.intentId = none)
    (offered : svc.Offered target h) :
    Sat ⟨fun _ _ _ => True, StoreMoves rows⟩ (DenialSettled svc target rows d)
      (svc.submitCancellation target limitPrice written original intent observed effective) h g := by
  -- the gates of the source in its order, each with the conjunct of `Offers` it denies
  unfold submitCancellation
  apply Sat.call_bind trivial
  · exact fun e g₁ moved => settled_withheld apart beside bare moved.1 (by simp)
  intro capabilities g₁ moved₁
  have same₁ : rows g₁.broker = rows g.broker := moved₁.1
  have lacking : ∀ (g' : Ambient B) (ended : Except Exc CancellationResult),
      g'.broker = g₁.broker → ¬ svc.Offers target capabilities →
      DenialSettled svc target rows d (h ++ [⟨.getCapabilities, .ok capabilities⟩]) g' ended := by
    intro g' ended same not
    apply settled_withheld apart beside bare (by rw [same, same₁])
    rintro other ⟨⟩
    exact not
  split
  next missing =>
    apply lacking _ _ rfl
    rintro ⟨capability, arguments, offered, -⟩
    rw [missing] at offered
    cases offered
  next capability found =>
  apply Sat.raiseIf_bind
  · intro disabled
    apply lacking _ _ rfl
    rintro ⟨other, arguments, -, enabled, -⟩
    simp [enabled] at disabled
  intro enabled
  rw [sat_bind]
  apply sat_refuseExternalWrites
  · intro authority g' e same
    apply lacking _ _ same
    rintro ⟨other, arguments, -, -, harmless, -⟩
    exact harmless authority
  intro harmless
  apply Sat.lift_bind
  · intro e invalid
    apply lacking _ _ rfl
    rintro ⟨other, arguments, same, -, -, valid⟩
    rw [found] at same
    cases same
    rw [cancelArguments, ← key, invalid] at valid
    cases valid
  intro arguments valid
  have offers : svc.Offers target capabilities := by
    rw [key] at valid
    exact ⟨capability, arguments, found, by simpa using enabled, harmless, valid⟩
  apply Sat.peek_bind
  apply Sat.call_bind trivial
  · -- the command was refused
    intro e g₂ moved₂ e' raised denial
    cases raised
    have same₂ := (moved₂.2 e rfl denial).1.trans same₁
    refine settled_uncommanded (α := CancellationResult) (r := .error e) (same₂ ▸ beside) apart
      (same₂ ▸ bare) ?_ e rfl denial
    intro offered
    have taken := offered.2 _ _ (List.mem_append_right _ (List.mem_singleton_self _))
    cases taken
  intro _ g₂ moved₂
  -- from here on the intent has its command
  rw [← same₁] at beside
  have commanded₂ : Commanded intent d (rows g₂.broker) := .of_saved beside rfl moved₂.1
  apply Sat.call_bind trivial
  · exact fun e g₃ moved₃ => settled_appended moved₃ rfl
  intro _ g₃ moved₃
  have commanded₃ := commanded₂.saveOrder rfl moved₃.1
  rw [sat_bind]
  apply sat_transition rfl (fun _ => trivial)
  intro r g₄ moved₄
  cases r with
  | error e => exact settled_appended moved₄ rfl
  | ok _ =>
  have same₄ : rows g₄.broker = rows g₃.broker := moved₄.1
  apply Sat.peek_bind
  split
  · rw [← same₄] at commanded₃
    exact sat_rejectPending_settled apart commanded₃ rfl rfl
      (((offered.capabilities offers).command.snoc rfl).snoc rfl)
  · -- the broker was asked, so nothing is claimed
    change _ ∧ _
    refine ⟨trivial, fun r g₅ _ => ?_⟩
    apply (keeps_true _).sat (fun _ _ _ => trivial) (fun _ _ _ _ _ _ => trivial) _ trivial
    intro rest g' ended _ e _ _ unsent
    exact absurd (by simp) (unsent _ _ r)

/-- The fingerprint was found to be free. -/
theorem sat_refuseDuplicate_free {fingerprint unresolved existing : String}
    {Q : Post (Ambient B) Exc Ans Unit} (early : Early svc target rows d h g)
    (denied : ∀ h g e, Early svc target rows d h g → Q h g (.error e))
    (free : ∀ h g, Early svc target rows d h g → d.findIntentByFingerprint fingerprint = none →
      Q h g (.ok ())) :
    Sat ⟨fun _ _ _ => True, StoreMoves rows⟩ Q (refuseDuplicate fingerprint unresolved existing)
      h g := by
  apply Sat.call_bind trivial
  · exact fun e g₁ moved => denied _ _ _ (early.snoc rfl moved.1.1)
  intro found g₁ moved₁
  have early₁ := early.snoc (r := .ok found) rfl moved₁.1.1
  cases found with
  | none =>
    have read := moved₁.1.2 none rfl
    rw [early.rows] at read
    exact free _ _ early₁ read.symm
  | some intent =>
    apply Sat.call_bind trivial
    · exact fun e g₂ moved => denied _ _ _ (early₁.snoc rfl moved.1.1)
    intro order g₂ moved₂
    have early₂ := early₁.snoc (r := .ok order) rfl moved₂.1.1
    exact Sat.raiseIf_bind (fun _ => denied _ _ _ early₂) (fun _ => denied _ _ _ early₂)

/-- An intent whose fingerprint was free is new when the store has taken it. -/
theorem taken_new {intent : OrderIntent} {d' : Rows}
    (free : d.findIntentByFingerprint intent.orderFingerprint = none)
    (saved : performs (.saveOrderIntent intent) d (.ok ()) d') :
    (∀ other ∈ d.orderIntents, Rows.Apart other intent) ∧ d' = d.addIntent intent := by
  rcases saved.1 with rfl | ⟨apart, added⟩
  · have absent := List.find?_eq_none.mp free intent (saved.2 rfl)
    simp at absent
  · exact ⟨apart, added⟩

theorem sat_cancelOrder_settled (founded : d.Founded) (same : rows g.broker = d) :
    Sat ⟨fun _ _ _ => True, StoreMoves rows⟩ (DenialSettled svc target rows d)
      (svc.cancelOrder target limitPrice written) [] g := by
  have start : ∀ g' : Ambient B, g'.broker = g.broker → Early svc target rows d [] g' := by
    intro g' unmoved
    refine ⟨by rw [unmoved, same], ?_, ?_⟩
    · intro r asked
      cases asked
    · intro command r asked
      cases asked
  -- until the intent is saved, every denial leaves the rows as they were
  rw [cancelOrder, sat_bind, denyInterruptedWrites]
  apply Sat.peek_bind
  split
  swap
  · exact (start _ rfl).settled
  apply Sat.raiseIf_bind (fun _ => (start _ rfl).settled)
  intro _
  apply Sat.raiseIf_bind (fun _ => (start _ rfl).settled)
  intro _
  apply Sat.peek_bind
  apply Sat.raiseIf_bind (fun _ => (start _ rfl).settled)
  intro _
  apply Sat.peek_bind
  apply Sat.raiseIf_bind (fun _ => (start _ rfl).settled)
  intro _
  apply Sat.call_bind trivial
  · exact fun e g₁ moved => ((start _ rfl).snoc rfl moved.1.1).settled
  intro originalIntent g₁ moved₁
  have early₁ := (start _ rfl).snoc (r := .ok originalIntent) rfl moved₁.1.1
  apply Sat.call_bind trivial
  · exact fun e g₂ moved => (early₁.snoc rfl moved.1.1).settled
  intro originalCommand g₂ moved₂
  have early₂ := early₁.snoc (r := .ok originalCommand) rfl moved₂.1.1
  rcases originalIntent with _ | original
  · exact early₂.settled
  rcases originalCommand with _ | originalCommand
  · exact early₂.settled
  apply Sat.call_bind trivial
  · exact fun e g₃ moved => (early₂.snoc rfl moved.1).settled
  intro effective g₃ moved₃
  have early₃ := early₂.snoc (r := .ok effective) rfl moved₃.1
  apply Sat.call_bind trivial
  · exact fun e g₄ moved => (early₃.snoc rfl moved.1).settled
  intro observed g₄ moved₄
  have early₄ := early₃.snoc (r := .ok observed) rfl moved₄.1
  apply Sat.call_bind trivial
  · exact fun e g₅ moved => (early₄.snoc rfl moved.1).settled
  intro report g₅ moved₅
  have early₅ := early₄.snoc (r := .ok report) rfl moved₅.1
  apply Sat.call_bind trivial
  · exact fun e g₆ moved => (early₅.snoc rfl moved.1).settled
  intro _ g₆ moved₆
  have early₆ := early₅.snoc (r := (.ok () : Except Exc (Ans (.saveReconciliation report)))) rfl
    moved₆.1
  apply Sat.raiseIf_bind (fun _ => early₆.settled)
  intro _
  rw [sat_bind]
  apply sat_refuseDuplicate_free early₆
  · exact fun h g e early => early.settled
  intro h₇ g₇ early₇ free
  apply Sat.peek_bind
  apply Sat.call_bind trivial
  · -- a denied intent was not saved
    intro e g₈ moved₈ e' raised denial
    cases raised
    have early₈ := early₇.snoc (r := (.error e : Except Exc (Ans (.saveOrderIntent
      (svc.cancelIntent target original g₇.now))))) rfl (moved₈.2 e rfl denial).1
    exact early₈.settled (α := CancellationResult) (r := .error e) e rfl denial
  intro _ g₈ moved₈
  have saved := moved₈.1
  rw [early₇.rows] at saved
  obtain ⟨apart, added⟩ := taken_new free saved
  apply sat_submitCancellation_settled rfl apart
  · rw [added]
    exact Rows.beside_addIntent
  · -- no command precedes its intent
    rw [added]
    apply List.find?_eq_none.mpr
    intro command member own
    obtain ⟨other, held, named⟩ := founded command member
    exact (apart other held).1 (named.trans (by simpa using own))
  · exact early₇.offered.snoc rfl

/-- A cancellation that ends with a denial or a validation error, without having asked the
broker to cancel, leaves the unresolved intents as they were if and only if whatever
capabilities it was shown pass its gates and its command was taken. -/
theorem denied_cancellation_unresolved_iff (rows : B → Rows) (svc : ExecutionService)
    (target : BrokerOrder) (limitPrice : Decimal) (written : limitPrice.val = target.limitPrice)
    (g g' : Ambient B) (h : History) (e : Exc) (founded : (rows g.broker).Founded)
    (passes : Passes (StoreMoves rows) (svc.cancelOrder target limitPrice written) g h (.raise e) g')
    (denial : e.isDenial = true)
    (unsent : ∀ command id answer, ⟨.cancelOptionOrder command id, answer⟩ ∉ h) :
    (∀ intent, intent ∈ (rows g'.broker).unresolvedIntents ↔
        intent ∈ (rows g.broker).unresolvedIntents) ↔ svc.Offered target h := by
  have settled : DenialSettled svc target rows (rows g.broker) h g' (.error e) :=
    (sat_cancelOrder_settled founded rfl).passes passes
  exact settled e rfl denial unsent

end ExecutionService

/-! ### The in-memory store denies nothing it has written -/

namespace InMemoryExecutionStore

variable {d : Rows} {e : Exc}

theorem saveOrderIntent_failed {intent : OrderIntent}
    (failed : (saveOrderIntent intent d).1 = .error e) : (saveOrderIntent intent d).2 = d := by
  unfold saveOrderIntent at failed ⊢
  split
  · rfl
  next freeId =>
    rw [if_neg freeId] at failed
    split
    · rfl
    next freeFingerprint =>
      rw [if_neg freeFingerprint] at failed
      split
      · rfl
      next freeKey =>
        rw [if_neg freeKey] at failed
        cases failed

theorem saveCommandIntent_failed {command : BrokerCommandIntent}
    (failed : (saveCommandIntent command d).1 = .error e) :
    (saveCommandIntent command d).2 = d := by
  unfold saveCommandIntent at failed ⊢
  split
  · rfl
  next free =>
    rw [if_neg free] at failed
    split
    · rfl
    next known =>
      rw [if_neg known] at failed
      cases failed

theorem saveOrder_failed {order : BrokerOrder} (failed : (saveOrder order d).1 = .error e) :
    e.isDenial = false := by
  unfold saveOrder at failed
  split at failed
  · cases failed
    rfl
  · cases failed

/-- A denied operation has changed nothing, where the other collaborators take every transition. -/
theorem perform_denied {others : (op : Op) → Except Exc (Ans op)}
    (plain : ∀ record, others (.recordTransition record) = .ok ()) {op : Op}
    (failed : (perform others op d).1 = .error e) (denial : e.isDenial = true) :
    (perform others op d).2 = d ∧ op.appends = false := by
  cases op with
  | saveOrderIntent intent => exact ⟨saveOrderIntent_failed failed, rfl⟩
  | saveCommandIntent command => exact ⟨saveCommandIntent_failed failed, rfl⟩
  | saveOrder order =>
    rw [saveOrder_failed failed] at denial
    cases denial
  | recordTransition record =>
    have taken := (plain record).symm.trans failed
    cases taken
  | _ => exact ⟨rfl, rfl⟩

end InMemoryExecutionStore

/-! ### A sample cancellation -/

namespace DenialSample

open Sample

def command : BrokerCommandIntent :=
  service.placeCommand (proposal 3) none placed
    ⟨"place_option_order", "place_option_order", "v1", "schema", false, .obj [], true⟩ (.obj [])
    quote account account 10

/-- An open order with its evidence. -/
def rows : Rows := { orderIntents := [placed], commandIntents := [command], orders := [openOrder] }

def ambient : Ambient Rows :=
  { tradingMode := .auto
    killSwitchActive := false
    healthy := true
    now := 20
    safety := surroundings.safety
    interruptedWriteIntents := []
    broker := rows }

/-- A broker that can cancel. -/
def capable : (op : Op) → Except Exc (Ans op)
  | .getCapabilities => .ok
      { descriptors :=
          [⟨"cancel_option_order", "cancel_option_order", "v1", "schema", false, .obj [], true⟩]
        cancelOptionOrders := true }
  | op => answers op

/-- Every operation is performed at once; saving an order trips the kill switch. -/
def handler (others : (op : Op) → Except Exc (Ans op)) (op : Op) (g : Ambient Rows) :
    Except Exc (Ans op) × Ambient Rows :=
  let done := InMemoryExecutionStore.perform others op g.broker
  (done.1, { g with broker := done.2, killSwitchActive := g.killSwitchActive || op.appends })

def cancellation : Program Rows CancellationResult :=
  service.cancelOrder openOrder (proposal 3).limitPrice rfl

theorem handler_moves {others : (op : Op) → Except Exc (Ans op)}
    (plain : ∀ record, others (.recordTransition record) = .ok ()) (op : Op) (g : Ambient Rows) :
    StoreMoves id op g (handler others op g).1 (handler others op g).2 :=
  ⟨InMemoryExecutionStore.perform_performs others op g.broker,
    fun _ failed denial => InMemoryExecutionStore.perform_denied plain failed denial⟩

theorem founded_rows : rows.Founded := by decide +kernel

/-- What the cancellation asked for and was told. -/
def told (others : (op : Op) → Except Exc (Ans op)) : History :=
  trace (handler others) cancellation ambient

def ended (others : (op : Op) → Except Exc (Ans op)) : Except Exc CancellationResult × Ambient Rows :=
  run (handler others) cancellation ambient

theorem passes_of_ended {others : (op : Op) → Except Exc (Ans op)} {e : Exc}
    (plain : ∀ record, others (.recordTransition record) = .ok ())
    (raised : (ended others).1 = .error e) :
    Passes (StoreMoves id) cancellation ambient (told others) (.raise e) (ended others).2 := by
  have passes := passes_trace (handler others) (handler_moves plain) cancellation ambient
  change Passes _ _ _ _ (lift (ended others).1) _ at passes
  rwa [raised] at passes

theorem unsent_of_unwritten {h : History}
    (unwritten : (h.all fun item => !item.op.isBrokerWrite) = true) :
    ∀ command id answer, ⟨.cancelOptionOrder command id, answer⟩ ∉ h := by
  intro command id answer asked
  exact absurd (List.all_eq_true.mp unwritten _ asked) Bool.false_ne_true

def raised {α : Type} : Except Exc α → Option Exc
  | .error e => some e
  | .ok _ => none

theorem eq_error_of_raised {α : Type} {r : Except Exc α} {e : Exc} (same : raised r = some e) :
    r = .error e := by
  cases r with
  | error e' =>
    cases same
    rfl
  | ok a => cases same

/-- Both runs, evaluated once. -/
theorem runs_denied :
    (raised (ended answers).1 =
        some (.executionDenied "required cancel-order capability is unavailable") ∧
      ((told answers).all fun item => !item.op.isBrokerWrite) = true ∧
      (ended answers).2.broker.unresolvedIntents.length = 1) ∧
    raised (ended capable).1 =
        some (.executionDenied "cancellation safety changed before transmission") ∧
      ((told capable).all fun item => !item.op.isBrokerWrite) = true := by
  decide +kernel

theorem denied_early : (ended answers).1 = .error
    (.executionDenied "required cancel-order capability is unavailable") :=
  eq_error_of_raised runs_denied.1.1

theorem denied_late : (ended capable).1 = .error
    (.executionDenied "cancellation safety changed before transmission") :=
  eq_error_of_raised runs_denied.2.1

end DenialSample

/-- The kill switch trips once the command is durable: the denial is recorded, and nothing is
left unresolved. -/
theorem denied_cancellation_unresolved_iff_late :
    (∀ intent, intent ∈ (DenialSample.ended DenialSample.capable).2.broker.unresolvedIntents ↔
        intent ∈ DenialSample.rows.unresolvedIntents) ↔
      Sample.service.Offered Sample.openOrder (DenialSample.told DenialSample.capable) :=
  ExecutionService.denied_cancellation_unresolved_iff id Sample.service Sample.openOrder _ rfl
    DenialSample.ambient _ _ _ DenialSample.founded_rows
    (DenialSample.passes_of_ended (fun _ => rfl) DenialSample.denied_late) rfl
    (DenialSample.unsent_of_unwritten DenialSample.runs_denied.2.2)

/-- A broker that cannot cancel: the denial leaves the saved intent unresolved. -/
theorem denied_cancellation_unresolved :
    ¬ ∀ (svc : ExecutionService) (target : BrokerOrder) (limitPrice : Decimal)
      (written : limitPrice.val = target.limitPrice) (g g' : Ambient Rows) (h : History) (e : Exc),
      g.broker.Founded → Passes (StoreMoves id) (svc.cancelOrder target limitPrice written) g h
        (.raise e) g' → e.isDenial = true →
      (∀ command id answer, ⟨.cancelOptionOrder command id, answer⟩ ∉ h) →
      ∀ intent, intent ∈ g'.broker.unresolvedIntents ↔ intent ∈ g.broker.unresolvedIntents := by
  intro same
  obtain ⟨-, unwritten, left⟩ := DenialSample.runs_denied.1
  obtain ⟨intent, unresolved⟩ := List.length_pos_iff_exists_mem.mp (left ▸ Nat.one_pos)
  have before := (same Sample.service Sample.openOrder _ rfl DenialSample.ambient _ _ _
    DenialSample.founded_rows (DenialSample.passes_of_ended (fun _ => rfl) DenialSample.denied_early)
    rfl (DenialSample.unsent_of_unwritten unwritten) intent).mp unresolved
  have none_ : DenialSample.rows.unresolvedIntents = [] := by decide +kernel
  rw [show DenialSample.ambient.broker = DenialSample.rows from rfl, none_] at before
  cases before

end Sentry
