import Mathlib.Data.List.Pairwise
import Sentry.Execution.Operations
import Sentry.Support.Dict

/-!
# The durable execution store

`Rows` is what an execution store keeps of intents, commands and orders, and
`performs` is what the service may rely on: an intent is added only while none of its
unique keys is taken, a write that returns has been made, and a write that fails may
have been made all the same. The in-memory store of `app/execution/service.py` and the
append of `app/execution/postgres_store.py` are shown to keep to it.
-/
namespace Sentry

open Support

/-! ### What a store keeps -/

/-- The rows of the tables, in the order they were appended. -/
structure Rows where
  orderIntents : List OrderIntent := []
  commandIntents : List BrokerCommandIntent := []
  orders : List BrokerOrder := []

namespace Rows

variable (d : Rows)

def getOrder (intentId : UUID) : Option BrokerOrder :=
  d.orders.reverse.find? fun order => order.intentId == intentId

def getOrderIntent (intentId : UUID) : Option OrderIntent :=
  d.orderIntents.find? fun intent => intent.intentId == intentId

def findIntentByFingerprint (fingerprint : String) : Option OrderIntent :=
  d.orderIntents.find? fun intent => intent.orderFingerprint == fingerprint

def getCommandForOrderIntent (intentId : UUID) : Option BrokerCommandIntent :=
  d.commandIntents.find? fun command => command.orderIntentId == intentId

/-- An intent is unresolved while its command or order is missing, or its order is still in
a state that does not tell whether the broker has it. -/
def unresolved (intent : OrderIntent) : Bool :=
  (d.getCommandForOrderIntent intent.intentId).isNone ||
    (d.getOrder intent.intentId).all fun order =>
      order.state == .submitting || order.state == .submissionUnknown

/-- `unresolved_intents`, newest first. -/
def unresolvedIntents : List OrderIntent := d.orderIntents.reverse.filter d.unresolved

/-- Two intents that a store may hold at once. -/
def Apart (a b : OrderIntent) : Prop :=
  a.intentId ≠ b.intentId ∧ a.orderFingerprint ≠ b.orderFingerprint ∧
    a.idempotencyKey ≠ b.idempotencyKey

instance (a b : OrderIntent) : Decidable (Apart a b) := inferInstanceAs (Decidable (_ ∧ _ ∧ _))

/-- The uniqueness keys of the intents. -/
def Keyed : Prop := d.orderIntents.Pairwise Apart

theorem eq_of_not_apart {d : Rows} (keyed : d.Keyed) {a b : OrderIntent}
    (ha : a ∈ d.orderIntents) (hb : b ∈ d.orderIntents) (shared : ¬ Apart a b) : a = b := by
  have symm : Std.Symm Apart := ⟨fun a b apart => ⟨apart.1.symm, apart.2.1.symm, apart.2.2.symm⟩⟩
  by_contra other
  exact shared (List.Pairwise.forall keyed ha hb other)

def addIntent (intent : OrderIntent) : Rows :=
  { d with orderIntents := d.orderIntents ++ [intent] }

def addCommand (command : BrokerCommandIntent) : Rows :=
  { d with commandIntents := d.commandIntents ++ [command] }

def addOrder (order : BrokerOrder) : Rows := { d with orders := d.orders ++ [order] }

theorem keyed_addIntent {d : Rows} {intent : OrderIntent} (keyed : d.Keyed)
    (free : ∀ other ∈ d.orderIntents, Apart other intent) : (d.addIntent intent).Keyed := by
  simp only [Keyed, addIntent, List.pairwise_append]
  exact ⟨keyed, List.pairwise_singleton _ _, by simpa using free⟩

@[simp] theorem getOrder_addOrder (order : BrokerOrder) :
    (d.addOrder order).getOrder order.intentId = some order := by
  simp [getOrder, addOrder]

theorem getOrder_addOrder_of_ne {order : BrokerOrder} {id : UUID} (other : order.intentId ≠ id) :
    (d.addOrder order).getOrder id = d.getOrder id := by
  simp [getOrder, addOrder, other]

theorem getOrder_mem {d : Rows} {id : UUID} {order : BrokerOrder}
    (found : d.getOrder id = some order) : order ∈ d.orders ∧ order.intentId = id := by
  have member := List.mem_of_find?_eq_some found
  have same := List.find?_some found
  exact ⟨List.mem_reverse.mp member, by simpa using same⟩

end Rows

/-- What an operation does to the rows and how it may be answered. Only the store's own
operations touch them; the answers of the other collaborators are free. -/
def performs : (op : Op) → Rows → Except Exc (Ans op) → Rows → Prop
  | .saveOrderIntent intent, d, r, d' =>
    (d' = d ∨ (∀ other ∈ d.orderIntents, Rows.Apart other intent) ∧ d' = d.addIntent intent) ∧
      (r = .ok () → intent ∈ d'.orderIntents)
  | .saveCommandIntent command, d, r, d' =>
    (d' = d ∨ d' = d.addCommand command) ∧ (r = .ok () → command ∈ d'.commandIntents)
  | .saveOrder order, d, r, d' =>
    (d' = d ∨ d' = d.addOrder order) ∧
      (r = .ok () → d'.getOrder order.intentId = some order)
  | .findIntentByFingerprint fingerprint, d, r, d' =>
    d' = d ∧ ∀ found, r = .ok found → found = d.findIntentByFingerprint fingerprint
  | .getOrder id, d, r, d' => d' = d ∧ ∀ found, r = .ok found → found = d.getOrder id
  | .getOrderIntent id, d, r, d' => d' = d ∧ ∀ found, r = .ok found → found = d.getOrderIntent id
  | .getCommandForOrderIntent id, d, r, d' =>
    d' = d ∧ ∀ found, r = .ok found → found = d.getCommandForOrderIntent id
  | _, d, _, d' => d' = d

/-- An operation may fail with nothing done. -/
theorem performs_refused (op : Op) (d : Rows) (e : Exc) : performs op d (.error e) d := by
  have never : ∀ {α : Type} {a : α} {P : Prop}, (Except.error e : Except Exc α) = .ok a → P := by
    intro α a P same
    cases same
  cases op with
  | saveOrderIntent intent => exact ⟨Or.inl rfl, never⟩
  | saveCommandIntent command => exact ⟨Or.inl rfl, never⟩
  | saveOrder order => exact ⟨Or.inl rfl, never⟩
  | findIntentByFingerprint fingerprint => exact ⟨rfl, fun _ => never⟩
  | getOrder id => exact ⟨rfl, fun _ => never⟩
  | getOrderIntent id => exact ⟨rfl, fun _ => never⟩
  | getCommandForOrderIntent id => exact ⟨rfl, fun _ => never⟩
  | _ => exact rfl

/-- What is added by an operation, if anything is. -/
theorem performs_cases {op : Op} {d d' : Rows} {r : Except Exc (Ans op)}
    (performed : performs op d r d') :
    d' = d ∨
      (∃ intent, op = .saveOrderIntent intent ∧
        (∀ other ∈ d.orderIntents, Rows.Apart other intent) ∧ d' = d.addIntent intent) ∨
      (∃ command, op = .saveCommandIntent command ∧ d' = d.addCommand command) ∨
      ∃ order, op = .saveOrder order ∧ d' = d.addOrder order := by
  cases op with
  | saveOrderIntent intent =>
    rcases performed.1 with same | ⟨free, added⟩
    · exact Or.inl same
    · exact Or.inr (Or.inl ⟨intent, rfl, free, added⟩)
  | saveCommandIntent command =>
    rcases performed.1 with same | added
    · exact Or.inl same
    · exact Or.inr (Or.inr (Or.inl ⟨command, rfl, added⟩))
  | saveOrder order =>
    rcases performed.1 with same | added
    · exact Or.inl same
    · exact Or.inr (Or.inr (Or.inr ⟨order, rfl, added⟩))
  | findIntentByFingerprint fingerprint => exact Or.inl performed.1
  | getOrder id => exact Or.inl performed.1
  | getOrderIntent id => exact Or.inl performed.1
  | getCommandForOrderIntent id => exact Or.inl performed.1
  | _ => exact Or.inl performed

/-- A saved order is among the rows, and nothing else is new. -/
theorem performs_saveOrder {order : BrokerOrder} {d d' : Rows}
    (saved : performs (.saveOrder order) d (.ok ()) d') :
    d'.orderIntents = d.orderIntents ∧ ∀ row, row ∈ d'.orders ↔ row ∈ d.orders ∨ row = order := by
  have there := (Rows.getOrder_mem (saved.2 rfl)).1
  rcases saved.1 with rfl | rfl
  · refine ⟨rfl, fun row => ⟨Or.inl, ?_⟩⟩
    rintro (old | rfl)
    · exact old
    · exact there
  · refine ⟨rfl, fun row => ?_⟩
    rw [Rows.addOrder, List.mem_append, List.mem_singleton]

/-- Rows are never taken away. -/
structure Rows.Grown (d d' : Rows) : Prop where
  intents : d.orderIntents ⊆ d'.orderIntents
  commands : d.commandIntents ⊆ d'.commandIntents
  orders : d.orders ⊆ d'.orders

theorem performs_grown {op : Op} {d d' : Rows} {r : Except Exc (Ans op)}
    (performed : performs op d r d') : d.Grown d' := by
  rcases performs_cases performed with rfl | ⟨intent, -, -, rfl⟩ | ⟨command, -, rfl⟩ |
    ⟨order, -, rfl⟩
  · exact ⟨List.Subset.refl _, List.Subset.refl _, List.Subset.refl _⟩
  · exact ⟨List.subset_append_left _ _, List.Subset.refl _, List.Subset.refl _⟩
  · exact ⟨List.Subset.refl _, List.subset_append_left _ _, List.Subset.refl _⟩
  · exact ⟨List.Subset.refl _, List.Subset.refl _, List.subset_append_left _ _⟩

theorem performs_keyed {op : Op} {d d' : Rows} {r : Except Exc (Ans op)}
    (performed : performs op d r d') (keyed : d.Keyed) : d'.Keyed := by
  rcases performs_cases performed with rfl | ⟨intent, -, free, rfl⟩ | ⟨command, -, rfl⟩ |
    ⟨order, -, rfl⟩
  · exact keyed
  · exact Rows.keyed_addIntent keyed free
  · exact keyed
  · exact keyed

/-- What a write that returned leaves behind. -/
def written (item : Done Exc Ans) (d : Rows) : Prop :=
  (∀ intent, item = ⟨.saveOrderIntent intent, .ok ()⟩ → intent ∈ d.orderIntents) ∧
    (∀ command, item = ⟨.saveCommandIntent command, .ok ()⟩ → command ∈ d.commandIntents) ∧
    ∀ order, item = ⟨.saveOrder order, .ok ()⟩ → order ∈ d.orders

theorem written_made {op : Op} {d d' : Rows} {r : Except Exc (Ans op)}
    (performed : performs op d r d') : written ⟨op, r⟩ d' := by
  refine ⟨?_, ?_, ?_⟩
  · rintro intent ⟨⟩
    exact performed.2 rfl
  · rintro command ⟨⟩
    exact performed.2 rfl
  · rintro order ⟨⟩
    exact (Rows.getOrder_mem (performed.2 rfl)).1

theorem written_kept {item : Done Exc Ans} {d d' : Rows} (grown : d.Grown d')
    (known : written item d) : written item d' :=
  ⟨fun intent same => grown.intents (known.1 intent same),
    fun command same => grown.commands (known.2.1 command same),
    fun order same => grown.orders (known.2.2 order same)⟩

theorem written_failed {op : Op} {e : Exc} {d : Rows} : written ⟨op, .error e⟩ d := by
  refine ⟨?_, ?_, ?_⟩
  · rintro intent ⟨⟩
  · rintro command ⟨⟩
  · rintro order ⟨⟩

/-! ### The in-memory store -/

namespace InMemoryExecutionStore

def saveOrderIntent (intent : OrderIntent) (d : Rows) : Except Exc Unit × Rows :=
  if d.orderIntents.any fun other => other.intentId == intent.intentId then
    (.error (.duplicateOrder "order intent id already exists"), d)
  else if d.orderIntents.any fun other => other.orderFingerprint == intent.orderFingerprint then
    (.error (.duplicateOrder "order fingerprint already has a durable intent"), d)
  else if d.orderIntents.any fun other => other.idempotencyKey == intent.idempotencyKey then
    (.error (.duplicateOrder "idempotency key already has a durable intent"), d)
  else (.ok (), d.addIntent intent)

def saveCommandIntent (command : BrokerCommandIntent) (d : Rows) : Except Exc Unit × Rows :=
  if d.commandIntents.any fun other => other.commandIntentId == command.commandIntentId then
    (.error (.duplicateOrder "command intent id already exists"), d)
  else if (d.getOrderIntent command.orderIntentId).isNone then
    (.error (.safetyCritical "command cannot precede its durable order intent"), d)
  else (.ok (), d.addCommand command)

/-- The source keeps the last order of each intent, which is the one that is read here. -/
def saveOrder (order : BrokerOrder) (d : Rows) : Except Exc Unit × Rows :=
  if (d.getOrderIntent order.intentId).isNone then
    (.error (.safetyCritical "broker order cannot precede its durable order intent"), d)
  else (.ok (), d.addOrder order)

/-- The store's operations, with the answers of the other collaborators left open. -/
def perform (others : (op : Op) → Except Exc (Ans op)) :
    (op : Op) → Rows → Except Exc (Ans op) × Rows
  | .saveOrderIntent intent, d => saveOrderIntent intent d
  | .saveCommandIntent command, d => saveCommandIntent command d
  | .saveOrder order, d => saveOrder order d
  | .findIntentByFingerprint fingerprint, d => (.ok (d.findIntentByFingerprint fingerprint), d)
  | .getOrder id, d => (.ok (d.getOrder id), d)
  | .getOrderIntent id, d => (.ok (d.getOrderIntent id), d)
  | .getCommandForOrderIntent id, d => (.ok (d.getCommandForOrderIntent id), d)
  | op, d => (others op, d)

theorem saveOrderIntent_performs (intent : OrderIntent) (d : Rows) :
    performs (.saveOrderIntent intent) d (saveOrderIntent intent d).1
      (saveOrderIntent intent d).2 := by
  unfold saveOrderIntent
  split
  · exact ⟨Or.inl rfl, nofun⟩
  next freeId =>
    split
    · exact ⟨Or.inl rfl, nofun⟩
    next freeFingerprint =>
      split
      · exact ⟨Or.inl rfl, nofun⟩
      next freeKey =>
        simp only [List.any_eq_true, beq_iff_eq, not_exists, not_and] at freeId freeFingerprint freeKey
        refine ⟨Or.inr ⟨fun other member => ?_, rfl⟩, fun _ => by simp [Rows.addIntent]⟩
        exact ⟨freeId other member, freeFingerprint other member, freeKey other member⟩

theorem saveCommandIntent_performs (command : BrokerCommandIntent) (d : Rows) :
    performs (.saveCommandIntent command) d (saveCommandIntent command d).1
      (saveCommandIntent command d).2 := by
  unfold saveCommandIntent
  split
  · exact ⟨Or.inl rfl, nofun⟩
  · split
    · exact ⟨Or.inl rfl, nofun⟩
    · exact ⟨Or.inr rfl, fun _ => by simp [Rows.addCommand]⟩

theorem saveOrder_performs (order : BrokerOrder) (d : Rows) :
    performs (.saveOrder order) d (saveOrder order d).1 (saveOrder order d).2 := by
  unfold saveOrder
  split
  · exact ⟨Or.inl rfl, nofun⟩
  · exact ⟨Or.inr rfl, fun _ => Rows.getOrder_addOrder d order⟩

/-- The in-memory store does what the service relies on. -/
theorem perform_performs (others : (op : Op) → Except Exc (Ans op)) (op : Op) (d : Rows) :
    performs op d (perform others op d).1 (perform others op d).2 := by
  cases op with
  | saveOrderIntent intent => exact saveOrderIntent_performs intent d
  | saveCommandIntent command => exact saveCommandIntent_performs command d
  | saveOrder order => exact saveOrder_performs order d
  | findIntentByFingerprint fingerprint => exact ⟨rfl, fun _ same => (Except.ok.inj same).symm⟩
  | getOrder id => exact ⟨rfl, fun _ same => (Except.ok.inj same).symm⟩
  | getOrderIntent id => exact ⟨rfl, fun _ same => (Except.ok.inj same).symm⟩
  | getCommandForOrderIntent id => exact ⟨rfl, fun _ same => (Except.ok.inj same).symm⟩
  | _ => exact rfl

end InMemoryExecutionStore

end Sentry
