import Sentry.Execution.BrokerUpdates
import Sentry.Execution.ImmutableJournal
import Sentry.Support.Register

/-!
# The reference store

`InMemoryExecutionStore` of `app/execution/service.py` as the calls of the execution service
write it. It guards the keys of order intents as the unique indexes of the database do. A risk
decision, a review or a fill under a taken identifier is dropped without a word, and of the
four unique keys of a command intent only the first is looked at.
-/
namespace Sentry

open Support

/-- A risk decision and the digits its amounts are written with. -/
structure JournalledDecision where
  decision : RiskDecision
  proposedMaxLoss : String
  resultingAggregateRisk : String
  deriving DecidableEq

namespace JournalledDecision

def decisionId (d : JournalledDecision) : UUID := d.decision.decisionId

end JournalledDecision

def JournalledFill.fillId (f : JournalledFill) : UUID := f.fill.fillId

/-- What the store keeps. A mapping from the identifiers of records is a register of them. -/
structure ReferenceStore where
  riskDecisions : Register JournalledDecision.decisionId := .empty _
  reviews : Register BrokerReview.reviewId := .empty _
  orderIntents : Register OrderIntent.intentId := .empty _
  commandIntents : Register BrokerCommandIntent.commandIntentId := .empty _
  orders : Dict UUID BrokerOrder := .empty
  fills : Register JournalledFill.fillId := .empty _
  auditSequence : List (String × UUID) := []
  fingerprints : Dict String UUID := .empty
  idempotencyKeys : Dict String UUID := .empty

namespace ReferenceStore

/-! ### The saves -/

/-- `setdefault`: what is there stays. -/
def setDefault {α : Type} {key : α → UUID} (r : Register key) (a : α) : Register key :=
  match found : r.find? (key a) with
  | none => r.insert a found
  | some _ => r

variable (s : ReferenceStore)

def audited (kind : String) (id : UUID) : ReferenceStore :=
  { s with auditSequence := s.auditSequence ++ [(kind, id)] }

def saveRiskDecision (d : JournalledDecision) : Except Exc ReferenceStore :=
  .ok ({ s with riskDecisions := setDefault s.riskDecisions d }.audited "risk_decision" d.decisionId)

def saveReview (review : BrokerReview) : Except Exc ReferenceStore :=
  .ok ({ s with reviews := setDefault s.reviews review }.audited "broker_review" review.reviewId)

def saveOrderIntent (intent : OrderIntent) : Except Exc ReferenceStore :=
  match found : s.orderIntents.find? intent.intentId with
  | some _ => .error (.duplicateOrder "order intent id already exists")
  | none =>
    if (s.fingerprints.get? intent.orderFingerprint).isSome then
      .error (.duplicateOrder "order fingerprint already has a durable intent")
    else if (s.idempotencyKeys.get? intent.idempotencyKey).isSome then
      .error (.duplicateOrder "idempotency key already has a durable intent")
    else .ok
      ({ s with
          orderIntents := s.orderIntents.insert intent found
          fingerprints := s.fingerprints.set intent.orderFingerprint intent.intentId
          idempotencyKeys := s.idempotencyKeys.set intent.idempotencyKey intent.intentId
        }.audited "order_intent" intent.intentId)

def saveCommandIntent (command : BrokerCommandIntent) : Except Exc ReferenceStore :=
  match found : s.commandIntents.find? command.commandIntentId with
  | some _ => .error (.duplicateOrder "command intent id already exists")
  | none =>
    if (s.orderIntents.find? command.orderIntentId).isNone then
      .error (.safetyCritical "command cannot precede its durable order intent")
    else .ok
      ({ s with commandIntents := s.commandIntents.insert command found }.audited
        "broker_command_intent" command.commandIntentId)

def saveOrder (order : BrokerOrder) : Except Exc ReferenceStore :=
  if (s.orderIntents.find? order.intentId).isNone then
    .error (.safetyCritical "broker order cannot precede its durable order intent")
  else .ok ({ s with orders := s.orders.set order.intentId order }.audited "broker_order"
    order.orderId)

def saveFill (f : JournalledFill) : Except Exc ReferenceStore :=
  match found : s.fills.find? f.fillId with
  | some _ => .ok s
  | none =>
    if !(s.orders.values.any fun order => order.orderId == f.fill.orderId) then
      .error (.safetyCritical "fill cannot precede its durable broker order")
    else .ok ({ s with fills := s.fills.insert f found }.audited "fill" f.fillId)

/-- One call of the store. -/
inductive SaveCall where
  | riskDecision (decision : JournalledDecision)
  | review (review : BrokerReview)
  | orderIntent (intent : OrderIntent)
  | commandIntent (command : BrokerCommandIntent)
  | order (order : BrokerOrder)
  | fill (fill : JournalledFill)

def save : SaveCall → Except Exc ReferenceStore
  | .riskDecision decision => s.saveRiskDecision decision
  | .review review => s.saveReview review
  | .orderIntent intent => s.saveOrderIntent intent
  | .commandIntent command => s.saveCommandIntent command
  | .order order => s.saveOrder order
  | .fill fill => s.saveFill fill

/-- A call that raises leaves the store as it was. -/
def after (call : SaveCall) : ReferenceStore :=
  match s.save call with
  | .ok s' => s'
  | .error _ => s

/-- The store after a sequence of calls on an empty one. -/
def reached (calls : List SaveCall) : ReferenceStore := calls.foldl after {}

/-! ### The keys of the database -/

/-- The unique keys of a kind of record, under the names of the columns. -/
abbrev Keys (α : Type) : Type := List (String × (α → UUID ⊕ String))

def decisionKeys : Keys JournalledDecision := [("decision_id", fun d => .inl d.decisionId)]

def reviewKeys : Keys BrokerReview := [("review_id", fun review => .inl review.reviewId)]

def intentKeys : Keys OrderIntent :=
  [("intent_id", fun intent => .inl intent.intentId),
    ("order_fingerprint", fun intent => .inr intent.orderFingerprint),
    ("idempotency_key", fun intent => .inr intent.idempotencyKey)]

def commandKeys : Keys BrokerCommandIntent :=
  [("command_intent_id", fun command => .inl command.commandIntentId),
    ("order_intent_id", fun command => .inl command.orderIntentId),
    ("order_fingerprint", fun command => .inr command.orderFingerprint),
    ("idempotency_key", fun command => .inr command.idempotencyKey)]

def fillKeys : Keys JournalledFill := [("fill_id", fun f => .inl f.fillId)]

/-- They are the keys of the unique indexes. -/
theorem keys_names :
    [decisionKeys.map Prod.fst, reviewKeys.map Prod.fst, intentKeys.map Prod.fst,
        commandKeys.map Prod.fst, fillKeys.map Prod.fst] =
      ["risk_decisions", "broker_reviews", "order_intents", "broker_command_intents",
        "fills"].map ImmutableJournal.uniqueKeys := by
  decide

/-- No two records share a value of any of the keys. -/
def Unshared {α : Type} (keys : Keys α) (records : List α) : Prop :=
  ∀ key ∈ keys, (records.map key.2).Nodup

/-- Every kind of record keeps to its unique keys. -/
structure UniqueKeys (s : ReferenceStore) : Prop where
  riskDecisions : Unshared decisionKeys s.riskDecisions.rows
  reviews : Unshared reviewKeys s.reviews.rows
  orderIntents : Unshared intentKeys s.orderIntents.rows
  commandIntents : Unshared commandKeys s.commandIntents.rows
  fills : Unshared fillKeys s.fills.rows

/-- A record with exactly this content is there. -/
def Stored (s : ReferenceStore) : SaveCall → Prop
  | .riskDecision decision => decision ∈ s.riskDecisions.rows
  | .review review => review ∈ s.reviews.rows
  | .orderIntent intent => intent ∈ s.orderIntents.rows
  | .commandIntent command => command ∈ s.commandIntents.rows
  | .order order => s.orders.get? order.intentId = some order
  | .fill fill => fill ∈ s.fills.rows

/-- A save that returns has stored its record, and the keys are unique. -/
def Kept (s : ReferenceStore) (call : SaveCall) : Prop :=
  ∀ s', s.save call = .ok s' → s'.Stored call ∧ s'.UniqueKeys

/-- What is stored under the identifier of a record is the record. -/
def SameContent {α : Type} {key : α → UUID} (r : Register key) (a : α) : Prop :=
  ∀ row ∈ r.rows, key row = key a → row = a

/-- The calls that are as safe as in the database: a record is not saved over other content,
and a command intent that is not refused brings its other keys with it. -/
def Clear (s : ReferenceStore) : SaveCall → Prop
  | .riskDecision decision => SameContent s.riskDecisions decision
  | .review review => SameContent s.reviews review
  | .fill fill => SameContent s.fills fill
  | .commandIntent command =>
    (∃ row ∈ s.commandIntents.rows, row.commandIntentId = command.commandIntentId) ∨
      (∀ row ∈ s.orderIntents.rows, row.intentId ≠ command.orderIntentId) ∨
      ∀ row ∈ s.commandIntents.rows, row.orderIntentId ≠ command.orderIntentId ∧
        row.orderFingerprint ≠ command.orderFingerprint ∧
        row.idempotencyKey ≠ command.idempotencyKey
  | .orderIntent _ | .order _ => True

/-! ### One call -/

/-- The indexes of the intents hold the fingerprints and idempotency keys of their rows. -/
structure Indexed (s : ReferenceStore) : Prop where
  fingerprints : ∀ text, (s.fingerprints.get? text).isSome = true ↔
    ∃ row ∈ s.orderIntents.rows, row.orderFingerprint = text
  idempotencyKeys : ∀ text, (s.idempotencyKeys.get? text).isSome = true ↔
    ∃ row ∈ s.orderIntents.rows, row.idempotencyKey = text

theorem mem_setDefault_iff {α : Type} {key : α → UUID} {r : Register key} {a : α} :
    a ∈ (setDefault r a).rows ↔ SameContent r a := by
  unfold setDefault
  split
  next fresh =>
    constructor
    · intro _ row member shared
      exact absurd shared (Register.find?_eq_none.mp fresh row member)
    · intro _
      exact List.mem_append_right _ (List.mem_singleton_self a)
  next row found =>
    obtain ⟨member, under⟩ := Register.mem_of_find? found
    constructor
    · intro there other listed shared
      exact r.eq_of_key listed there shared
    · intro same
      exact same row member under ▸ member

/-- The keys of a register are not shared. -/
theorem unshared_single {α : Type} {name : String} {key : α → UUID} (r : Register key) :
    Unshared [(name, fun a => Sum.inl (key a))] r.rows := by
  intro key' member
  rw [List.mem_singleton.mp member]
  have texts := r.distinct.map (Sum.inl_injective (β := String))
  rwa [List.map_map] at texts

theorem unshared_concat {α : Type} {keys : Keys α} {records : List α} {a : α} :
    Unshared keys (records ++ [a]) ↔
      Unshared keys records ∧ ∀ key ∈ keys, ∀ row ∈ records, key.2 row ≠ key.2 a := by
  unfold Unshared
  simp only [List.map_append, List.map_cons, List.map_nil, List.nodup_append, List.mem_map,
    List.mem_singleton, List.nodup_singleton, true_and]
  constructor
  · intro all
    refine ⟨fun key member => (all key member).1, ?_⟩
    intro key member row listed
    exact (all key member).2 _ ⟨row, listed, rfl⟩ _ rfl
  · rintro ⟨before, fresh⟩ key member
    refine ⟨before key member, ?_⟩
    rintro value ⟨row, listed, rfl⟩ last rfl
    exact fresh key member row listed

variable {s s' : ReferenceStore}

theorem saveOrderIntent_ok {intent : OrderIntent} (went : s.saveOrderIntent intent = .ok s') :
    s'.orderIntents.rows = s.orderIntents.rows ++ [intent] ∧
      s'.fingerprints = s.fingerprints.set intent.orderFingerprint intent.intentId ∧
      s'.idempotencyKeys = s.idempotencyKeys.set intent.idempotencyKey intent.intentId ∧
      (∀ row ∈ s.orderIntents.rows, row.intentId ≠ intent.intentId) ∧
      s.fingerprints.get? intent.orderFingerprint = none ∧
      s.idempotencyKeys.get? intent.idempotencyKey = none ∧
      s' = { s with
        orderIntents := s'.orderIntents
        fingerprints := s'.fingerprints
        idempotencyKeys := s'.idempotencyKeys
        auditSequence := s'.auditSequence } := by
  unfold saveOrderIntent at went
  split at went
  · cases went
  next fresh =>
  split at went
  · cases went
  next fingerprint =>
  split at went
  · cases went
  next idempotencyKey =>
  cases went
  simp only [Option.not_isSome_iff_eq_none] at fingerprint idempotencyKey
  exact ⟨rfl, rfl, rfl, Register.find?_eq_none.mp fresh, fingerprint, idempotencyKey, rfl⟩

theorem saveCommandIntent_ok {command : BrokerCommandIntent}
    (went : s.saveCommandIntent command = .ok s') :
    s'.commandIntents.rows = s.commandIntents.rows ++ [command] ∧
      (∀ row ∈ s.commandIntents.rows, row.commandIntentId ≠ command.commandIntentId) ∧
      (∃ row ∈ s.orderIntents.rows, row.intentId = command.orderIntentId) ∧
      s' = { s with
        commandIntents := s'.commandIntents
        auditSequence := s'.auditSequence } := by
  unfold saveCommandIntent at went
  split at went
  · cases went
  next fresh =>
  split at went
  · cases went
  next intent =>
  cases went
  rw [Option.isNone_iff_eq_none] at intent
  obtain ⟨row, found⟩ := Option.ne_none_iff_exists'.mp intent
  exact ⟨rfl, Register.find?_eq_none.mp fresh, ⟨row, Register.mem_of_find? found⟩, rfl⟩

theorem saveCommandIntent_returns {command : BrokerCommandIntent}
    (fresh : ∀ row ∈ s.commandIntents.rows, row.commandIntentId ≠ command.commandIntentId)
    (intent : ∃ row ∈ s.orderIntents.rows, row.intentId = command.orderIntentId) :
    ∃ s', s.saveCommandIntent command = .ok s' := by
  unfold saveCommandIntent
  split
  next row found =>
    obtain ⟨member, same⟩ := Register.mem_of_find? found
    exact absurd same (fresh row member)
  next absent =>
    rw [if_neg]
    · exact ⟨_, rfl⟩
    · rw [Option.isNone_iff_eq_none, Register.find?_eq_none]
      push Not
      exact intent

theorem saveFill_ok {f : JournalledFill} (went : s.saveFill f = .ok s') :
    s'.fills.rows = (setDefault s.fills f).rows ∧
      s' = { s with fills := s'.fills, auditSequence := s'.auditSequence } := by
  unfold saveFill at went
  unfold setDefault
  split at went
  next row found =>
    cases went
    split
    next fresh =>
      rw [found] at fresh
      cases fresh
    · exact ⟨rfl, rfl⟩
  next fresh =>
    split at went
    · cases went
    · cases went
      split
      · exact ⟨rfl, rfl⟩
      next row found =>
        rw [fresh] at found
        cases found

/-- A fill under a taken identifier is dropped. -/
theorem saveFill_taken {f row : JournalledFill} (member : row ∈ s.fills.rows)
    (shared : row.fillId = f.fillId) : s.saveFill f = .ok s := by
  unfold saveFill
  split
  · rfl
  next fresh => exact absurd shared (Register.find?_eq_none.mp fresh row member)

theorem saveOrder_ok {order : BrokerOrder} (went : s.saveOrder order = .ok s') :
    s' = { s with
      orders := s.orders.set order.intentId order
      auditSequence := s'.auditSequence } := by
  unfold saveOrder at went
  split at went
  · cases went
  · cases went
    rfl

/-- The keys of an accepted order intent are new. -/
theorem saveOrderIntent_unshared (indexed : s.Indexed) (unique : s.UniqueKeys)
    {intent : OrderIntent} (went : s.saveOrderIntent intent = .ok s') :
    Unshared intentKeys s'.orderIntents.rows := by
  obtain ⟨rows, -, -, fresh, fingerprint, idempotencyKey, -⟩ := saveOrderIntent_ok went
  rw [rows, unshared_concat]
  refine ⟨unique.orderIntents, ?_⟩
  simp only [intentKeys, List.forall_mem_cons, List.not_mem_nil, false_implies, implies_true,
    and_true, ne_eq, Sum.inl.injEq, Sum.inr.injEq]
  refine ⟨fresh, ?_, ?_⟩
  · intro row member shared
    have known := (indexed.fingerprints _).mpr ⟨row, member, shared⟩
    rw [fingerprint] at known
    cases known
  · intro row member shared
    have known := (indexed.idempotencyKeys _).mpr ⟨row, member, shared⟩
    rw [idempotencyKey] at known
    cases known

theorem orderIntent_kept (indexed : s.Indexed) (unique : s.UniqueKeys) (intent : OrderIntent) :
    s.Kept (.orderIntent intent) := by
  intro s' went
  have apart := saveOrderIntent_unshared indexed unique went
  obtain ⟨rows, -, -, -, -, -, same⟩ := saveOrderIntent_ok went
  constructor
  · change intent ∈ s'.orderIntents.rows
    rw [rows]
    exact List.mem_append_right _ (List.mem_singleton_self intent)
  · rw [same]
    exact ⟨unique.riskDecisions, unique.reviews, apart, unique.commandIntents, unique.fills⟩

theorem new_commandKeys_iff {command : BrokerCommandIntent} :
    (∀ key ∈ commandKeys, ∀ row ∈ s.commandIntents.rows, key.2 row ≠ key.2 command) ↔
      (∀ row ∈ s.commandIntents.rows, row.commandIntentId ≠ command.commandIntentId) ∧
      (∀ row ∈ s.commandIntents.rows, row.orderIntentId ≠ command.orderIntentId) ∧
      (∀ row ∈ s.commandIntents.rows, row.orderFingerprint ≠ command.orderFingerprint) ∧
      ∀ row ∈ s.commandIntents.rows, row.idempotencyKey ≠ command.idempotencyKey := by
  simp [commandKeys]

theorem commandIntent_clear {command : BrokerCommandIntent}
    (kept : s.Kept (.commandIntent command)) : s.Clear (.commandIntent command) := by
  by_cases taken : ∃ row ∈ s.commandIntents.rows, row.commandIntentId = command.commandIntentId
  · exact .inl taken
  by_cases intent : ∃ row ∈ s.orderIntents.rows, row.intentId = command.orderIntentId
  · -- the command is accepted, so its keys have to be new
    push Not at taken
    obtain ⟨s', went⟩ := saveCommandIntent_returns taken intent
    have apart := (kept s' went).2.commandIntents
    rw [(saveCommandIntent_ok went).1, unshared_concat, new_commandKeys_iff] at apart
    obtain ⟨-, -, orders, fingerprints, keys⟩ := apart
    exact .inr (.inr fun row member =>
      ⟨orders row member, fingerprints row member, keys row member⟩)
  · push Not at intent
    exact .inr (.inl intent)

theorem commandIntent_kept (unique : s.UniqueKeys) {command : BrokerCommandIntent}
    (clear : s.Clear (.commandIntent command)) : s.Kept (.commandIntent command) := by
  intro s' went
  obtain ⟨rows, fresh, ⟨intent, member, orders⟩, same⟩ := saveCommandIntent_ok went
  have apart : Unshared commandKeys s'.commandIntents.rows := by
    rcases clear with ⟨row, taken, shared⟩ | missing | free
    · exact absurd shared (fresh row taken)
    · exact absurd orders (missing intent member)
    · rw [rows, unshared_concat, new_commandKeys_iff]
      exact ⟨unique.commandIntents, fresh, fun row listed => (free row listed).1,
        fun row listed => (free row listed).2.1, fun row listed => (free row listed).2.2⟩
  constructor
  · change command ∈ s'.commandIntents.rows
    rw [rows]
    exact List.mem_append_right _ (List.mem_singleton_self command)
  · rw [same]
    exact ⟨unique.riskDecisions, unique.reviews, unique.orderIntents, apart, unique.fills⟩

theorem fill_kept_iff (unique : s.UniqueKeys) (f : JournalledFill) :
    s.Kept (.fill f) ↔ s.Clear (.fill f) := by
  constructor
  · intro kept row member shared
    have there := (kept s (saveFill_taken member shared)).1
    exact s.fills.eq_of_key member there shared
  · intro clear s' went
    obtain ⟨rows, same⟩ := saveFill_ok went
    constructor
    · change f ∈ s'.fills.rows
      rw [rows]
      exact mem_setDefault_iff.mpr clear
    · rw [same]
      exact ⟨unique.riskDecisions, unique.reviews, unique.orderIntents, unique.commandIntents,
        unshared_single _⟩

/-- A call is kept exactly when it is clear. -/
theorem kept_iff_clear (indexed : s.Indexed) (unique : s.UniqueKeys) (call : SaveCall) :
    s.Kept call ↔ s.Clear call := by
  cases call with
  | riskDecision decision =>
    constructor
    · intro kept
      exact mem_setDefault_iff.mp (kept _ rfl).1
    · rintro same s' went
      cases went
      exact ⟨mem_setDefault_iff.mpr same, unshared_single _, unique.reviews, unique.orderIntents,
        unique.commandIntents, unique.fills⟩
  | review review =>
    constructor
    · intro kept
      exact mem_setDefault_iff.mp (kept _ rfl).1
    · rintro same s' went
      cases went
      exact ⟨mem_setDefault_iff.mpr same, unique.riskDecisions, unshared_single _,
        unique.orderIntents, unique.commandIntents, unique.fills⟩
  | orderIntent intent => exact iff_of_true (orderIntent_kept indexed unique intent) trivial
  | commandIntent command => exact ⟨commandIntent_clear, commandIntent_kept unique⟩
  | order order =>
    refine iff_of_true ?_ trivial
    intro s' went
    rw [saveOrder_ok went]
    exact ⟨Dict.get?_set_self _ _ _, unique.riskDecisions, unique.reviews, unique.orderIntents,
      unique.commandIntents, unique.fills⟩
  | fill f => exact fill_kept_iff unique f

/-! ### The rows the service relies on -/

/-- The intents, commands and orders among what is kept. -/
def rows (s : ReferenceStore) : Rows where
  orderIntents := s.orderIntents.rows
  commandIntents := s.commandIntents.rows
  orders := s.orders.values

theorem find?_isSome_iff {α : Type} {key : α → UUID} {r : Register key} {id : UUID} :
    (r.find? id).isSome = true ↔ ∃ row ∈ r.rows, key row = id := by
  simp [Register.find?]

/-- On its rows, the store saves an intent as it is modelled for the service. -/
theorem saveOrderIntent_rows (indexed : s.Indexed) (intent : OrderIntent) :
    InMemoryExecutionStore.saveOrderIntent intent s.rows =
      ((s.saveOrderIntent intent).map fun _ => (), (s.after (.orderIntent intent)).rows) := by
  have taken : (s.rows.orderIntents.any fun other => other.intentId == intent.intentId) = true ↔
      (s.orderIntents.find? intent.intentId).isSome = true := by
    rw [find?_isSome_iff]
    simp [rows]
  have fingerprint : (s.rows.orderIntents.any fun other =>
      other.orderFingerprint == intent.orderFingerprint) = true ↔
      (s.fingerprints.get? intent.orderFingerprint).isSome = true := by
    rw [indexed.fingerprints]
    simp [rows]
  have idempotencyKey : (s.rows.orderIntents.any fun other =>
      other.idempotencyKey == intent.idempotencyKey) = true ↔
      (s.idempotencyKeys.get? intent.idempotencyKey).isSome = true := by
    rw [indexed.idempotencyKeys]
    simp [rows]
  unfold InMemoryExecutionStore.saveOrderIntent
  rw [after]
  change _ = ((s.saveOrderIntent intent).map _, ReferenceStore.rows (match s.saveOrderIntent intent with
    | .ok s' => s'
    | .error _ => s))
  simp only [taken, fingerprint, idempotencyKey]
  cases went : s.saveOrderIntent intent with
  | ok s' =>
    obtain ⟨rows_eq, -, -, fresh, noFingerprint, noKey, same⟩ := saveOrderIntent_ok went
    rw [Register.find?_eq_none.mpr fresh, noFingerprint, noKey, same]
    simp [Except.map, rows, Rows.addIntent, rows_eq]
  | error e =>
    unfold saveOrderIntent at went
    split at went
    next row found =>
      cases went
      rw [found]
      rfl
    next fresh =>
      rw [fresh]
      split at went
      next there =>
        cases went
        rw [if_neg (by simp), if_pos there]
        rfl
      next absent =>
        split at went
        next there =>
          cases went
          rw [if_neg (by simp), if_neg absent, if_pos there]
          rfl
        · cases went

/-! ### Runs -/

theorem indexed_empty : Indexed {} where
  fingerprints text := by simp [Register.empty]
  idempotencyKeys text := by simp [Register.empty]

theorem uniqueKeys_empty : UniqueKeys {} := by
  have nothing : ∀ {α : Type} (keys : Keys α), Unshared keys ([] : List α) :=
    fun keys key _ => List.nodup_nil
  exact ⟨nothing _, nothing _, nothing _, nothing _, nothing _⟩

theorem isSome_set_iff {d : Dict String UUID} {k j : String} {id : UUID} :
    ((d.set k id).get? j).isSome = true ↔ k = j ∨ (d.get? j).isSome = true := by
  rw [Dict.get?_set]
  split
  next same => simp [same]
  next other => simp [other]

theorem indexed_after (indexed : s.Indexed) (call : SaveCall) : (s.after call).Indexed := by
  unfold after
  split
  next s' went =>
    cases call with
    | orderIntent intent =>
      obtain ⟨rows, fingerprints, idempotencyKeys, -⟩ := saveOrderIntent_ok went
      constructor
      · intro text
        rw [fingerprints, rows, isSome_set_iff, indexed.fingerprints]
        simp [or_and_right, exists_or, or_comm]
      · intro text
        rw [idempotencyKeys, rows, isSome_set_iff, indexed.idempotencyKeys]
        simp [or_and_right, exists_or, or_comm]
    | riskDecision decision =>
      cases went
      exact ⟨indexed.fingerprints, indexed.idempotencyKeys⟩
    | review review =>
      cases went
      exact ⟨indexed.fingerprints, indexed.idempotencyKeys⟩
    | commandIntent command =>
      rw [(saveCommandIntent_ok went).2.2.2]
      exact ⟨indexed.fingerprints, indexed.idempotencyKeys⟩
    | order order =>
      rw [saveOrder_ok went]
      exact ⟨indexed.fingerprints, indexed.idempotencyKeys⟩
    | fill f =>
      rw [(saveFill_ok went).2]
      exact ⟨indexed.fingerprints, indexed.idempotencyKeys⟩
  · exact indexed

theorem reached_concat (calls : List SaveCall) (call : SaveCall) :
    reached (calls ++ [call]) = (reached calls).after call := by
  simp [reached]

theorem indexed_reached (calls : List SaveCall) : (reached calls).Indexed := by
  induction calls using List.reverseRecOn with
  | nil => exact indexed_empty
  | append_singleton calls call ih =>
    rw [reached_concat]
    exact indexed_after ih call

theorem uniqueKeys_after (unique : s.UniqueKeys) {call : SaveCall} (kept : s.Kept call) :
    (s.after call).UniqueKeys := by
  unfold after
  split
  next s' went => exact (kept s' went).2
  · exact unique

/-- At every call of a run, from the store that the calls before it have left. -/
def Throughout (holds : ReferenceStore → SaveCall → Prop) (calls : List SaveCall) : Prop :=
  ∀ done call rest, calls = done ++ call :: rest → holds (reached done) call

theorem throughout_concat {holds : ReferenceStore → SaveCall → Prop} {calls : List SaveCall}
    {call : SaveCall} :
    Throughout holds (calls ++ [call]) ↔
      Throughout holds calls ∧ holds (reached calls) call := by
  constructor
  · intro all
    constructor
    · intro done first rest split
      exact all done first (rest ++ [call]) (by rw [split, List.append_assoc, List.cons_append])
    · exact all calls call [] rfl
  · rintro ⟨before, last⟩ done first rest split
    cases rest using List.reverseRecOn with
    | nil =>
      obtain ⟨rfl, same⟩ := List.append_inj' split rfl
      cases same
      exact last
    | append_singleton rest other =>
      rw [← List.cons_append, ← List.append_assoc] at split
      exact before done first rest (List.append_inj' split rfl).1

/-- A run is accepted by the unique indexes, record for record, if and only if each of its
calls is clear. -/
theorem throughout_kept_iff (calls : List SaveCall) :
    Throughout Kept calls ↔ Throughout Clear calls := by
  have both : (Throughout Kept calls ↔ Throughout Clear calls) ∧
      (Throughout Kept calls → (reached calls).UniqueKeys) := by
    induction calls using List.reverseRecOn with
    | nil =>
      have none_made : ∀ holds, Throughout holds [] := by
        intro holds done call rest split
        exact absurd split (by simp)
      exact ⟨iff_of_true (none_made _) (none_made _), fun _ => uniqueKeys_empty⟩
    | append_singleton calls call ih =>
      obtain ⟨same, unique⟩ := ih
      rw [throughout_concat, throughout_concat]
      constructor
      · constructor
        · rintro ⟨before, kept⟩
          exact ⟨same.mp before,
            (kept_iff_clear (indexed_reached calls) (unique before) call).mp kept⟩
        · rintro ⟨before, clear⟩
          have before' := same.mpr before
          exact ⟨before',
            (kept_iff_clear (indexed_reached calls) (unique before') call).mpr clear⟩
      · rintro ⟨before, kept⟩
        rw [reached_concat]
        exact uniqueKeys_after (unique before) kept
  exact both.1

namespace StoreSample

/-- Two reviews under one identifier. -/
def review (accepted : Bool) : BrokerReview where
  createdAt := 10
  reviewId := ⟨9⟩
  environment := .demo
  proposalId := ⟨3⟩
  accepted := accepted

def intent : OrderIntent where
  createdAt := 10
  intentId := ⟨50⟩
  environment := .demo
  namespace_ := "demo"
  proposalId := ⟨3⟩
  riskDecisionId := ⟨8⟩
  approvalId := none
  reviewId := ⟨9⟩
  orderFingerprint := "order"
  idempotencyKey := "place-key"
  action := .placeOptionOrder

/-- Commands for one intent, under different identifiers. -/
def command (id : Nat) : BrokerCommandIntent where
  createdAt := 10
  commandIntentId := ⟨id⟩
  orderIntentId := ⟨50⟩
  environment := .demo
  namespace_ := "demo"
  action := .placeOptionOrder
  capabilityName := "place_option_order"
  capabilitySchemaVersion := "v1"
  capabilitySchemaHash := "schema"
  instrumentId := "spy-call"
  side := .buyToOpen
  quantity := 1
  limitPrice := ⟨1, 0⟩
  validatedArguments := .obj []
  proposalId := ⟨3⟩
  riskDecisionId := ⟨8⟩
  approvalId := none
  quoteSnapshotId := ⟨5⟩
  brokerObservedAccountSnapshotId := none
  effectiveAccountSnapshotId := ⟨4⟩
  policyVersion := "policy-v1"
  orderFingerprint := "order"
  idempotencyKey := "place-key"
  quantity_pos := count_pos (nat_lit 1)
  limitPrice_pos := Decimal.val_pos (nat_lit 1) (nat_lit 0)

end StoreSample

open StoreSample in
/-- A second review under the identifier of the first returns and is not stored, and a second
command for one order intent is stored beside the first. -/
theorem not_throughout_kept :
    ¬ Throughout Kept [.review (review true), .review (review false)] ∧
      ¬ Throughout Kept [.orderIntent intent, .commandIntent (command 60),
        .commandIntent (command 61)] := by
  constructor
  · intro kept
    have stored := (kept [.review (review true)] (.review (review false)) [] rfl _
      rfl).1
    have same : review true = review false :=
      mem_setDefault_iff.mp stored (review true) (List.mem_singleton_self _) rfl
    exact absurd same (by decide)
  · intro kept
    have unique := (kept [.orderIntent intent, .commandIntent (command 60)]
      (.commandIntent (command 61)) [] rfl _ rfl).2
    have apart := unique.commandIntents _ (List.mem_cons_of_mem _ List.mem_cons_self)
    exact absurd apart (by decide)

end ReferenceStore
end Sentry
