import Sentry.Execution.Store

/-!
# Saving an intent in PostgreSQL

`_save_immutable` of `app/execution/postgres_store.py` for the intents of one binding: a
program of several repository calls, any number of which may run at once in any number
of processes. The unique indexes decide between competing appends. A save that returns
has its own content in the table, and the table keeps its keys apart, which is what
`performs` says of saving an intent.
-/
namespace Sentry

open Support Coroutine

namespace PostgresExecutionStore

/-- The unique keys of `order_intents`, as texts of the payload. -/
inductive IntentKey where
  | intentId | orderFingerprint | idempotencyKey
  deriving DecidableEq

def IntentKey.name : IntentKey → String
  | .intentId => "intent_id"
  | .orderFingerprint => "order_fingerprint"
  | .idempotencyKey => "idempotency_key"

def IntentKey.value (intent : OrderIntent) : IntentKey → String
  | .intentId => intent.intentId.str
  | .orderFingerprint => intent.orderFingerprint
  | .idempotencyKey => intent.idempotencyKey

def intentKeys : List IntentKey := [.intentId, .orderFingerprint, .idempotencyKey]

inductive RepositoryOp where
  | findPayload (key : IntentKey) (value : String)
  | append (intent : OrderIntent)

abbrev RepositoryAns : RepositoryOp → Type
  | .findPayload _ _ => Option OrderIntent
  | .append _ => Unit

abbrev Saving := Coroutine Unit Exc RepositoryAns

abbrev query (op : RepositoryOp) : Saving (RepositoryAns op) := call op

/-- The error of a violated unique index. -/
def integrityError : Exc := .unlisted "IntegrityError"

/-- A store bound to an environment and a namespace; `digest` is `sha256_json` of a payload. -/
structure Store where
  environment : ExecutionEnvironment
  namespace_ : String
  digest : OrderIntent → String

namespace Store

variable (store : Store) (intent : OrderIntent)

/-- `_guard`. -/
def guard : Saving Unit := do
  raiseIf (intent.environment != store.environment)
    (.safetyCritical "cross-environment execution persistence attempt")
  raiseIf (intent.namespace_ != store.namespace_)
    (.safetyCritical "cross-namespace execution persistence attempt")

/-- `existing`: whether the content is already there under some key. -/
def existing : List IntentKey → Saving Bool
  | [] => pure false
  | key :: rest => do
    let row ← query (.findPayload key (key.value intent))
    match row with
    | none => existing rest
    | some other =>
      raiseIf (store.digest other != store.digest intent) (.duplicateOrder
        ("order_intents " ++ key.name ++ " reused with different content"))
      let _ ← existing rest
      pure true

/-- `_save_immutable`. -/
def saveImmutable : Saving Unit := do
  store.guard intent
  let matched ← store.existing intent intentKeys
  if matched then pure ()
  else attempt (query (.append intent)) fun e =>
    if e = integrityError then do
      -- a competing process may have committed after the lookup
      let matched ← store.existing intent intentKeys
      if matched then pure ()
      else raise (.safetyCritical "durable order_intents insert failed")
    else raise e

end Store

/-- No row has a key of the intent. -/
def Free (rows : List OrderIntent) (intent : OrderIntent) : Prop :=
  ∀ other ∈ rows, ∀ key : IntentKey, key.value other ≠ key.value intent

/-- The table under its unique indexes: a lookup sees the newest row, and an append is made
only while every key is free. A failed append may have been made all the same. -/
def repository : (op : RepositoryOp) → List OrderIntent → Except Exc (RepositoryAns op) →
    List OrderIntent → Prop
  | .findPayload key value, rows, r, rows' =>
    rows' = rows ∧ ∀ found, r = .ok found →
      found = rows.reverse.find? fun row => key.value row == value
  | .append intent, rows, r, rows' =>
    (rows' = rows ∨ Free rows intent ∧ rows' = rows ++ [intent]) ∧
      (r = .ok () → intent ∈ rows')

/-- Saves by any number of processes over one table. -/
def saves : World Unit Exc RepositoryAns Unit (Store × OrderIntent) (List OrderIntent) where
  body c := c.1.saveImmutable c.2
  origin _ := ()
  performs := repository
  rely _ _ _ _ := True

/-- What an answered repository call leaves behind. -/
def seen (item : Done Exc RepositoryAns) (rows : List OrderIntent) : Prop :=
  (∀ key value row, item = ⟨.findPayload key value, .ok (some row)⟩ → row ∈ rows) ∧
    ∀ intent, item = ⟨.append intent, .ok ()⟩ → intent ∈ rows

theorem repository_grown {op : RepositoryOp} {rows rows' : List OrderIntent}
    {r : Except Exc (RepositoryAns op)} (performed : repository op rows r rows') : rows ⊆ rows' := by
  cases op with
  | findPayload key value => exact performed.1 ▸ List.Subset.refl _
  | append intent =>
    rcases performed.1 with rfl | ⟨-, rfl⟩
    · exact List.Subset.refl _
    · exact List.subset_append_left _ _

theorem saves_persistent : Persistent saves seen where
  made := by
    intro op rows r rows' performed
    constructor
    · rintro key value row ⟨⟩
      have found := performed.2 _ rfl
      rw [performed.1]
      exact List.mem_reverse.mp (List.mem_of_find?_eq_some found.symm)
    · rintro intent ⟨⟩
      exact performed.2 rfl
  kept := by
    intro op rows r rows' item performed known
    have grown := repository_grown performed
    exact ⟨fun key value row same => grown (known.1 key value row same),
      fun intent same => grown (known.2 intent same)⟩
  failed := by
    intro op e rows
    exact ⟨by rintro key value row ⟨⟩, by rintro intent ⟨⟩⟩

/-- The content was seen in the table, or put there. -/
def Stored (store : Store) (intent : OrderIntent) (h : List (Done Exc RepositoryAns)) : Prop :=
  ⟨.append intent, .ok ()⟩ ∈ h ∨
    ∃ key value row, ⟨.findPayload key value, .ok (some row)⟩ ∈ h ∧
      store.digest row = store.digest intent

def spec : Spec Unit Exc RepositoryAns where
  issue _ _ _ := True
  rely _ _ _ _ := True

def saved (c : Store × OrderIntent) : Post Unit Exc RepositoryAns Unit :=
  fun h _ r => r = .ok () → Stored c.1 c.2 h

/-- A lookup that matches has seen the content; what was asked for before is not forgotten. -/
theorem sat_existing {store : Store} {intent : OrderIntent} (keys : List IntentKey)
    {base h : List (Done Exc RepositoryAns)} {g : Unit} {Q : Post Unit Exc RepositoryAns Bool}
    (longer : base ⊆ h) (raised : ∀ h g e, Q h g (.error e))
    (absent : ∀ h g, base ⊆ h → Q h g (.ok false))
    (found : ∀ h g, base ⊆ h → Stored store intent h → Q h g (.ok true)) :
    Sat spec Q (store.existing intent keys) h g := by
  induction keys generalizing base h g Q with
  | nil => exact absent h g longer
  | cons key rest ih =>
    refine Sat.call_bind trivial (fun _ _ _ => raised _ _ _) fun row g' _ => ?_
    have longer' := List.Subset.trans longer
      (List.subset_append_left h [⟨.findPayload key (key.value intent), .ok row⟩])
    cases row with
    | none => exact ih longer' raised absent found
    | some other =>
      refine Sat.raiseIf_bind (fun _ => raised _ _ _) fun same => ?_
      have equal : store.digest other = store.digest intent := by simpa using same
      rw [sat_bind]
      have stored : ∀ h', h ++ [⟨.findPayload key (key.value intent), .ok (some other)⟩] ⊆ h' →
          base ⊆ h' ∧ Stored store intent h' := fun h' more =>
        ⟨List.Subset.trans longer' more, Or.inr ⟨key, key.value intent, other, more (by simp), equal⟩⟩
      -- the remaining keys can only raise, the match stands
      refine ih (List.Subset.refl _) (fun _ _ _ => raised _ _ _) ?_ ?_
      · exact fun h' g'' more => found h' g'' (stored h' more).1 (stored h' more).2
      · exact fun h' g'' more _ => found h' g'' (stored h' more).1 (stored h' more).2

theorem saves_meets : Meets saves (fun _ => spec) saved where
  body c := by
    obtain ⟨store, intent⟩ := c
    have failed : ∀ h g e, saved (store, intent) h g (.error e) := by
      intro h g e impossible
      cases impossible
    change Sat _ _ (store.saveImmutable intent) [] ()
    rw [Store.saveImmutable, sat_bind]
    refine Sat.raiseIf_bind (fun _ => failed [] () _) fun _ => ?_
    rw [sat_raiseIf]
    refine ⟨fun _ => failed [] () _, fun _ => ?_⟩
    change Sat _ _ (store.existing intent intentKeys >>= _) [] ()
    rw [sat_bind]
    refine sat_existing intentKeys (List.Subset.refl _) failed ?_ fun h g _ stored _ => stored
    intro h g _
    change Sat _ _ (attempt _ _) _ _
    rw [sat_attempt]
    refine (sat_call _ _).mpr ⟨trivial, fun r g' _ => ?_⟩
    cases r with
    | ok _ => exact fun _ => Or.inl (by simp)
    | error e =>
      change Sat _ _ (if e = integrityError then _ else _) _ _
      split
      · rw [sat_bind]
        refine sat_existing intentKeys (List.Subset.refl _) failed ?_ fun h g _ stored _ => stored
        exact fun h g _ => failed h g _
      · exact failed _ _ _
  rely _ _ _ _ _ _ := trivial

/-- Rows whose keys differ as texts are apart. -/
theorem apart_of_free {rows : List OrderIntent} {intent other : OrderIntent}
    (free : Free rows intent) (member : other ∈ rows) : Rows.Apart other intent := by
  refine ⟨fun same => free other member .intentId ?_, free other member .orderFingerprint,
    free other member .idempotencyKey⟩
  exact congrArg UUID.str same

/-- However the saves of all processes interleave, the table keeps its keys apart, and a save
that returned has its own intent in it. -/
theorem saveImmutable_refines {rows : List OrderIntent}
    {s : System Unit Exc RepositoryAns Unit (Store × OrderIntent) (List OrderIntent)}
    (keyed : rows.Pairwise Rows.Apart) (run : Reachable saves rows s)
    (injective : ∀ i t, s.tasks i = some t → Function.Injective t.call.1.digest) :
    s.durable.Pairwise Rows.Apart ∧
      ∀ i t g, s.tasks i = some t → t.status = .finished g (.ok ()) → t.call.2 ∈ s.durable := by
  have consistent := Reachable.consistent saves_meets saves_persistent run
  constructor
  · refine Reachable.durable_invariant saves_meets saves_persistent
      (J := fun _ rows => rows.Pairwise Rows.Apart) (fun _ => keyed) (fun _ known => known) ?_ run
    intro A op rows r rows' _ performed known
    cases op with
    | findPayload key value => exact performed.1 ▸ known
    | append intent =>
      rcases performed.1 with rfl | ⟨free, rfl⟩
      · exact known
      · rw [List.pairwise_append]
        refine ⟨known, List.pairwise_singleton _ _, fun other member intent' last => ?_⟩
        rw [List.mem_singleton] at last
        exact last ▸ apart_of_free free member
  · intro i t g found finished
    have status := consistent.status found
    rw [finished] at status
    rcases status rfl with appended | ⟨key, value, row, answered, same⟩
    · exact (consistent.facts found _ (Task.history_subset_known t appended)).2 _ rfl
    · have member := (consistent.facts found _ (Task.history_subset_known t answered)).1 _ _ _ rfl
      exact injective i t found same ▸ member

end PostgresExecutionStore
end Sentry
