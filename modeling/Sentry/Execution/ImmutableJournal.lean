import Mathlib.Data.List.Pairwise
import Sentry.Execution.Operations
import Sentry.Support.Concurrent

/-!
# The immutable journal

`_save_immutable` of `app/execution/postgres_store.py` for every table, over the unique
indexes of `app/db/models.py`. Any number of stores in any number of processes save into
one database: a save is a program of look-ups and one insert, and everything may happen in
between. Two contents are the same when their digests are, as everywhere in the source.
-/
namespace Sentry

open Support Coroutine

namespace ImmutableJournal

/-! ### The database -/

/-- `EXECUTION_UNIQUE_KEYS`. -/
def executionUniqueKeys : List (String × List String) :=
  [("trade_proposals", ["proposal_id"]),
    ("risk_decisions", ["decision_id"]),
    ("approvals", ["approval_id"]),
    ("broker_reviews", ["review_id"]),
    ("order_intents", ["intent_id", "order_fingerprint", "idempotency_key"]),
    ("broker_command_intents",
      ["command_intent_id", "order_intent_id", "order_fingerprint", "idempotency_key"]),
    ("fills", ["fill_id"]),
    ("trade_outcomes", ["outcome_id"]),
    ("environment_audit_events", ["transition_id"]),
    ("reconciliation_events", ["reconciliation_id", "negative_reconciliation_id"])]

/-- The keys of a table that carry a unique index. -/
def uniqueKeys (table : String) : List String := (executionUniqueKeys.lookup table).getD []

/-- The keys under which a save looks its content up. -/
def lookupKeys (table idKey : String) : List String := (executionUniqueKeys.lookup table).getD [idKey]

/-- `RuntimeBinding`. -/
structure Binding where
  environment : ExecutionEnvironment
  namespace_ : String
  deriving DecidableEq

/-- A row of a table of the environment. -/
structure Row where
  binding : Binding
  table : String
  payload : Json

/-- What the database makes of values, and the digest of the process. -/
structure Conversions where
  hashing : Hashing
  /-- The text of a value that is neither a string nor null. -/
  written : Json → String

section Journal

variable (py : Conversions)

/-- `payload ->> key`. -/
def keyText (payload : Json) (key : String) : Option String :=
  match payload.member key with
  | none | some .null => none
  | some (.str text) => some text
  | some value => some (py.written value)

/-- Two rows that a unique index keeps apart. -/
def SameKey (key : String) (a b : Row) : Prop :=
  a.table = b.table ∧ a.binding = b.binding ∧ (keyText py a.payload key).isSome ∧
    keyText py a.payload key = keyText py b.payload key

/-- The unique indexes hold: at most one row for each value of each unique key. -/
def Unique (rows : List Row) : Prop :=
  rows.Pairwise fun a b => ∀ key ∈ uniqueKeys a.table, ¬ SameKey py key a b

/-- An insert violates no unique index. -/
def Free (rows : List Row) (row : Row) : Prop :=
  ∀ other ∈ rows, ∀ key ∈ uniqueKeys row.table, ¬ SameKey py key other row

instance (key : String) (a b : Row) : Decidable (SameKey py key a b) :=
  inferInstanceAs (Decidable (_ ∧ _))

instance (rows : List Row) (row : Row) : Decidable (Free py rows row) :=
  inferInstanceAs (Decidable (∀ other ∈ rows, ∀ key ∈ uniqueKeys row.table, ¬ _))

inductive JournalOp where
  | findPayload (binding : Binding) (table key value : String)
  | append (row : Row)

abbrev JournalAns : JournalOp → Type
  | .findPayload _ _ _ _ => Option Row
  | .append _ => Unit

/-- A look-up sees the newest row of its binding. An insert is made only while it violates no
unique index; where it fails it may have been made all the same. -/
def database : (op : JournalOp) → List Row → Except Exc (JournalAns op) → List Row → Prop
  | .findPayload binding table key value, rows, r, rows' =>
    rows' = rows ∧ r = .ok (rows.reverse.find? fun row =>
      row.table == table && row.binding == binding && keyText py row.payload key == some value)
  | .append row, rows, r, rows' =>
    (rows' = rows ∨ Free py rows row ∧ rows' = rows ++ [row]) ∧ (r = .ok () → row ∈ rows')

/-! ### Saving -/

/-- The error of a violated unique index. -/
def integrityError : Exc := .unlisted "IntegrityError"

/-- A save by a store of some binding. The callers pass records whose keys are identifiers or
digests, so a key that is there is a text. -/
structure Save where
  row : Row
  idKey : String
  texts : ∀ key ∈ lookupKeys row.table idKey, row.payload.member key = none ∨
    ∃ text, row.payload.member key = some (.str text)

abbrev Saving := Coroutine (List Row) Exc JournalAns

/-- The text under a key, if the key is there. -/
def keyValue (payload : Json) (key : String) : Option String :=
  (payload.member key).bind fun value => match value with
    | .str text => some text
    | _ => none

/-- `_guard`. -/
def guard (binding : Binding) (payload : Json) : Except Exc Unit :=
  if (payload.member "environment").any fun value => match value with
      | .str text => text != binding.environment.value
      | _ => true then
    .error (.safetyCritical "cross-environment execution persistence attempt")
  else if (payload.member "namespace").any fun value => match value with
      | .str text => text != binding.namespace_
      | _ => true then
    .error (.safetyCritical "cross-namespace execution persistence attempt")
  else .ok ()

/-- `_payload`. -/
def readPayload (binding : Binding) (row : Row) : Except Exc Json :=
  if row.binding ≠ binding then
    .error (.safetyCritical "execution read crossed its environment/namespace binding")
  else do
    guard binding row.payload
    pure row.payload

/-- `existing`: whether the content is there under some of these keys. -/
def existing (row : Row) : List String → Saving Bool
  | [] => pure false
  | key :: rest =>
    match keyValue row.payload key with
    | none => existing row rest
    | some value => do
      let found ← call (JournalOp.findPayload row.binding row.table key value)
      match found with
      | none => existing row rest
      | some other =>
        let payload ← lift (readPayload row.binding other)
        raiseIf (py.hashing.sha256Json payload != py.hashing.sha256Json row.payload)
          (.duplicateOrder (row.table ++ " " ++ key ++ " reused with different content"))
        let _ ← existing row rest
        pure true

/-- A failed insert: a competing process may have committed after the look-up. -/
def insertFailed (save : Save) (e : Exc) : Saving Unit :=
  if e = integrityError then do
    let matched ← existing py save.row (lookupKeys save.row.table save.idKey)
    raiseIf (!matched) (.safetyCritical ("durable " ++ save.row.table ++ " insert failed"))
  else raise e

/-- `_save_immutable`. -/
def saveImmutable (save : Save) : Saving Unit := do
  lift (guard save.row.binding save.row.payload)
  let matched ← existing py save.row (lookupKeys save.row.table save.idKey)
  if matched then pure ()
  else attempt (call (JournalOp.append save.row)) (insertFailed py save)

/-- Saves of any stores at any time. A process that stops is a save that is never woken. -/
def saves : Concurrent (List Row) Exc JournalAns Unit Save where
  body := saveImmutable py
  performs := database py
  event := fun rows rows' => rows' = rows
  interrupts := fun _ => False

abbrev SaveCrew := Crew (List Row) Exc JournalAns Unit Save

/-! ### What a save finds -/

/-- A durable row of the same table and binding with the content of a save. -/
def Holds (rows : List Row) (row : Row) : Prop :=
  ∃ other ∈ rows, other.table = row.table ∧ other.binding = row.binding ∧
    py.hashing.sha256Json other.payload = py.hashing.sha256Json row.payload

/-- A durable row with other content has the same value under a key. -/
def Collides (rows : List Row) (row : Row) (key : String) : Prop :=
  ∃ other ∈ rows, SameKey py key other row ∧
    py.hashing.sha256Json other.payload ≠ py.hashing.sha256Json row.payload

/-- The same under some unique key. -/
def Conflicts (rows : List Row) (row : Row) : Prop :=
  ∃ key ∈ uniqueKeys row.table, Collides py rows row key

/-- What a refused save raises. -/
def Refusal : Exc → Prop
  | .duplicateOrder _ | .safetyCritical _ => True
  | _ => False

/-- Every save is a lane of its own, over a database that only grows. -/
def saveLanes : Concurrent.Discipline (List Row) Exc JournalAns Unit Save ℕ where
  lane := fun i _ => i
  I := Unique py
  G := fun rows rows' => rows ⊆ rows'
  R := fun _ rows rows' => rows ⊆ rows'
  issue := fun _ _ _ _ => True
  free := fun _ _ _ => True
  post := fun save since r rows => since ⊆ rows ∧ (r = .ok () → Holds py rows save.row) ∧
    (Conflicts py since save.row → ∃ e, r = .error e ∧ Refusal e)

/-! ### Every interleaving -/

section Runs

variable {py} {rows rows' : List Row} {a b row : Row} {key : String} {i : ℕ}
  {h : List (Done Exc JournalAns)}

theorem SameKey.symm (same : SameKey py key a b) : SameKey py key b a := by
  obtain ⟨table, binding, present, text⟩ := same
  exact ⟨table.symm, binding.symm, text ▸ present, text.symm⟩

/-- Two rows with one value under a unique key are one row. -/
theorem Unique.eq (unique : Unique py rows) (first : a ∈ rows) (second : b ∈ rows)
    (indexed : key ∈ uniqueKeys a.table) (same : SameKey py key a b) : a = b := by
  by_contra apart
  have symmetric : Std.Symm fun a b : Row => ∀ key ∈ uniqueKeys a.table, ¬ SameKey py key a b := by
    constructor
    intro a b separate key indexed same
    exact separate key (same.1 ▸ indexed) same.symm
  exact List.Pairwise.forall unique first second apart key indexed same

theorem Unique.append (unique : Unique py rows) (free : Free py rows row) :
    Unique py (rows ++ [row]) := by
  refine List.pairwise_append.mpr ⟨unique, List.pairwise_singleton _ _, ?_⟩
  intro other member last inside key indexed same
  obtain rfl := List.mem_singleton.mp inside
  exact free other member key (same.1 ▸ indexed) same

theorem database_grows {op : JournalOp} {r : Except Exc (JournalAns op)}
    (performed : database py op rows r rows') : rows ⊆ rows' := by
  cases op with
  | findPayload binding table key value => exact performed.1 ▸ List.Subset.refl _
  | append row =>
    rcases performed.1 with rfl | ⟨-, rfl⟩
    · exact List.Subset.refl _
    · exact List.subset_append_left _ _

theorem database_unique {op : JournalOp} {r : Except Exc (JournalAns op)}
    (performed : database py op rows r rows') (unique : Unique py rows) : Unique py rows' := by
  cases op with
  | findPayload binding table key value => exact performed.1 ▸ unique
  | append row =>
    rcases performed.1 with rfl | ⟨free, rfl⟩
    · exact unique
    · exact unique.append free

/-- While an operation is awaited it is performed once, and the database only grows. -/
theorem performed_of_relied {op : JournalOp} {r : Except Exc (JournalAns op)}
    (relied : (saves py).Relied (Unique py) ((saveLanes py).R i) op rows r rows') :
    ∃ before after, rows ⊆ before ∧ Unique py before ∧ database py op before r after ∧
      after ⊆ rows' ∧ Unique py rows' := by
  cases relied with
  | performed before holds performed after then_ =>
    exact ⟨_, _, before, holds, performed, after, then_⟩
  | interrupted raised => exact raised.elim
  | cutOff raised => exact raised.elim

theorem keyText_eq {value : String} (text : keyValue row.payload key = some value) :
    keyText py row.payload key = some value := by
  unfold keyValue at text
  unfold keyText
  cases found : row.payload.member key with
  | none => simp [found] at text
  | some document => cases document <;> simp_all

/-- What a look-up returns is a durable row under the key that was asked for. -/
theorem sameKey_of_found {other : Row} {value : String} (text : keyValue row.payload key = some value)
    (found : (rows.reverse.find? fun x => x.table == row.table && x.binding == row.binding &&
      keyText py x.payload key == some value) = some other) :
    other ∈ rows ∧ SameKey py key other row := by
  have passes := List.find?_some found
  simp only [Bool.and_eq_true, beq_iff_eq] at passes
  refine ⟨List.mem_reverse.mp (List.mem_of_find?_eq_some found), passes.1.1, passes.1.2, ?_, ?_⟩
  · rw [passes.2]
    rfl
  · rw [passes.2, keyText_eq text]

/-- A look-up that returns nothing saw no row under the key. -/
theorem not_sameKey_of_missing {other : Row} {value : String}
    (text : keyValue row.payload key = some value)
    (missing : (rows.reverse.find? fun x => x.table == row.table && x.binding == row.binding &&
      keyText py x.payload key == some value) = none) (member : other ∈ rows) :
    ¬ SameKey py key other row := by
  rintro ⟨table, binding, -, same⟩
  have fails := List.find?_eq_none.mp missing other (List.mem_reverse.mpr member)
  rw [keyText_eq text] at same
  simp [table, binding, same] at fails

theorem readPayload_ok {binding : Binding} {payload : Json}
    (read : readPayload binding row = .ok payload) : payload = row.payload := by
  unfold readPayload at read
  split at read
  · cases read
  · cases guarded : guard binding row.payload with
    | error e => simp [guarded] at read
    | ok _ =>
      rw [guarded] at read
      exact (Except.ok.inj read).symm

theorem guard_refusal {binding : Binding} {payload : Json} {e : Exc}
    (refused : guard binding payload = .error e) : Refusal e := by
  unfold guard at refused
  split at refused
  · cases refused
    trivial
  · split at refused
    · cases refused
      trivial
    · cases refused

theorem readPayload_refusal {binding : Binding} {e : Exc}
    (refused : readPayload binding row = .error e) : Refusal e := by
  unfold readPayload at refused
  split at refused
  · cases refused
    trivial
  · cases guarded : guard binding row.payload with
    | error e' =>
      rw [guarded] at refused
      cases refused
      exact guard_refusal guarded
    | ok _ =>
      rw [guarded] at refused
      cases refused

/-- No row of `rows` collides with `row` under one of these keys. -/
def Clear (py : Conversions) (rows : List Row) (row : Row) (keys : List String) : Prop :=
  ∀ key ∈ keys, key ∈ uniqueKeys row.table → ¬ Collides py rows row key

/-- The look-ups of a save. They raise, or nothing collides with it that was durable before;
and a match is a durable row with the content of the save. -/
theorem sat_existing {since seen : List Row} {row : Row} (keys : List String)
    {Q : Post (List Row) Exc JournalAns Bool}
    (texts : ∀ key ∈ keys, row.payload.member key = none ∨
      ∃ text, row.payload.member key = some (.str text))
    (base : since ⊆ seen) (older : seen ⊆ rows) (unique : Unique py rows)
    (raised : ∀ h rows e, Unique py rows → seen ⊆ rows → Refusal e → Q h rows (.error e))
    (absent : ∀ h rows, Unique py rows → seen ⊆ rows → Clear py since row keys → Q h rows (.ok false))
    (matched : ∀ h rows, Unique py rows → seen ⊆ rows → Clear py since row keys →
      Holds py rows row → Q h rows (.ok true)) :
    Sat ((saves py).spec (saveLanes py) i) Q (existing py row keys) h rows := by
  induction keys generalizing h rows seen Q with
  | nil => exact absent h rows unique older nofun
  | cons key rest ih =>
    have behind := fun other member => texts other (List.mem_cons_of_mem key member)
    unfold existing
    -- it remains to see, in each case, that nothing collides under the first key
    have clear_cons : (key ∈ uniqueKeys row.table → ¬ Collides py since row key) →
        Clear py since row rest → Clear py since row (key :: rest) := by
      intro first later other member indexed
      rcases List.mem_cons.mp member with rfl | inside
      · exact first indexed
      · exact later other inside indexed
    cases text : keyValue row.payload key with
    | none =>
      have missing : keyText py row.payload key = none := by
        rcases texts key List.mem_cons_self with none_ | ⟨value, some_⟩
        · simp [keyText, none_]
        · simp [keyValue, some_] at text
      have clear := clear_cons fun _ => by
        rintro ⟨x, -, ⟨-, -, present, same⟩, -⟩
        rw [same, missing] at present
        cases present
      refine ih behind base older unique raised ?_ ?_
      · exact fun h rows unique older later => absent h rows unique older (clear later)
      · exact fun h rows unique older later => matched h rows unique older (clear later)
    | some value =>
      refine Sat.call_bind ⟨unique, trivial⟩ (fun e rows' relied => ?_) fun found rows' relied => ?_
      · obtain ⟨before, after, -, -, performed, -⟩ := performed_of_relied relied
        cases performed.2
      obtain ⟨before, after, grown, unique', performed, more, unique''⟩ := performed_of_relied relied
      obtain ⟨rfl, answer⟩ := performed
      have answered := Except.ok.inj answer
      have older' : seen ⊆ rows' := fun _ member => more (grown (older member))
      cases found with
      | none =>
        have clear := clear_cons fun _ => by
          rintro ⟨x, durable, same, -⟩
          exact not_sameKey_of_missing text answered.symm (grown (older (base durable))) same
        refine ih behind base older' unique'' raised ?_ ?_
        · exact fun h rows unique older later => absent h rows unique older (clear later)
        · exact fun h rows unique older later => matched h rows unique older (clear later)
      | some other =>
        obtain ⟨member, same⟩ := sameKey_of_found text answered.symm
        refine Sat.lift_bind (fun e refused => ?_) fun payload read => ?_
        · exact raised _ _ e unique'' older' (readPayload_refusal refused)
        obtain rfl := readPayload_ok read
        refine Sat.raiseIf_bind (fun _ => raised _ _ _ unique'' older' trivial) fun equal => ?_
        have digest : py.hashing.sha256Json other.payload = py.hashing.sha256Json row.payload := by
          simpa using equal
        -- the row that was found is the only one under a unique key
        have clear := clear_cons fun indexed => by
          rintro ⟨x, durable, shared, differs⟩
          have one := unique'.eq (grown (older (base durable))) member (shared.1 ▸ indexed)
            ⟨shared.1.trans same.1.symm, shared.2.1.trans same.2.1.symm, shared.2.2.1,
              shared.2.2.2.trans same.2.2.2.symm⟩
          exact differs (one ▸ digest)
        -- whatever the other keys say, the match stands unless they raise
        have stands : ∀ h rows, Unique py rows → rows' ⊆ rows → Clear py since row rest →
            Q h rows (.ok true) := fun h rows unique further later =>
          matched h rows unique (fun _ member => further (older' member)) (clear later)
            ⟨other, further (more member), same.1, same.2.1, digest⟩
        rw [sat_bind]
        refine ih behind (fun _ durable => older' (base durable)) (List.Subset.refl rows') unique''
          (fun h rows e unique further => raised h rows e unique fun _ member => further (older' member))
          stands ?_
        exact fun h rows unique further later _ => stands h rows unique further later

/-- A save ends with its content durable or with an exception; and where a row with other
content was durable before, the exception is a refusal. -/
theorem sat_saveImmutable (save : Save) (unique : Unique py rows) :
    Sat ((saves py).spec (saveLanes py) i) (Concurrent.ends (saveLanes py) i save rows)
      (saveImmutable py save) h rows := by
  have refused : ∀ h rows' e, Unique py rows' → rows ⊆ rows' → Refusal e →
      Concurrent.ends (saveLanes py) i save rows h rows' (.error e) :=
    fun h rows' e unique older refusal =>
      ⟨unique, trivial, older, nofun, fun _ => ⟨e, rfl, refusal⟩⟩
  have conflictFree : Clear py rows save.row (lookupKeys save.row.table save.idKey) →
      ¬ Conflicts py rows save.row := by
    rintro clear ⟨key, indexed, collides⟩
    refine clear key ?_ indexed collides
    unfold uniqueKeys at indexed
    unfold lookupKeys
    cases known : executionUniqueKeys.lookup save.row.table with
    | none => simp [known] at indexed
    | some keys => simpa [known] using indexed
  have ended : ∀ h rows', Unique py rows' → rows ⊆ rows' →
      Clear py rows save.row (lookupKeys save.row.table save.idKey) → Holds py rows' save.row →
      Concurrent.ends (saveLanes py) i save rows h rows' (.ok ()) :=
    fun h rows' unique older clear holds => ⟨unique, trivial, older, fun _ => holds,
      fun conflicts => absurd conflicts (conflictFree clear)⟩
  refine Sat.lift_bind (fun e refusal => ?_) fun _ _ => ?_
  · exact refused _ _ _ unique (List.Subset.refl rows) (guard_refusal refusal)
  rw [sat_bind]
  refine sat_existing _ save.texts (List.Subset.refl rows) (List.Subset.refl rows) unique refused ?_
    fun h rows' unique older clear holds => ended h rows' unique older clear holds
  intro h rows' unique older clear
  change Sat _ _ (attempt _ _) _ _
  rw [sat_attempt]
  refine (sat_call _ _).mpr ⟨⟨unique, trivial⟩, fun r rows'' relied => ?_⟩
  obtain ⟨before, after, grown, -, performed, more, unique'⟩ := performed_of_relied relied
  have older' : rows ⊆ rows'' := fun _ member => more (database_grows performed (grown (older member)))
  cases r with
  | ok _ =>
    exact ended _ _ unique' older' clear ⟨save.row, more (performed.2 rfl), rfl, rfl, rfl⟩
  | error e =>
    change Sat _ _ (insertFailed py save e) _ _
    unfold insertFailed
    split
    · rw [sat_bind]
      refine sat_existing _ save.texts (List.Subset.refl rows) older' unique' refused ?_ ?_
      · exact fun h rows unique older _ => refused _ _ _ unique older trivial
      · exact fun h rows unique older _ holds => ended _ _ unique older clear holds
    · exact ⟨unique', trivial, older', nofun, fun conflicts => absurd conflicts (conflictFree clear)⟩

theorem keeps_saveImmutable {J : List Row → Prop} (save : Save) : Keeps J (saveImmutable py save) := by
  have looking : ∀ keys, Keeps J (existing py save.row keys) := by
    intro keys
    induction keys with
    | nil => exact keeps_pure _
    | cons key rest ih =>
      unfold existing
      split
      · exact ih
      · refine (keeps_call _).bind fun found => ?_
        split
        · exact ih
        · exact (keeps_lift _).bind fun _ => (keeps_raiseIf _ _).bind fun _ =>
            ih.bind fun _ => keeps_pure _
  refine (keeps_lift _).bind fun _ => (looking _).bind fun matched => ?_
  split
  · exact keeps_pure _
  · refine Keeps.attempt (keeps_call _) fun e => ?_
    unfold insertFailed
    split
    · exact (looking _).bind fun _ => keeps_raiseIf _ _
    · exact keeps_raise _

theorem saveLanes_sound : (saves py).Sound (saveLanes py) where
  G_refl := fun rows => List.Subset.refl rows
  G_trans := fun first second => List.Subset.trans first second
  R_refl := fun _ rows => List.Subset.refl rows
  R_trans := fun first second => List.Subset.trans first second
  event := by
    rintro rows rows' rfl unique
    exact ⟨unique, List.Subset.refl _, fun _ => List.Subset.refl _⟩
  perform := fun _ unique performed =>
    ⟨database_unique performed unique, database_grows performed, fun _ _ => database_grows performed⟩
  moves := fun save _ => keeps_saveImmutable save
  spares := fun _ save _ _ _ => keeps_saveImmutable save
  issue_stable := fun _ _ => trivial
  free_stable := fun _ _ => trivial
  post_stable := by
    rintro save since r rows rows' ⟨older, durable, refused⟩ grown
    refine ⟨List.Subset.trans older grown, fun returned => ?_, refused⟩
    obtain ⟨other, member, same⟩ := durable returned
    exact ⟨other, grown member, same⟩
  admitted := by
    intro i save s vacant _ _
    refine Or.inl fun j m found same => ?_
    obtain rfl : j = i := same
    cases vacant.symm.trans found
  sat := fun {i save h rows} unique _ => sat_saveImmutable save unique

/-- However the saves of all processes interleave over a database that keeps its unique indexes:
there is at most one row for each value of each unique key; a save that returned has its
content in the database; and a save that met a durable row with other content under one of
its unique keys was refused, and its row is not there. -/
theorem immutable_journal {s : SaveCrew} (initially : Unique py rows)
    (run : (saves py).Reachable rows s) :
    Unique py s.state ∧ ∀ x ∈ s.returned, (x.outcome = .ok () → Holds py s.state x.call.row) ∧
      (Conflicts py x.since x.call.row →
        (∃ e, x.outcome = .error e ∧ Refusal e) ∧ x.call.row ∉ s.state) := by
  have consistent := run.consistent saveLanes_sound initially fun _ => trivial
  refine ⟨consistent.invariant, fun x member => ?_⟩
  obtain ⟨older, durable, refused⟩ := consistent.returned x member
  refine ⟨durable, fun conflicts => ⟨refused conflicts, fun present => ?_⟩⟩
  obtain ⟨key, indexed, other, known, same, differs⟩ := conflicts
  have one := consistent.invariant.eq (older known) present (same.1 ▸ indexed) same
  exact differs (congrArg (fun row => py.hashing.sha256Json row.payload) one)

end Runs

end Journal

/-! ### Two fills under one identifier -/

namespace FillSample

/-- A stand-in for the digest that spells its document out. -/
def py : Conversions where
  hashing :=
    { sha256Json := fun document => match document with
        | .obj members => String.join (members.map fun entry => entry.1 ++ "=" ++
            (match entry.2 with
              | .str text => text
              | _ => "") ++ ";")
        | _ => ""
      uuid5 := fun _ _ => ⟨0⟩
      fillSeed := String.length }
  written := fun _ => ""

def fill (price : String) : Save where
  row :=
    { binding := ⟨.demo, "demo"⟩
      table := "fills"
      payload := .obj [("fill_id", .str "f-1"), ("price", .str price)] }
  idKey := "fill_id"
  texts := by
    intro key member
    have keys : lookupKeys "fills" "fill_id" = ["fill_id"] := by decide
    obtain rfl : key = "fill_id" := by simpa [keys] using member
    exact Or.inr ⟨"f-1", rfl⟩

def handler : (op : JournalOp) → List Row → Except Exc (JournalAns op) × List Row
  | .findPayload binding table key value, rows =>
    (.ok (rows.reverse.find? fun row =>
      row.table == table && row.binding == binding && keyText py row.payload key == some value), rows)
  | .append row, rows =>
    if Free py rows row then (.ok (), rows ++ [row]) else (.error integrityError, rows)

theorem handler_conforms (op : JournalOp) (rows : List Row) :
    database py op rows (handler op rows).1 (handler op rows).2 := by
  cases op with
  | findPayload binding table key value => exact ⟨rfl, rfl⟩
  | append row =>
    dsimp only [handler]
    by_cases free : Free py rows row
    · rw [if_pos free]
      exact ⟨Or.inr ⟨free, rfl⟩, fun _ => List.mem_append_right _ List.mem_cons_self⟩
    · rw [if_neg free]
      exact ⟨Or.inl rfl, nofun⟩

/-- One fill is saved, then another one under the same identifier. -/
def run : SaveCrew :=
  (Crew.turn handler 1 (Crew.start 1 (fill "2.00") (saveImmutable py (fill "2.00"))
    ((Crew.turn handler 0)^[2]
      ((Crew.idle []).start 0 (fill "1.00") (saveImmutable py (fill "1.00"))))))

theorem reachable_run : (saves py).Reachable [] run := by
  have first : (saves py).Reachable []
      ((Crew.idle []).start 0 (fill "1.00") (saveImmutable py (fill "1.00"))) :=
    Concurrent.Reachable.start (W := saves py) .refl 0 (fill "1.00") trivial
  have saved := first.turns handler_conforms 0 2
  have second : (saves py).Reachable [] (Crew.start 1 (fill "2.00") (saveImmutable py (fill "2.00"))
      ((Crew.turn handler 0)^[2]
        ((Crew.idle []).start 0 (fill "1.00") (saveImmutable py (fill "1.00"))))) :=
    saved.start 1 (fill "2.00") trivial
  exact second.turn handler_conforms 1

/-- How a save ended, and with how many rows before it. -/
def outcome (x : Support.Returned (List Row) Exc Unit Save) : Option Exc × ℕ :=
  (raised x.outcome, x.since.length)

theorem outcomes_run : run.returned.map outcome =
    [(none, 0), (some (.duplicateOrder "fills fill_id reused with different content"), 1)] := by
  decide +kernel

end FillSample

/-- The first fill is durable and the second one is refused. -/
theorem immutable_journal_refused :
    Unique FillSample.py FillSample.run.state ∧
      ∃ x ∈ FillSample.run.returned, FillSample.outcome x = (none, 0) ∧
        Holds FillSample.py FillSample.run.state x.call.row := by
  have empty : Unique FillSample.py [] := List.Pairwise.nil
  obtain ⟨unique, returned⟩ := immutable_journal empty FillSample.reachable_run
  have ended : (none, 0) ∈ FillSample.run.returned.map FillSample.outcome := by
    rw [FillSample.outcomes_run]
    simp
  obtain ⟨x, member, same⟩ := List.mem_map.mp ended
  refine ⟨unique, x, member, same, (returned x member).1 ?_⟩
  have fine : raised x.outcome = none := congrArg Prod.fst same
  cases outcome : x.outcome with
  | ok _ => rfl
  | error e =>
    rw [outcome] at fine
    cases fine

end ImmutableJournal
end Sentry
