import Sentry.Qualification.Audit
import Sentry.Qualification.Completion

/-!
# Commands that no session declares

What the audit counts of the commands and of the transmissions inside a session. A session
reaches from its premarket observation to the time at which its evidence was created. Rows
beyond the bound of a scan, and rows that share an identity, are reported as issues.
-/
namespace Sentry

open Support

/-! ### Equal rows -/

namespace JsonLike

theorem eqMembers_lookup {xs ys : List (String × JsonLike)} (equal : eqMembers xs ys = true)
    {key : String} {x : JsonLike} (member : (key, x) ∈ xs) :
    ∃ y, ys.lookup key = some y ∧ x.eq y = true := by
  induction xs with
  | nil => exact absurd member List.not_mem_nil
  | cons first rest ih =>
    obtain ⟨name, value⟩ := first
    rw [eqMembers, Bool.and_eq_true] at equal
    rcases List.mem_cons.mp member with here | later
    · cases here
      exact (Option.any_eq_true _ _).mp equal.1
    · exact ih equal.2 later

theorem lookup_eq (key : String) (xs : List (String × JsonLike)) :
    xs.lookup key = Dict.lookup key xs := by
  induction xs with
  | nil => rfl
  | cons first rest ih =>
    obtain ⟨name, value⟩ := first
    by_cases here : name = key
    · simp [Dict.lookup, here]
    · simp [List.lookup_cons, Dict.lookup, here, ih, beq_eq_false_iff_ne.mpr (Ne.symm here)]

/-- Equal mappings have the same keys, with equal values. -/
theorem eq_obj {a b : Document}
    (equal : (JsonLike.obj a.entries).eq (.obj b.entries) = true) (key : String) :
    a.get? key = none ∧ b.get? key = none ∨
      ∃ x y, a.get? key = some x ∧ b.get? key = some y ∧ x.eq y = true := by
  rw [eq, Bool.and_eq_true, beq_iff_eq] at equal
  obtain ⟨size, members⟩ := equal
  have found : ∀ {key x}, a.get? key = some x → ∃ y, b.get? key = some y ∧ x.eq y = true := by
    intro key x there
    obtain ⟨y, listed, same⟩ := eqMembers_lookup members (Dict.mem_entries.mpr there)
    exact ⟨y, (lookup_eq key b.entries).symm.trans listed, same⟩
  cases there : a.get? key with
  | some x =>
    obtain ⟨y, other, same⟩ := found there
    exact Or.inr ⟨x, y, rfl, other, same⟩
  | none =>
    refine Or.inl ⟨rfl, ?_⟩
    -- there are as many keys on the right as on the left, so that none of them is new
    have keys : a.keys ⊆ b.keys := by
      intro name member
      obtain ⟨x, value⟩ := Dict.mem_keys.mp member
      obtain ⟨y, other, -⟩ := found value
      exact Dict.mem_keys.mpr ⟨y, other⟩
    have same : a.keys.Perm b.keys := by
      refine (List.subperm_of_subset a.distinct keys).perm_of_length_le ?_
      simp [Dict.keys, size]
    by_contra other
    obtain ⟨y, value⟩ := Option.ne_none_iff_exists'.mp other
    obtain ⟨x, absent⟩ := Dict.mem_keys.mp (same.mem_iff.mpr (Dict.mem_keys.mpr ⟨y, value⟩))
    rw [there] at absent
    cases absent

theorem eq_str_left {s : String} {b : JsonLike} (equal : (JsonLike.str s).eq b = true) :
    b = .str s := by
  cases b <;> simp_all [eq, sameNumber, numeric?, number?]

theorem eq_str_right {s : String} {a : JsonLike} (equal : a.eq (.str s) = true) :
    a = .str s := by
  cases a <;> simp_all [eq, sameNumber, numeric?, number?]

end JsonLike

namespace QualificationAudit

variable (svc : QualificationAudit)

/-- The time that a row's value stands for. -/
def timeValue : Option RowTime → Option Time
  | some (.datetime value) => instant value
  | some (.value (.str text)) => (svc.fromisoformat (replaceZ text)).bind instant
  | _ => none

theorem rowCreatedAt_eq (row : Listed) : svc.rowCreatedAt row = svc.timeValue (timeOf row) := by
  unfold rowCreatedAt timeValue
  rcases timeOf row with _ | ⟨value | document⟩
  · rfl
  · rfl
  · cases document <;> rfl

theorem timeValue_value {x y : JsonLike} (equal : x.eq y = true) :
    svc.timeValue (some (.value x)) = svc.timeValue (some (.value y)) := by
  by_cases text : ∃ s, x = .str s
  · obtain ⟨s, rfl⟩ := text
    rw [JsonLike.eq_str_left equal]
  · have other : ¬ ∃ s, y = .str s := by
      rintro ⟨s, rfl⟩
      exact text ⟨s, JsonLike.eq_str_right equal⟩
    cases x <;> cases y <;> simp_all [timeValue]

/-- Equal rows have the same time. -/
theorem rowCreatedAt_same {a b : Listed} (same : a.same b = true) :
    svc.rowCreatedAt a = svc.rowCreatedAt b := by
  unfold Listed.same at same
  simp only [Bool.and_eq_true] at same
  obtain ⟨⟨-, times⟩, payloads⟩ := same
  rw [rowCreatedAt_eq, rowCreatedAt_eq, timeOf, timeOf]
  cases here : a.payload.createdAt with
  | none =>
    cases there : b.payload.createdAt with
    | some t => simp [here, there] at times
    | none =>
      rcases JsonLike.eq_obj payloads "created_at" with ⟨absent, absent'⟩ | ⟨x, y, value, value', equal⟩
      · simp [absent, absent']
      · simp [value, value', svc.timeValue_value equal]
  | some s =>
    cases there : b.payload.createdAt with
    | none => simp [here, there] at times
    | some t =>
      simp only [here, there] at times
      cases s with
      | datetime x =>
        cases t with
        | datetime y =>
          have equal : x = y := by simpa [RowTime.eq] using times
          simp [equal]
        | value y => simp [RowTime.eq] at times
      | value x =>
        cases t with
        | datetime y => simp [RowTime.eq] at times
        | value y => exact svc.timeValue_value (by simpa [RowTime.eq] using times)

/-! ### Indices -/

theorem Index.put_get? (issue : String) (row : Listed) (index : Index) (key other : String) :
    (index.put issue row key).rows.get? other =
      if key = other then some row else index.rows.get? other :=
  Dict.get?_set index.rows key other row

theorem Index.foldl_put_get? (issue : String) (row : Listed) (keys : List String) (index : Index)
    (key : String) :
    (keys.foldl (Index.put issue row) index).rows.get? key =
      if key ∈ keys then some row else index.rows.get? key := by
  induction keys generalizing index with
  | nil => simp
  | cons first rest ih =>
    rw [List.foldl_cons, ih, Index.put_get?]
    by_cases here : first = key
    · simp [here]
    · by_cases later : key ∈ rest
      · simp [later]
      · simp [here, later, Ne.symm here]

theorem Index.put_issues (issue : String) (row : Listed) (index : Index) (key : String) :
    index.issues ⊆ (index.put issue row key).issues := by
  intro text member
  rw [Index.put]
  split
  · exact List.mem_append_left _ member
  · exact member

theorem Index.foldl_put_issues (issue : String) (row : Listed) (keys : List String)
    (index : Index) : index.issues ⊆ (keys.foldl (Index.put issue row) index).issues := by
  induction keys generalizing index with
  | nil => exact List.Subset.refl _
  | cons first rest ih =>
    exact List.Subset.trans (Index.put_issues issue row index first) (ih _)

/-- A row that takes the place of another one is equal to it, unless there is an issue. -/
theorem Index.same_of_foldl_put {issue : String} {row other : Listed} {keys : List String}
    {index : Index} {key : String} (member : key ∈ keys)
    (quiet : issue ∉ (keys.foldl (Index.put issue row) index).issues)
    (found : index.rows.get? key = some other) : other.same row = true := by
  induction keys generalizing index with
  | nil => exact absurd member List.not_mem_nil
  | cons first rest ih =>
    rw [List.foldl_cons] at quiet
    by_cases here : first = key
    · subst here
      by_contra differs
      rw [Bool.not_eq_true] at differs
      have raised : issue ∈ (index.put issue row first).issues := by
        simp [Index.put, found, differs]
      exact quiet (Index.foldl_put_issues issue row rest _ raised)
    · have later : key ∈ rest := (List.mem_cons.mp member).resolve_left (Ne.symm here)
      have still : (index.put issue row first).rows.get? key = some other := by
        rw [Index.put_get?, if_neg here, found]
      exact ih later quiet still

variable {payloadKey : String} {includeRowId : Bool}

theorem index_concat (rows : List Listed) (row : Listed) :
    svc.index (rows ++ [row]) payloadKey includeRowId =
      (svc.identities payloadKey includeRowId row).foldl
        (Index.put (duplicateIssue payloadKey) row) (svc.index rows payloadKey includeRowId) := by
  simp [index, List.foldl_append]

/-- A row that is found under an identity is a listed one that has it. -/
theorem index_sound {rows : List Listed} {key : String} {row : Listed}
    (found : (svc.index rows payloadKey includeRowId).rows.get? key = some row) :
    row ∈ rows ∧ key ∈ svc.identities payloadKey includeRowId row := by
  induction rows using List.reverseRecOn with
  | nil => simp [index, Dict.get?, Dict.empty, Dict.lookup] at found
  | append_singleton rows last ih =>
    rw [index_concat, Index.foldl_put_get?] at found
    split at found
    next named =>
      cases found
      exact ⟨by simp, named⟩
    next =>
      obtain ⟨member, named⟩ := ih found
      exact ⟨List.mem_append_left _ member, named⟩

/-- Every identity of a listed row is found. -/
theorem index_complete {rows : List Listed} {key : String} {row : Listed} (member : row ∈ rows)
    (named : key ∈ svc.identities payloadKey includeRowId row) :
    ∃ stored, (svc.index rows payloadKey includeRowId).rows.get? key = some stored := by
  induction rows using List.reverseRecOn with
  | nil => exact absurd member List.not_mem_nil
  | append_singleton rows last ih =>
    rw [index_concat, Index.foldl_put_get?]
    split
    next => exact ⟨last, rfl⟩
    next unnamed =>
      rcases List.mem_append.mp member with earlier | now
      · exact ih earlier
      · rw [List.mem_singleton.mp now] at named
        exact absurd named unnamed

/-- Without an issue the row that is found has the time of every row with its identity. -/
theorem index_time {rows : List Listed} {key : String} {row stored : Listed}
    (quiet : duplicateIssue payloadKey ∉ (svc.index rows payloadKey includeRowId).issues)
    (member : row ∈ rows) (named : key ∈ svc.identities payloadKey includeRowId row)
    (found : (svc.index rows payloadKey includeRowId).rows.get? key = some stored) :
    svc.rowCreatedAt stored = svc.rowCreatedAt row := by
  induction rows using List.reverseRecOn generalizing stored with
  | nil => exact absurd member List.not_mem_nil
  | append_singleton rows last ih =>
    rw [index_concat] at quiet found
    have before : duplicateIssue payloadKey ∉ (svc.index rows payloadKey includeRowId).issues :=
      fun raised => quiet (Index.foldl_put_issues _ last _ _ raised)
    rw [Index.foldl_put_get?] at found
    rcases List.mem_append.mp member with earlier | now
    · obtain ⟨old, there⟩ := svc.index_complete earlier named
      have same := ih before earlier there
      split at found
      next again =>
        -- the last row has taken the place of an equal one
        cases found
        rw [← same, svc.rowCreatedAt_same (Index.same_of_foldl_put again quiet there)]
      next =>
        rw [there] at found
        cases found
        exact same
    · rw [List.mem_singleton.mp now] at named ⊢
      rw [if_pos named] at found
      cases found
      rfl

/-! ### Declarations -/

/-- Whether a session declares a command. -/
def isDeclared (sessions : List SessionRecord) (commandId : String) : Bool :=
  sessions.any fun session => session.commandIntentIds.any fun id => id.str == commandId

theorem Declarations.foldl_get? (session : SessionRecord)
    {step : Declarations → UUID → Declarations}
    (stores : ∀ d id, (step d id).declared = d.declared.set id.str session) (ids : List UUID)
    (d : Declarations) (key : String) :
    ((ids.foldl step d).declared.get? key).isSome =
      ((d.declared.get? key).isSome || ids.any fun id => id.str == key) := by
  induction ids generalizing d with
  | nil => simp
  | cons first rest ih =>
    rw [List.foldl_cons, ih, stores, Dict.get?_set]
    by_cases here : first.str = key
    · simp [here]
    · simp [here, beq_eq_false_iff_ne.mpr here]

theorem Declarations.session_get? (d : Declarations) (session : SessionRecord) (key : String) :
    ((d.session session).declared.get? key).isSome =
      ((d.declared.get? key).isSome ||
        session.commandIntentIds.any fun id => id.str == key) := by
  rw [Declarations.session, Declarations.foldl_get? session (fun _ _ => rfl),
    Declarations.foldl_get? session (fun _ _ => rfl), SessionRecord.commandIntentIds, List.any_append, Bool.or_assoc]

theorem declarations_get? (sessions : List SessionRecord) (key : String) :
    ((declarations sessions).declared.get? key).isSome = isDeclared sessions key := by
  have started : ∀ d : Declarations,
      ((sessions.foldl Declarations.session d).declared.get? key).isSome =
        ((d.declared.get? key).isSome || isDeclared sessions key) := by
    induction sessions with
    | nil => simp [isDeclared]
    | cons first rest ih =>
      intro d
      rw [List.foldl_cons, ih, Declarations.session_get?, Bool.or_assoc]
      rfl
  exact (started {}).trans (Bool.false_or _)

/-! ### What is hidden -/

/-- Whether the time of a row lies between a session's premarket observation and an end. -/
def during (ends : SessionRecord → Time) (sessions : List SessionRecord) (row : Listed) : Bool :=
  (svc.rowCreatedAt row).any fun createdAt => sessions.any fun session =>
    decide (session.premarketObservedAt ≤ createdAt) && decide (createdAt ≤ ends session)

/-- The identity of a command's row. -/
def commandId (row : Listed) : Option String :=
  (given row.payload.payload "command_intent_id").map svc.text

/-- The durable commands inside the sessions that none of them declares. -/
def hiddenCommands (ends : SessionRecord → Time) (tables : AuditTables)
    (sessions : List SessionRecord) : List String :=
  ((((tables "broker_command_intents").filter (svc.during ends sessions)).filterMap
    svc.commandId).filter fun id => !isDeclared sessions id).dedup

/-- The transmitted rows of the firewall inside the sessions. -/
def hiddenTransmissions (ends : SessionRecord → Time) (tables : AuditTables)
    (sessions : List SessionRecord) : List Listed :=
  (tables "external_write_firewall_events").filter fun row =>
    isTransmitted row && svc.during ends sessions row

variable {tables : AuditTables} {sessions : List SessionRecord}

theorem mem_hiddenCommands {ends : SessionRecord → Time} {id : String} :
    id ∈ svc.hiddenCommands ends tables sessions ↔
      (∃ row ∈ tables "broker_command_intents", svc.during ends sessions row = true ∧
        svc.commandId row = some id) ∧ isDeclared sessions id = false := by
  simp only [hiddenCommands, List.mem_dedup, List.mem_filter, List.mem_filterMap,
    Bool.not_eq_true', and_assoc]

theorem nodup_hiddenCommands (ends : SessionRecord → Time) :
    (svc.hiddenCommands ends tables sessions).Nodup :=
  List.nodup_dedup _

theorem listed_eq {table : String} (short : (listed tables table).length ≠ tableLimit) :
    listed tables table = (tables table).reverse := by
  have all : (tables table).reverse.filter (fun row =>
      AuditRow.precedes none row && (fun _ : AuditRecord => true) row.payload) =
      (tables table).reverse := by
    rw [List.filter_eq_self]
    exact fun _ _ => rfl
  unfold listed AuditRow.listPayloads at short ⊢
  rw [all, List.length_take] at short
  rw [all, List.take_of_length_le (by omega)]

theorem short_of_quiet {table : String} (named : table ∈ tableNames)
    (quiet : scanIssue table ∉ (svc.audit tables sessions).issues) :
    listed tables table = (tables table).reverse := by
  refine listed_eq fun full => quiet ?_
  have raised : scanIssue table ∈ scanIssues tables :=
    List.mem_map_of_mem (List.mem_filter.mpr ⟨named, beq_iff_eq.mpr full⟩)
  simp only [audit, List.mem_eraseDups, List.mem_append]
  exact Or.inl (Or.inl (Or.inl (Or.inl (Or.inl raised))))

theorem commands_quiet
    (quiet : duplicateIssue "command_intent_id" ∉ (svc.audit tables sessions).issues) :
    duplicateIssue "command_intent_id" ∉
      (svc.index (listed tables "broker_command_intents") "command_intent_id" false).issues := by
  intro raised
  apply quiet
  simp only [audit, List.mem_eraseDups, List.mem_append, List.flatMap_cons]
  simp [raised]

theorem identities_command (row : Listed) :
    svc.identities "command_intent_id" false row = (svc.commandId row).toList :=
  List.append_nil _

/-- The commands that the audit counts as undeclared. -/
def countedCommands (tables : AuditTables) (sessions : List SessionRecord) : List String :=
  svc.undeclared (svc.index (listed tables "broker_command_intents") "command_intent_id" false).rows
    (declarations sessions) sessions

/-- The firewall rows that it counts as transmitted. -/
def countedTransmissions (tables : AuditTables) (sessions : List SessionRecord) : List Listed :=
  svc.transmittedRows (listed tables "external_write_firewall_events") sessions

theorem countedCommands_perm
    (all : listed tables "broker_command_intents" = (tables "broker_command_intents").reverse)
    (quiet : duplicateIssue "command_intent_id" ∉
      (svc.index (listed tables "broker_command_intents") "command_intent_id" false).issues) :
    (svc.countedCommands tables sessions).Perm
      (svc.hiddenCommands SessionRecord.createdAt tables sessions) := by
  unfold countedCommands
  set commands := svc.index (listed tables "broker_command_intents") "command_intent_id" false
  have distinct : (svc.undeclared commands.rows (declarations sessions) sessions).Nodup :=
    (List.filter_sublist.map Prod.fst).nodup commands.rows.distinct
  have isListed : ∀ row, row ∈ listed tables "broker_command_intents" ↔
      row ∈ tables "broker_command_intents" := by
    intro row
    rw [all, List.mem_reverse]
  have undeclared : ∀ id, ((declarations sessions).declared.get? id).isNone = true ↔
      isDeclared sessions id = false := by
    intro id
    rw [← declarations_get?]
    cases (declarations sessions).declared.get? id <;> simp
  refine (List.perm_ext_iff_of_nodup distinct (svc.nodup_hiddenCommands _)).mpr fun id => ?_
  simp only [QualificationAudit.undeclared, mem_hiddenCommands, List.mem_map, List.mem_filter,
    Bool.and_eq_true, undeclared]
  constructor
  · rintro ⟨⟨key, row⟩, ⟨entry, inside, none_⟩, rfl⟩
    obtain ⟨member, named⟩ := svc.index_sound (Dict.mem_entries.mp entry)
    rw [identities_command, Option.mem_toList] at named
    exact ⟨⟨row, (isListed row).mp member, inside, named⟩, none_⟩
  · rintro ⟨⟨row, member, inside, named⟩, none_⟩
    have identity : id ∈ svc.identities "command_intent_id" false row := by
      rw [identities_command, Option.mem_toList]
      exact named
    obtain ⟨stored, found⟩ := svc.index_complete ((isListed row).mpr member) identity
    have time := svc.index_time quiet ((isListed row).mpr member) identity found
    refine ⟨(id, stored), ⟨Dict.mem_entries.mpr found, ?_, none_⟩, rfl⟩
    rw [inAnySession, time]
    exact inside

/-- Without an issue of the table the undeclared commands are those that are hidden. -/
theorem undeclared_exact (short : scanIssue "broker_command_intents" ∉
      (svc.audit tables sessions).issues)
    (distinct : duplicateIssue "command_intent_id" ∉ (svc.audit tables sessions).issues) :
    (svc.audit tables sessions).undeclaredCommandIntents =
      (svc.hiddenCommands SessionRecord.createdAt tables sessions).length :=
  (svc.countedCommands_perm (svc.short_of_quiet (by decide) short)
    (svc.commands_quiet distinct)).length_eq

theorem countedTransmissions_perm (short : scanIssue "external_write_firewall_events" ∉
      (svc.audit tables sessions).issues) :
    (svc.countedTransmissions tables sessions).Perm
      (svc.hiddenTransmissions SessionRecord.createdAt tables sessions) := by
  rw [countedTransmissions, svc.short_of_quiet (by decide) short, transmittedRows,
    List.filter_reverse]
  exact List.reverse_perm _

theorem transmitted_exact (short : scanIssue "external_write_firewall_events" ∉
      (svc.audit tables sessions).issues) :
    (svc.audit tables sessions).transmittedExternalWrites =
      (svc.hiddenTransmissions SessionRecord.createdAt tables sessions).length :=
  (svc.countedTransmissions_perm short).length_eq

/-- The qualification service over the tables of the binding. -/
def service {Row : Type} (ev : QualificationEvaluator)
    (modelValidate : Row → Option (SessionEvidence ev.calendar.timezone))
    (modelDump : SessionEvidence ev.calendar.timezone → Row) (tables : AuditTables) :
    QualificationService Row where
  namespace_ := svc.namespace_
  evaluator := ev
  modelValidate := modelValidate
  modelDump := modelDump
  audit := fun sessions => .ok (svc.audit tables (sessions.map SessionEvidence.toSessionRecord))

variable {Row : Type} {ev : QualificationEvaluator}
  {modelValidate : Row → Option (SessionEvidence ev.calendar.timezone)}
  {modelDump : SessionEvidence ev.calendar.timezone → Row} {repo : QualificationRepository Row}
  {stored : List (SessionEvidence ev.calendar.timezone)} {invalid : List String}
  {now : Time} {id : UUID} {report : QualificationReport}

/-- A status evaluates what is stored, with the audit of the tables if there is one. -/
theorem evaluated_of_status
    (loaded : (svc.service ev modelValidate modelDump tables).loadSessions repo =
      (stored, invalid))
    (evaluated : (svc.service ev modelValidate modelDump tables).status repo now id = .ok report) :
    ∃ audit, report = ev.evaluate stored now audit invalid id ∧
      ∀ a ∈ audit, a = svc.audit tables (stored.map SessionEvidence.toSessionRecord) := by
  unfold QualificationService.status at evaluated
  rw [loaded] at evaluated
  dsimp only at evaluated
  split at evaluated
  · cases evaluated
    exact ⟨none, rfl, fun _ none_ => absurd none_ (Option.not_mem_none _)⟩
  · cases evaluated
    exact ⟨some _, rfl, fun a there => (Option.mem_some.mp there).symm⟩

/-- A passed report has qualified with the audit of the tables. -/
theorem qualified_of_status
    (loaded : (svc.service ev modelValidate modelDump tables).loadSessions repo =
      (stored, invalid))
    (evaluated : (svc.service ev modelValidate modelDump tables).status repo now id = .ok report)
    (passed : report.status = .passed) :
    QualificationEvaluator.Qualified ev
      (QualificationEvaluator.inOrder (stored.map SessionEvidence.toSessionRecord))
      (some (svc.audit tables (stored.map SessionEvidence.toSessionRecord))) invalid := by
  obtain ⟨audit, rfl, same⟩ := svc.evaluated_of_status loaded evaluated
  have qualified := (QualificationEvaluator.evaluate_passed_iff _ _ _ _ _).mp passed
  obtain ⟨a, rfl, -⟩ := qualified.audited
  obtain rfl := same a rfl
  exact qualified

/-- A report that is passed hides nothing, since its audit has no issue. -/
theorem passed_hides_nothing
    (loaded : (svc.service ev modelValidate modelDump tables).loadSessions repo =
      (stored, invalid))
    (evaluated : (svc.service ev modelValidate modelDump tables).status repo now id = .ok report)
    (passed : report.status = .passed) :
    svc.hiddenCommands SessionRecord.createdAt tables
        (stored.map SessionEvidence.toSessionRecord) = [] ∧
      svc.hiddenTransmissions SessionRecord.createdAt tables
        (stored.map SessionEvidence.toSessionRecord) = [] := by
  obtain ⟨a, there, clean⟩ := (svc.qualified_of_status loaded evaluated passed).audited
  obtain rfl := Option.some.inj there
  have quiet : ∀ issue, issue ∉ (svc.audit tables
      (stored.map SessionEvidence.toSessionRecord)).issues := by
    intro issue
    rw [clean.noIssues]
    exact List.not_mem_nil
  have commands := svc.undeclared_exact (quiet _) (quiet _)
  have transmissions := svc.transmitted_exact (quiet _)
  rw [clean.noneUndeclared] at commands
  rw [clean.noneTransmitted] at transmissions
  exact ⟨List.length_eq_zero_iff.mp commands.symm, List.length_eq_zero_iff.mp transmissions.symm⟩

end QualificationAudit

namespace QualificationSample

open QualificationAudit

/-- An audit whose schemas take nothing. -/
def auditor : QualificationAudit where
  namespace_ := "shadow"
  newYork := .newYork
  str := fun _ => ""
  fromisoformat := fun _ => none
  command := fun _ => none
  orderIntent := fun _ => none
  proposal := fun _ => none
  risk := fun _ => none
  review := fun _ => none
  account := fun _ => none
  firewallDecision := fun _ => none

end QualificationSample

namespace QualificationAudit

end QualificationAudit

end Sentry
