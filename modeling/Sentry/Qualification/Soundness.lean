import Sentry.Qualification.HiddenCommands

/-!
# What a passed qualification rests on

An audit without issues has followed every declared command to the durable records that it was
made from and to its one denial. Together with the gates this is what a passed status says of
the stored sessions and of the tables.
-/
namespace Sentry

open Support

namespace QualificationAudit

variable (svc : QualificationAudit) {tables : AuditTables} {sessions : List SessionRecord}

/-! ### Records in tables -/

/-- A row of a table with an identity. -/
def Holds (tables : AuditTables) (table key id : String) (row : Listed) : Prop :=
  row ∈ tables table ∧ (given row.payload.payload key).map svc.text = some id

/-- A row of a table with an identity, whose payload is a valid record. -/
def Resolves {α : Type} (model : Document → Option α) (tables : AuditTables)
    (table key id : String) (record : α) : Prop :=
  ∃ row, svc.Holds tables table key id row ∧ model row.payload.payload = some record

variable {svc} {table key id : String} {row : Listed}

theorem mem_of_listed (member : row ∈ listed tables table) : row ∈ tables table := by
  have inside := List.mem_of_mem_filter (List.mem_of_mem_take member)
  exact List.mem_reverse.mp inside

theorem holds_of_index
    (found : (svc.index (listed tables table) key false).rows.get? id = some row) :
    svc.Holds tables table key id row := by
  obtain ⟨member, named⟩ := svc.index_sound found
  rw [identities, if_neg Bool.false_ne_true, List.append_nil, Option.mem_toList] at named
  exact ⟨mem_of_listed member, named⟩

theorem resolves_of_index {α : Type} {model : Document → Option α} {record : α}
    (valid : validateModel model
      ((svc.index (listed tables table) key false).rows.get? id) = some record) :
    svc.Resolves model tables table key id record := by
  obtain ⟨row, found, read⟩ := Option.bind_eq_some_iff.mp valid
  exact ⟨row, holds_of_index found, read⟩

/-- A snapshot that is found is one of the two tables. -/
theorem holds_of_marketIndex (found : (svc.marketIndex tables).rows.get? id = some row) :
    svc.Holds tables "market_snapshots" "snapshot_id" id row ∨
      svc.Holds tables "option_snapshots" "snapshot_id" id row := by
  have merged : ∀ (entries : List (String × Listed)) (start : Index) (issue : String),
      (entries.foldl (fun index entry => index.put issue entry.2 entry.1) start).rows.get? id =
        some row → (id, row) ∈ entries ∨ start.rows.get? id = some row := by
    intro entries
    induction entries with
    | nil => exact fun start issue found => Or.inr found
    | cons entry rest ih =>
      intro start issue found
      rcases ih _ issue found with later | here
      · exact Or.inl (List.mem_cons_of_mem _ later)
      · rw [Index.put_get?] at here
        split at here
        next same =>
          cases here
          subst same
          exact Or.inl List.mem_cons_self
        next => exact Or.inr here
  rcases merged _ _ _ found with option_ | market
  · exact Or.inr (holds_of_index (Dict.mem_entries.mp option_))
  · exact Or.inl (holds_of_index market)

/-! ### One command -/

/-- The fields that an intent shares with its command. -/
structure IntentMatches (intent : OrderIntent) (command : BrokerCommandIntent) : Prop where
  proposalId : intent.proposalId = command.proposalId
  riskDecisionId : intent.riskDecisionId = command.riskDecisionId
  approvalId : intent.approvalId = command.approvalId
  orderFingerprint : intent.orderFingerprint = command.orderFingerprint
  idempotencyKey : intent.idempotencyKey = command.idempotencyKey
  action : intent.action = command.action

variable (svc) in
/-- The durable records that a command was made from. -/
structure Linked (tables : AuditTables) (command : BrokerCommandIntent) : Prop where
  bound : command.environment = .demo ∧ command.namespace_ = svc.namespace_
  intent : ∃ intent review,
    svc.Resolves svc.orderIntent tables "order_intents" "intent_id" command.orderIntentId.str
        intent ∧ IntentMatches intent command ∧
      svc.Resolves svc.review tables "broker_reviews" "review_id" intent.reviewId.str review ∧
      review.proposalId = command.proposalId ∧ review.sideEffectFree = true
  proposal : ∃ proposal,
    svc.Resolves svc.proposal tables "trade_proposals" "proposal_id" command.proposalId.str
        proposal ∧ proposal.quoteSnapshotId = command.quoteSnapshotId
  risk : ∃ risk,
    svc.Resolves svc.risk tables "risk_decisions" "decision_id" command.riskDecisionId.str
        risk ∧ risk.proposalId = command.proposalId
  approval : ∀ approvalId, command.approvalId = some approvalId →
    ∃ row, svc.Holds tables "approvals" "approval_id" approvalId.str row
  quote : ∃ row, svc.Holds tables "market_snapshots" "snapshot_id" command.quoteSnapshotId.str row ∨
    svc.Holds tables "option_snapshots" "snapshot_id" command.quoteSnapshotId.str row
  realAccount : ∃ snapshotId row, command.brokerObservedAccountSnapshotId = some snapshotId ∧
    svc.Holds tables "broker_observed_account_snapshots" "snapshot_id" snapshotId.str row
  shadowAccount : ∃ row, svc.Holds tables "shadow_account_snapshots" "snapshot_id"
    command.effectiveAccountSnapshotId.str row

variable (svc) in
/-- One row of the firewall names the command, and it is a denial that transmitted nothing. -/
def DeniedOnce (tables : AuditTables) (id : String) : Prop :=
  ∃ row decision, svc.firewallByCommand (tables "external_write_firewall_events") id = [row] ∧
    svc.validateFirewallDecision row = some decision ∧
    decision.disposition = .blockedShadow ∧ decision.transmitted = false ∧
    decision.environment = .demo

variable (svc) in
/-- A declared command has a durable record, with all that belongs to it. -/
def Accounted (tables : AuditTables) (id : String) : Prop :=
  ∃ command, svc.Resolves svc.command tables "broker_command_intents" "command_intent_id" id
      command ∧ svc.Linked tables command ∧ svc.DeniedOnce tables id

theorem issueUnless_eq_nil {holds : Bool} {issue : String} :
    issueUnless holds issue = [] ↔ holds = true := by
  cases holds <;> simp [issueUnless]

variable (svc) in
/-- The links that the audit builds. -/
def linksOf (tables : AuditTables) : Links where
  proposals := (svc.index (listed tables "trade_proposals") "proposal_id" false).rows
  risks := (svc.index (listed tables "risk_decisions") "decision_id" false).rows
  approvals := (svc.index (listed tables "approvals") "approval_id" false).rows
  reviews := (svc.index (listed tables "broker_reviews") "review_id" false).rows
  orderIntents := (svc.index (listed tables "order_intents") "intent_id" false).rows
  marketSnapshots := (svc.marketIndex tables).rows
  realAccounts :=
    (svc.index (listed tables "broker_observed_account_snapshots") "snapshot_id" false).rows
  shadowAccounts := (svc.index (listed tables "shadow_account_snapshots") "snapshot_id" false).rows
  firewall := svc.firewallByCommand (listed tables "external_write_firewall_events")

variable {command : BrokerCommandIntent}

/-- An intent without issues has its fields and its review. -/
theorem intent_of_findings
    (clean : (svc.intentFindings (svc.linksOf tables) command).issues = []) :
    ∃ intent review,
      svc.Resolves svc.orderIntent tables "order_intents" "intent_id" command.orderIntentId.str
          intent ∧ IntentMatches intent command ∧
        svc.Resolves svc.review tables "broker_reviews" "review_id" intent.reviewId.str review ∧
        review.proposalId = command.proposalId ∧ review.sideEffectFree = true := by
  rw [intentFindings] at clean
  split at clean
  next => cases clean
  next intent found =>
    dsimp only at clean
    split at clean
    next => simp at clean
    next review reviewed =>
      obtain ⟨valid, sound⟩ := Option.filter_eq_some_iff.mp reviewed
      simp only [Bool.and_eq_true, beq_iff_eq] at sound
      have linked := issueUnless_eq_nil.mp clean
      simp only [Bool.and_eq_true, beq_iff_eq] at linked
      obtain ⟨⟨⟨⟨⟨proposal, risk⟩, approval⟩, fingerprint⟩, key⟩, action⟩ := linked
      exact ⟨intent, review, resolves_of_index found,
        ⟨proposal, risk, approval, fingerprint, key, action⟩, resolves_of_index valid, sound.1,
        sound.2⟩

theorem exists_of_isSome_index
    (there : ((svc.index (listed tables table) key false).rows.get? id).isSome = true) :
    ∃ row, svc.Holds tables table key id row := by
  obtain ⟨row, found⟩ := Option.isSome_iff_exists.mp there
  exact ⟨row, holds_of_index found⟩

variable {d : Declarations} {session : SessionRecord}

/-- A command without issues is linked. -/
theorem linked_of_findings
    (clean : (svc.commandFindings (svc.linksOf tables) d session id row command).issues = []) :
    svc.Linked tables command := by
  simp only [commandFindings, snapshotIssues, List.append_eq_nil_iff, issueUnless_eq_nil,
    Bool.and_eq_true, beq_iff_eq] at clean
  obtain ⟨⟨⟨⟨⟨⟨⟨⟨⟨bound, -⟩, -⟩, -⟩, intent⟩, proposal⟩, risk⟩, approval⟩,
    ⟨quote, real⟩, shadow⟩, -⟩ := clean
  refine ⟨bound, intent_of_findings intent, ?_, ?_, ?_, ?_, ?_, exists_of_isSome_index shadow⟩
  · obtain ⟨record, valid, same⟩ := (Option.any_eq_true _ _).mp proposal
    exact ⟨record, resolves_of_index valid, beq_iff_eq.mp same⟩
  · obtain ⟨record, valid, same⟩ := (Option.any_eq_true _ _).mp risk
    exact ⟨record, resolves_of_index valid, beq_iff_eq.mp same⟩
  · intro approvalId named
    rw [named, Option.all_some] at approval
    exact exists_of_isSome_index approval
  · obtain ⟨row, found⟩ := Option.isSome_iff_exists.mp quote
    exact ⟨row, holds_of_marketIndex found⟩
  · obtain ⟨snapshotId, named, there⟩ := (Option.any_eq_true _ _).mp real
    obtain ⟨row, holds⟩ := exists_of_isSome_index there
    exact ⟨snapshotId, row, named, holds⟩

/-- It has been denied once, where the whole table of the firewall was listed. -/
theorem denied_of_findings
    (all : listed tables "external_write_firewall_events" =
      (tables "external_write_firewall_events").reverse)
    (clean : (svc.commandFindings (svc.linksOf tables) d session id row command).issues = []) :
    svc.DeniedOnce tables id := by
  simp only [commandFindings, List.append_eq_nil_iff, issueUnless_eq_nil, Bool.and_eq_true,
    beq_iff_eq] at clean
  obtain ⟨-, one, valid⟩ := clean
  obtain ⟨row, only⟩ := List.length_eq_one_iff.mp one
  rw [only] at valid
  have denial : svc.validDenial row = true := by
    by_contra other
    rw [List.filter_cons_of_neg other] at valid
    cases valid
  obtain ⟨decision, read, sound⟩ := (Option.any_eq_true _ _).mp denial
  simp only [Bool.and_eq_true, Bool.not_eq_true', beq_iff_eq] at sound
  have alone : svc.firewallByCommand (tables "external_write_firewall_events") id = [row] := by
    have reversed : (svc.firewallByCommand (tables "external_write_firewall_events") id).reverse =
        [row] := by
      rw [← only]
      change _ = svc.firewallByCommand (listed tables "external_write_firewall_events") id
      rw [all, firewallByCommand, firewallByCommand, List.filter_reverse]
    rw [← List.reverse_reverse (svc.firewallByCommand _ _), reversed, List.reverse_singleton]
  exact ⟨row, decision, alone, read, sound.1.1, sound.1.2, sound.2⟩

/-- What the audit has found where a command has no issue. -/
theorem auditCommand_clean {links : Links} {commands : Dict String Listed}
    {totals : CommandTotals} {declaration : String × SessionRecord}
    (clean : (svc.auditCommand links commands d totals declaration).issues = []) :
    totals.issues = [] ∧ ∃ row command, commands.get? declaration.1 = some row ∧
      svc.command row.payload.payload = some command ∧
      (svc.commandFindings links d declaration.2 declaration.1 row command).issues = [] := by
  rw [auditCommand] at clean
  dsimp only at clean
  split at clean
  next => simp at clean
  next row found =>
    split at clean
    next => simp at clean
    next command read =>
      obtain ⟨before, here⟩ := List.append_eq_nil_iff.mp clean
      exact ⟨before, row, command, found, read, List.map_eq_nil_iff.mp here⟩

theorem auditCommands_clean {links : Links} {commands : Dict String Listed}
    {totals : CommandTotals} {declarations : List (String × SessionRecord)}
    (clean : (declarations.foldl (svc.auditCommand links commands d) totals).issues = []) :
    totals.issues = [] ∧ ∀ declaration ∈ declarations, ∃ row command,
      commands.get? declaration.1 = some row ∧ svc.command row.payload.payload = some command ∧
      (svc.commandFindings links d declaration.2 declaration.1 row command).issues = [] := by
  induction declarations generalizing totals with
  | nil => exact ⟨clean, by simp⟩
  | cons declaration rest ih =>
    obtain ⟨here, later⟩ := ih clean
    obtain ⟨before, found⟩ := auditCommand_clean here
    exact ⟨before, List.forall_mem_cons.mpr ⟨found, later⟩⟩

/-- An audit without issues accounts for every declared command. -/
theorem accounted_of_clean (clean : (svc.audit tables sessions).issues = [])
    {session : SessionRecord} (member : session ∈ sessions) {commandId : UUID}
    (declared : commandId ∈ session.commandIntentIds) : svc.Accounted tables commandId.str := by
  have quiet : ∀ issue, issue ∉ (svc.audit tables sessions).issues := by
    intro issue
    rw [clean]
    exact List.not_mem_nil
  have all := svc.short_of_quiet (by decide) (quiet (scanIssue "external_write_firewall_events"))
  have commands : ((declarations sessions).declared.entries.foldl
      (svc.auditCommand (svc.linksOf tables)
        (svc.index (listed tables "broker_command_intents") "command_intent_id" false).rows
        (declarations sessions)) {}).issues = [] := by
    refine List.eq_nil_iff_forall_not_mem.mpr fun issue raised => quiet issue ?_
    simp only [audit, List.mem_eraseDups, List.mem_append]
    exact Or.inl (Or.inr raised)
  have known : isDeclared sessions commandId.str = true :=
    List.any_eq_true.mpr ⟨session, member,
      List.any_eq_true.mpr ⟨commandId, declared, beq_self_eq_true _⟩⟩
  rw [← declarations_get?] at known
  obtain ⟨owner, found⟩ := Option.isSome_iff_exists.mp known
  obtain ⟨row, command, there, read, free⟩ :=
    (auditCommands_clean commands).2 (commandId.str, owner) (Dict.mem_entries.mpr found)
  exact ⟨command, ⟨row, holds_of_index there, read⟩, linked_of_findings free,
    denied_of_findings all free⟩

end QualificationAudit

/-! ### A passed status -/

/-- The evidence of the capabilities is complete. -/
structure SessionRecord.Capable (s : SessionRecord) : Prop where
  authenticated : s.authenticated = true
  snapshot : s.capabilitySnapshotId.isSome = true
  protocol : ∃ version, s.mcpProtocolVersion = some version ∧ version ≠ ""
  catalog : ∃ version, s.capabilityCatalogVersion = some version ∧ version ≠ ""
  hash : ∃ digest, s.capabilityCatalogHash = some digest ∧ digest ≠ ""
  schemas : s.commandSchemaHashes.entries ≠ []

/-- The real account is empty. -/
structure SessionRecord.Unfunded (s : SessionRecord) : Prop where
  cash : s.realCash.val = 0
  buyingPower : s.realBuyingPower.val = 0
  positions : s.realOpenPositions = 0
  orders : s.realOpenOrders = 0

namespace QualificationEvaluator

variable {s : SessionRecord} {ordered : List SessionRecord}

theorem missingText_eq_false {text : Option String} :
    missingText text = false ↔ ∃ t, text = some t ∧ t ≠ "" := by
  cases text with
  | none => simp [missingText]
  | some t => simp [missingText]

theorem capable_of_missingCapability (none_ : missingCapability s = false) : s.Capable := by
  simp only [missingCapability, Bool.or_eq_false_iff, Bool.not_eq_false', missingText_eq_false,
    Option.isNone_eq_false_iff, List.isEmpty_eq_false_iff] at none_
  obtain ⟨⟨⟨⟨⟨authenticated, snapshot⟩, protocol⟩, catalog⟩, hash⟩, schemas⟩ := none_
  exact ⟨authenticated, snapshot, protocol, catalog, hash, schemas⟩

theorem unfunded_of_fundingBreach (none_ : fundingBreach s = false) : s.Unfunded := by
  simp only [fundingBreach, Bool.or_eq_false_iff, decide_eq_false_iff_not, not_not] at none_
  exact ⟨none_.1.1.1.1, none_.1.1.1.2, none_.1.1.2, none_.1.2⟩

/-- A catalogue that differs from the one of the session before has been reviewed. -/
def DriftReviewed (earlier later : SessionRecord) : Prop :=
  later.capabilityCatalogHash = earlier.capabilityCatalogHash ∨
    later.capabilityDriftReviewed = true

theorem driftReviewed_of_driftUnreviewed (none_ : driftUnreviewed ordered = false) :
    ordered.IsChain DriftReviewed := by
  induction ordered with
  | nil => exact List.IsChain.nil
  | cons first rest ih =>
    cases rest with
    | nil => exact List.IsChain.singleton first
    | cons second rest =>
      simp only [driftUnreviewed, List.tail_cons, List.zip_cons_cons, List.any_cons,
        Bool.or_eq_false_iff, Bool.and_eq_false_iff, bne_eq_false_iff_eq, Bool.not_eq_false'] at none_ ih
      exact List.IsChain.cons_cons none_.1 (ih none_.2)

end QualificationEvaluator

namespace QualificationAudit

open QualificationEvaluator

variable (svc : QualificationAudit)

/-- What a passed status says of the stored sessions and of the tables. -/
structure Sound (ev : QualificationEvaluator) (tables : AuditTables)
    (sessions : List SessionRecord) : Prop where
  enough : ev.requiredRegularSessions ≤ sessions.length
  distinct : (sessions.map SessionRecord.regularSessionDate).Nodup
  spans : ∀ s ∈ sessions, ∃ closed, Spans ev.calendar s closed
  oneAccount : ∀ s ∈ sessions, ∀ s' ∈ sessions, s.accountFingerprint = s'.accountFingerprint
  capable : ∀ s ∈ sessions, s.Capable
  reviewed : (inOrder sessions).IsChain DriftReviewed
  unfunded : ∀ s ∈ sessions, s.Unfunded
  reconciled : ∀ s ∈ sessions, s.eodReconciled = true ∧ s.reconciliationEventIds ≠ []
  noIncidents : ∀ s ∈ sessions, s.unresolvedSafetyIncidents = []
  declared : ∃ s ∈ sessions, s.commandIntentIds ≠ []
  accounted : ∀ s ∈ sessions, ∀ id ∈ s.commandIntentIds, svc.Accounted tables id.str
  noneTransmitted : ∀ row ∈ tables "external_write_firewall_events", isTransmitted row = true →
    ∀ s ∈ sessions, ∀ createdAt, svc.rowCreatedAt row = some createdAt →
      ¬ (s.premarketObservedAt ≤ createdAt ∧ createdAt ≤ s.createdAt)
  restarted : ∃ s ∈ sessions, s.restartEventIds ≠ [] ∧ s.restartReconciled = true
  recovered : ∃ s ∈ sessions,
    s.transientFailureEventIds ≠ [] ∧ s.transientFailureRecoveredSafely = true
  reconnected : ∃ s ∈ sessions, s.reconnectExercised = true

theorem mem_inOrder {sessions : List SessionRecord} {s : SessionRecord} :
    s ∈ inOrder sessions ↔ s ∈ sessions :=
  (ranking_perm _ _).mem_iff

variable {svc} {tables : AuditTables} {sessions : List SessionRecord}

/-- The transmitted rows of the firewall lie outside of the sessions when none is counted. -/
theorem outside_of_hidden
    (none_ : svc.hiddenTransmissions SessionRecord.createdAt tables sessions = []) :
    ∀ row ∈ tables "external_write_firewall_events", isTransmitted row = true →
      ∀ s ∈ sessions, ∀ createdAt, svc.rowCreatedAt row = some createdAt →
        ¬ (s.premarketObservedAt ≤ createdAt ∧ createdAt ≤ s.createdAt) := by
  intro row member transmitted s inside createdAt read within
  have counted : row ∈ svc.hiddenTransmissions SessionRecord.createdAt tables sessions := by
    refine List.mem_filter.mpr ⟨member, ?_⟩
    rw [transmitted, Bool.true_and, during, read, Option.any_some]
    exact List.any_eq_true.mpr ⟨s, inside, by simpa using within⟩
  rw [none_] at counted
  exact List.not_mem_nil counted

/-- Sessions and tables that qualify are sound. -/
theorem sound_of_qualified {ev : QualificationEvaluator} {invalid : List String}
    (qualified : Qualified ev (inOrder sessions) (some (svc.audit tables sessions)) invalid) :
    svc.Sound ev tables sessions := by
  obtain ⟨a, same, clean⟩ := qualified.audited
  obtain rfl := Option.some.inj same
  have each {P : SessionRecord → Prop} (all : ∀ s ∈ inOrder sessions, P s) (s : SessionRecord)
      (member : s ∈ sessions) : P s := all s (mem_inOrder.mpr member)
  have some_ {P : SessionRecord → Prop} (one : ∃ s ∈ inOrder sessions, P s) :
      ∃ s ∈ sessions, P s := by
    obtain ⟨s, member, holds⟩ := one
    exact ⟨s, mem_inOrder.mp member, holds⟩
  have sum := ranking_perm (fun s : SessionRecord =>
    toLex (s.regularSessionDate, s.sessionId.val)) sessions
  have short : scanIssue "external_write_firewall_events" ∉ (svc.audit tables sessions).issues := by
    rw [clean.noIssues]
    exact List.not_mem_nil
  have transmissions := svc.transmitted_exact short
  rw [clean.noneTransmitted] at transmissions
  exact {
    enough := sum.length_eq ▸ qualified.enough
    distinct := (sum.map _).nodup_iff.mp qualified.distinct
    spans := each fun s member => (qualified.finalizable s member).spans
    oneAccount := fun s member s' member' =>
      qualified.oneAccount s (mem_inOrder.mpr member) s' (mem_inOrder.mpr member')
    capable := each fun s member =>
      capable_of_missingCapability (qualified.finalizable s member).capability
    reviewed := driftReviewed_of_driftUnreviewed qualified.reviewed
    unfunded := each fun s member =>
      unfunded_of_fundingBreach (qualified.finalizable s member).unfunded
    reconciled := each fun s member => by
      simpa [unreconciled] using (qualified.finalizable s member).reconciled
    noIncidents := each fun s member => (qualified.finalizable s member).noIncidents
    declared := some_ qualified.declared
    accounted := fun s member id declared => accounted_of_clean clean.noIssues member declared
    noneTransmitted := outside_of_hidden (List.length_eq_zero_iff.mp transmissions.symm)
    restarted := some_ qualified.restarted
    recovered := some_ qualified.recovered
    reconnected := some_ qualified.reconnected }

/-- A status that is passed is sound, whatever is stored. -/
theorem passed_sound {Row : Type} (svc : QualificationAudit) {ev : QualificationEvaluator}
    {modelValidate : Row → Option (SessionEvidence ev.calendar.timezone)}
    {modelDump : SessionEvidence ev.calendar.timezone → Row} {repo : QualificationRepository Row}
    {tables : AuditTables} {now : Time} {id : UUID} {report : QualificationReport}
    (evaluated : (svc.service ev modelValidate modelDump tables).status repo now id = .ok report)
    (passed : report.status = .passed) :
    svc.Sound ev tables (((svc.service ev modelValidate modelDump tables).loadSessions repo).1.map
      SessionEvidence.toSessionRecord) :=
  sound_of_qualified (svc.qualified_of_status rfl evaluated passed)

end QualificationAudit

namespace QualificationSample

open QualificationAudit QualificationEvaluator

/-! ### A week with one command -/

/-- Eleven on Monday in New York. -/
def mondayAt : Time := onDay 5 (hours 15)

def mondayText : String := "2026-10-05T15:00:00+00:00"

def idText (n : ℕ) : JsonLike := .str (UUID.str ⟨n⟩)

def commandDocument : Document := .ofPairs
  [("created_at", .str mondayText), ("command_intent_id", idText 13),
    ("order_intent_id", idText 19), ("environment", .str "DEMO"), ("namespace", .str "shadow"),
    ("action", .str "place_option_order"), ("capability_name", .str "place_option_order"),
    ("capability_schema_version", .str "v1"), ("capability_schema_hash", .str digest),
    ("instrument_id", .str "option-1"), ("side", .str "buy_to_open"), ("quantity", .int 1),
    ("limit_price", .str "2.50"), ("validated_arguments", .obj []), ("proposal_id", idText 17),
    ("risk_decision_id", idText 18), ("approval_id", .null), ("quote_snapshot_id", idText 21),
    ("broker_observed_account_snapshot_id", idText 11),
    ("effective_account_snapshot_id", idText 12), ("policy_version", .str "policy-v1"),
    ("order_fingerprint", .str "fingerprint"), ("idempotency_key", .str "key")]

def command : BrokerCommandIntent where
  createdAt := mondayAt
  commandIntentId := ⟨13⟩
  orderIntentId := ⟨19⟩
  environment := .demo
  namespace_ := "shadow"
  action := .placeOptionOrder
  capabilityName := "place_option_order"
  capabilitySchemaVersion := "v1"
  capabilitySchemaHash := digest
  instrumentId := "option-1"
  side := .buyToOpen
  quantity := 1
  limitPrice := ⟨250, -2⟩
  validatedArguments := .obj []
  proposalId := ⟨17⟩
  riskDecisionId := ⟨18⟩
  approvalId := none
  quoteSnapshotId := ⟨21⟩
  brokerObservedAccountSnapshotId := some ⟨11⟩
  effectiveAccountSnapshotId := ⟨12⟩
  policyVersion := "policy-v1"
  orderFingerprint := "fingerprint"
  idempotencyKey := "key"

def intentDocument : Document := .ofPairs
  [("created_at", .str mondayText), ("intent_id", idText 19), ("environment", .str "DEMO"),
    ("namespace", .str "shadow"), ("proposal_id", idText 17), ("risk_decision_id", idText 18),
    ("approval_id", .null), ("review_id", idText 20), ("order_fingerprint", .str "fingerprint"),
    ("idempotency_key", .str "key"), ("action", .str "place_option_order")]

def intent : OrderIntent where
  createdAt := mondayAt
  intentId := ⟨19⟩
  environment := .demo
  namespace_ := "shadow"
  proposalId := ⟨17⟩
  riskDecisionId := ⟨18⟩
  approvalId := none
  reviewId := ⟨20⟩
  orderFingerprint := "fingerprint"
  idempotencyKey := "key"
  action := .placeOptionOrder

def proposalDocument : Document := .ofPairs
  [("created_at", .str mondayText), ("proposal_id", idText 17), ("environment", .str "DEMO"),
    ("namespace", .str "shadow"), ("packet_id", idText 22), ("symbol", .str "SPY"),
    ("contract", .obj [("instrument_id", .str "option-1"), ("symbol", .str "SPY"),
      ("option_type", .str "call"), ("strike", .str "500"), ("expiration", .str "2026-10-16")]),
    ("side", .str "buy_to_open"), ("quantity", .int 1), ("limit_price", .str "2.50"),
    ("quote_snapshot_id", idText 21), ("quote_as_of", .str mondayText),
    ("policy_version", .str "policy-v1"), ("risk_config_version", .str "risk-v1"),
    ("thesis", .str "thesis"), ("invalidation_conditions", .arr [])]

theorem option_named : "option-1" ≠ "" := by simp

def contract : OptionContract where
  instrumentId := "option-1"
  symbol := "SPY"
  optionType := .call
  strike := 500
  expiration := date 2026 10 16
  instrumentId_ne := option_named
  strike_pos := amount_pos (nat_lit 500)
  multiplier_pos := count_pos (nat_lit 100)

def proposal : TradeProposal where
  createdAt := mondayAt
  proposalId := ⟨17⟩
  environment := .demo
  namespace_ := "shadow"
  packetId := ⟨22⟩
  symbol := "SPY"
  contract := contract
  side := .buyToOpen
  quantity := 1
  limitPrice := ⟨250, -2⟩
  quoteSnapshotId := ⟨21⟩
  quoteAsOf := mondayAt
  policyVersion := "policy-v1"
  riskConfigVersion := "risk-v1"
  thesis := "thesis"
  invalidationConditions := []

def riskDocument : Document := .ofPairs
  [("created_at", .str mondayText), ("decision_id", idText 18), ("environment", .str "DEMO"),
    ("proposal_id", idText 17), ("allowed", .bool true), ("failed_rules", .arr []),
    ("passed_rules", .arr [.str "max_loss"]), ("account_snapshot_id", idText 12),
    ("proposed_max_loss", .str "250"), ("resulting_aggregate_risk", .str "250"),
    ("data_fresh", .bool true), ("risk_config_version", .str "risk-v1")]

def risk : RiskDecision where
  createdAt := mondayAt
  decisionId := ⟨18⟩
  environment := .demo
  proposalId := ⟨17⟩
  allowed := true
  failedRules := []
  passedRules := ["max_loss"]
  accountSnapshotId := ⟨12⟩
  proposedMaxLoss := 250
  resultingAggregateRisk := 250
  dataFresh := true
  riskConfigVersion := "risk-v1"

def reviewDocument : Document := .ofPairs
  [("created_at", .str mondayText), ("review_id", idText 20), ("environment", .str "DEMO"),
    ("proposal_id", idText 17), ("accepted", .bool true)]

def review : BrokerReview where
  createdAt := mondayAt
  reviewId := ⟨20⟩
  environment := .demo
  proposalId := ⟨17⟩
  accepted := true

def accountDocument (id : ℕ) (kind cash : String) : Document := .ofPairs
  [("created_at", .str mondayText), ("snapshot_id", idText id), ("environment", .str "DEMO"),
    ("account_kind", .str kind), ("account_fingerprint", .str "masked-fingerprint"),
    ("cash", .str cash), ("buying_power", .str cash), ("as_of", .str mondayText),
    ("is_authenticated", .bool true), ("state_known", .bool true)]

def account (id : ℕ) (kind : AccountKind) (cash : ℚ) : AccountSnapshot where
  createdAt := mondayAt
  snapshotId := ⟨id⟩
  environment := .demo
  accountKind := kind
  accountFingerprint := some "masked-fingerprint"
  cash := cash
  buyingPower := cash
  asOf := mondayAt
  isAuthenticated := true
  stateKnown := true

def denialDocument : Document := .ofPairs
  [("created_at", .str mondayText), ("firewall_event_id", idText 23),
    ("command_intent_id", idText 13), ("environment", .str "DEMO"),
    ("disposition", .str "BLOCKED_SHADOW"), ("reason", .str "shadow"), ("transmitted", .bool false)]

theorem shadow_untransmitted :
    FirewallDisposition.blockedShadow ≠ .authorizedLive → false = false := fun _ => rfl

def denial : FirewallDecision where
  createdAt := mondayAt
  commandIntentId := ⟨13⟩
  environment := .demo
  disposition := .blockedShadow
  reason := "shadow"
  transmitted := false
  blocked_untransmitted := shadow_untransmitted

/-- A schema that takes the listed documents. -/
def reading {α : Type} (known : List (Document × α)) (document : Document) : Option α :=
  (known.find? fun entry =>
    (JsonLike.obj entry.1.entries).eq (.obj document.entries)).map Prod.snd

/-- An audit whose schemas take the documents of Monday. -/
def mondayAuditor : QualificationAudit where
  namespace_ := "shadow"
  newYork := .newYork
  str := fun _ => ""
  fromisoformat := fun text => if text = mondayText then some (.aware mondayAt) else none
  command := reading [(commandDocument, command)]
  orderIntent := reading [(intentDocument, intent)]
  proposal := reading [(proposalDocument, proposal)]
  risk := reading [(riskDocument, risk)]
  review := reading [(reviewDocument, review)]
  account := reading [(accountDocument 11 "BROKER_OBSERVED" "0", account 11 .brokerObserved 0),
    (accountDocument 12 "SHADOW" "500", account 12 .shadow 500)]
  firewallDecision := reading [(denialDocument, denial)]

def mondayRow (id : ℕ) (document : Document) : List Listed :=
  [{ appendSequence := 1
     payload := { id := ⟨id⟩, createdAt := some (.datetime (.aware mondayAt)), payload := document } }]

/-- The records of Monday. -/
def mondayTables : AuditTables := fun table =>
  match table with
  | "trade_proposals" => mondayRow 31 proposalDocument
  | "risk_decisions" => mondayRow 32 riskDocument
  | "broker_reviews" => mondayRow 33 reviewDocument
  | "order_intents" => mondayRow 34 intentDocument
  | "broker_command_intents" => mondayRow 35 commandDocument
  | "option_snapshots" => mondayRow 36 (.ofPairs [("snapshot_id", idText 21)])
  | "broker_capability_snapshots" => mondayRow 10 (.ofPairs
      [("schema_hash", .str digest), ("version", .str "v1"),
        ("external_write_authority", .bool false)])
  | "broker_observed_account_snapshots" =>
      mondayRow 37 (accountDocument 11 "BROKER_OBSERVED" "0")
  | "shadow_account_snapshots" => mondayRow 38 (accountDocument 12 "SHADOW" "500")
  | "external_write_firewall_events" => mondayRow 39 denialDocument
  | "reconciliation_events" => mondayRow 14 (.ofPairs [("kind", .str "end_of_day")])
  | "environment_audit_events" => mondayRow 15 (.ofPairs [("kind", .str "restart")])
  | "health_events" => mondayRow 16 (.ofPairs [("kind", .str "transient_failure")])
  | _ => []

/-- A session of the week, which declares the command on Monday only. -/
def quietRecord (k : ℤ) : SessionRecord :=
  { recordOf k with plumbingCommandIntentIds := if k = 5 then [⟨13⟩] else [] }

theorem quietRecord_valid : ∀ k ∈ days, (quietRecord k).FieldsValid := by
  intro k member
  let valid := recordOf_valid k member
  exact ⟨valid.namespace_length, valid.fingerprint_length, valid.protocol_length,
    valid.catalog_length, valid.catalog_hash, valid.schema_names, valid.schema_hashes,
    valid.amounts_nonneg⟩

theorem quietRecord_consistent : ∀ k ∈ days, (quietRecord k).Consistent .newYork := by
  intro k member
  constructor
  all_goals
    revert k
    decide +kernel

theorem spans_quietRecord : ∀ k ∈ days,
    Spans evaluator.calendar (quietRecord k) (onDay k (hours 20)) := by
  intro k member
  let spans := spans_recordOf k member
  exact ⟨spans.close, spans.version, spans.premarket, spans.fromOpen, spans.toClose,
    spans.endOfDay, spans.covered⟩

def quietSession (k : ℤ) (member : k ∈ days) : SessionEvidence evaluator.calendar.timezone :=
  ⟨quietRecord k, quietRecord_valid k member, quietRecord_consistent k member⟩

def quietWeek : List (SessionEvidence evaluator.calendar.timezone) :=
  days.attach.map fun k => quietSession k.1 (attached_listed k)

theorem quietWeek_records : quietWeek.map SessionEvidence.toSessionRecord = days.map quietRecord :=
  rfl

theorem inOrder_quietWeek : inOrder (days.map quietRecord) = days.map quietRecord := by
  apply List.mergeSort_of_pairwise
  decide

/-- The sessions of the week as rows, the last day first. -/
def quietRepository : QualificationRepository (SessionEvidence evaluator.calendar.timezone) where
  sessionSummaries := quietWeek.foldr AuditRow.append []

/-- What the audit finds of the one command. -/
def quietAudit : AuditCompleteness where
  declaredCommandIntents := 1
  naturalCommandIntents := 0
  plumbingCommandIntents := 1
  completeCommandIntents := 1
  sideEffectFreeReviews := 1
  firewallDenials := 1
  transmittedExternalWrites := 0
  undeclaredCommandIntents := 0

theorem audit_quietWeek :
    mondayAuditor.audit mondayTables (days.map quietRecord) = quietAudit := by
  decide +kernel

theorem quiet_listed : quietRecord 5 ∈ days.map quietRecord := List.mem_map_of_mem monday_listed

theorem qualified_quietWeek :
    Qualified evaluator (days.map quietRecord) (some quietAudit) [] where
  intact := rfl
  finalizable := by
    intro s listed
    obtain ⟨k, member, rfl⟩ := List.mem_map.mp listed
    exact ⟨⟨_, spans_quietRecord k member⟩, rfl, unfunded_recordOf k member, rfl, rfl, rfl⟩
  distinct := by decide
  enough := by decide
  oneAccount := by
    intro s listed s' listed'
    obtain ⟨k, -, rfl⟩ := List.mem_map.mp listed
    obtain ⟨k', -, rfl⟩ := List.mem_map.mp listed'
    rfl
  reviewed := by decide
  audited := ⟨quietAudit, rfl, rfl, rfl, rfl, rfl, rfl, rfl, rfl⟩
  declared := ⟨quietRecord 5, quiet_listed, by decide⟩
  counterfactuals := rfl
  restarted := ⟨quietRecord 5, quiet_listed, by decide⟩
  recovered := ⟨quietRecord 5, quiet_listed, by decide⟩
  reconnected := ⟨quietRecord 5, quiet_listed, by decide⟩

/-- The service over the records of Monday, whose stored rows are the sessions themselves. -/
def quietService : QualificationService (SessionEvidence evaluator.calendar.timezone) :=
  mondayAuditor.service evaluator some id mondayTables

theorem loadSessions_quiet : quietService.loadSessions quietRepository = (quietWeek, []) := by
  rfl

theorem evaluated_quietWeek : quietService.status quietRepository thursday ⟨1⟩ =
    .ok (evaluator.evaluate quietWeek thursday (some quietAudit) [] ⟨1⟩) := by
  have audited : quietService.audit quietWeek = .ok quietAudit :=
    congrArg Except.ok audit_quietWeek
  unfold QualificationService.status
  rw [loadSessions_quiet]
  dsimp only
  rw [audited]
  rfl

theorem passed_quietWeek :
    (evaluator.evaluate quietWeek thursday (some quietAudit) [] ⟨1⟩).status = .passed := by
  rw [evaluate_passed_iff, quietWeek_records, inOrder_quietWeek]
  exact qualified_quietWeek

end QualificationSample

namespace QualificationAudit

open QualificationSample in
/-- The week qualifies with the one command of its Monday. -/
theorem passed_sound_week : mondayAuditor.Sound evaluator mondayTables (days.map quietRecord) := by
  have loaded : (quietService.loadSessions quietRepository).1 = quietWeek := by
    rw [loadSessions_quiet]
  have sound := mondayAuditor.passed_sound evaluated_quietWeek passed_quietWeek
  rwa [← quietWeek_records, ← loaded]

end QualificationAudit
end Sentry
