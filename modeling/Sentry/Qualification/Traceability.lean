import Sentry.Broker.ShadowRuntime
import Sentry.Execution.Guarantees
import Sentry.Qualification.HiddenCommands
import Sentry.Support.Concurrent

/-!
# Whether executed commands can be traced

The runs of a broker-shadow runtime over the tables of its binding, and what the audit of the
qualification service finds there of the commands that were persisted. Surveillance stores a
quote inside an observation, and the audit looks for the identity of a quote on top of a row.
-/
namespace Sentry

open Support Coroutine

def SnapshotTable.name : SnapshotTable → String
  | .marketSnapshots => "market_snapshots"
  | .optionSnapshots => "option_snapshots"

/-- A process, the tables of its binding and the rows of its execution store. -/
structure ShadowStore where
  memory : RuntimeMemory
  tables : AuditTables
  rows : Rows := {}

namespace BrokerShadowRuntime

variable (rt : BrokerShadowRuntime)

/-! ### What is appended -/

def iso (moment : Time) : JsonLike := .str (rt.surveillance.isoformat moment)

def money (amount : ℚ) : JsonLike := .str (rt.surveillance.decimal amount)

def observationFields (stored : Observation) : List (String × JsonLike) :=
  [("worker_version", .str stored.workerVersion), ("data_mode", .str stored.dataMode),
    ("environment", .str stored.environment), ("namespace", .str stored.namespace_),
    ("surveillance_key", .str stored.surveillanceKey),
    ("observation_key", .str stored.observationKey), ("stream_key", .str stored.streamKey),
    ("created_at", rt.iso stored.createdAt), ("quote", (rt.quoteDump stored.quote).asLike),
    ("event", match stored.event with
      | none => .null
      | some event => (Json.obj (event.dump rt.surveillance.isoformat)).asLike)]

def accountFields (account : AccountSnapshot) : List (String × JsonLike) :=
  [("created_at", rt.iso account.createdAt), ("snapshot_id", .str account.snapshotId.str),
    ("environment", .str account.environment.value),
    ("account_kind", .str account.accountKind.value),
    ("account_fingerprint", (account.accountFingerprint.map JsonLike.str).getD .null),
    ("cash", rt.money account.cash), ("buying_power", rt.money account.buyingPower),
    ("open_option_risk", rt.money account.openOptionRisk),
    ("open_positions", .int account.openPositions),
    ("new_entries_today", .int account.newEntriesToday), ("as_of", rt.iso account.asOf),
    ("is_authenticated", .bool account.isAuthenticated), ("state_known", .bool account.stateKnown)]

/-- `repository.append` gives a row an identifier, and the time of its payload. -/
def record (createdAt : Time) (fields : List (String × JsonLike)) (id : UUID) : AuditRecord where
  id
  createdAt := some (.datetime (.aware createdAt))
  payload := Dict.ofPairs fields

/-! ### Runs -/

/-- The tables with the quotes and the accounts that commands name. -/
def linkTables : List String :=
  ["market_snapshots", "option_snapshots", "broker_observed_account_snapshots",
    "shadow_account_snapshots"]

/-- Anything that appends to none of these tables and persists no command. -/
structure Beside (g g' : ShadowStore) : Prop where
  tables : ∀ table ∈ linkTables, g'.tables table = g.tables table
  commands : g'.rows.commandIntents = g.rows.commandIntents

def Appends (table : String) (record : UUID → AuditRecord) (g g' : ShadowStore) : Prop :=
  ∃ id rows, AuditRow.Appended (record id) (g.tables table) rows ∧
    Beside { g with tables := Function.update g.tables table rows } g'

/-- Storage works: an append returns, and its row is there. What is read, and what the broker
and the market answer, is left open. -/
def performs : (op : RuntimeOp) → ShadowStore → Except Exc (RuntimeAns op) → ShadowStore → Prop
  | .execution op, g, r, g' => ∃ rows, Sentry.performs op g.rows r rows ∧ Beside { g with rows } g'
  | .surveillance (.appendObservation table stored), g, r, g' =>
    r = .ok () ∧ Appends table.name (record stored.createdAt (rt.observationFields stored)) g g'
  | .appendObservedAccount account, g, r, g' =>
    r = .ok () ∧ Appends "broker_observed_account_snapshots"
      (record account.createdAt (rt.accountFields account)) g g'
  | .appendEffectiveAccount account, g, r, g' =>
    r = .ok () ∧ Appends "shadow_account_snapshots"
      (record account.createdAt (rt.accountFields account)) g g'
  | _, g, _, g' => Beside g g'

/-- The programs of the runtime change its memory, and the store through operations. -/
def process : Component ShadowStore RuntimeMemory RuntimeAns RuntimeAns where
  get := ShadowStore.memory
  put memory g := { g with memory }
  op op := op
  answer _ answer := answer

/-- Calls of one runtime that interleave at every await, more of them than its locks allow.
Between any two steps the process may be restarted, and other tables may be written. -/
def world : Concurrent ShadowStore Exc RuntimeAns Unit RuntimeCall where
  body call := within process (rt.body call)
  performs := rt.performs
  event := Beside

/-- The start of a binding: none of its tables has a row. -/
def Fresh (g : ShadowStore) : Prop :=
  (∀ table ∈ linkTables, g.tables table = []) ∧ g.rows.commandIntents = []

end BrokerShadowRuntime

/-! ### What the audit finds -/

namespace QualificationAudit

variable (svc : QualificationAudit)

/-- The audit finds the accounts and the quote of a command. -/
def Traceable (tables : AuditTables) (command : BrokerCommandIntent) : Prop :=
  ((svc.index (listed tables "shadow_account_snapshots") "snapshot_id" false).rows.get?
      command.effectiveAccountSnapshotId.str).isSome ∧
    (command.brokerObservedAccountSnapshotId.any fun id =>
      ((svc.index (listed tables "broker_observed_account_snapshots") "snapshot_id"
        false).rows.get? id.str).isSome) ∧
    ((svc.marketIndex tables).rows.get? command.quoteSnapshotId.str).isSome

/-- No quote of these tables has an identity on top of its row. -/
def Unnamed (tables : AuditTables) : Prop :=
  ∀ table : SnapshotTable, ∀ row ∈ tables table.name, row.payload.payload.get? "snapshot_id" = none

variable {svc} {tables : AuditTables}

theorem index_unnamed {rows : List Listed} {key : String}
    (unnamed : ∀ row ∈ rows, row.payload.payload.get? key = none) :
    svc.index rows key false = {} := by
  induction rows using List.reverseRecOn with
  | nil => rfl
  | append_singleton rows last ih =>
    have none_ : svc.identities key false last = [] := by
      simp [identities, given, unnamed last (by simp)]
    rw [index_concat, none_, ih fun row member => unnamed row (List.mem_append_left _ member)]
    rfl

theorem listed_subset {table : String} {row : Listed} (member : row ∈ listed tables table) :
    row ∈ tables table := by
  rw [listed, AuditRow.listPayloads_eq] at member
  exact List.mem_of_mem_filter (List.mem_reverse.mp (List.mem_of_mem_take member))

/-- The index of the quotes is empty. -/
theorem Unnamed.marketIndex (unnamed : Unnamed tables) : svc.marketIndex tables = {} := by
  have market : svc.index (listed tables "market_snapshots") "snapshot_id" false = {} :=
    index_unnamed fun row member => unnamed .marketSnapshots row (listed_subset member)
  have options : svc.index (listed tables "option_snapshots") "snapshot_id" false = {} :=
    index_unnamed fun row member => unnamed .optionSnapshots row (listed_subset member)
  unfold QualificationAudit.marketIndex
  rw [market, options]
  rfl

theorem Unnamed.untraceable (unnamed : Unnamed tables) (command : BrokerCommandIntent) :
    ¬ svc.Traceable tables command := by
  rintro ⟨-, -, quote⟩
  rw [unnamed.marketIndex] at quote
  exact Bool.false_ne_true quote

/-- A command is traceable when the audit has no issue with the snapshots it names. -/
theorem traceable_iff {links : Links} {command : BrokerCommandIntent}
    (market : links.marketSnapshots = (svc.marketIndex tables).rows)
    (real : links.realAccounts =
      (svc.index (listed tables "broker_observed_account_snapshots") "snapshot_id" false).rows)
    (shadow : links.shadowAccounts =
      (svc.index (listed tables "shadow_account_snapshots") "snapshot_id" false).rows) :
    svc.Traceable tables command ↔ snapshotIssues links command = [] := by
  have unless_ (holds : Bool) (issue : String) : issueUnless holds issue = [] ↔ holds = true := by
    cases holds <;> simp [issueUnless]
  rw [Traceable, snapshotIssues, List.append_eq_nil_iff, List.append_eq_nil_iff, unless_, unless_,
    unless_, market, real, shadow]
  constructor
  · rintro ⟨effective, observed, quote⟩
    exact ⟨⟨quote, observed⟩, effective⟩
  · rintro ⟨⟨quote, observed⟩, effective⟩
    exact ⟨effective, observed, quote⟩

/-- A command with such an issue is not complete. -/
theorem auditCommand_complete {links : Links} {commands : Dict String Listed} {d : Declarations}
    {totals : CommandTotals} {declaration : String × SessionRecord}
    (issues : ∀ command, snapshotIssues links command ≠ []) :
    (svc.auditCommand links commands d totals declaration).complete = totals.complete := by
  obtain ⟨commandId, session⟩ := declaration
  unfold auditCommand
  dsimp only
  split
  · rfl
  next row _ =>
    split
    · rfl
    next command _ =>
      have incomplete :
          (svc.commandFindings links d session commandId row command).issues ≠ [] := by
        simp only [commandFindings, ne_eq, List.append_eq_nil_iff, not_and]
        exact fun found => absurd found.2 (issues command)
      exact if_neg fun nothing => incomplete (List.isEmpty_iff.mp nothing)

/-- No command is counted as complete, whatever sessions declare and other tables hold. -/
theorem Unnamed.nothing_complete (unnamed : Unnamed tables) (sessions : List SessionRecord) :
    (svc.audit tables sessions).completeCommandIntents = 0 := by
  have counted (links : Links) (issues : ∀ command, snapshotIssues links command ≠ [])
      (commands : Dict String Listed) (d : Declarations)
      (declared : List (String × SessionRecord)) (totals : CommandTotals) :
      (declared.foldl (svc.auditCommand links commands d) totals).complete = totals.complete := by
    induction declared generalizing totals with
    | nil => rfl
    | cons first rest ih =>
      rw [List.foldl_cons, ih]
      exact auditCommand_complete issues
  unfold audit
  dsimp only
  rw [counted]
  intro command
  exact mt (traceable_iff rfl rfl rfl).mpr (unnamed.untraceable command)

end QualificationAudit

namespace BrokerShadowRuntime

open QualificationAudit

variable {rt : BrokerShadowRuntime} {g g' : ShadowStore}

/-! ### What a run keeps -/

theorem name_mem_linkTables (table : SnapshotTable) : table.name ∈ linkTables := by
  cases table <;> decide

theorem Beside.unnamed (beside : Beside g g') (unnamed : Unnamed g.tables) : Unnamed g'.tables := by
  intro table
  rw [beside.tables table.name (name_mem_linkTables table)]
  exact unnamed table

/-- The quote of an observation, which has the identity, is one level below. -/
theorem observation_unnamed (stored : Observation) (id : UUID) :
    (record stored.createdAt (rt.observationFields stored) id).payload.get? "snapshot_id" =
      none := by
  rfl

theorem Appends.unnamed {table : String} {fields : List (String × JsonLike)} {createdAt : Time}
    (appends : Appends table (record createdAt fields) g g')
    (allowed : (∀ other : SnapshotTable, table ≠ other.name) ∨
      ∀ id, (record createdAt fields id).payload.get? "snapshot_id" = none)
    (unnamed : Unnamed g.tables) : Unnamed g'.tables := by
  obtain ⟨id, rows, ⟨sequence, rfl, -⟩, beside⟩ := appends
  apply beside.unnamed
  intro other row member
  dsimp only at member
  by_cases here : other.name = table
  · subst here
    rw [Function.update_self] at member
    rcases List.mem_append.mp member with earlier | last
    · exact unnamed other row earlier
    · rw [List.mem_singleton.mp last]
      rcases allowed with elsewhere | nameless
      · exact absurd rfl (elsewhere other)
      · exact nameless id
  · rw [Function.update_of_ne here] at member
    exact unnamed other row member

theorem performs_unnamed {op : RuntimeOp} {r : Except Exc (RuntimeAns op)}
    (performed : rt.performs op g r g') (unnamed : Unnamed g.tables) : Unnamed g'.tables := by
  cases op with
  | execution op =>
    obtain ⟨rows, -, beside⟩ := performed
    exact beside.unnamed unnamed
  | surveillance op =>
    cases op with
    | appendObservation table stored =>
      exact performed.2.unnamed (Or.inr (observation_unnamed stored)) unnamed
    | _ => exact Beside.unnamed performed unnamed
  | appendObservedAccount account =>
    refine performed.2.unnamed (Or.inl fun other => ?_) unnamed
    cases other <;> decide
  | appendEffectiveAccount account =>
    refine performed.2.unnamed (Or.inl fun other => ?_) unnamed
    cases other <;> decide
  | _ => exact Beside.unnamed performed unnamed

/-- In every run the quotes that surveillance stores have no identity on top. -/
theorem unnamed_of_reachable {s : Crew ShadowStore Exc RuntimeAns Unit RuntimeCall}
    (fresh : Fresh g) (run : rt.world.Reachable g s) : Unnamed s.state.tables := by
  refine Concurrent.Reachable.holds (I := fun g => Unnamed g.tables) ?_ ?_ ?_ ?_ run
  · exact fun _ _ beside unnamed => beside.unnamed unnamed
  · exact fun _ _ _ _ performed unnamed => performs_unnamed performed unnamed
  · exact fun call => keeps_within (fun _ _ unnamed => unnamed) (rt.body call)
  · intro table row member
    rw [fresh.1 _ (name_mem_linkTables table)] at member
    exact absurd member List.not_mem_nil

/-- A run persists no command, or there is one that the audit does not find the links of. It
finds those of no command at all, and so none is ever counted as complete. -/
theorem commands_traceable_iff_none (svc : QualificationAudit) (rt : BrokerShadowRuntime)
    {g : ShadowStore} {s : Crew ShadowStore Exc RuntimeAns Unit RuntimeCall} (fresh : Fresh g)
    (run : rt.world.Reachable g s) :
    ((∀ command ∈ s.state.rows.commandIntents, svc.Traceable s.state.tables command) ↔
        s.state.rows.commandIntents = []) ∧
      (∀ command ∈ s.state.rows.commandIntents, ¬ svc.Traceable s.state.tables command) ∧
      ∀ sessions, (svc.audit s.state.tables sessions).completeCommandIntents = 0 := by
  have unnamed := unnamed_of_reachable fresh run
  refine ⟨⟨fun traceable => ?_, fun none_ command member => ?_⟩,
    fun command _ => unnamed.untraceable command, unnamed.nothing_complete⟩
  · rw [List.eq_nil_iff_forall_not_mem]
    exact fun command member => unnamed.untraceable command (traceable command member)
  · rw [none_] at member
    exact absurd member List.not_mem_nil

end BrokerShadowRuntime

/-! ### A sample run -/

namespace ShadowSample

open Sample BrokerShadowRuntime

def metadata : ProviderMetadata := ⟨"live", "v1", 10, 10, none⟩

theorem five_over_four : (5 / 4 : ℚ) ≠ 0 → (1 : ℚ) ≤ 5 / 4 := by norm_num

def equity : EquityQuote where
  snapshotId := ⟨7⟩
  symbol := "SPY"
  bid := 1
  ask := 5 / 4
  last := 1
  volume := 100
  metadata := metadata
  valid_market := five_over_four

def option : OptionQuote := { quote with metadata := metadata }

def worker : LiveReadSurveillanceWorker where
  hashing := hashing
  isoformat := toString
  isSpace := Char.isWhitespace
  decimal := toString
  content quote := .obj [("stream", .str quote.stream)]
  binding := ⟨.demo, some .brokerShadow, false, "demo"⟩
  identity := "live"
  capabilityVersion := "v1"
  watchlist := ["SPY"]

def runtime : BrokerShadowRuntime where
  execution := service
  surveillance := worker
  quoteDump quote := .obj [("snapshot_id", .str quote.snapshotId.str), ("stream", .str quote.stream)]

/-- An account that is read at a moment, under an identity of its own. -/
def observed (now : Time) : AccountSnapshot :=
  { account with
    snapshotId := ⟨2 * now.toNat⟩, accountKind := .brokerObserved
    accountFingerprint := some "account", cash := 0, buyingPower := 0, isAuthenticated := true }

def effective (now : Time) : AccountSnapshot :=
  { account with snapshotId := ⟨2 * now.toNat + 1⟩, accountKind := .shadow }

def brokerAnswers (now : Time) : (op : Op) → Except Exc (Ans op)
  | .getEffectiveExecutionAccountState => .ok (effective now)
  | .getObservedBrokerAccountState => .ok (observed now)
  | .reconcile => .ok
      { environment := .demo
        reconciledAt := now
        successful := true
        observedAccount := observed now
        effectiveAccount := effective now
        positionCount := 0
        openOrderCount := 0 }
  | .getOptionQuote _ => .ok option
  | op => answers op

/-- The number after those of some rows. -/
def nextSequence : List Listed → ℕ
  | [] => 1
  | row :: rest => max (row.appendSequence + 1) (nextSequence rest)

theorem lt_nextSequence {rows : List Listed} {row : Listed} (member : row ∈ rows) :
    row.appendSequence < nextSequence rows := by
  induction rows with
  | nil => exact absurd member List.not_mem_nil
  | cons first rest ih =>
    rw [nextSequence, lt_max_iff]
    rcases List.mem_cons.mp member with rfl | later
    · exact Or.inl (Nat.lt_succ_self _)
    · exact Or.inr (ih later)

def stored (table : String) (record : UUID → AuditRecord) (g : ShadowStore) : ShadowStore :=
  let sequence := nextSequence (g.tables table)
  let rows := g.tables table ++ [⟨sequence, record ⟨sequence⟩⟩]
  { g with tables := Function.update g.tables table rows }

theorem stored_appends (table : String) (record : UUID → AuditRecord) (memory : RuntimeMemory)
    (g : ShadowStore) : Appends table record g (stored table record { g with memory }) :=
  ⟨_, _, ⟨_, rfl, fun _ member => lt_nextSequence member⟩, ⟨fun _ _ => rfl, rfl⟩⟩

def handleSurveillance : (op : LiveReadOp) → ShadowStore →
    Except Exc (LiveReadAns op) × ShadowStore
  | .healthcheck, g => (.ok true, g)
  | .listObservations _ _, g => (.ok [], g)
  | .findObservation _ _, g => (.ok none, g)
  | .findEvent _, g => (.ok none, g)
  | .appendObservation table observation, g =>
    (.ok (), stored table.name (record observation.createdAt (runtime.observationFields observation)) g)
  | .appendEvent _, g => (.ok (), g)
  | .appendHealth _ _ _ _, g => (.ok (), g)
  | .getEquityQuote _ _, g => (.ok (.equity equity), g)
  | .getOptionChain _ _, g => (.ok (some [.option option]), g)

def handle : (op : RuntimeOp) → ShadowStore → Except Exc (RuntimeAns op) × ShadowStore
  | .execution op, g =>
    let done := InMemoryExecutionStore.perform (brokerAnswers g.memory.now) op g.rows
    (done.1, { g with rows := done.2 })
  | .surveillance op, g => handleSurveillance op g
  | .healthcheck, g => (.ok true, g)
  | .appendCapabilities _, g => (.ok (), g)
  | .appendObservedAccount account, g =>
    (.ok (), stored "broker_observed_account_snapshots"
      (record account.createdAt (runtime.accountFields account)) g)
  | .appendEffectiveAccount account, g =>
    (.ok (), stored "shadow_account_snapshots"
      (record account.createdAt (runtime.accountFields account)) g)
  | .unresolvedIntents, g => (.ok g.rows.unresolvedIntents, g)
  | .getCapabilities, g => (.ok { executionReady := true, reviewOptionOrders := true }, g)
  | .flushState, g => (.ok (), { g with memory := { g.memory with snapshotPersisted := true } })
  | .getPositions, g => (.ok [], g)
  | .getOptionQuote _, g => (.ok option, g)
  | .consumeQuote _, g => (.ok (), g)
  | .syncExecutionJournal _, g =>
    (.ok (), { g with memory := { g.memory with journalHealthy := true } })
  | .proposeExits, g => (.ok (), g)
  | .refreshViewFromLedger, g => (.ok (), g)

/-- Time passes at every operation. -/
def handler (op : RuntimeOp) (g : ShadowStore) : Except Exc (RuntimeAns op) × ShadowStore :=
  handle op { g with memory := { g.memory with now := g.memory.now + 1 } }

def start : ShadowStore where
  memory :=
    { snapshotPersisted := false
      tradingMode := .auto
      safety := surroundings.safety
      now := 20
      market := ⟨"live", "v1", {}⟩ }
  tables := fun _ => []

abbrev RuntimeCrew := Crew ShadowStore Exc RuntimeAns Unit RuntimeCall

/-- A call that is alone from its start on. -/
def alone (i : ℕ) (call : RuntimeCall) (turns : ℕ) (s : RuntimeCrew) : RuntimeCrew :=
  (Crew.turn handler i)^[turns] (s.start i call (runtime.world.body call))

/-- A reconciliation, a scan, and an execution up to its command. -/
def crew : RuntimeCrew :=
  alone 2 (.execute (proposal 3) none ⟨⟨101⟩, ⟨102⟩, ⟨103⟩⟩) 16
    (alone 1 .scanCurrentMarket 30 (alone 0 .reconcile 20 (Crew.idle start)))

theorem beside_of_memory (g : ShadowStore) (memory : RuntimeMemory) :
    Beside g { g with memory } := ⟨fun _ _ => rfl, rfl⟩

theorem handler_performs (op : RuntimeOp) (g : ShadowStore) :
    runtime.performs op g (handler op g).1 (handler op g).2 := by
  cases op with
  | execution op =>
    exact ⟨_, InMemoryExecutionStore.perform_performs _ op g.rows, ⟨fun _ _ => rfl, rfl⟩⟩
  | surveillance op =>
    cases op with
    | appendObservation table observation => exact ⟨rfl, stored_appends _ _ _ g⟩
    | _ => exact beside_of_memory g _
  | appendObservedAccount account => exact ⟨rfl, stored_appends _ _ _ g⟩
  | appendEffectiveAccount account => exact ⟨rfl, stored_appends _ _ _ g⟩
  | _ => exact beside_of_memory g _

theorem alone_reachable {s : RuntimeCrew} (run : runtime.world.Reachable start s) (i : ℕ)
    (call : RuntimeCall) (turns : ℕ) : runtime.world.Reachable start (alone i call turns s) :=
  (run.start i call trivial).turns handler_performs i turns

theorem crew_reachable : runtime.world.Reachable start crew := by
  have reconciled : runtime.world.Reachable start (alone 0 .reconcile 20 (Crew.idle start)) :=
    alone_reachable .refl 0 .reconcile 20
  have scanned := alone_reachable reconciled 1 .scanCurrentMarket 30
  exact alone_reachable scanned 2 _ 16

theorem fresh_start : Fresh start := ⟨fun _ _ => rfl, rfl⟩

theorem crew_commands : crew.state.rows.commandIntents.length = 1 := by decide +kernel

end ShadowSample

namespace BrokerShadowRuntime

open ShadowSample QualificationSample in
theorem commands_traceable_iff_none_crew :
    crew.state.rows.commandIntents.length = 1 ∧
      (∀ command ∈ crew.state.rows.commandIntents,
        ¬ auditor.Traceable crew.state.tables command) ∧
      ∀ sessions, (auditor.audit crew.state.tables sessions).completeCommandIntents = 0 :=
  ⟨crew_commands, (commands_traceable_iff_none auditor runtime fresh_start crew_reachable).2⟩

open ShadowSample QualificationSample in
/-- The quote of the command that was executed was stored, and is not found. -/
theorem executed_untraceable :
    ¬ ∀ {g : ShadowStore} {s : RuntimeCrew}, Fresh g → runtime.world.Reachable g s →
      ∀ command ∈ s.state.rows.commandIntents, auditor.Traceable s.state.tables command := by
  intro traceable
  have found := traceable fresh_start crew_reachable
  have unnamed := unnamed_of_reachable fresh_start crew_reachable
  have one := crew_commands
  cases commands : crew.state.rows.commandIntents with
  | nil =>
    rw [commands] at one
    cases one
  | cons command rest =>
    rw [commands] at found
    exact unnamed.untraceable command (found command List.mem_cons_self)

end BrokerShadowRuntime
end Sentry
