import Sentry.Execution.BrokerUpdates
import Sentry.Ledger.Executions
import Sentry.Ledger.Settlements

/-!
# Synchronising the journal again

`_sync_execution_journal` of `app/demo/runtime.py` with everything it appends: a row for
every order and every set of positions it found to differ, the orders, the fills and the
position snapshots. The ledger exports its positions in the order it opened them, a snapshot
keeps them in the order of their identifiers, and the two are compared as sequences.
-/
namespace Sentry

open Support

/-- The rows that a synchronisation adds to the reconciliation events. -/
inductive LedgerObservation where
  | order (createdAt : Time) (recovery : Bool) (intentId : UUID) (previous : Option OrderState)
      (current : OrderState) (ledgerHash : String)
  | positions (createdAt : Time) (recovery : Bool) (positionIds : List UUID) (ledgerHash : String)

/-- The tables that the offline runtime writes. -/
structure RuntimeTables where
  journal : Tables := {}
  observations : List LedgerObservation := []

/-- The number of rows. -/
def RuntimeTables.size (r : RuntimeTables) : ℕ := r.journal.size + r.observations.length

namespace OfflineRuntime

open PostgresExecutionStore

/-- What is not of the ledger or its journal: the digests, and the digits in which the ledger
holds the price of a fill. -/
structure Outfit where
  hashing : Hashing
  contentHash : LedgerSnapshot → String
  digits : Fill → String

def Outfit.journalled (o : Outfit) (fill : Fill) : JournalledFill := ⟨fill, o.digits fill⟩

/-- A write to the execution journal. -/
def toJournal (w : Write Tables Exc) : Write RuntimeTables Exc :=
  fun r => (w r.journal).map fun journal => { r with journal := journal }

variable (o : Outfit) (now : Time) (recovery : Bool) (s : ShadowLedger) (state : LedgerSnapshot)

/-! ### One order of the ledger -/

/-- The journal has the intent of the order and the very command. -/
def hasCommand (item : LedgerOrder) (d : Rows) : Bool :=
  (d.getOrderIntent item.published.intentId).isSome &&
    (d.getCommandForOrderIntent item.published.intentId).any fun command =>
      command.commandHash o.hashing == item.command.commandHash o.hashing

def matchCommand (item : LedgerOrder) : Write RuntimeTables Exc := fun r =>
  if hasCommand o item r.journal.rows then .ok r
  else .error (.safetyCritical "ledger order lacks matching durable exact command")

/-- A difference is written down before the order is brought up. -/
def observeOrder (item : LedgerOrder) : Write RuntimeTables Exc := fun r =>
  let previous := r.journal.rows.getOrder item.published.intentId
  if previous = some item.published then .ok r
  else .ok { r with observations := r.observations ++
    [.order now recovery item.published.intentId (previous.map fun order => order.state)
      item.published.state (o.contentHash state)] }

def bringUp (item : LedgerOrder) : Write RuntimeTables Exc :=
  toJournal fun t =>
    if t.rows.getOrder item.published.intentId = some item.published then .ok t
    else writeOrder .demo item.published t

def orderWrites (item : LedgerOrder) : List (Write RuntimeTables Exc) :=
  [matchCommand o item, observeOrder o now recovery state item, bringUp item]

/-! ### The whole synchronisation -/

/-- Every durable order must be one of the ledger's, a cancellation or a local denial. -/
def checkOrders : Write RuntimeTables Exc := fun r =>
  ((listLatestOrders r.journal.rows).forM (checkDurable
    { ledger := s, rows := r.journal.rows, transitions := r.journal.transitions })).map fun _ => r

def observePositions : Write RuntimeTables Exc := fun r =>
  if listPositions r.journal = state.positions then .ok r
  else .ok { r with observations := r.observations ++
    [.positions now recovery (state.positions.map Position.positionId) (o.contentHash state)] }

def bringUpPositions : Write RuntimeTables Exc :=
  toJournal fun t =>
    if listPositions t = state.positions then .ok t else replacePositions .demo state.positions t

def syncWrites : List (Write RuntimeTables Exc) :=
  state.orders.flatMap (orderWrites o now recovery state) ++
    (checkOrders s ::
      (state.fills.map fun fill => toJournal (writeFill (o.journalled fill))) ++
        [observePositions o now recovery state, bringUpPositions state])

/-- `_sync_execution_journal`; the commands are those the broker has recorded. -/
def synchronise (cfg : LedgerConfig) (recorded : List BrokerCommandIntent) (r : RuntimeTables) :
    Except Exc Unit × RuntimeTables :=
  match s.exportState cfg now recorded with
  | .error e => (.error e, r)
  | .ok state => Write.perform (syncWrites o now recovery s state) r

section Writes

variable {o : Outfit} {now : Time} {recovery : Bool} {s : ShadowLedger} {state : LedgerSnapshot}
  {item : LedgerOrder} {r r' : RuntimeTables} {t t' : Tables}

/-! ### What each write does -/

theorem toJournal_ok {w : Write Tables Exc} (went : toJournal w r = .ok r') :
    ∃ journal, w r.journal = .ok journal ∧ r' = { r with journal := journal } := by
  unfold toJournal at went
  cases made : w r.journal with
  | error e =>
    rw [made] at went
    cases went
  | ok journal =>
    rw [made] at went
    cases went
    exact ⟨journal, rfl, rfl⟩

theorem toJournal_adds {w : Write Tables Exc} (adds : Write.Adds Tables.size w) :
    Write.Adds RuntimeTables.size (toJournal w) := by
  intro r r' went
  obtain ⟨journal, made, rfl⟩ := toJournal_ok went
  rcases adds r.journal journal made with rfl | more
  · exact Or.inl rfl
  · right
    simp only [RuntimeTables.size]
    omega

theorem matchCommand_ok (went : matchCommand o item r = .ok r') :
    r' = r ∧ hasCommand o item r.journal.rows = true := by
  unfold matchCommand at went
  split at went
  next known =>
    cases went
    exact ⟨rfl, known⟩
  · cases went

/-- An observation leaves the journal alone. -/
theorem observeOrder_ok (went : observeOrder o now recovery state item r = .ok r') :
    r'.journal = r.journal ∧ (r' = r ∨ r.observations.length < r'.observations.length) := by
  unfold observeOrder at went
  dsimp only at went
  split at went
  · cases went
    exact ⟨rfl, Or.inl rfl⟩
  · cases went
    exact ⟨rfl, Or.inr (by simp)⟩

theorem observePositions_ok (went : observePositions o now recovery state r = .ok r') :
    r'.journal = r.journal ∧ (r' = r ∨ r.observations.length < r'.observations.length) := by
  unfold observePositions at went
  split at went
  · cases went
    exact ⟨rfl, Or.inl rfl⟩
  · cases went
    exact ⟨rfl, Or.inr (by simp)⟩

/-- An order is as the ledger has it, or it is saved now. -/
theorem bringUp_ok (went : bringUp item r = .ok r') :
    ∃ rows, r' = { r with journal := { r.journal with rows := rows } } ∧
      (rows = r.journal.rows ∧
          r.journal.rows.getOrder item.published.intentId = some item.published ∨
        r.journal.rows.getOrder item.published.intentId ≠ some item.published ∧
          saveOrder item.published r.journal.rows = .ok rows) := by
  obtain ⟨journal, made, rfl⟩ := toJournal_ok went
  split at made
  next same =>
    cases made
    exact ⟨r.journal.rows, rfl, Or.inl ⟨rfl, same⟩⟩
  next other =>
    unfold writeOrder at made
    split at made
    · cases made
    cases saved : saveOrder item.published r.journal.rows with
    | error e =>
      rw [saved] at made
      cases made
    | ok rows =>
      rw [saved] at made
      cases made
      exact ⟨rows, rfl, Or.inr ⟨other, rfl⟩⟩

theorem checkOrders_ok (went : checkOrders s r = .ok r') :
    r' = r ∧ (listLatestOrders r.journal.rows).forM (checkDurable
      { ledger := s, rows := r.journal.rows, transitions := r.journal.transitions }) = .ok () := by
  unfold checkOrders at went
  cases passed : (listLatestOrders r.journal.rows).forM (checkDurable
      { ledger := s, rows := r.journal.rows, transitions := r.journal.transitions }) with
  | error e =>
    rw [passed] at went
    cases went
  | ok u =>
    rw [passed] at went
    cases went
    exact ⟨rfl, rfl⟩

/-- The fill is in the journal under its identifier, and so is its order. -/
structure Journalled (t : Tables) (f : JournalledFill) : Prop where
  order : (t.rows.orders.any fun order => order.orderId == f.fill.orderId) = true
  fill : t.fills.find? (fun other => other.fill.fillId == f.fill.fillId) = some f

theorem writeFill_ok {f : JournalledFill} (went : writeFill f t = .ok t') :
    Journalled t' f ∧ (t' = t ∨ t' = { t with fills := t.fills ++ [f] }) := by
  unfold writeFill at went
  split at went
  · cases went
  next ordered =>
    simp only [Bool.not_eq_true', Bool.not_eq_false] at ordered
    split at went
    next other found =>
      split at went
      · cases went
      next same =>
        cases went
        exact ⟨⟨ordered, not_not.mp same ▸ found⟩, Or.inl rfl⟩
    next missing =>
      cases went
      refine ⟨⟨ordered, ?_⟩, Or.inr rfl⟩
      rw [List.find?_append, missing]
      simp

/-- A fill that is in the journal stays there. -/
theorem Journalled.writeFill {f g : JournalledFill} (there : Journalled t f)
    (went : writeFill g t = .ok t') : Journalled t' f := by
  rcases (writeFill_ok went).2 with rfl | rfl
  · exact there
  · refine ⟨there.order, ?_⟩
    rw [List.find?_append, there.fill]
    rfl

/-- It is not appended again. -/
theorem Journalled.again {f : JournalledFill} (there : Journalled t f) :
    PostgresExecutionStore.writeFill f t = .ok t := by
  simp [PostgresExecutionStore.writeFill, there.order, there.fill]

theorem replacePositions_ok {binding : ExecutionEnvironment} {positions : List Position}
    (went : replacePositions binding positions t = .ok t') :
    t'.rows = t.rows ∧ t'.transitions = t.transitions ∧ t'.fills = t.fills ∧
      listPositions t' = positions.mergeSort byId ∧
      (t'.snapshots = t.snapshots ∨ t'.snapshots = t.snapshots ++ [positions.mergeSort byId]) := by
  unfold replacePositions at went
  split at went
  · cases went
  split at went
  · cases went
  dsimp only at went
  split at went
  next held =>
    cases went
    exact ⟨rfl, rfl, rfl, held.1, Or.inl rfl⟩
  · cases went
    exact ⟨rfl, rfl, rfl, by simp [listPositions], Or.inr rfl⟩

/-- The positions are as the ledger has them, or their snapshot is the ordered one. -/
theorem bringUpPositions_ok (went : bringUpPositions state r = .ok r') :
    r'.journal.rows = r.journal.rows ∧ r'.journal.transitions = r.journal.transitions ∧
      r'.journal.fills = r.journal.fills ∧
      (r' = r ∧ listPositions r.journal = state.positions ∨
        listPositions r'.journal = state.positions.mergeSort byId ∧
          (r'.journal.snapshots = r.journal.snapshots ∨
            r'.journal.snapshots = r.journal.snapshots ++ [state.positions.mergeSort byId])) := by
  obtain ⟨journal, made, rfl⟩ := toJournal_ok went
  split at made
  next same =>
    cases made
    exact ⟨rfl, rfl, rfl, Or.inl ⟨rfl, same⟩⟩
  next other =>
    obtain ⟨rows, transitions, fills, held, snapshots⟩ := replacePositions_ok made
    exact ⟨rows, transitions, fills, Or.inr ⟨held, snapshots⟩⟩

/-! ### All writes -/

theorem mem_syncWrites {w : Write RuntimeTables Exc} :
    w ∈ syncWrites o now recovery s state ↔
      (∃ item ∈ state.orders, w = matchCommand o item ∨ w = observeOrder o now recovery state item ∨
        w = bringUp item) ∨
      w = checkOrders s ∨
      (∃ fill ∈ state.fills, w = toJournal (PostgresExecutionStore.writeFill (o.journalled fill))) ∨
      w = observePositions o now recovery state ∨ w = bringUpPositions state := by
  simp only [syncWrites, orderWrites, List.mem_append, List.mem_flatMap, List.mem_cons,
    List.not_mem_nil, or_false, List.mem_map, eq_comm, or_assoc]

theorem observed_adds (same : r'.journal = r.journal)
    (grown : r' = r ∨ r.observations.length < r'.observations.length) :
    r' = r ∨ r.size < r'.size := by
  rcases grown with rfl | more
  · exact Or.inl rfl
  · right
    simp only [RuntimeTables.size, same]
    omega

theorem syncWrites_adds : ∀ w ∈ syncWrites o now recovery s state,
    Write.Adds RuntimeTables.size w := by
  intro w member
  rcases mem_syncWrites.mp member with ⟨item, -, rfl | rfl | rfl⟩ | rfl | ⟨fill, -, rfl⟩ | rfl | rfl
  · exact fun r r' went => Or.inl (matchCommand_ok went).1
  · exact fun r r' went => observed_adds (observeOrder_ok went).1 (observeOrder_ok went).2
  · apply toJournal_adds
    intro t t' went
    dsimp only at went
    split at went
    · cases went
      exact Or.inl rfl
    · exact writeOrder_adds _ t t' went
  · exact fun r r' went => Or.inl (checkOrders_ok went).1
  · exact toJournal_adds (writeFill_adds _)
  · exact fun r r' went => observed_adds (observePositions_ok went).1 (observePositions_ok went).2
  · apply toJournal_adds
    intro t t' went
    dsimp only at went
    split at went
    · cases went
      exact Or.inl rfl
    · exact replacePositions_adds _ t t' went

/-! ### What the journal holds of the ledger -/

/-- Every fill of the journal is one of the ledger's, and every snapshot is in order. -/
structure Drawn (o : Outfit) (fills : List Fill) (t : Tables) : Prop where
  fills : ∀ f ∈ t.fills, ∃ fill ∈ fills, f = o.journalled fill
  snapshots : ∀ positions ∈ t.snapshots, positions.Pairwise fun a b => byId a b = true

theorem pairwise_byId (positions : List Position) :
    (positions.mergeSort byId).Pairwise fun a b => byId a b = true := by
  apply List.pairwise_mergeSort
  · intro a b c first second
    simp only [byId, decide_eq_true_eq] at *
    exact String.le_trans first second
  · intro a b
    simp only [byId, Bool.or_eq_true, decide_eq_true_eq]
    exact String.le_total _ _

theorem Drawn.of_journal {fills : List Fill} (drawn : Drawn o fills r.journal)
    (same : r'.journal = r.journal) : Drawn o fills r'.journal := same ▸ drawn

/-- A write of the synchronisation, made or not, draws on the ledger only. -/
theorem Drawn.write (drawn : Drawn o state.fills r.journal) {w : Write RuntimeTables Exc}
    (member : w ∈ syncWrites o now recovery s state) (went : w r = .ok r') :
    Drawn o state.fills r'.journal := by
  rcases mem_syncWrites.mp member with ⟨item, -, rfl | rfl | rfl⟩ | rfl | ⟨fill, inside, rfl⟩ |
    rfl | rfl
  · exact (matchCommand_ok went).1 ▸ drawn
  · exact drawn.of_journal (observeOrder_ok went).1
  · obtain ⟨rows, rfl, -⟩ := bringUp_ok went
    exact ⟨drawn.fills, drawn.snapshots⟩
  · exact (checkOrders_ok went).1 ▸ drawn
  · obtain ⟨journal, made, rfl⟩ := toJournal_ok went
    rcases (writeFill_ok made).2 with rfl | rfl
    · exact drawn
    · refine ⟨?_, drawn.snapshots⟩
      intro f there
      rcases List.mem_append.mp there with old | new
      · exact drawn.fills f old
      · exact ⟨fill, inside, List.mem_singleton.mp new⟩
  · exact drawn.of_journal (observePositions_ok went).1
  · obtain ⟨-, -, fills, ⟨rfl, -⟩ | ⟨-, same | added⟩⟩ := bringUpPositions_ok went
    · exact drawn
    · exact ⟨fills ▸ drawn.fills, same ▸ drawn.snapshots⟩
    · refine ⟨fills ▸ drawn.fills, ?_⟩
      rw [added]
      intro positions there
      rcases List.mem_append.mp there with old | new
      · exact drawn.snapshots positions old
      · rw [List.mem_singleton.mp new]
        exact pairwise_byId _

theorem Drawn.performed {ws : List (Write RuntimeTables Exc)}
    (drawn : Drawn o state.fills r.journal)
    (among : ∀ w ∈ ws, w ∈ syncWrites o now recovery s state) :
    Drawn o state.fills (Write.perform ws r).2.journal :=
  Write.perform_keeps (J := fun r => Drawn o state.fills r.journal)
    (fun w member _ _ made drawn => drawn.write (among w member) made) drawn

/-! ### A synchronisation that completes -/

/-- An order of the ledger is in the journal as it stands, with its command. -/
def BroughtUp (o : Outfit) (item : LedgerOrder) (d : Rows) : Prop :=
  hasCommand o item d = true ∧ d.getOrder item.published.intentId = some item.published

/-- The same but for orders. -/
structure OrdersOnly (d d' : Rows) : Prop where
  intents : d'.orderIntents = d.orderIntents
  commands : d'.commandIntents = d.commandIntents

theorem OrdersOnly.hasCommand {d d' : Rows} (only : OrdersOnly d d') :
    hasCommand o item d' = hasCommand o item d := by
  simp only [OfflineRuntime.hasCommand, Rows.getOrderIntent, Rows.getCommandForOrderIntent,
    only.intents, only.commands]

theorem ordersOnly_of_saveOrder {order : BrokerOrder} {d d' : Rows}
    (saved : saveOrder order d = .ok d') : OrdersOnly d d' := by
  rcases (saveOrder_performs saved).1 with rfl | rfl
  · exact ⟨rfl, rfl⟩
  · exact ⟨rfl, rfl⟩

/-- An order that has left SUBMITTING is not replaced by one of another identifier. -/
theorem saveOrder_refused {previous order : BrokerOrder} {d d' : Rows}
    (found : d.getOrder order.intentId = some previous) (other : previous ≠ order)
    (apart : previous.orderId ≠ order.orderId)
    (settled : previous.state.isOpen = true ∨ previous.state.isTerminal = true) :
    saveOrder order d ≠ .ok d' := by
  have named : changesIdentity previous order = true := by
    simp only [changesIdentity, Bool.and_eq_true, decide_eq_true_eq]
    refine ⟨apart, ?_⟩
    cases state : previous.state <;> rw [state] at settled <;>
      first | rfl | (rcases settled with bad | bad <;> cases bad)
  intro went
  unfold saveOrder at went
  split at went
  · cases went
  rw [found] at went
  simp only [Option.some.injEq, other, if_false, Option.any_some, named, if_true] at went
  split at went <;> cases went

section Orders

variable {cfg : LedgerConfig} {commands : List BrokerCommandIntent}

theorem eq_of_orderId (booked : ShadowLedger.Booked cfg commands s) {a b : LedgerOrder}
    (left : a ∈ s.orders.values) (right : b ∈ s.orders.values)
    (same : a.published.orderId = b.published.orderId) : a = b := by
  obtain ⟨i, foundA⟩ := Dict.mem_values.mp left
  obtain ⟨j, foundB⟩ := Dict.mem_values.mp right
  have keyA := booked.keyed i a foundA
  have keyB := booked.keyed j b foundB
  rw [← keyA, same, keyB, foundB] at foundA
  exact (Option.some.inj foundA).symm

/-- Bringing up one order of the ledger leaves the others as they were brought up. -/
theorem broughtUp_bringUp (booked : ShadowLedger.Booked cfg commands s) {a b : LedgerOrder}
    (left : a ∈ s.orders.values) (right : b ∈ s.orders.values) {d d' : Rows}
    (there : d.getOrder a.published.intentId = some a.published)
    (saved : saveOrder b.published d = .ok d')
    (new : d.getOrder b.published.intentId ≠ some b.published) :
    d'.getOrder a.published.intentId = some a.published := by
  by_cases shared : b.published.intentId = a.published.intentId
  · -- two orders of one intent differ in their identifiers, so the second is refused
    rw [← shared] at there
    have other : a.published ≠ b.published := fun same => new (same ▸ there)
    have apart : a.published.orderId ≠ b.published.orderId := fun same =>
      other (eq_of_orderId booked left right same ▸ rfl)
    obtain ⟨key, found⟩ := Dict.mem_values.mp left
    exact absurd saved (saveOrder_refused there other apart (booked.proper key a found))
  · rcases (saveOrder_performs saved).1 with rfl | rfl
    · exact there
    · rw [Rows.getOrder_addOrder_of_ne _ shared]
      exact there

theorem orders_made (booked : ShadowLedger.Booked cfg commands s)
    (orders : state.orders = s.orders.values)
    (made : Write.Made (state.orders.flatMap (orderWrites o now recovery state)) r r') :
    r'.journal = { r.journal with rows := r'.journal.rows } ∧
      OrdersOnly r.journal.rows r'.journal.rows ∧
      ∀ item ∈ state.orders, BroughtUp o item r'.journal.rows := by
  -- the invariant speaks of the orders passed so far: each is in the journal as published
  refine made.loop (P := fun done r₁ => r₁.journal = { r.journal with rows := r₁.journal.rows } ∧
    OrdersOnly r.journal.rows r₁.journal.rows ∧ ∀ item ∈ done, BroughtUp o item r₁.journal.rows)
    ⟨rfl, ⟨rfl, rfl⟩, by simp⟩ ?_
  rintro done x rest r₁ r₂ split ⟨journal, only, earlier⟩ three
  have listed : ∀ item ∈ done ++ [x], item ∈ s.orders.values := by
    intro item member
    rw [← orders, split]
    simp only [List.mem_append, List.mem_cons, List.not_mem_nil, or_false] at member ⊢
    tauto
  obtain ⟨r₃, matched, two⟩ := Write.made_cons.mp three
  obtain ⟨rfl, known⟩ := matchCommand_ok matched
  obtain ⟨r₄, observed, one⟩ := Write.made_cons.mp two
  obtain ⟨r₅, saved, none_⟩ := Write.made_cons.mp one
  obtain rfl := Write.made_nil.mp none_
  have same := (observeOrder_ok observed).1
  obtain ⟨rows, rfl, brought⟩ := bringUp_ok saved
  rw [same] at brought ⊢
  dsimp only
  have step : OrdersOnly r₃.journal.rows rows ∧ ∀ item ∈ done ++ [x],
      (item ∈ done ∨ item = x) → rows.getOrder item.published.intentId = some item.published := by
    rcases brought with ⟨rfl, there⟩ | ⟨new, went⟩
    · refine ⟨⟨rfl, rfl⟩, ?_⟩
      rintro item - (old | rfl)
      · exact (earlier item old).2
      · exact there
    · -- a save could displace an earlier order of the same intent; no two share one
      refine ⟨ordersOnly_of_saveOrder went, ?_⟩
      rintro item member (old | rfl)
      · exact broughtUp_bringUp booked (listed item member) (listed x (by simp))
          (earlier item old).2 went new
      · exact (saveOrder_performs went).2 rfl
  have journal' := congrArg (fun t : Tables => { t with rows := rows }) journal
  refine ⟨journal', ⟨step.1.intents.trans only.intents,
    step.1.commands.trans only.commands⟩, ?_⟩
  intro item member
  have which : item ∈ done ∨ item = x := by simpa using member
  refine ⟨?_, step.2 item member which⟩
  rw [step.1.hasCommand]
  rcases which with old | rfl
  · exact (earlier item old).1
  · exact known

end Orders

theorem fills_made
    (made : Write.Made (state.fills.map fun fill => toJournal (writeFill (o.journalled fill))) r r') :
    r'.observations = r.observations ∧ r'.journal = { r.journal with fills := r'.journal.fills } ∧
      ∀ fill ∈ state.fills, Journalled r'.journal (o.journalled fill) := by
  rw [List.map_eq_flatMap] at made
  refine made.loop (P := fun done r₁ => r₁.observations = r.observations ∧
    r₁.journal = { r.journal with fills := r₁.journal.fills } ∧
    ∀ fill ∈ done, Journalled r₁.journal (o.journalled fill)) ⟨rfl, rfl, by simp⟩ ?_
  rintro done x rest r₁ r₂ - ⟨observations, journal, earlier⟩ one
  obtain ⟨r₃, saved, none_⟩ := Write.made_cons.mp one
  obtain rfl := Write.made_nil.mp none_
  obtain ⟨t, went, rfl⟩ := toJournal_ok saved
  obtain ⟨there, grown⟩ := writeFill_ok went
  refine ⟨observations, ?_, ?_⟩
  · rcases grown with rfl | rfl
    · exact journal
    · exact congrArg (fun t : Tables => { t with fills := t.fills ++ [o.journalled x] }) journal
  · intro fill member
    rcases List.mem_append.mp member with old | new
    · exact (earlier fill old).writeFill went
    · rw [List.mem_singleton.mp new]
      exact there

/-- What a completed synchronisation leaves is what the ledger has. -/
structure Synchronised (s : ShadowLedger) (t : Tables) : Prop where
  orders : ∀ item ∈ s.orders.values,
    t.rows.getOrder item.published.intentId = some item.published
  fills : ∀ fill, fill ∈ t.fills.map JournalledFill.fill ↔ fill ∈ s.fills
  positions : ∀ position, position ∈ listPositions t ↔ position ∈ s.positions.values

/-- The ledger holds its positions in the order of their identifiers. -/
def InOrder (positions : List Position) : Prop :=
  positions.Pairwise fun a b => byId a b = true

theorem Drawn.listPositions {fills : List Fill} (drawn : Drawn o fills t) :
    InOrder (listPositions t) := by
  unfold PostgresExecutionStore.listPositions
  cases newest : t.snapshots.getLast? with
  | none => exact List.Pairwise.nil
  | some positions => exact drawn.snapshots positions (List.mem_of_getLast? newest)

/-- The newest snapshot is the ordered one, whichever of the two branches was taken. -/
theorem listPositions_made {fills : List Fill} (drawn : Drawn o fills r.journal)
    (made : bringUpPositions state r = .ok r') :
    listPositions r'.journal = state.positions.mergeSort byId := by
  rcases (bringUpPositions_ok made).2.2.2 with ⟨rfl, same⟩ | ⟨held, -⟩
  · have ordered := drawn.listPositions
    rw [same] at ordered ⊢
    exact (List.mergeSort_of_pairwise ordered).symm
  · exact held

theorem mergeSort_byId_eq_iff {positions : List Position} :
    positions.mergeSort byId = positions ↔ InOrder positions := by
  constructor
  · intro same
    rw [← same]
    exact pairwise_byId positions
  · exact List.mergeSort_of_pairwise

/-- An order that was brought up is passed over. -/
theorem BroughtUp.again (there : BroughtUp o item r.journal.rows) :
    ∀ w ∈ orderWrites o now recovery state item, w r = .ok r := by
  obtain ⟨known, same⟩ := there
  intro w member
  simp only [orderWrites, List.mem_cons, List.not_mem_nil, or_false] at member
  rcases member with rfl | rfl | rfl
  · simp [matchCommand, known]
  · simp [observeOrder, same]
  · simp [bringUp, toJournal, same, Except.map]

/-- Everything that a completed synchronisation established before it came to the positions. -/
structure Settled (o : Outfit) (s : ShadowLedger) (t : Tables) : Prop where
  orders : ∀ item ∈ s.orders.values, BroughtUp o item t.rows
  durable : (listLatestOrders t.rows).forM (checkDurable
    { ledger := s, rows := t.rows, transitions := t.transitions }) = .ok ()
  fills : ∀ fill ∈ s.fills, Journalled t (o.journalled fill)

/-- The writes that precede those of the positions. -/
def settlingWrites (o : Outfit) (now : Time) (recovery : Bool) (s : ShadowLedger)
    (state : LedgerSnapshot) : List (Write RuntimeTables Exc) :=
  state.orders.flatMap (orderWrites o now recovery state) ++
    checkOrders s :: state.fills.map fun fill => toJournal (writeFill (o.journalled fill))

theorem syncWrites_eq : syncWrites o now recovery s state =
    settlingWrites o now recovery s state ++
      [observePositions o now recovery state, bringUpPositions state] := by
  simp [syncWrites, settlingWrites]

theorem settling_made {cfg : LedgerConfig} {commands : List BrokerCommandIntent}
    (booked : ShadowLedger.Booked cfg commands s) (orders : state.orders = s.orders.values)
    (fills : state.fills = s.fills)
    (made : Write.Made (settlingWrites o now recovery s state) r r') :
    Settled o s r'.journal := by
  obtain ⟨r₁, ordered, rest⟩ := Write.made_append.mp made
  obtain ⟨r₂, checked, filled⟩ := Write.made_cons.mp rest
  obtain ⟨-, -, brought⟩ := orders_made booked orders ordered
  obtain ⟨rfl, durable⟩ := checkOrders_ok checked
  obtain ⟨-, journal, there⟩ := fills_made filled
  -- the fills leave the orders and the transitions as they are
  have rows := congrArg Tables.rows journal
  have transitions := congrArg Tables.transitions journal
  dsimp only at rows transitions
  refine ⟨?_, ?_, fills ▸ there⟩
  · rw [rows, ← orders]
    exact brought
  · rw [rows, transitions]
    exact durable

theorem Settled.again (settled : Settled o s r.journal) (orders : state.orders = s.orders.values)
    (fills : state.fills = s.fills) :
    ∀ w ∈ settlingWrites o now recovery s state, w r = .ok r := by
  intro w member
  rcases List.mem_append.mp member with ordering | rest
  · obtain ⟨item, inside, own⟩ := List.mem_flatMap.mp ordering
    exact (settled.orders item (orders ▸ inside)).again w own
  · rcases List.mem_cons.mp rest with rfl | filling
    · simp [checkOrders, settled.durable, Except.map]
    · obtain ⟨fill, inside, rfl⟩ := List.mem_map.mp filling
      simp [toJournal, (settled.fills fill (fills ▸ inside)).again, Except.map]

theorem Settled.of_same (settled : Settled o s t) (rows : t'.rows = t.rows)
    (transitions : t'.transitions = t.transitions) (fills : t'.fills = t.fills) :
    Settled o s t' where
  orders := rows ▸ settled.orders
  durable := by
    rw [rows, transitions]
    exact settled.durable
  fills := fun fill member =>
    ⟨rows ▸ (settled.fills fill member).order, fills ▸ (settled.fills fill member).fill⟩

theorem exportState_ok {cfg : LedgerConfig} {recorded : List BrokerCommandIntent}
    (exported : s.exportState cfg now recorded = .ok state) :
    state.orders = s.orders.values ∧ state.fills = s.fills ∧
      state.positions = s.positions.values := by
  unfold ShadowLedger.exportState at exported
  split at exported
  · cases exported
    exact ⟨rfl, rfl, rfl⟩
  · cases exported

/-- What a synchronisation that completes has read and done. -/
theorem synchronise_made {cfg : LedgerConfig} {commands recorded : List BrokerCommandIntent}
    (booked : ShadowLedger.Booked cfg commands s) (drawn : Drawn o s.fills r.journal)
    (went : synchronise o now recovery s cfg recorded r = (.ok (), r')) :
    0 ≤ s.cash ∧ Settled o s r'.journal ∧ Drawn o s.fills r'.journal ∧
      listPositions r'.journal = s.positions.values.mergeSort byId := by
  unfold synchronise at went
  split at went
  next => cases went
  next state exported =>
    obtain ⟨orders, fills, positions⟩ := exportState_ok exported
    have covered : 0 ≤ s.cash := by
      unfold ShadowLedger.exportState at exported
      split at exported
      next covered => exact covered
      · cases exported
    rw [← fills] at drawn ⊢
    have drawn' : Drawn o state.fills r'.journal := by
      have all : ∀ w ∈ syncWrites o now recovery s state, w ∈ syncWrites o now recovery s state :=
        fun _ member => member
      have kept := drawn.performed all
      rw [went] at kept
      exact kept
    rw [syncWrites_eq] at went
    obtain ⟨r₁, settling, last⟩ := Write.made_append.mp went
    obtain ⟨r₂, observed, rest⟩ := Write.made_cons.mp last
    obtain ⟨r₃, brought, none_⟩ := Write.made_cons.mp rest
    obtain rfl := Write.made_nil.mp none_
    have settled := settling_made booked orders fills settling
    obtain ⟨rows, transitions, filled, -⟩ := bringUpPositions_ok brought
    have same := (observePositions_ok observed).1
    refine ⟨covered, settled.of_same (rows.trans (congrArg _ same))
      (transitions.trans (congrArg _ same)) (filled.trans (congrArg _ same)), drawn', ?_⟩
    -- what came before the positions has left the snapshots to the ledger as well
    have among : ∀ w ∈ settlingWrites o now recovery s state,
        w ∈ syncWrites o now recovery s state := by
      intro w member
      rw [syncWrites_eq]
      exact List.mem_append_left _ member
    have earlier : Drawn o state.fills r₁.journal := by
      have kept := drawn.performed among
      rw [show Write.perform _ r = (.ok (), r₁) from settling] at kept
      exact kept
    rw [← positions]
    exact listPositions_made (earlier.of_journal same) brought

theorem Settled.synchronised (settled : Settled o s t) (drawn : Drawn o s.fills t)
    (held : listPositions t = s.positions.values.mergeSort byId) : Synchronised s t where
  orders := fun item member => (settled.orders item member).2
  fills := by
    intro fill
    constructor
    · intro member
      obtain ⟨f, there, rfl⟩ := List.mem_map.mp member
      obtain ⟨fill, inside, rfl⟩ := drawn.fills f there
      exact inside
    · intro member
      have found := (settled.fills fill member).fill
      exact List.mem_map.mpr ⟨o.journalled fill, List.mem_of_find?_eq_some found, rfl⟩
  positions := by
    intro position
    rw [held, List.mem_mergeSort]

/-- A further synchronisation of a settled journal comes to its positions and appends a row
exactly when the newest snapshot is not the sequence the ledger exports. -/
theorem synchronise_settled {cfg : LedgerConfig} {recorded : List BrokerCommandIntent}
    (covered : 0 ≤ s.cash) (settled : Settled o s r.journal) :
    (synchronise o now recovery s cfg recorded r).2 = r ↔
      listPositions r.journal = s.positions.values := by
  unfold synchronise
  cases exported : s.exportState cfg now recorded with
  | error e => simp [ShadowLedger.exportState, covered] at exported
  | ok state =>
    obtain ⟨orders, fills, positions⟩ := exportState_ok exported
    dsimp only
    rw [Write.perform_unchanged_iff syncWrites_adds, syncWrites_eq, ← positions]
    rw [Write.idle_append_iff (settled.again orders fills)]
    constructor
    · intro idle
      by_contra other
      -- the observation would be one row more
      have grown := (idle _ (show observePositions o now recovery state r = .ok _ by
        rw [observePositions, if_neg other])).1
      have lengths := congrArg (fun r => r.observations.length) grown
      simp at lengths
    · intro same
      have observed : observePositions o now recovery state r = .ok r := by
        rw [observePositions, if_pos same]
      have brought : bringUpPositions state r = .ok r := by
        simp [bringUpPositions, toJournal, same, Except.map]
      intro r₁ went
      cases observed.symm.trans went
      refine ⟨rfl, fun r₂ went => ?_⟩
      cases brought.symm.trans went
      exact ⟨rfl, trivial⟩

/-- Positions of the environment with distinct identifiers are always taken. -/
theorem bringUpPositions_returns (own : ∀ p ∈ state.positions, p.environment = .demo)
    (distinct : (state.positions.map Position.positionId).Nodup) (r : RuntimeTables) :
    ∃ r', bringUpPositions state r = .ok r' := by
  unfold bringUpPositions toJournal
  dsimp only
  split
  · exact ⟨_, rfl⟩
  · unfold replacePositions
    rw [if_neg (by simpa using own), if_neg (not_not.mpr distinct)]
    dsimp only
    split <;> exact ⟨_, rfl⟩

theorem synchronise_returns {cfg : LedgerConfig} {recorded : List BrokerCommandIntent}
    (settles : (s.exportState cfg now recorded >>= fun state =>
      (Write.perform (settlingWrites o now recovery s state) r).1) = .ok ())
    (own : ∀ p ∈ s.positions.values, p.environment = .demo)
    (distinct : (s.positions.values.map Position.positionId).Nodup) :
    ∃ r', synchronise o now recovery s cfg recorded r = (.ok (), r') := by
  obtain ⟨state, exported, settles⟩ := bind_ok settles
  obtain ⟨-, -, positions⟩ := exportState_ok exported
  rw [← positions] at own distinct
  obtain ⟨r₂, observed⟩ : ∃ r₂, observePositions o now recovery state
      (Write.perform (settlingWrites o now recovery s state) r).2 = .ok r₂ := by
    unfold observePositions
    split <;> exact ⟨_, rfl⟩
  obtain ⟨r₃, brought⟩ := bringUpPositions_returns own distinct r₂
  refine ⟨r₃, ?_⟩
  rw [synchronise, exported]
  dsimp only
  rw [syncWrites_eq]
  exact Write.made_append.mpr ⟨_, Prod.ext settles rfl,
    Write.made_cons.mpr ⟨r₂, observed, Write.made_cons.mpr ⟨r₃, brought, Write.made_nil.mpr rfl⟩⟩⟩

end Writes

/-! ### Reachable ledgers and journals -/

/-- What the broker and the offline runtime reach together. The ledger takes its events and
restarts. The execution service appends its rows and transitions; fills and positions are
appended by synchronisations only, complete or not. -/
inductive Reached (o : Outfit) (D : Decimal.Context) (cfg : LedgerConfig) :
    ShadowLedger → RuntimeTables → Prop where
  | start : Reached o D cfg (ShadowLedger.fresh cfg) {}
  | happened {s : ShadowLedger} {r : RuntimeTables} (earlier : Reached o D cfg s r) (now : Time)
      (event : ShadowLedger.Event) : Reached o D cfg (ShadowLedger.handle D cfg now event s) r
  | performed {s : ShadowLedger} {r : RuntimeTables} (earlier : Reached o D cfg s r)
      {op : Op} {answer : Except Exc (Ans op)} {rows : Rows}
      (went : performs op r.journal.rows answer rows) :
      Reached o D cfg s { r with journal := { r.journal with rows := rows } }
  | recorded {s : ShadowLedger} {r : RuntimeTables} (earlier : Reached o D cfg s r)
      (record : StateTransitionRecord) : Reached o D cfg s
        { r with journal := { r.journal with transitions := r.journal.transitions ++ [record] } }
  | synchronised {s : ShadowLedger} {r : RuntimeTables} (earlier : Reached o D cfg s r)
      (now : Time) (recovery : Bool) (recorded : List BrokerCommandIntent) :
      Reached o D cfg s (synchronise o now recovery s cfg recorded r).2

section Reachable

variable {o : Outfit} {D : Decimal.Context} {cfg : LedgerConfig} {s : ShadowLedger}
  {r r' : RuntimeTables}

/-- Whatever happens to the ledger, its fills stay. -/
theorem handle_fills {commands : List BrokerCommandIntent}
    (booked : ShadowLedger.Booked cfg commands s) (indexed : ShadowLedger.Indexed s) (now : Time)
    (event : ShadowLedger.Event) : s.fills ⊆ (ShadowLedger.handle D cfg now event s).fills := by
  cases quoted : event.quote? with
  | none =>
    rw [(ShadowLedger.handle_quiet D cfg now indexed quoted).1]
    exact List.Subset.refl _
  | some quote =>
    obtain ⟨ids, rfl⟩ := ShadowLedger.Event.eq_of_quote? quoted
    change s.fills ⊆ (ShadowLedger.observeQuote D cfg now ids quote s).2.fills
    rcases ShadowLedger.observeQuote_taken D now ids quote booked with same | taken
    · rw [same]
      exact List.Subset.refl _
    · rcases taken.fills with same | ⟨-, new, added, -⟩
      · rw [same]
        exact List.Subset.refl _
      · rw [added]
        exact List.subset_append_left _ _

/-- A synchronisation, complete or not, draws on the ledger. -/
theorem Drawn.synchronise (drawn : Drawn o s.fills r.journal) (now : Time) (recovery : Bool)
    (recorded : List BrokerCommandIntent) :
    Drawn o s.fills (synchronise o now recovery s cfg recorded r).2.journal := by
  unfold OfflineRuntime.synchronise
  split
  · exact drawn
  next state exported =>
    obtain ⟨-, fills, -⟩ := exportState_ok exported
    rw [← fills] at drawn ⊢
    exact drawn.performed fun _ member => member

theorem Reached.drawn (reached : Reached o D cfg s r) :
    (∃ events, s = ShadowLedger.live D cfg events (ShadowLedger.fresh cfg)) ∧
      Drawn o s.fills r.journal := by
  induction reached with
  | start =>
    refine ⟨⟨[], rfl⟩, ⟨?_, ?_⟩⟩
    · intro f member
      cases member
    · intro positions member
      cases member
  | happened _ now event ih =>
    obtain ⟨⟨events, rfl⟩, drawn⟩ := ih
    have longer : ShadowLedger.live D cfg (events ++ [(now, event)]) (ShadowLedger.fresh cfg) =
        ShadowLedger.handle D cfg now event
          (ShadowLedger.live D cfg events (ShadowLedger.fresh cfg)) := by
      rw [ShadowLedger.live_append]
      rfl
    refine ⟨⟨events ++ [(now, event)], longer.symm⟩, ?_, drawn.snapshots⟩
    have indexed : ShadowLedger.Indexed (ShadowLedger.live D cfg events (ShadowLedger.fresh cfg)) := by
      rw [ShadowLedger.live_eq_run]
      exact ShadowLedger.run_fresh_indexed D cfg _
    have kept := handle_fills (D := D) (ShadowLedger.live_booked events) indexed now event
    intro f member
    obtain ⟨fill, inside, same⟩ := drawn.fills f member
    exact ⟨fill, kept inside, same⟩
  | performed _ _ ih => exact ⟨ih.1, ih.2.fills, ih.2.snapshots⟩
  | recorded _ _ ih => exact ⟨ih.1, ih.2.fills, ih.2.snapshots⟩
  | synchronised _ now recovery recorded ih => exact ⟨ih.1, ih.2.synchronise now recovery recorded⟩

theorem Reached.live (reached : Reached o D cfg s r) (events : List (Time × ShadowLedger.Event)) :
    Reached o D cfg (ShadowLedger.live D cfg events s) r := by
  induction events generalizing s with
  | nil => exact reached
  | cons step rest ih => exact ih (reached.happened step.1 step.2)

/-- In every ledger and journal that are reached, a synchronisation that completes leaves the
journal with the ledger's orders, fills and positions; and it leaves nothing for another to
append if and only if the ledger holds its positions in the order of their identifiers. -/
theorem synchronise_again_iff (reached : Reached o D cfg s r) {now : Time} {recovery : Bool}
    {recorded : List BrokerCommandIntent}
    (went : synchronise o now recovery s cfg recorded r = (.ok (), r')) :
    Synchronised s r'.journal ∧ ∀ now' recovery' recorded',
      (synchronise o now' recovery' s cfg recorded' r').2 = r' ↔ InOrder s.positions.values := by
  obtain ⟨⟨events, rfl⟩, drawn⟩ := reached.drawn
  obtain ⟨covered, settled, drawn', held⟩ :=
    synchronise_made (ShadowLedger.live_booked events) drawn went
  refine ⟨settled.synchronised drawn' held, ?_⟩
  intro now' recovery' recorded'
  rw [synchronise_settled covered settled, held, mergeSort_byId_eq_iff]

end Reachable

namespace Pair

open ShadowLedger

/-- One contract of each of two instruments. -/
def commands : List BrokerCommandIntent :=
  [sampleCommand 11 .placeOptionOrder .buyToOpen 1 ⟨150, -2⟩,
    { sampleCommand 12 .placeOptionOrder .buyToOpen 1 ⟨150, -2⟩ with instrumentId := "qqq-put" }]

def intentOf (command : BrokerCommandIntent) : OrderIntent where
  createdAt := 0
  intentId := command.orderIntentId
  environment := .demo
  namespace_ := "demo"
  proposalId := command.proposalId
  riskDecisionId := command.riskDecisionId
  approvalId := none
  reviewId := ⟨3⟩
  orderFingerprint := command.idempotencyKey
  idempotencyKey := command.idempotencyKey
  action := .placeOptionOrder

def outfit : Outfit where
  hashing := sampleHashing
  contentHash := fun state => toString state.positions.length
  digits := fun _ => "1.25"

/-- The journal before the first synchronisation. -/
def prepared : RuntimeTables :=
  { journal := { rows := { orderIntents := commands.map intentOf, commandIntents := commands } } }

def identified (position : UUID) : FreshIds := { sampleIds with position := fun _ => position }

/-- Both orders are filled; the positions get the two identifiers. -/
def ledger (first second : UUID) : ShadowLedger :=
  live .exact sampleConfig
    [(10, .call (.submit (sampleCommand 11 .placeOptionOrder .buyToOpen 1 ⟨150, -2⟩)
        sampleContract)),
      (20, .call (.observeQuote (identified first) (sampleQuote 5 15 15 1 (5 / 4)))),
      (30, .call (.submit { sampleCommand 12 .placeOptionOrder .buyToOpen 1 ⟨150, -2⟩ with
        instrumentId := "qqq-put" } otherContract)),
      (40, .call (.observeQuote (identified second)
        { sampleQuote 6 35 35 1 (5 / 4) with contract := otherContract }))]
    (fresh sampleConfig)

theorem reached_ledger (first second : UUID) :
    Reached outfit .exact sampleConfig (ledger first second) prepared := by
  have rows : Reached outfit .exact sampleConfig (fresh sampleConfig) prepared := by
    have intent : ∀ (d : Rows) (c : BrokerCommandIntent),
        (∀ other ∈ d.orderIntents, Rows.Apart other (intentOf c)) →
        performs (.saveOrderIntent (intentOf c)) d (.ok ()) (d.addIntent (intentOf c)) :=
      fun d c free => ⟨Or.inr ⟨free, rfl⟩, fun _ => by simp [Rows.addIntent]⟩
    have command : ∀ (d : Rows) (c : BrokerCommandIntent),
        performs (.saveCommandIntent c) d (.ok ()) (d.addCommand c) :=
      fun d c => ⟨Or.inr rfl, fun _ => by simp [Rows.addCommand]⟩
    have empty : Reached outfit .exact sampleConfig (fresh sampleConfig) {} := .start
    have first := empty.performed
      (intent {} (sampleCommand 11 .placeOptionOrder .buyToOpen 1 ⟨150, -2⟩) (by simp))
    exact ((first.performed (command _ _)).performed
      (intent _ { sampleCommand 12 .placeOptionOrder .buyToOpen 1 ⟨150, -2⟩ with
        instrumentId := "qqq-put" } (by decide +kernel))).performed (command _ _)
  exact rows.live _

/-- What lets the first synchronisation come to its end. -/
def Ready (s : ShadowLedger) : Prop :=
  (s.exportState sampleConfig 50 commands >>= fun state =>
      (Write.perform (settlingWrites outfit 50 false s state) prepared).1) = .ok () ∧
    (∀ p ∈ s.positions.values, p.environment = .demo) ∧
    (s.positions.values.map Position.positionId).Nodup

instance (s : ShadowLedger) : Decidable (Ready s) := inferInstanceAs (Decidable (_ ∧ _))

instance (positions : List Position) : Decidable (InOrder positions) :=
  inferInstanceAs (Decidable (positions.Pairwise _))

theorem Ready.returns {s : ShadowLedger} (ready : Ready s) :
    ∃ r', synchronise outfit 50 false s sampleConfig commands prepared = (.ok (), r') :=
  synchronise_returns ready.1 ready.2.1 ready.2.2

/-- Both ledgers, evaluated together. -/
theorem ledgers_evaluated :
    (Ready (ledger ⟨8⟩ ⟨9⟩) ∧ (ledger ⟨8⟩ ⟨9⟩).positions.keys = ["spy-put", "qqq-put"] ∧
        InOrder (ledger ⟨8⟩ ⟨9⟩).positions.values) ∧
      Ready (ledger ⟨9⟩ ⟨8⟩) ∧ ¬ InOrder (ledger ⟨9⟩ ⟨8⟩).positions.values := by
  decide +kernel

/-- With the identifiers in order nothing is left to append. -/
theorem synchronise_again_iff_ledger :
    (ledger ⟨8⟩ ⟨9⟩).positions.keys = ["spy-put", "qqq-put"] ∧ ∃ r',
      synchronise outfit 50 false (ledger ⟨8⟩ ⟨9⟩) sampleConfig commands prepared = (.ok (), r') ∧
      Synchronised (ledger ⟨8⟩ ⟨9⟩) r'.journal ∧
      (synchronise outfit 60 false (ledger ⟨8⟩ ⟨9⟩) sampleConfig commands r').2 = r' := by
  obtain ⟨ready, keys, ordered⟩ := ledgers_evaluated.1
  obtain ⟨r', went⟩ := ready.returns
  obtain ⟨done, again⟩ := synchronise_again_iff (reached_ledger ⟨8⟩ ⟨9⟩) went
  exact ⟨keys, r', went, done, (again 60 false commands).mpr ordered⟩

/-- With the identifiers the other way round every synchronisation appends a row. -/
theorem synchronise_appends_again :
    Reached outfit .exact sampleConfig (ledger ⟨9⟩ ⟨8⟩) prepared ∧ ∃ r',
      synchronise outfit 50 false (ledger ⟨9⟩ ⟨8⟩) sampleConfig commands prepared = (.ok (), r') ∧
      (synchronise outfit 60 false (ledger ⟨9⟩ ⟨8⟩) sampleConfig commands r').2 ≠ r' := by
  obtain ⟨ready, unordered⟩ := ledgers_evaluated.2
  obtain ⟨r', went⟩ := ready.returns
  obtain ⟨-, drawn⟩ := (reached_ledger ⟨9⟩ ⟨8⟩).drawn
  have booked : Booked sampleConfig _ (ledger ⟨9⟩ ⟨8⟩) := live_booked _
  obtain ⟨covered, settled, -, held⟩ := synchronise_made booked drawn went
  refine ⟨reached_ledger ⟨9⟩ ⟨8⟩, r', went, ?_⟩
  rw [ne_eq, synchronise_settled covered settled, held, mergeSort_byId_eq_iff]
  exact unordered

end Pair

end OfflineRuntime

end Sentry
