import Sentry.Execution.Guarantees
import Sentry.Ledger.Exposure
import Sentry.Support.Locked

/-!
# The risk caps over whole runs

One execution service over a broker that keeps a `ShadowLedger`. The calls of the service
run one at a time; quotes, expirations, deposits, reviews and cancellations reach the
ledger at any moment, also between the snapshot an execution is judged on and the order
it places.
-/
namespace Sentry

open Support Coroutine Relation

def Op.places : Op → Bool
  | .placeOptionOrder _ _ => true
  | _ => false

theorem Op.places_of_isLocal {op : Op} (local_ : op.isLocal = true) : op.places = false := by
  cases op <;> first | rfl | cases local_

/-- A service, the ledger behind its broker, the contracts that are traded, and how the
clock may move. -/
structure Desk where
  svc : ExecutionService
  context : Decimal.Context
  ledger : LedgerConfig
  catalog : String → OptionContract
  ticks : Time → Time → Prop

inductive DeskCall (catalog : String → OptionContract) where
  | execute (p : TradeProposal) (approval : Option ExactApproval) (draws : Draws)
      (listed : catalog p.contract.instrumentId = p.contract)
  | cancelOrder (target : BrokerOrder) (limitPrice : Decimal)
      (written : limitPrice.val = target.limitPrice)

namespace Desk

variable (desk : Desk)

def body : DeskCall desk.catalog → Program ShadowLedger Unit
  | .execute p approval draws _ => do
    let _ ← desk.svc.execute p approval draws
    pure ()
  | .cancelOrder target limitPrice written => do
    let _ ← desk.svc.cancelOrder target limitPrice written
    pure ()

/-- What an awaited operation does to the ledger. An account snapshot shows the ledger as it
is; reviews, placements and cancellations reach it, or fail before they do, and may fail
afterwards. Everything else leaves it alone and may be answered in any way. -/
def performs : (op : Op) → Ambient ShadowLedger → Except Exc (Ans op) → Ambient ShadowLedger → Prop
  | .getEffectiveExecutionAccountState, g, r, g' =>
    g' = g ∧ ∀ account, r = .ok account →
      ∃ id, account = g.broker.accountSnapshot desk.context desk.ledger g.now id
  | .reviewOptionOrder p, g, _, g' =>
    g' = g ∨ ∃ ids, g' = g.adapt fun s => (s.review desk.context desk.ledger g.now ids p).2
  | .placeOptionOrder command contract, g, r, g' =>
    (g' = g ∧ ∃ e, r = .error e) ∨
      ((r = (g.broker.submit desk.context desk.ledger g.now command contract).1 ∨
          ∃ e, r = .error e) ∧
        g' = g.adapt fun s => (s.submit desk.context desk.ledger g.now command contract).2)
  | .cancelOptionOrder command orderId, g, _, g' =>
    g' = g ∨ g' = g.adapt fun s => (s.cancel desk.ledger command (.text orderId)).2
  | _, g, _, g' => g' = g

/-- What happens beside the service: an operation of the ledger other than a submission, or
a change of everything but the ledger. -/
inductive Event (g : Ambient ShadowLedger) : Ambient ShadowLedger → Prop where
  | ledger (op : ShadowLedger.Op) (other : ∀ command contract, op ≠ .submit command contract) :
      Event g (g.adapt fun s => (s.perform desk.context desk.ledger g.now op).2)
  | surroundings (g' : Ambient ShadowLedger) (same : g'.broker = g.broker)
      (ticked : desk.ticks g.now g'.now) : Event g g'

def world : Locked (Ambient ShadowLedger) Exc Ans Unit (DeskCall desk.catalog) where
  body := desk.body
  performs := desk.performs
  event := desk.Event

/-! ### What moves beside an execution -/

/-- The market date never goes backward. -/
def Steady : Prop := ∀ now now', desk.ticks now now' →
  desk.ledger.marketDate now ≤ desk.ledger.marketDate now'

/-- The ledger is within the limits of the service at the present time. -/
def Capped (g : Ambient ShadowLedger) : Prop :=
  ShadowLedger.Within desk.svc.risk.config.risk desk.ledger desk.catalog g.now g.broker

/-- The ledger's measures were kept, and the market date is the same or a later one. -/
structure Drifted (g g' : Ambient ShadowLedger) : Prop where
  kept : ∃ paid, ShadowLedger.Kept paid g.broker g'.broker
  later : desk.ledger.marketDate g.now ≤ desk.ledger.marketDate g'.now

variable {desk} {g g' : Ambient ShadowLedger}

theorem drifted_refl (g : Ambient ShadowLedger) : desk.Drifted g g :=
  ⟨⟨0, .refl g.broker⟩, le_refl _⟩

theorem Event.drifted (exact_ : desk.context = .exact) (steady : desk.Steady)
    (event : desk.Event g g') (solvent : ShadowLedger.Solvent desk.ledger desk.catalog g.broker) :
    ShadowLedger.Solvent desk.ledger desk.catalog g'.broker ∧ desk.Drifted g g' := by
  cases event with
  | ledger op other =>
    rw [exact_]
    obtain ⟨solvent', kept⟩ := ShadowLedger.perform_kept g.now other solvent
    exact ⟨solvent', ⟨_, kept⟩, le_refl _⟩
  | surroundings _ same ticked =>
    rw [same]
    exact ⟨solvent, ⟨0, same ▸ .refl g.broker⟩, steady _ _ ticked⟩

/-- Only a placement can add to the ledger's measures. -/
theorem performs_drifted (exact_ : desk.context = .exact) {op : Op} {r : Except Exc (Ans op)}
    (other : op.places = false)
    (performed : desk.performs op g r g')
    (solvent : ShadowLedger.Solvent desk.ledger desk.catalog g.broker) :
    ShadowLedger.Solvent desk.ledger desk.catalog g'.broker ∧ desk.Drifted g g' := by
  have unmoved : g' = g → ShadowLedger.Solvent desk.ledger desk.catalog g'.broker ∧
      desk.Drifted g g' := by
    rintro rfl
    exact ⟨solvent, drifted_refl g'⟩
  cases op with
  | placeOptionOrder command contract => cases other
  | getEffectiveExecutionAccountState => exact unmoved performed.1
  | reviewOptionOrder p =>
    rcases performed with same | ⟨ids, rfl⟩
    · exact unmoved same
    · rw [exact_]
      obtain ⟨solvent', kept⟩ := ShadowLedger.review_kept g.now ids p solvent
      exact ⟨solvent', ⟨0, kept⟩, le_refl _⟩
  | cancelOptionOrder command orderId =>
    rcases performed with same | rfl
    · exact unmoved same
    · obtain ⟨solvent', kept⟩ := ShadowLedger.cancel_kept command (.text orderId) solvent
      exact ⟨solvent', ⟨0, kept⟩, le_refl _⟩
  | _ => exact unmoved performed

theorem Drifted.capped (drifted : desk.Drifted g g') (capped : desk.Capped g)
    (solvent : ShadowLedger.Solvent desk.ledger desk.catalog g'.broker) : desk.Capped g' := by
  obtain ⟨⟨paid, kept⟩, later⟩ := drifted
  exact ShadowLedger.Within.kept capped solvent kept later

/-! ### What an execution knows when it places an order -/

/-- A snapshot still bounds the ledger: its risk, its instruments, and the entries of some
day that no accepted entry is later than. -/
structure Current (desk : Desk) (account : AccountSnapshot) (g : Ambient ShadowLedger) : Prop where
  risk : g.broker.openOptionRisk .exact ≤ account.openOptionRisk
  positions : g.broker.heldInstruments.card ≤ account.openPositions
  entries : ∃ day ≤ desk.ledger.marketDate g.now,
    (g.broker.acceptedOn desk.ledger day).card ≤ account.newEntriesToday ∧
      ∀ date, day < date → g.broker.acceptedOn desk.ledger date = ∅

theorem current_snapshot (exact_ : desk.context = .exact) (capped : desk.Capped g) (id : UUID) :
    desk.Current (g.broker.accountSnapshot desk.context desk.ledger g.now id) g where
  risk := by
    rw [exact_]
    exact le_refl _
  positions := le_refl _
  entries := ⟨desk.ledger.marketDate g.now, le_refl _,
    Finset.card_le_card (capped.charged _), capped.past⟩

theorem Drifted.current (drifted : desk.Drifted g g') (capped : desk.Capped g)
    (capped' : desk.Capped g') {account : AccountSnapshot} (current : desk.Current account g) :
    desk.Current account g' := by
  obtain ⟨⟨paid, kept⟩, later⟩ := drifted
  obtain ⟨day, past, bounded, none_⟩ := current.entries
  have held := kept.heldInstruments_subset capped.solvent.positions_ok capped'.solvent.positions_ok
  refine ⟨le_trans kept.risk_le current.risk,
    le_trans (Finset.card_le_card held) current.positions, day, le_trans past later, ?_, ?_⟩
  · rw [kept.acceptedOn_eq]
    exact bounded
  · intro date future
    rw [kept.acceptedOn_eq]
    exact none_ date future

/-- An entry that a current snapshot allows has room, on its own day and on later ones. -/
theorem Current.room {account : AccountSnapshot} (current : desk.Current account g)
    (exact_ : desk.svc.risk.context = .exact) {id : UUID} {now : Time} {p : TradeProposal}
    {quote : OptionQuote} (buy : p.side = .buyToOpen)
    (allowed : (desk.svc.risk.evaluate id now p account quote).allowed = true) :
    ShadowLedger.Room desk.svc.risk.config.risk desk.ledger g.now
      (p.limitPrice.val * p.quantity * p.contract.multiplier) g.broker := by
  have passed := desk.svc.risk.evaluate_entry buy allowed
  simp only [RiskEngine.entryOutcomes, List.forall_mem_cons] at passed
  obtain ⟨-, -, -, -, risk, positions, entries, -⟩ := passed
  simp only [RiskEngine.resultingRisk, TradeProposal.maxLoss, exact_, decide_eq_true_eq,
    Decimal.Context.exact_add, Decimal.Context.exact_mul, Bool.or_eq_true, Bool.not_eq_true']
    at risk positions entries
  refine ⟨?_, lt_of_le_of_lt current.positions positions, ?_⟩
  · exact le_trans (add_le_add_left current.risk _) risk
  · intro enabled date future
    obtain ⟨day, past, bounded, none_⟩ := current.entries
    rcases eq_or_lt_of_le (le_trans past future) with rfl | after
    · rcases entries with disabled | below
      · rw [enabled] at disabled
        cases disabled
      · exact lt_of_le_of_lt bounded below
    · -- nothing was accepted on that day yet
      rw [none_ date after]
      exact desk.svc.risk.config.risk.entries_pos

/-- What holds when an operation is asked for: an order has room for itself. -/
def issue (desk : Desk) (_ : History) (op : Op) (g : Ambient ShadowLedger) : Prop :=
  match op with
  | .placeOptionOrder command contract => desk.catalog contract.instrumentId = contract ∧
      (command.side = .buyToOpen → ShadowLedger.Room desk.svc.risk.config.risk desk.ledger g.now
        (command.limitPrice.val * command.quantity * contract.multiplier) g.broker)
  | _ => True

theorem issue_of_places {op : Op} (other : op.places = false) (h : History)
    (g : Ambient ShadowLedger) : desk.issue h op g := by
  cases op with
  | placeOptionOrder command contract => cases other
  | _ => trivial

section Runs

variable (engine : desk.svc.risk.context = .exact) (ledger : desk.context = .exact)
  (steady : desk.Steady)

include ledger steady

theorem nudge_drifted {op : Op}
    (other : op.places = false)
    (nudge : desk.world.Nudge desk.Capped op g g') : desk.Drifted g g' := by
  obtain ⟨capped, -, moved | ⟨r, performed⟩⟩ := nudge
  · exact (Event.drifted ledger steady moved capped.solvent).2
  · exact (performs_drifted ledger other performed capped.solvent).2

theorem nudges_current {op : Op} {account : AccountSnapshot}
    (other : op.places = false)
    (nudges : ReflTransGen (desk.world.Nudge desk.Capped op) g g')
    (current : desk.Current account g) : desk.Current account g' := by
  induction nudges with
  | refl => exact current
  | tail _ nudge ih =>
    exact (nudge_drifted ledger steady other nudge).current nudge.1 nudge.2.1 ih

theorem tracks_current :
    ExecutionService.Tracks ⟨desk.issue, desk.world.Relied desk.Capped⟩ desk.Current where
  taken := by
    intro g account g' relied
    obtain ⟨m, m', -, capped, ⟨same, shown⟩, after⟩ := relied.answered account rfl
    obtain ⟨id, rfl⟩ := shown account rfl
    rw [same] at after
    exact nudges_current ledger steady rfl after (current_snapshot ledger capped id)
  kept := by
    intro op g r g' account local_ relied current
    exact nudges_current ledger steady (Op.places_of_isLocal local_) relied.moved current

include engine

/-- An execution asks for an entry only where its snapshot, taken some awaits ago, still
leaves room for it. -/
theorem sat_execute {p : TradeProposal} {approval : Option ExactApproval} {draws : Draws}
    (listed : desk.catalog p.contract.instrumentId = p.contract) :
    Sat ⟨desk.issue, desk.world.Relied desk.Capped⟩ (fun _ _ _ => True)
      (desk.svc.execute p approval draws) [] g := by
  refine ExecutionService.sat_executeWith ?_ ?_ (tracks_current ledger steady)
    (fun _ _ _ _ => trivial) ?_
  · exact fun h op g preparatory =>
      issue_of_places (Op.places_of_isLocal (Op.isLocal_of_isPreparatory preparatory)) h g
  · intro x h op g _ saving
    cases saving <;> trivial
  · intro x pendingTime recordTime g' _ current cleared
    rw [ExecutionService.submit, sat_bind, sat_attempt]
    refine (sat_call _ _).mpr ⟨⟨listed, fun buy => ?_⟩, fun r g'' _ => ?_⟩
    · exact current.room engine buy cleared.allowed
    -- what follows the broker's answer only journals it
    let quiet : Op → Prop := fun op => op.places = false
    have recording : ∀ record, quiet (.recordTransition record) := fun _ => rfl
    have saving : ∀ order, quiet (.saveOrder order) := fun _ => rfl
    cases r with
    | error e =>
      exact Emits.sat (ExecutionService.emits_classifyFailure recording (saving _))
        (fun rest _ g _ other => issue_of_places other rest g) (fun _ _ _ _ => trivial)
        (fun _ _ _ _ never => never.elim)
    | ok order =>
      exact Emits.sat (Emits.bind (ExecutionService.emits_correlate _ order) fun _ _ =>
          Emits.bind (ExecutionService.emits_journal recording (saving _) (saving _))
            fun _ _ => emits_done _)
        (fun rest _ g _ other => issue_of_places other rest g) (fun _ _ _ _ => trivial)
        (fun _ _ _ _ _ => trivial)

theorem sound : desk.world.Sound desk.Capped desk.issue (fun _ => True) where
  event := by
    intro g g' event capped
    obtain ⟨solvent, drifted⟩ := Event.drifted ledger steady event capped.solvent
    exact drifted.capped capped solvent
  unheld := fun _ _ _ => trivial
  stable := by
    intro h op g g' issued capped event
    obtain ⟨solvent, ⟨paid, kept⟩, later⟩ := Event.drifted ledger steady event capped.solvent
    cases op with
    | placeOptionOrder command contract =>
      exact ⟨issued.1, fun buy => (issued.2 buy).kept capped.solvent.positions_ok
        solvent.positions_ok kept later⟩
    | _ => trivial
  perform := by
    intro h op g r g' issued capped performed
    cases places : op.places with
    | false =>
      obtain ⟨solvent, drifted⟩ := performs_drifted ledger places performed capped.solvent
      exact drifted.capped capped solvent
    | true =>
      cases op with
      | placeOptionOrder command contract =>
        rcases performed with ⟨rfl, -⟩ | ⟨-, rfl⟩
        · exact capped
        · rw [ledger]
          exact ShadowLedger.Within.submit capped issued.1 issued.2
      | _ => cases places
  keeps := by
    have spared : Spared desk.Capped := ⟨fun _ _ capped => capped, fun _ _ capped => capped⟩
    intro c
    cases c with
    | execute p approval draws listed =>
      exact (ExecutionService.keeps_execute spared).bind fun _ => keeps_pure _
    | cancelOrder target limitPrice written =>
      exact (ExecutionService.keeps_cancelOrder spared).bind fun _ => keeps_pure _
  sat := by
    intro c g _ capped _
    cases c with
    | execute p approval draws listed =>
      change Sat _ _ (desk.svc.execute p approval draws >>= _) [] g
      rw [sat_bind]
      refine Sat.mono ?_ (sat_execute engine ledger steady listed)
      intro h g r _
      cases r <;> trivial
    | cancelOrder target limitPrice written =>
      change Sat _ _ (desk.svc.cancelOrder target limitPrice written >>= _) [] g
      rw [sat_bind]
      refine Sat.mono ?_ (ExecutionService.sat_cancelOrder ?_ (fun _ _ _ _ _ _ _ => trivial))
      · intro h g r _
        cases r <;> trivial
      · intro h op g spared
        cases op with
        | placeOptionOrder command contract => cases spared
        | _ => trivial

end Runs

/-- The risk caps hold in every state of every run: the risk and the positions a snapshot
shows, and on every market date the entries the ledger accepted. -/
theorem risk_caps_hold (desk : Desk) (engine : desk.svc.risk.context = .exact)
    (ledger : desk.context = .exact) (steady : desk.Steady) (g : Ambient ShadowLedger)
    (initially : g.broker = .fresh desk.ledger) (s : Shared (Ambient ShadowLedger) Exc Ans Unit)
    (run : desk.world.Reachable g s) :
    (∀ now id, (s.state.broker.accountSnapshot desk.context desk.ledger now id).openOptionRisk ≤
          desk.svc.risk.config.risk.maxTotalOpenOptionRiskDollars ∧
        (s.state.broker.accountSnapshot desk.context desk.ledger now id).openPositions ≤
          desk.svc.risk.config.risk.maxOpenPositions) ∧
      (desk.svc.risk.config.risk.dailyNewEntriesEnabled = true →
        1 ≤ desk.svc.risk.config.risk.maxNewEntriesPerDay → ∀ date,
          (s.state.broker.acceptedOn desk.ledger date).card ≤
            desk.svc.risk.config.risk.maxNewEntriesPerDay) := by
  have capped : desk.Capped s.state := by
    refine run.invariant (sound engine ledger steady) ?_ trivial
    unfold Capped
    rw [initially]
    exact ShadowLedger.fresh_within
  refine ⟨fun now id => ⟨?_, capped.positions⟩, fun enabled _ => capped.entries enabled⟩
  rw [ledger]
  exact capped.risk

end Desk

/-! ### Two entries in one instrument -/

namespace DeskSample

/-- A day of the exchange, in microseconds. -/
def day : Time := 86400000000

/-- A stand-in for the digest whose identifiers have their 128 bits. -/
def hashing : Hashing :=
  { Sample.hashing with
    uuid5 := fun _ name => ⟨name.toList.foldl (fun acc c => (acc * 31 + c.toNat) % 2 ^ 128) 7⟩ }

def service (context : Decimal.Context) (limits : LimitsConfig) : ExecutionService :=
  { Sample.service with
    hashing := hashing
    risk := { Sample.engine with
      config := { Sample.engine.config with risk := limits }
      context := context } }

def ledgerConfig : LedgerConfig where
  hashing := hashing
  marketDate := fun now => now / day
  initialCash := 1000
  fillModel := .optimistic
  accountKind_local := ShadowLedger.sampleConfig.accountKind_local
  maxQuoteAge_pos := ShadowLedger.sampleConfig.maxQuoteAge_pos
  namespace_ne := demo_named

def desk (context : Decimal.Context) (limits : LimitsConfig) (ticks : Time → Time → Prop) : Desk where
  svc := service context limits
  context := context
  ledger := ledgerConfig
  catalog := fun _ => Sample.contract
  ticks := ticks

def quote (id : Nat) (observedAt : Time) (price : ℚ)
    (nonneg : 0 ≤ price := by
      first
        | exact amount_nonneg (nat_lit 1)
        | exact amount_nonneg (nat_lit 2)
        | norm_num) : OptionQuote :=
  { Sample.quote with
    snapshotId := ⟨id⟩
    bid := price
    ask := price
    metadata := ⟨"replay", "v1", observedAt, observedAt, none⟩
    bid_nonneg := nonneg
    ask_nonneg := nonneg
    valid_market := fun _ => le_refl price }

def proposal (id : Nat) (asOf : Time) (quantity : ℤ) (limitPrice : Decimal)
    (quantity_pos : 0 < quantity := by
      first
        | exact count_pos (nat_lit 1)
        | exact count_pos (nat_lit 2)
        | norm_num)
    (limitPrice_pos : 0 < limitPrice.val := by
      first
        | exact Decimal.val_pos (nat_lit 150) (nat_lit 2)
        | exact Decimal.val_pos (nat_lit 100) (nat_lit 2)
        | exact Decimal.val_pos (nat_lit 200) (nat_lit 2)
        | norm_num [Decimal.val]) : TradeProposal :=
  { Sample.proposal id with
    quantity := quantity
    limitPrice := limitPrice
    quoteAsOf := asOf
    quantity_pos := quantity_pos
    limitPrice_pos := limitPrice_pos }

def surroundings (now : Time) : Ambient ShadowLedger where
  tradingMode := .auto
  killSwitchActive := false
  healthy := true
  now := now
  safety := Sample.surroundings.safety
  interruptedWriteIntents := []
  broker := .fresh ledgerConfig

/-- The collaborators of a run that goes well; the service is shown one quote. -/
def handler (context : Decimal.Context) (asOf : Time) (op : Op) (g : Ambient ShadowLedger) :
    Except Exc (Ans op) × Ambient ShadowLedger :=
  match op with
  | .getEffectiveExecutionAccountState =>
    (.ok (g.broker.accountSnapshot context ledgerConfig g.now ⟨4⟩), g)
  | .getOptionQuote _ => (.ok (quote 5 asOf 1), g)
  | .placeOptionOrder command contract =>
    ((g.broker.submit context ledgerConfig g.now command contract).1,
      g.adapt fun s => (s.submit context ledgerConfig g.now command contract).2)
  | op => (Sample.answers op, g)

abbrev State := Shared (Ambient ShadowLedger) Exc Ans Unit

variable (context : Decimal.Context) (limits : LimitsConfig)

/-- One execution from its start, for some turns. -/
def execute (asOf : Time) (p : TradeProposal) (listed : Sample.contract = p.contract) (turns : ℕ)
    (s : State) : State :=
  (Shared.turn (handler context asOf))^[turns]
    (s.start ((desk context limits fun _ _ => True).body
      (.execute p none ⟨⟨100⟩, ⟨101⟩, ⟨102⟩⟩ listed)))

def tick (elapsed : ℤ) (s : State) : State := s.move fun g => { g with now := g.now + elapsed }

def observe (q : OptionQuote) (s : State) : State :=
  s.move fun g => g.adapt fun ledger =>
    (ledger.perform context ledgerConfig g.now (.observeQuote ShadowLedger.sampleIds q)).2

variable {context limits} {ticks : Time → Time → Prop} {g : Ambient ShadowLedger} {s : State}

theorem performs_handler (asOf : Time) (op : Op) (g : Ambient ShadowLedger) :
    (desk context limits ticks).world.performs op g (handler context asOf op g).1
      (handler context asOf op g).2 := by
  cases op with
  | getEffectiveExecutionAccountState =>
    exact ⟨rfl, fun account shown => ⟨⟨4⟩, (Except.ok.inj shown).symm⟩⟩
  | placeOptionOrder command contract => exact Or.inr ⟨Or.inl rfl, rfl⟩
  | reviewOptionOrder p => exact Or.inl rfl
  | cancelOptionOrder command orderId => exact Or.inl rfl
  | _ => rfl

theorem reachable_execute (asOf : Time) (p : TradeProposal) (listed : Sample.contract = p.contract)
    (turns : ℕ) (run : (desk context limits ticks).world.Reachable g s) :
    (desk context limits ticks).world.Reachable g (execute context limits asOf p listed turns s) :=
  (run.start (.execute p none ⟨⟨100⟩, ⟨101⟩, ⟨102⟩⟩ listed) trivial).turns (performs_handler asOf) turns

theorem reachable_tick {elapsed : ℤ} (ticked : ∀ now, ticks now (now + elapsed))
    (run : (desk context limits ticks).world.Reachable g s) :
    (desk context limits ticks).world.Reachable g (tick elapsed s) :=
  run.move (.surroundings _ rfl (ticked _))

theorem reachable_observe (q : OptionQuote) (run : (desk context limits ticks).world.Reachable g s) :
    (desk context limits ticks).world.Reachable g (observe context q s) :=
  run.move (.ledger (.observeQuote ShadowLedger.sampleIds q) fun _ _ same => by cases same)

def limitsOf (entries : ℕ)
    (entries_pos : 0 < entries := by
      first
        | exact Nat.succ_pos (nat_lit 0)
        | exact Nat.succ_pos (nat_lit 1)
        | norm_num) : LimitsConfig where
  maxNewTradePremiumDollars := 400
  maxTotalOpenOptionRiskDollars := 500
  maxOpenPositions := 2
  maxNewEntriesPerDay := entries
  risk_pos := amount_pos (nat_lit 500)
  positions_pos := Nat.succ_pos (nat_lit 1)
  entries_pos := entries_pos

/-- One contract at 1.00 and two at 2.00, both filled: 500 dollars at an average of 5/3. -/
def averagedRun (context : Decimal.Context) : State :=
  observe context (quote 7 45 2) <| tick 20 <|
    execute context (limitsOf 2) 10 (proposal 4 10 2 ⟨200, -2⟩) rfl 20 <|
    observe context (quote 6 25 1) <| tick 10 <|
    execute context (limitsOf 2) 10 (proposal 3 10 1 ⟨100, -2⟩) rfl 20 ⟨surroundings 20, none⟩

theorem reachable_averagedRun :
    (desk context (limitsOf 2) (· ≤ ·)).world.Reachable (surroundings 20) (averagedRun context) := by
  have later : ∀ elapsed : ℤ, 0 ≤ elapsed → ∀ now : Time, now ≤ now + elapsed :=
    fun elapsed nonneg now => le_add_of_nonneg_right nonneg
  refine reachable_observe _ (reachable_tick (later 20 (by decide)) (reachable_execute _ _ _ _ ?_))
  refine reachable_observe _ (reachable_tick (later 10 (by decide)) (reachable_execute _ _ _ _ ?_))
  exact .refl

/-- An entry just after midnight, then one that is judged when the clock has been set back
to the day before and arrives when it is right again. -/
def backwardRun : State :=
  (Shared.turn (handler .exact (day - 30)))^[3] <| tick 22 <|
    execute .exact (limitsOf 1) (day - 30) (proposal 4 (day - 30) 1 ⟨150, -2⟩) rfl 17 <| tick (-20) <|
    execute .exact (limitsOf 1) (day - 30) (proposal 3 (day - 30) 1 ⟨100, -2⟩) rfl 20
      ⟨surroundings (day + 10), none⟩

theorem reachable_backwardRun :
    (desk .exact (limitsOf 1) fun _ _ => True).world.Reachable (surroundings (day + 10))
      backwardRun := by
  refine Locked.Reachable.turns (reachable_tick (fun _ => trivial) (reachable_execute _ _ _ _ ?_))
    (performs_handler _) 3
  exact reachable_tick (fun _ => trivial) (reachable_execute _ _ _ _ .refl)

theorem steady_desk : (desk context limits (· ≤ ·)).Steady :=
  fun _ _ later => Int.ediv_le_ediv (by decide) later

end DeskSample

open DeskSample in
theorem Desk.risk_caps_hold_averagedRun :
    (averagedRun .exact).state.broker.openOptionRisk .exact = 500 ∧
      ((averagedRun .exact).state.broker.accountSnapshot .exact ledgerConfig 50 ⟨4⟩).openOptionRisk ≤
        500 ∧
      ((averagedRun .exact).state.broker.acceptedOn ledgerConfig 0).card ≤ 2 := by
  have capped := Desk.risk_caps_hold (desk .exact (limitsOf 2) (· ≤ ·)) rfl rfl steady_desk
    (surroundings 20) rfl (averagedRun .exact) reachable_averagedRun
  exact ⟨by decide +kernel, (capped.1 50 ⟨4⟩).1, capped.2 rfl (by decide) 0⟩

open DeskSample in
/-- With 28 digits the average is rounded up and the risk exceeds its cap by the rounding;
and when the clock goes back across midnight a day takes one entry more than its limit. -/
theorem Desk.risk_caps_exceeded :
    ((desk (.halfEven 28) (limitsOf 2) (· ≤ ·)).world.Reachable (surroundings 20)
        (averagedRun (.halfEven 28)) ∧ (desk (.halfEven 28) (limitsOf 2) (· ≤ ·)).Steady ∧
      (limitsOf 2).maxTotalOpenOptionRiskDollars <
        ((averagedRun (.halfEven 28)).state.broker.accountSnapshot (.halfEven 28) ledgerConfig 50
          ⟨4⟩).openOptionRisk) ∧
    (desk .exact (limitsOf 1) fun _ _ => True).world.Reachable (surroundings (day + 10)) backwardRun ∧
      (limitsOf 1).maxNewEntriesPerDay < (backwardRun.state.broker.acceptedOn ledgerConfig 1).card :=
  ⟨⟨reachable_averagedRun, steady_desk, by decide +kernel⟩, reachable_backwardRun, by decide +kernel⟩

end Sentry
