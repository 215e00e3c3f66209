import Sentry.Demo.Journal
import Sentry.Execution.Calls
import Sentry.Ledger.Trades
import Sentry.Support.Attempts

/-!
# Trading on paper

One execution service over a broker that keeps a `ShadowLedger`, with a durable journal
beside it. A run is a sequence of calls that went well: executions, cancellations, quotes
that reach the ledger, and synchronisations of the journal. `executed_of_passes` says what
one execution has done when it returns.
-/
namespace Sentry

open Support Coroutine

structure PaperDesk where
  svc : ExecutionService
  cfg : LedgerConfig

namespace PaperDesk

variable (desk : PaperDesk)

/-- What an operation that is answered does at a time. The broker's calls reach the ledger, the
store's calls the rows; an identifier of a quote names the same quote wherever it is read. A
run holds no failed call, so nothing is asked of a failure. -/
def acts : (op : Op) → Time → Books → Except Exc (Ans op) → Books → Prop
  | .reviewOptionOrder p, t, b, .ok answer, b' =>
    ∃ ids, b.ledger.review .exact desk.cfg t ids p = (answer, b'.ledger) ∧
      b' = { b with ledger := b'.ledger }
  | .placeOptionOrder command contract, t, b, .ok order, b' =>
    b.ledger.submit .exact desk.cfg t command contract = (.ok order, b'.ledger) ∧
      b' = { b with ledger := b'.ledger }
  | .cancelOptionOrder command orderId, _, b, .ok order, b' =>
    b.ledger.cancel desk.cfg command (.text orderId) = (.ok order, b'.ledger) ∧
      b' = { b with ledger := b'.ledger }
  | .getOptionQuote _, _, b, .ok quote, b' =>
    b' = b ∧ ∀ held, b.ledger.quotes.get? quote.contract.instrumentId = some held →
      held.snapshotId = quote.snapshotId → held = quote
  | .recordTransition record, _, b, .ok _, b' =>
    b' = { b with transitions := b.transitions ++ [record] }
  | op, _, b, .ok answer, b' =>
    performs op b.rows (.ok answer) b'.rows ∧ b' = { b with rows := b'.rows }
  | _, _, _, .error _, _ => True

/-- The same with the clock, which only moves forward. -/
def moves (op : Op) (d : Time × Books) (r : Except Exc (Ans op)) (d' : Time × Books) : Prop :=
  ∃ t, d.1 ≤ t ∧ t ≤ d'.1 ∧ desk.acts op t d.2 r d'.2

def view (g : Ambient Books) : Time × Books := (g.now, g.broker)

def rely (op : Op) (g : Ambient Books) (r : Except Exc (Ans op)) (g' : Ambient Books) : Prop :=
  desk.moves op (view g) r (view g')

inductive Step where
  | executed (p : TradeProposal)
  | cancelled (target : BrokerOrder)
  | quoted (quote : OptionQuote)
  | synced
  | waited

/-- Runs from an empty journal and a new ledger. The identifiers that fills draw are new. -/
inductive Run : List Step → Ambient Books → Prop where
  | start {g} (fresh : g.broker = { ledger := .fresh desk.cfg }) : Run [] g
  | executed {steps g p approval draws h result g'} (earlier : Run steps g)
      (passes : Passes desk.rely (desk.svc.execute p approval draws) g h (.ret result) g') :
      Run (steps ++ [.executed p]) g'
  | cancelled {steps g target limitPrice written h result g'} (earlier : Run steps g)
      (passes : Passes desk.rely (desk.svc.cancelOrder target limitPrice written) g h
        (.ret result) g') :
      Run (steps ++ [.cancelled target]) g'
  | quoted {steps g ids quote fills s'} (earlier : Run steps g)
      (observed : g.broker.ledger.observeQuote .exact desk.cfg g.now ids quote = (.ok fills, s'))
      (drawn : (s'.fills.map Fill.fillId).Nodup) :
      Run (steps ++ [.quoted quote]) (g.adapt fun b => { b with ledger := s' })
  | synced {steps g b'} (earlier : Run steps g)
      (completed : OfflineRuntime.syncExecutionJournal desk.svc.hashing g.broker = .ok b') :
      Run (steps ++ [.synced]) (g.adapt fun _ => b')
  | waited {steps g g'} (earlier : Run steps g) (later : g.now ≤ g'.now)
      (same : g'.broker = g.broker) : Run (steps ++ [.waited]) g'

/-! ### One execution -/

/-- What an execution that returned has done: it reviewed its proposal, found the quote the
ledger has, added its intent, its command and a pending order, placed the order and saved it. -/
structure Executed (p : TradeProposal) (d d' : Time × Books) (intent : OrderIntent)
    (command : BrokerCommandIntent) (pending order : BrokerOrder) : Prop where
  later : d.1 ≤ d'.1
  fills : d'.2.fills = d.2.fills
  new : ∀ other ∈ d.2.rows.orderIntents, Rows.Apart other intent
  intents : d'.2.rows.orderIntents = d.2.rows.orderIntents ++ [intent]
  commandIntent : command.orderIntentId = intent.intentId
  commandKey : command.idempotencyKey = intent.idempotencyKey
  pendingId : pending.orderId = desk.svc.hashing.uuid5 executionIdNamespace
    ("pending:" ++ intent.intentId.str)
  pendingEnvironment : pending.environment = desk.svc.environment
  pendingFilled : pending.filledQuantity = 0
  rows : ∀ row, row ∈ d'.2.rows.orders ↔ row ∈ d.2.rows.orders ∨ row = pending ∨ row = order
  quoted : ∃ held, d.2.ledger.quotes.get? p.contract.instrumentId = some held ∧
    held.contract = p.contract
  placed : ∃ ids reviewedAt placedAt, placedAt ≤ d'.1 ∧
    (d.2.ledger.review .exact desk.cfg reviewedAt ids p).2.submit .exact desk.cfg placedAt command
      p.contract = (.ok order, d'.2.ledger)

section Execution

variable {desk} {p : TradeProposal} {approval : Option ExactApproval} {draws : Draws}
  {g g' : Ambient Books} {h : History}

open ExecutionService

/-- What an execution that returned was told, in order. -/
def Told (svc : ExecutionService) (p : TradeProposal) (approval : Option ExactApproval)
    (draws : Draws) (h : History) : Prop :=
  ∃ (x : Gathered) (pendingTime recordTime : Time) (order : BrokerOrder)
      (record : StateTransitionRecord), x.Lawful svc p draws ∧
    h = x.written svc p approval pendingTime recordTime ++
      [⟨.placeOptionOrder (x.command svc p approval) p.contract, .ok order⟩,
        ⟨.saveOrder order, .ok ()⟩, ⟨.recordTransition record, .ok ()⟩]

/-- The answer is journalled, or the exception goes on. -/
theorem sat_journal {S : Spec (Ambient Books) Exc Ans} {pending order : BrokerOrder}
    {action reason : String} {Q : Post (Ambient Books) Exc Ans Unit}
    (issue : ∀ h op g, S.issue h op g) (failed : ∀ h g e, Q h g (.error e))
    (saved : ∀ record g', Q (h ++ [⟨.saveOrder order, .ok ()⟩,
      ⟨.recordTransition record, .ok ()⟩]) g' (.ok ())) :
    Sat S Q (journal pending order action reason) h g := by
  have handled : ∀ h g e, Sat S Q
      (if e = .cancelled then do
        recordInterruptedWrite pending action (some order)
        raise e
      else raise e) h g := by
    intro h g e
    have emits : Emits (fun _ => True) (fun _ => False) (if e = .cancelled then do
        recordInterruptedWrite pending action (some order)
        raise e
      else raise e : Program Books Unit) := by
      split
      · exact (emits_recordInterruptedWrite (fun _ => trivial) trivial).bind fun _ _ => emits_raise e
      · exact emits_raise e
    exact emits.sat (fun _ _ _ _ _ => issue _ _ _) (fun _ _ _ _ => failed _ _ _)
      (fun _ _ _ _ never => never.elim)
  unfold journal
  rw [sat_attempt]
  refine Sat.call_bind (issue _ _ _) (fun e g' _ => handled _ _ e) fun _ g' _ => ?_
  refine Sat.lift_bind (fun e _ => handled _ _ e) fun _ _ => ?_
  refine Sat.peek_bind ((sat_call _ _).mpr ⟨issue _ _ _, fun r g'' _ => ?_⟩)
  cases r with
  | error e => exact handled _ _ e
  | ok _ =>
    rw [List.append_assoc]
    exact saved _ _

theorem told_of_passes {result : ExecutionResult}
    (passes : Passes desk.rely (desk.svc.execute p approval draws) g h (.ret result) g') :
    Told desk.svc p approval draws h := by
  let S : Spec (Ambient Books) Exc Ans := ⟨fun _ _ _ => True, desk.rely⟩
  let Q : Post (Ambient Books) Exc Ans ExecutionResult := fun h _ r =>
    ∀ result, r = .ok result → Told desk.svc p approval draws h
  have failed : ∀ h g e, Q h g (.error e) := fun _ _ _ _ same => by cases same
  have tracks : Tracks S (fun _ _ => True) := ⟨fun _ => trivial, fun _ _ _ => trivial⟩
  have sat : Sat S Q (desk.svc.execute p approval draws) [] g := by
    refine sat_executeWith (fun _ _ _ _ => trivial) (fun _ _ _ _ _ _ => trivial) tracks
      (fun h g e _ => failed h g e) ?_
    intro x pendingTime recordTime g₁ lawful _ _
    rw [submit, sat_bind, sat_attempt]
    refine (sat_call _ _).mpr ⟨trivial, fun r g₂ _ => ?_⟩
    cases r with
    | error e =>
      have emits : Emits (fun _ => True) (fun _ => False)
          (desk.svc.classifyFailure (x.pending desk.svc p approval pendingTime) e :
            Program Books BrokerOrder) := emits_classifyFailure (fun _ => trivial) trivial
      exact emits.sat (fun _ _ _ _ _ => trivial) (fun _ g e _ => failed _ g e)
        (fun _ _ _ _ never => never.elim)
    | ok order =>
      change Sat S Q (desk.svc.correlate _ order >>= _) _ _
      rw [sat_bind]
      have emits : Emits (fun _ => False) (fun _ => order.intentId =
          (x.intent desk.svc p approval).intentId) (desk.svc.correlate
            (x.intent desk.svc p approval).intentId order : Program Books Unit) :=
        emits_correlate _ order
      refine emits.sat (fun _ _ _ _ never => never.elim) (fun _ g e _ => failed _ g e) ?_
      intro rest g₃ _ unasked _
      have none_ : rest = [] := List.eq_nil_iff_forall_not_mem.mpr unasked
      subst none_
      change Sat S Q (journal _ order _ _ >>= _) _ _
      rw [sat_bind]
      refine sat_journal (fun _ _ _ => trivial) failed fun record g₄ => ?_
      intro result _
      refine ⟨x, pendingTime, recordTime, order, record, lawful, ?_⟩
      rw [List.append_nil, List.append_assoc]
      rfl
  exact (sat.passes passes) result rfl

/-- A preparatory operation that tells the ledger nothing. -/
def looking : Op → Bool
  | .reviewOptionOrder _ => false
  | op => op.isPreparatory

theorem acts_looking {op : Op} {t : Time} {b b' : Books} {r : Except Exc (Ans op)}
    (looks : looking op = true) (answered : r.isOk = true) (acted : desk.acts op t b r b') :
    b' = b := by
  cases r with
  | error e => cases answered
  | ok answer =>
    have rowsKept : ∀ {rows : Rows}, rows = b.rows → b' = { b with rows := rows } → b' = b := by
      rintro _ rfl same
      exact same
    cases op with
    | getOptionQuote instrumentId => exact acted.1
    | findIntentByFingerprint fingerprint => exact rowsKept acted.1.1 acted.2
    | getOrder id => exact rowsKept acted.1.1 acted.2
    | getEffectiveExecutionAccountState => exact rowsKept acted.1 acted.2
    | getObservedBrokerAccountState => exact rowsKept acted.1 acted.2
    | reconcile => exact rowsKept acted.1 acted.2
    | saveReconciliation report => exact rowsKept acted.1 acted.2
    | saveRiskDecision decision => exact rowsKept acted.1 acted.2
    | saveReview review => exact rowsKept acted.1 acted.2
    | getCapabilities => exact rowsKept acted.1 acted.2
    | _ => cases looks

theorem looking_on {op : Op} {a : Ans op} {d d' : Time × Books} (looks : looking op = true)
    (evolves : Evolves desk.moves d (⟨op, .ok a⟩ :: h) d') :
    ∃ d₁, d₁.2 = d.2 ∧ Evolves desk.moves d₁ h d' := by
  obtain ⟨d₁, ⟨t, -, -, acted⟩, rest⟩ := evolves.head
  exact ⟨d₁, acts_looking looks rfl acted, rest⟩

/-- An accepted review has found the quote of the proposal in the ledger. -/
theorem quote_of_review {s s' : ShadowLedger} {t : Time} {ids : FreshIds} {answer : BrokerReview}
    (reviewed : s.review .exact desk.cfg t ids p = (answer, s')) (accepted : answer.accepted = true) :
    ∃ held, s.quotes.get? p.contract.instrumentId = some held ∧
      held.snapshotId = p.quoteSnapshotId := by
  have warnings : ShadowLedger.reviewWarnings .exact desk.cfg t p s = [] := by
    rw [ShadowLedger.review, Prod.mk.injEq] at reviewed
    rw [← reviewed.1] at accepted
    exact List.isEmpty_iff.mp accepted
  simp only [ShadowLedger.reviewWarnings, List.append_eq_nil_iff] at warnings
  obtain ⟨⟨-, quoted⟩, -⟩ := warnings
  split at quoted
  · cases quoted
  next held found =>
    refine ⟨held, found, ?_⟩
    by_contra other
    simp [other] at quoted

/-- The quote that an allowed order was judged on is the one it names. -/
theorem quote_of_allowed {engine : RiskEngine} {id : UUID} {t : Time} {account : AccountSnapshot}
    {quote : OptionQuote} (allowed : (engine.evaluate id t p account quote).allowed = true) :
    quote.snapshotId = p.quoteSnapshotId ∧ quote.contract = p.contract := by
  have matched := RiskEngine.evaluate_identity engine allowed (.quoteMatch,
    quote.snapshotId == p.quoteSnapshotId && quote.contract == p.contract &&
      decide (p.quoteAsOf = quote.metadata.observedAt)) (by simp [RiskEngine.identityOutcomes])
  simp only [Bool.and_eq_true, beq_iff_eq] at matched
  exact matched.1

theorem executed_of_told {d d' : Time × Books} (told : Told desk.svc p approval draws h)
    (evolves : Evolves desk.moves d h d') :
    ∃ intent command pending order, desk.Executed p d d' intent command pending order := by
  obtain ⟨x, pendingTime, recordTime, order, record, lawful, rfl⟩ := told
  have later : d.1 ≤ d'.1 := by
    refine evolves.keeps (I := fun e => d.1 ≤ e.1) ?_ (le_refl _)
    rintro item - e e' ⟨t, after_, before, -⟩ reached
    exact le_trans reached (le_trans after_ before)
  rw [Gathered.written, Gathered.history] at evolves
  simp only [List.cons_append, List.nil_append] at evolves
  -- the fingerprint is not taken, and nothing moves until the review
  obtain ⟨d₁, ⟨t₁, -, -, ⟨unmoved, unused⟩, same₁⟩, evolves⟩ := evolves.head
  rw [unmoved] at same₁
  obtain ⟨d₂, same₂, evolves⟩ := looking_on rfl evolves
  obtain ⟨d₃, same₃, evolves⟩ := looking_on rfl evolves
  obtain ⟨d₄, same₄, evolves⟩ := looking_on rfl evolves
  obtain ⟨d₅, same₅, evolves⟩ := looking_on rfl evolves
  obtain ⟨d₆, same₆, evolves⟩ := looking_on rfl evolves
  obtain ⟨d₇, same₇, evolves⟩ := looking_on rfl evolves
  have start : d₇.2 = d.2 := by
    rw [same₇, same₆, same₅, same₄, same₃, same₂, same₁]
  obtain ⟨d₈, ⟨reviewed, -, -, ids, review, same₈⟩, evolves⟩ := evolves.head
  obtain ⟨held, found, named⟩ := quote_of_review review lawful.accepted
  rw [start] at review found same₈
  obtain ⟨d₉, same₉, evolves⟩ := looking_on rfl evolves
  -- the quote of the second evaluation is the one the review has found
  obtain ⟨d₁₀, ⟨t₁₀, -, -, same₁₀, agree⟩, evolves⟩ := evolves.head
  obtain ⟨now, decision⟩ := lawful.decision
  obtain ⟨snapshot, contract⟩ := quote_of_allowed (decision ▸ lawful.allowed)
  have quotes : d₈.2.ledger.quotes = d.2.ledger.quotes := by
    rw [ShadowLedger.review, Prod.mk.injEq] at review
    rw [← review.2]
  have exact_ : held = x.quote := by
    apply agree
    · rw [same₉, quotes, contract]
      exact found
    · rw [named, snapshot]
  obtain ⟨d₁₁, same₁₁, evolves⟩ := looking_on rfl evolves
  obtain ⟨d₁₂, same₁₂, evolves⟩ := looking_on rfl evolves
  obtain ⟨d₁₃, same₁₃, evolves⟩ := looking_on rfl evolves
  have prepared : d₁₃.2 = { d.2 with ledger := d₈.2.ledger } := by
    rw [same₁₃, same₁₂, same₁₁, same₁₀, same₉, same₈]
  -- the intent is new, since nothing had its fingerprint
  obtain ⟨d₁₄, ⟨t₁₄, -, -, ⟨intent, saved⟩, same₁₄⟩, evolves⟩ := evolves.head
  have rows₁₃ : d₁₃.2.rows = d.2.rows := by rw [prepared]
  rw [rows₁₃] at intent
  have added : (∀ other ∈ d.2.rows.orderIntents,
      Rows.Apart other (x.intent desk.svc p approval)) ∧
      d₁₄.2.rows = d.2.rows.addIntent (x.intent desk.svc p approval) := by
    rcases intent with kept | added
    · have there : x.intent desk.svc p approval ∈ d.2.rows.orderIntents := kept ▸ saved rfl
      have nothing := List.find?_eq_none.mp (unused _ rfl).symm _ there
      exact absurd (beq_self_eq_true _) nothing
    · exact added
  obtain ⟨d₁₅, ⟨t₁₅, -, -, ⟨command, -⟩, same₁₅⟩, evolves⟩ := evolves.head
  have rows₁₅ : d₁₅.2.rows.orderIntents = d₁₄.2.rows.orderIntents ∧
      d₁₅.2.rows.orders = d₁₄.2.rows.orders := by
    rcases command with kept | more
    · rw [kept]
      exact ⟨rfl, rfl⟩
    · rw [more, Rows.addCommand]
      exact ⟨rfl, rfl⟩
  obtain ⟨d₁₆, ⟨t₁₆, -, -, pending, same₁₆⟩, evolves⟩ := evolves.head
  obtain ⟨intents₁₆, orders₁₆⟩ := performs_saveOrder pending
  obtain ⟨d₁₇, ⟨t₁₇, -, -, same₁₇⟩, evolves⟩ := evolves.head
  obtain ⟨d₁₈, ⟨placed, -, early, submitted, same₁₈⟩, evolves⟩ := evolves.head
  obtain ⟨d₁₉, ⟨t₁₉, late₁₉, later₁₉, final, same₁₉⟩, evolves⟩ := evolves.head
  obtain ⟨intents₁₉, orders₁₉⟩ := performs_saveOrder final
  obtain ⟨d₂₀, ⟨t₂₀, late₂₀, later₂₀, same₂₀⟩, evolves⟩ := evolves.head
  cases evolves
  have ledger₁₇ : d₁₇.2.ledger = d₈.2.ledger := by
    rw [same₁₇, same₁₆, same₁₅, same₁₄, prepared]
  have rows₁₇ : d₁₇.2.rows = d₁₆.2.rows := by rw [same₁₇]
  have rows₁₈ : d₁₈.2.rows = d₁₆.2.rows := by rw [same₁₈, rows₁₇]
  have rows₂₀ : d'.2.rows = d₁₉.2.rows := by rw [same₂₀]
  refine ⟨x.intent desk.svc p approval, x.command desk.svc p approval,
    x.pending desk.svc p approval pendingTime, order, ?_⟩
  exact {
    later := later
    fills := by rw [same₂₀, same₁₉, same₁₈, same₁₇, same₁₆, same₁₅, same₁₄, prepared]
    new := added.1
    intents := by
      rw [rows₂₀, intents₁₉, rows₁₈, intents₁₆, rows₁₅.1, added.2, Rows.addIntent]
    commandIntent := rfl
    commandKey := rfl
    pendingId := rfl
    pendingEnvironment := rfl
    pendingFilled := rfl
    rows := by
      intro row
      rw [rows₂₀, orders₁₉, rows₁₈, orders₁₆, rows₁₅.2, added.2, Rows.addIntent, or_assoc]
    quoted := ⟨held, found, exact_ ▸ contract⟩
    placed := by
      refine ⟨ids, reviewed, placed, ?_, ?_⟩
      · exact le_trans early (le_trans (le_trans late₁₉ later₁₉) (le_trans late₂₀ later₂₀))
      · rw [review, ← ledger₁₇, submitted, same₂₀, same₁₉] }

/-- The books are moved by the operations of an execution only. -/
theorem executed_of_passes {result : ExecutionResult}
    (passes : Passes desk.rely (desk.svc.execute p approval draws) g h (.ret result) g') :
    ∃ intent command pending order,
      desk.Executed p (view g) (view g') intent command pending order := by
  have alone : ∀ d, Keeps (fun g => view g = d) (desk.svc.execute p approval draws) :=
    fun d => keeps_execute ⟨fun _ _ same => same, fun _ _ same => same⟩
  have moved : ∀ op g r g', desk.rely op g r g' → desk.moves op (view g) r (view g') :=
    fun _ _ _ _ moved => moved
  exact executed_of_told (told_of_passes passes) (passes.evolves view moved alone)

end Execution

end PaperDesk

end Sentry
