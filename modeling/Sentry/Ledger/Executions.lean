import Sentry.Ledger.OrderBook

/-!
# The executions of a run

Which quote filled which order. The ledger remembers only the latest quote of each
instrument, so a quote that comes again is recognized by its effective time: it is
refused when a later one has been seen, and put to the open orders when the one seen
last took effect at the same time. `Orderly` says of a quote that no order it can be put
to was filled by an earlier delivery of it.
-/
namespace Sentry

open Support

namespace ShadowLedger

/-- A fill with the quote that made it, and the order it is for as the quote found it. -/
structure Execution where
  quote : OptionQuote
  fill : Fill
  order : Option LedgerOrder

/-- The executions of one event. -/
def executionsOf (D : Decimal.Context) (cfg : LedgerConfig) (now : Time) (event : Event)
    (s : ShadowLedger) : List Execution :=
  match event with
  | .call (.observeQuote _ quote) =>
    ((handle D cfg now event s).fills.drop s.fills.length).map fun fill =>
      ⟨quote, fill, s.orders.get? fill.orderId⟩
  | _ => []

/-- The executions of a run with restarts, in order. -/
def executions (D : Decimal.Context) (cfg : LedgerConfig) :
    List (Time × Event) → ShadowLedger → List Execution
  | [], _ => []
  | step :: rest, s =>
    executionsOf D cfg step.1 step.2 s ++
      executions D cfg rest (handle D cfg step.1 step.2 s)

/-- The quote an event observes. -/
def Event.quote? : Event → Option OptionQuote
  | .call (.observeQuote _ quote) => some quote
  | _ => none

/-- A quote that the ledger takes although it took effect together with the one before it. -/
structure Together (cfg : LedgerConfig) (now : Time) (prior quote : OptionQuote) : Prop where
  timely : quote.metadata.effectiveAt ≤ now ∧ quote.metadata.observedAt ≤ now
  recent : now - quote.metadata.observedAt ≤ cfg.maxQuoteAge
  other : prior.snapshotId ≠ quote.snapshotId
  contract : prior.contract = quote.contract
  effective : prior.metadata.effectiveAt = quote.metadata.effectiveAt

theorem Event.eq_of_quote? {event : Event} {quote : OptionQuote}
    (quoted : event.quote? = some quote) : ∃ ids, event = .call (.observeQuote ids quote) := by
  cases event with
  | restart => cases quoted
  | call op =>
    cases op with
    | observeQuote ids q =>
      cases quoted
      exact ⟨ids, rfl⟩
    | _ => cases quoted

/-- No quote that took effect together with the one before it comes while an order that
its snapshot has already filled is open. -/
def Orderly (cfg : LedgerConfig) (now : Time) (event : Event) (s : ShadowLedger) : Prop :=
  ∀ quote ∈ event.quote?, ∀ prior ∈ s.quotes.get? quote.contract.instrumentId,
    Together cfg now prior quote →
      ∀ fill ∈ s.fills, quote.snapshotId.str ∈ fill.marketEventIds →
        ∀ item ∈ s.orders.get? fill.orderId, item.published.state.isOpen = false

/-- Every event of a run is orderly in the state it meets. -/
def OrderlyRun (D : Decimal.Context) (cfg : LedgerConfig) :
    List (Time × Event) → ShadowLedger → Prop
  | [], _ => True
  | step :: rest, s =>
    Orderly cfg step.1 step.2 s ∧ OrderlyRun D cfg rest (handle D cfg step.1 step.2 s)

instance (cfg : LedgerConfig) (now : Time) (prior quote : OptionQuote) :
    Decidable (Together cfg now prior quote) :=
  decidable_of_iff
    ((quote.metadata.effectiveAt ≤ now ∧ quote.metadata.observedAt ≤ now) ∧
      now - quote.metadata.observedAt ≤ cfg.maxQuoteAge ∧ prior.snapshotId ≠ quote.snapshotId ∧
      prior.contract = quote.contract ∧ prior.metadata.effectiveAt = quote.metadata.effectiveAt)
    ⟨fun ⟨a, b, c, d, e⟩ => ⟨a, b, c, d, e⟩, fun ⟨a, b, c, d, e⟩ => ⟨a, b, c, d, e⟩⟩

instance (cfg : LedgerConfig) (now : Time) (event : Event) (s : ShadowLedger) :
    Decidable (Orderly cfg now event s) :=
  inferInstanceAs (Decidable (∀ quote ∈ event.quote?,
    ∀ prior ∈ s.quotes.get? quote.contract.instrumentId, Together cfg now prior quote →
      ∀ fill ∈ s.fills, quote.snapshotId.str ∈ fill.marketEventIds →
        ∀ item ∈ s.orders.get? fill.orderId, item.published.state.isOpen = false))

instance decidableOrderlyRun (D : Decimal.Context) (cfg : LedgerConfig) :
    ∀ events s, Decidable (OrderlyRun D cfg events s)
  | [], _ => inferInstanceAs (Decidable True)
  | step :: rest, s =>
    have := decidableOrderlyRun D cfg rest (handle D cfg step.1 step.2 s)
    inferInstanceAs (Decidable (Orderly cfg step.1 step.2 s ∧
      OrderlyRun D cfg rest (handle D cfg step.1 step.2 s)))

/-- A snapshot identifier always carries the same content. -/
def OneContent (quotes : List OptionQuote) : Prop :=
  ∀ a ∈ quotes, ∀ b ∈ quotes, a.snapshotId = b.snapshotId → a = b

instance (quotes : List OptionQuote) : Decidable (OneContent quotes) :=
  inferInstanceAs (Decidable (∀ a ∈ quotes, ∀ b ∈ quotes, a.snapshotId = b.snapshotId → a = b))

/-- The quotes of some events. -/
def quotesOf (events : List (Time × Event)) : List OptionQuote :=
  events.filterMap fun step => step.2.quote?

section Loop

variable {D : Decimal.Context} {cfg : LedgerConfig} {now : Time} {ids : FreshIds}
  {quote : OptionQuote} {s s' : ShadowLedger} {commands : List BrokerCommandIntent}

/-! ### The fills of one quote -/

theorem Advanced.eligibleFor {item item' : LedgerOrder} (advanced : Advanced item item')
    (proper : item.published.state.isOpen = true ∨ item.published.state.isTerminal = true)
    (eligible : BrokerOrder.eligibleFor item'.published quote = true) :
    BrokerOrder.eligibleFor item.published quote = true := by
  have isOpen : item.published.state.isOpen = true := by
    rcases proper with isOpen | ended
    · exact isOpen
    · rw [← advanced.terminal ended]
      exact isOpen_of_eligibleFor eligible
  rw [advanced.frame] at eligible
  simp only [BrokerOrder.eligibleFor, Bool.and_eq_true] at eligible ⊢
  exact ⟨⟨eligible.1.1, isOpen⟩, eligible.2⟩

/-- A fill of a quote: it names the quote, and an order of the book the quote met that the
quote could be put to. -/
def FilledBy (quote : OptionQuote) (s : ShadowLedger) (fill : Fill) : Prop :=
  fill.marketEventIds = [quote.snapshotId.str] ∧
    ∃ item, s.orders.get? fill.orderId = some item ∧
      BrokerOrder.eligibleFor item.published quote = true

theorem FilledBy.origin {s₁ : ShadowLedger} {fill : Fill} (filled : FilledBy quote s₁ fill)
    (booked : Booked cfg commands s) (advances : Advances s s₁) : FilledBy quote s fill := by
  obtain ⟨named, item', found, eligible⟩ := filled
  obtain ⟨item, before, advanced⟩ := advances.origin found
  exact ⟨named, item, before, advanced.eligibleFor (booked.proper _ item before) eligible⟩

/-- What the loop did with some orders: it filled some of them, each once. -/
structure Produced (cfg : LedgerConfig) (commands : List BrokerCommandIntent)
    (quote : OptionQuote) (keys : List UUID) (s s' : ShadowLedger) : Prop where
  booked : Booked cfg commands s'
  advances : Advances s s'
  fills : ∃ new, s'.fills = s.fills ++ new ∧ (new.map Fill.orderId).Sublist keys ∧
    ∀ fill ∈ new, FilledBy quote s fill

theorem Produced.none (booked : Booked cfg commands s) (keys : List UUID) :
    Produced cfg commands quote keys s s := by
  refine ⟨booked, .of_eq rfl, [], (List.append_nil _).symm, List.nil_sublist _, ?_⟩
  exact fun _ member => nomatch member

theorem Produced.append {a b : List UUID} {s₁ s₂ : ShadowLedger}
    (booked : Booked cfg commands s) (first : Produced cfg commands quote a s s₁)
    (second : Produced cfg commands quote b s₁ s₂) :
    Produced cfg commands quote (a ++ b) s s₂ := by
  obtain ⟨own, ownFills, ownOnce, ownFilled⟩ := first.fills
  obtain ⟨new, fills, once, filled⟩ := second.fills
  refine ⟨second.booked, first.advances.trans second.advances, own ++ new, ?_, ?_, ?_⟩
  · rw [fills, ownFills, List.append_assoc]
  · rw [List.map_append]
    exact ownOnce.append once
  · intro fill member
    rcases List.mem_append.mp member with mine | others
    · exact ownFilled fill mine
    · exact (filled fill others).origin booked first.advances

theorem considerOrder_produced {key : UUID} {item : LedgerOrder} (booked : Booked cfg commands s)
    (found : s.orders.get? key = some item) :
    Produced cfg commands quote [key] s (considerOrder D cfg now ids quote key item s).2 := by
  rcases considerOrder_cases D cfg now ids quote key item s with
    same | ⟨eligible, _, _, _, _, fill, went⟩
  · rw [same]
    exact .none booked [key]
  · have did := applied_of_applyFill went
    have change : Change D cfg now (.observeQuote ids quote) s
        (considerOrder D cfg now ids quote key item s).2 := .filled found eligible went
    have named : fill.orderId = key := did.orderId.trans (booked.keyed key item found)
    refine ⟨booked.change (fun _ member => by cases member) change, ?_, [fill],
      congrArg ShadowLedger.fills did.frame, ?_, ?_⟩
    · rcases change.advances with advances | ⟨_, _, equal, -⟩
      · exact advances
      · cases equal
    · rw [List.map_singleton, named]
    · intro other member
      rw [List.mem_singleton.mp member]
      exact ⟨did.event, item, by rw [named, found], eligible⟩

theorem considerOrders_produced (D : Decimal.Context) (now : Time) (ids : FreshIds)
    (quote : OptionQuote) (keys : List UUID) (s : ShadowLedger)
    (booked : Booked cfg commands s) :
    Produced cfg commands quote keys s (considerOrders D cfg now ids quote keys s).2 := by
  induction keys generalizing s with
  | nil => exact .none booked []
  | cons key rest ih =>
    cases found : s.orders.get? key with
    | none =>
      simp only [considerOrders, found]
      exact (Produced.none booked [key]).append booked (ih s booked)
    | some item =>
      have first : Produced cfg commands quote [key] s
          (considerOrder D cfg now ids quote key item s).2 := considerOrder_produced booked found
      simp only [considerOrders, found]
      split
      next e s₁ failed =>
        rw [failed] at first
        exact first.append booked (.none first.booked rest)
      next evaluation s₁ considered =>
        rw [considered] at first
        have others := ih s₁ first.booked
        split
        next e s₂ failed =>
          rw [failed] at others
          exact first.append booked others
        next evaluations s₂ went =>
          rw [went] at others
          exact first.append booked others

/-- What a quote that the ledger took has done. -/
structure Taken (D : Decimal.Context) (cfg : LedgerConfig) (now : Time) (quote : OptionQuote)
    (s s' : ShadowLedger) : Prop where
  admitted : admitQuote now quote s = .ok true
  quotes : s'.quotes = s.quotes.set quote.contract.instrumentId quote
  fills : s'.fills = s.fills ∨ now - quote.metadata.observedAt ≤ cfg.maxQuoteAge ∧
    ∃ new, s'.fills = s.fills ++ new ∧ (new.map Fill.orderId).Nodup ∧
      ∀ fill ∈ new, FilledBy quote s fill

/-- A quote changes nothing or is taken. -/
theorem observeQuote_taken (D : Decimal.Context) (now : Time) (ids : FreshIds)
    (quote : OptionQuote) (booked : Booked cfg commands s) :
    (observeQuote D cfg now ids quote s).2 = s ∨
      Taken D cfg now quote s (observeQuote D cfg now ids quote s).2 := by
  unfold observeQuote observeQuoteLog
  cases admitted : admitQuote now quote s with
  | error e => exact Or.inl rfl
  | ok new =>
    cases new with
    | false => exact Or.inl rfl
    | true =>
      right
      have quoted : Change D cfg now (.observeQuote ids quote) s (markPosition D quote
          { s with quotes := s.quotes.set quote.contract.instrumentId quote }) := .quoted admitted
      have marks := booked.change (fun _ member => by cases member) quoted
      have frame := markPosition_frame D quote
        { s with quotes := s.quotes.set quote.contract.instrumentId quote }
      have quotes := congrArg ShadowLedger.quotes frame
      have fills := congrArg ShadowLedger.fills frame
      have orders := congrArg ShadowLedger.orders frame
      clear frame
      dsimp only at quotes fills orders ⊢
      generalize markPosition D quote
        { s with quotes := s.quotes.set quote.contract.instrumentId quote } = marked at *
      split
      · exact ⟨admitted, quotes, Or.inl fills⟩
      next recent =>
        obtain ⟨new, added, once, filled⟩ := (considerOrders_produced D now ids quote
          marked.orders.keys marked marks).fills
        have indexes := considerOrders_indexes D cfg now ids quote marked.orders.keys marked
        refine ⟨admitted, indexes.quotes.trans quotes, Or.inr ⟨not_lt.mp recent, new, ?_, ?_, ?_⟩⟩
        · rw [fills] at added
          exact added
        · exact once.nodup marked.orders.distinct
        · intro fill member
          have own := filled fill member
          rw [FilledBy, orders] at own
          exact own

theorem admitted_after {prior : OptionQuote} (admitted : admitQuote now quote s = .ok true)
    (seen : s.quotes.get? quote.contract.instrumentId = some prior) :
    (quote.metadata.effectiveAt ≤ now ∧ quote.metadata.observedAt ≤ now) ∧
      prior.snapshotId ≠ quote.snapshotId ∧
      prior.metadata.effectiveAt ≤ quote.metadata.effectiveAt ∧ prior.contract = quote.contract := by
  unfold admitQuote at admitted
  split at admitted
  · cases admitted
  next timely =>
    simp only [gt_iff_lt, not_or, not_lt] at timely
    rw [seen] at admitted
    dsimp only at admitted
    split at admitted
    · split at admitted <;> cases admitted
    next other =>
      split at admitted
      · cases admitted
      next later =>
        split at admitted
        · cases admitted
        next contract => exact ⟨timely, other, not_lt.mp later, not_not.mp contract⟩

end Loop

/-! ### The log of a run -/

/-- Two executions are not of one snapshot for one order. -/
def Distinct (a b : Execution) : Prop :=
  ¬(a.quote.snapshotId = b.quote.snapshotId ∧ a.fill.orderId = b.fill.orderId)

/-- The log of the executions that led to a ledger: its fills are the ledger's, and the
latest quote of an instrument is no earlier than any that filled an order in it. -/
structure Logged (quotes : List OptionQuote) (log : List Execution) (s : ShadowLedger) : Prop where
  fills : s.fills = log.map Execution.fill
  named : ∀ e ∈ log, e.fill.marketEventIds = [e.quote.snapshotId.str]
  observed : ∀ e ∈ log, e.quote ∈ quotes
  latest : ∀ e ∈ log, ∃ prior, s.quotes.get? e.quote.contract.instrumentId = some prior ∧
    e.quote.metadata.effectiveAt ≤ prior.metadata.effectiveAt
  once : log.Pairwise Distinct

section Log

variable {D : Decimal.Context} {cfg : LedgerConfig} {now : Time} {ids : FreshIds}
  {quote : OptionQuote} {s s' : ShadowLedger} {commands : List BrokerCommandIntent}
  {quotes : List OptionQuote} {log : List Execution} {event : Event}

/-- An event without a quote adds no fill and leaves the quotes alone. -/
theorem handle_quiet (D : Decimal.Context) (cfg : LedgerConfig) (now : Time)
    (indexed : Indexed s) (quiet : event.quote? = none) :
    (handle D cfg now event s).fills = s.fills ∧ (handle D cfg now event s).quotes = s.quotes := by
  cases event with
  | restart =>
    have same : handle D cfg now .restart s = s := indexed.restart_eq now
    rw [same]
    exact ⟨rfl, rfl⟩
  | call op =>
    refine perform_keeps (J := fun s' => s'.fills = s.fills ∧ s'.quotes = s.quotes) op ?_ ⟨rfl, rfl⟩
    intro s₁ s₂ change holds
    cases change with
    | recorded =>
      rw [recordSubmission_frame]
      exact holds
    | quoted => cases quiet
    | filled => cases quiet
    | credited | reviewed | remembered | canceled | lapsed | settled => exact holds

theorem executionsOf_quiet (quiet : event.quote? = none) :
    executionsOf D cfg now event s = [] := by
  cases event with
  | restart => rfl
  | call op => cases op <;> first | rfl | cases quiet

/-- Every execution of an event is a fill of its quote. -/
theorem executionsOf_filled (booked : Booked cfg commands s) :
    ∀ e ∈ executionsOf D cfg now event s,
      e.quote ∈ event.quote? ∧ e.order = s.orders.get? e.fill.orderId ∧
        FilledBy e.quote s e.fill := by
  intro e member
  cases quoted : event.quote? with
  | none =>
    rw [executionsOf_quiet quoted] at member
    cases member
  | some quote =>
    obtain ⟨ids, rfl⟩ := Event.eq_of_quote? quoted
    obtain ⟨fill, inside, rfl⟩ := List.mem_map.mp member
    refine ⟨rfl, rfl, ?_⟩
    change fill ∈ (observeQuote D cfg now ids quote s).2.fills.drop s.fills.length at inside
    rcases observeQuote_taken D now ids quote booked with
      same | taken
    · rw [same, List.drop_length] at inside
      cases inside
    · rcases taken.fills with same | ⟨-, new, added, -, filled⟩
      · rw [same, List.drop_length] at inside
        cases inside
      · rw [added, List.drop_left] at inside
        exact filled fill inside

theorem Logged.quiet (logged : Logged quotes log s) (fills : s'.fills = s.fills)
    (same : s'.quotes = s.quotes) : Logged quotes log s' :=
  { logged with
    fills := fills.trans logged.fills
    latest := by
      rw [same]
      exact logged.latest }

/-- A quote that was taken is no earlier than those before it. -/
theorem Logged.latest_taken (logged : Logged quotes log s) (taken : Taken D cfg now quote s s') :
    ∀ e ∈ log, ∃ prior, s'.quotes.get? e.quote.contract.instrumentId = some prior ∧
      e.quote.metadata.effectiveAt ≤ prior.metadata.effectiveAt := by
  intro e member
  obtain ⟨prior, seen, later⟩ := logged.latest e member
  simp only [taken.quotes, Dict.get?_set]
  split
  next same =>
    rw [← same] at seen
    exact ⟨quote, rfl, le_trans later (admitted_after taken.admitted seen).2.2.1⟩
  · exact ⟨prior, seen, later⟩

/-- An orderly quote fills no order that its snapshot has already filled. -/
theorem Logged.distinct (logged : Logged quotes log s) (content : OneContent quotes)
    (inRun : quote ∈ quotes) (taken : Taken D cfg now quote s s')
    (recent : now - quote.metadata.observedAt ≤ cfg.maxQuoteAge)
    (orderly : Orderly cfg now (.call (.observeQuote ids quote)) s) {fill : Fill}
    (filled : FilledBy quote s fill) (order : Option LedgerOrder) :
    ∀ e ∈ log, Distinct e ⟨quote, fill, order⟩ := by
  rintro e member ⟨snapshot, sameOrder⟩
  have same : e.quote = quote := content _ (logged.observed e member) _ inRun snapshot
  obtain ⟨prior, seen, later⟩ := logged.latest e member
  rw [same] at seen later
  obtain ⟨timely, other, earlier, contract⟩ := admitted_after taken.admitted seen
  have together : Together cfg now prior quote :=
    ⟨timely, recent, other, contract, le_antisymm earlier later⟩
  obtain ⟨-, item, found, eligible⟩ := filled
  have known : e.fill ∈ s.fills := by
    rw [logged.fills]
    exact List.mem_map_of_mem member
  have named : quote.snapshotId.str ∈ e.fill.marketEventIds := by
    rw [logged.named e member, same]
    exact List.mem_singleton_self _
  have closed := orderly quote rfl prior seen together e.fill known named item
    (by rw [show e.fill.orderId = fill.orderId from sameOrder]; exact found)
  rw [isOpen_of_eligibleFor eligible] at closed
  cases closed

/-- One orderly event keeps the log. -/
theorem Logged.handle (logged : Logged quotes log s) (booked : Booked cfg commands s)
    (indexed : Indexed s) (content : OneContent quotes) (inRun : ∀ q ∈ event.quote?, q ∈ quotes)
    (orderly : Orderly cfg now event s) :
    Logged quotes (log ++ executionsOf D cfg now event s) (handle D cfg now event s) := by
  cases quoted : event.quote? with
  | none =>
    obtain ⟨fills, same⟩ := handle_quiet D cfg now indexed quoted
    rw [executionsOf_quiet quoted, List.append_nil]
    exact logged.quiet fills same
  | some quote =>
    obtain ⟨ids, rfl⟩ := Event.eq_of_quote? quoted
    have observed : quote ∈ quotes := inRun quote rfl
    change Logged quotes (log ++ ((observeQuote D cfg now ids quote s).2.fills.drop
      s.fills.length).map fun fill => ⟨quote, fill, s.orders.get? fill.orderId⟩)
      (observeQuote D cfg now ids quote s).2
    rcases observeQuote_taken D now ids quote booked with
      same | taken
    · rw [same, List.drop_length, List.map_nil, List.append_nil]
      exact logged
    · rcases taken.fills with same | ⟨recent, new, added, once, filled⟩
      · rw [same, List.drop_length, List.map_nil, List.append_nil]
        exact { logged with
          fills := same.trans logged.fills
          latest := logged.latest_taken taken }
      · rw [added, List.drop_left]
        refine ⟨?_, ?_, ?_, ?_, ?_⟩
        · rw [added, logged.fills, List.map_append, List.map_map]
          exact congrArg _ (List.map_id' new).symm
        · intro e member
          rcases List.mem_append.mp member with old | own
          · exact logged.named e old
          · obtain ⟨fill, inside, rfl⟩ := List.mem_map.mp own
            exact (filled fill inside).1
        · intro e member
          rcases List.mem_append.mp member with old | own
          · exact logged.observed e old
          · obtain ⟨fill, inside, rfl⟩ := List.mem_map.mp own
            exact observed
        · intro e member
          rcases List.mem_append.mp member with old | own
          · exact logged.latest_taken taken e old
          · obtain ⟨fill, inside, rfl⟩ := List.mem_map.mp own
            exact ⟨quote, by rw [taken.quotes, Dict.get?_set_self], le_refl _⟩
        · rw [List.pairwise_append]
          refine ⟨logged.once, ?_, ?_⟩
          · rw [List.pairwise_map]
            refine (List.pairwise_map.mp once).imp ?_
            exact fun other both => other both.2
          · intro e member own inside
            obtain ⟨fill, there, rfl⟩ := List.mem_map.mp inside
            exact logged.distinct content observed taken recent orderly (filled fill there) _ e member

/-- A run whose events are orderly keeps the log. -/
theorem Logged.live (logged : Logged quotes log s) (content : OneContent quotes)
    (events : List (Time × Event)) (inRun : ∀ q ∈ quotesOf events, q ∈ quotes)
    (placedIn : ∀ c ∈ placed (operations events), c ∈ commands) (booked : Booked cfg commands s)
    (indexed : Indexed s) (orderly : OrderlyRun D cfg events s) :
    Logged quotes (log ++ executions D cfg events s) (live D cfg events s) := by
  induction events generalizing s log with
  | nil =>
    rw [executions, List.append_nil]
    exact logged
  | cons step rest ih =>
    obtain ⟨now, event⟩ := step
    obtain ⟨first, others⟩ := orderly
    have seen : ∀ q ∈ event.quote?, q ∈ quotes := fun q there =>
      inRun q (List.mem_filterMap.mpr ⟨(now, event), List.mem_cons_self, there⟩)
    have later : ∀ q ∈ quotesOf rest, q ∈ quotes := by
      intro q member
      obtain ⟨next, inside, there⟩ := List.mem_filterMap.mp member
      exact inRun q (List.mem_filterMap.mpr ⟨next, List.mem_cons_of_mem _ inside, there⟩)
    obtain ⟨own, rest_⟩ := operations_cons placedIn
    obtain ⟨booked', indexed'⟩ := booked.handle (D := D) indexed now own
    rw [executions, ← List.append_assoc]
    exact ih (logged.handle booked indexed content seen first) later rest_ booked' indexed' others

end Log

theorem logged_fresh (cfg : LedgerConfig) (quotes : List OptionQuote) :
    Logged quotes [] (fresh cfg) where
  fills := rfl
  named := fun _ member => nomatch member
  observed := fun _ member => nomatch member
  latest := fun _ member => nomatch member
  once := List.Pairwise.nil

/-- Every execution of a run, orderly or not, is one of an order that was submitted before
its quote took effect. -/
theorem executions_causal {D : Decimal.Context} {cfg : LedgerConfig}
    {commands : List BrokerCommandIntent} (events : List (Time × Event)) (s : ShadowLedger)
    (placedIn : ∀ c ∈ placed (operations events), c ∈ commands) (booked : Booked cfg commands s)
    (indexed : Indexed s) :
    ∀ e ∈ executions D cfg events s, ∃ item, e.order = some item ∧
      ∃ submitted ∈ item.published.submittedAt, submitted < e.quote.metadata.effectiveAt := by
  induction events generalizing s with
  | nil => exact fun e member => nomatch member
  | cons step rest ih =>
    obtain ⟨now, event⟩ := step
    obtain ⟨own, others⟩ := operations_cons placedIn
    obtain ⟨booked', indexed'⟩ := booked.handle (D := D) indexed now own
    intro e member
    rcases List.mem_append.mp member with first | later
    · obtain ⟨-, order, -, item, found, eligible⟩ := executionsOf_filled booked e first
      simp only [BrokerOrder.eligibleFor, Bool.and_eq_true, Option.any_eq_true,
        decide_eq_true_eq] at eligible
      obtain ⟨-, submitted, there, before⟩ := eligible
      exact ⟨item, by rw [order, found], submitted, there, before⟩
    · exact ih _ others booked' indexed' e later

/-- One fill for each snapshot and order. In a run with restarts whose events are orderly
and whose snapshot identifiers always carry the same content, no snapshot fills an order
twice; every fill is for an order submitted strictly before its quote took effect. The
executions are all the fills there are. -/
theorem live_fills_once (D : Decimal.Context) (cfg : LedgerConfig) (events : List (Time × Event))
    (content : OneContent (quotesOf events)) (orderly : OrderlyRun D cfg events (fresh cfg)) :
    let log := executions D cfg events (fresh cfg)
    log.Pairwise (fun a b =>
      ¬(a.quote.snapshotId = b.quote.snapshotId ∧ a.fill.orderId = b.fill.orderId)) ∧
    (∀ e ∈ log, ∃ item, e.order = some item ∧
      ∃ submitted ∈ item.published.submittedAt, submitted < e.quote.metadata.effectiveAt) ∧
    (live D cfg events (fresh cfg)).fills = log.map Execution.fill := by
  intro log
  have logged : Logged (quotesOf events) log (live D cfg events (fresh cfg)) :=
    (logged_fresh cfg _).live content events (fun _ member => member) (fun _ member => member)
      (booked_fresh _) indexed_fresh orderly
  exact ⟨logged.once, executions_causal events _ (fun _ member => member) (booked_fresh _)
    indexed_fresh, logged.fills⟩

/-- A conservative ledger fills one contract of a quote whose size is not known. -/
def queueConfig : LedgerConfig := { sampleConfig with fillModel := .conservative {} }

/-- An order for three contracts, and two quotes that took effect together, the first of
which comes again after the second. -/
def repeatedEvents : List (Time × Event) :=
  [(10, .call (.submit (sampleCommand 11 .placeOptionOrder .buyToOpen 3 ⟨150, -2⟩) sampleContract)),
    (20, .call (.observeQuote sampleIds (sampleQuote 5 15 15 1 (5 / 4)))),
    (21, .call (.observeQuote sampleIds (sampleQuote 6 15 15 1 (5 / 4)))),
    (22, .call (.observeQuote sampleIds (sampleQuote 5 15 15 1 (5 / 4))))]

/-- Without its last event that run is orderly. -/
theorem live_fills_once_repeatedEvents :
    OneContent (quotesOf (repeatedEvents.take 3)) ∧
      OrderlyRun .exact queueConfig (repeatedEvents.take 3) (fresh queueConfig) ∧
      (executions .exact queueConfig (repeatedEvents.take 3) (fresh queueConfig)).length = 2 ∧
      (executions .exact queueConfig (repeatedEvents.take 3) (fresh queueConfig)).Pairwise
        fun a b => ¬(a.quote.snapshotId = b.quote.snapshotId ∧ a.fill.orderId = b.fill.orderId) :=
  ⟨by decide +kernel, by decide +kernel, by decide +kernel,
    (live_fills_once .exact queueConfig (repeatedEvents.take 3) (by decide +kernel)
      (by decide +kernel)).1⟩

/-- The first snapshot fills the order once more when it comes again. -/
theorem repeated_snapshot_fills :
    OneContent (quotesOf repeatedEvents) ∧
      (executions .exact queueConfig repeatedEvents (fresh queueConfig)).map
          (fun e => (e.quote.snapshotId, e.fill.orderId, e.fill.quantity)) =
        let id := orderIdFor queueConfig
          (sampleCommand 11 .placeOptionOrder .buyToOpen 3 ⟨150, -2⟩)
        [(⟨5⟩, id, 1), (⟨6⟩, id, 1), (⟨5⟩, id, 1)] := by
  decide +kernel

end ShadowLedger

end Sentry
