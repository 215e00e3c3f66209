import Mathlib.Data.Set.Card
import Sentry.Market.Replay

/-!
# Snapshot identifiers

A query that is made twice reads its records twice, and what it answers depends on the
identifiers drawn in between through the records it shows that carry none. Selecting the
latest, filtering, sorting and cutting off look at the records and at the figures of their
quotes, never at the identifiers, so the draws decide the identifiers and nothing else.
-/
namespace Sentry

open Support

/-! ### Reading with a drawn identifier -/

theorem Payload.defaulted_of_isSome {α : Type} {name : String} {payload : Payload}
    (present : (payload.get? name).isSome) (read : Json → Option α) (one other : α) :
    payload.defaulted name one read = payload.defaulted name other read := by
  obtain ⟨document, found⟩ := Option.isSome_iff_exists.mp present
  simp [Payload.defaulted, found]

/-- How the quotes of a kind are read: with the identifier their payload carries, or else
with the drawn one and the same figures. -/
structure QuoteReading (α : Type) where
  read : UUID → Payload → Option α
  stamped : UUID → α → α
  stamped_injective : ∀ quote, Function.Injective fun id => stamped id quote
  stamped_stamped : ∀ id id' quote, stamped id (stamped id' quote) = stamped id quote
  kept : ∀ {payload : Payload}, (payload.get? "snapshot_id").isSome →
    ∀ draw draw', read draw payload = read draw' payload
  drawn : ∀ {payload : Payload} {draw quote}, payload.get? "snapshot_id" = none →
    read draw payload = some quote → ∀ draw', read draw' payload = some (stamped draw' quote)

def EquityQuote.reading (py : MarketRuntime) : QuoteReading EquityQuote where
  read := EquityQuote.modelValidate py
  stamped id quote := { quote with snapshotId := id }
  stamped_injective := fun _ _ _ same => congrArg EquityQuote.snapshotId same
  stamped_stamped := fun _ _ _ => rfl
  kept := by
    intro payload present draw draw'
    simp only [EquityQuote.modelValidate, Payload.defaulted_of_isSome present py.uuid draw draw']
  drawn := by
    intro payload draw quote absent read draw'
    simp only [EquityQuote.modelValidate, Payload.defaulted, absent, Option.bind_eq_bind,
      Option.bind_some, Option.bind_eq_some_iff] at read ⊢
    obtain ⟨declared, names, symbol, hSymbol, bid, hBid, ask, hAsk, last, hLast, volume, hVolume,
      metadata, hMetadata, built⟩ := read
    refine ⟨declared, names, symbol, hSymbol, bid, hBid, ask, hAsk, last, hLast, volume, hVolume,
      metadata, hMetadata, ?_⟩
    split at built
    next valid =>
      cases built
      rw [dif_pos valid]
    next => cases built

def OptionQuote.reading (py : MarketRuntime) : QuoteReading OptionQuote where
  read := OptionQuote.modelValidate py
  stamped id quote := { quote with snapshotId := id }
  stamped_injective := fun _ _ _ same => congrArg OptionQuote.snapshotId same
  stamped_stamped := fun _ _ _ => rfl
  kept := by
    intro payload present draw draw'
    simp only [OptionQuote.modelValidate, Payload.defaulted_of_isSome present py.uuid draw draw']
  drawn := by
    intro payload draw quote absent read draw'
    simp only [OptionQuote.modelValidate, Payload.defaulted, absent, Option.bind_eq_bind,
      Option.bind_some, Option.bind_eq_some_iff, pure] at read ⊢
    obtain ⟨quotes, fields, built⟩ := read
    refine ⟨quotes, fields, ?_⟩
    obtain ⟨-, -, -, stamped⟩ := OptionQuote.modelValidateFields_spec fields
    rw [← Option.some.inj built, stamped draw draw']

namespace QuoteReading

variable {α : Type} (reading : QuoteReading α)

theorem read_of_read {payload : Payload} {draw : UUID} {quote : α}
    (read : reading.read draw payload = some quote) (draw' : UUID) :
    ∃ quote', reading.read draw' payload = some quote' := by
  cases present : payload.get? "snapshot_id" with
  | none => exact ⟨_, reading.drawn present read draw'⟩
  | some document =>
    have carried : (payload.get? "snapshot_id").isSome := by simp [present]
    exact ⟨quote, reading.kept carried draw draw' ▸ read⟩

/-- The figures of a quote: what it is under the null identifier. -/
def figures (quote : α) : α := reading.stamped ⟨0⟩ quote

theorem figures_eq {payload : Payload} {draw draw' : UUID} {quote quote' : α}
    (one : reading.read draw payload = some quote)
    (other : reading.read draw' payload = some quote') :
    reading.figures quote = reading.figures quote' := by
  cases present : payload.get? "snapshot_id" with
  | none =>
    obtain rfl : quote' = reading.stamped draw' quote :=
      Option.some.inj (other.symm.trans (reading.drawn present one draw'))
    exact (reading.stamped_stamped _ _ _).symm
  | some document =>
    have carried : (payload.get? "snapshot_id").isSome := by simp [present]
    have same := reading.kept carried draw draw'
    rw [one, other] at same
    rw [Option.some.inj same]

/-- The figures of the quotes of a list, beside their records. -/
def outline (pairs : List (ReplayRecord × α)) : List (ReplayRecord × α) :=
  pairs.map (Prod.map id reading.figures)

theorem outline_records (pairs : List (ReplayRecord × α)) :
    (reading.outline pairs).map Prod.fst = pairs.map Prod.fst := by
  simp [outline]

/-- Every quote of a list is read from the record beside it, with one of these draws. -/
def Reads (draws : ℕ → UUID) (pairs : List (ReplayRecord × α)) : Prop :=
  ∀ pair ∈ pairs, ∃ n, reading.read (draws n) pair.1.payload = some pair.2

variable {reading}

theorem outline_eq {draws draws' : ℕ → UUID} {pairs others : List (ReplayRecord × α)}
    (records : pairs.map Prod.fst = others.map Prod.fst) (reads : reading.Reads draws pairs)
    (reads' : reading.Reads draws' others) : reading.outline pairs = reading.outline others := by
  induction pairs generalizing others with
  | nil => simp_all [outline]
  | cons pair rest ih =>
    obtain - | ⟨other, remaining⟩ := others
    · simp at records
    simp only [List.map_cons, List.cons.injEq] at records
    obtain ⟨n, read⟩ := reads pair (by simp)
    obtain ⟨m, read'⟩ := reads' other (by simp)
    have later := ih records.2 (fun item member => reads item (by simp [member]))
      fun item member => reads' item (by simp [member])
    simp only [outline, List.map_cons, List.cons.injEq] at later ⊢
    exact ⟨Prod.ext records.1 (reading.figures_eq read (records.1 ▸ read')), later⟩

/-- Two readings of the same records are one reading where the records carry identifiers. -/
theorem eq_of_carried {draws draws' : ℕ → UUID} {pairs others : List (ReplayRecord × α)}
    (records : pairs.map Prod.fst = others.map Prod.fst) (reads : reading.Reads draws pairs)
    (reads' : reading.Reads draws' others)
    (carried : ∀ record ∈ pairs.map Prod.fst, record.carriesSnapshotId = true) :
    pairs = others := by
  induction pairs generalizing others with
  | nil => simpa using records
  | cons pair rest ih =>
    obtain - | ⟨other, remaining⟩ := others
    · simp at records
    simp only [List.map_cons, List.cons.injEq] at records
    obtain ⟨n, read⟩ := reads pair (by simp)
    obtain ⟨m, read'⟩ := reads' other (by simp)
    have same := reading.kept (carried pair.1 (by simp)) (draws n) (draws' m)
    rw [read, records.1, read'] at same
    rw [Prod.ext records.1 (Option.some.inj same),
      ih records.2 (fun item member => reads item (by simp [member]))
        (fun item member => reads' item (by simp [member]))
        fun record member => carried record (by simp_all)]

/-- Two readings of a record with different draws are two quotes unless it carries one. -/
theorem carried_of_eq {one other : UUID} (distinct : one ≠ other)
    {pairs others : List (ReplayRecord × α)}
    (records : pairs.map Prod.fst = others.map Prod.fst)
    (reads : reading.Reads (fun _ => one) pairs) (reads' : reading.Reads (fun _ => other) others)
    (quotes : pairs.map Prod.snd = others.map Prod.snd) :
    ∀ record ∈ pairs.map Prod.fst, record.carriesSnapshotId = true := by
  have same : pairs = others := by
    rw [← List.zip_unzip pairs, ← List.zip_unzip others, List.unzip_eq_map, List.unzip_eq_map,
      records, quotes]
  subst same
  rintro record member
  obtain ⟨pair, listed, rfl⟩ := List.mem_map.mp member
  obtain ⟨n, read⟩ := reads pair listed
  obtain ⟨m, read'⟩ := reads' pair listed
  cases present : pair.1.payload.get? "snapshot_id" with
  | some document => simp [ReplayRecord.carriesSnapshotId, present]
  | none =>
    have mine := Option.some.inj (read.symm.trans (reading.drawn present read one))
    have theirs := Option.some.inj (read'.symm.trans (reading.drawn present read other))
    exact absurd (reading.stamped_injective _ (mine.symm.trans theirs)) distinct

/-! ### Selecting -/

variable (reading)

/-- A selection from a list, by the records and the figures of their quotes. -/
structure Selects (select : List (ReplayRecord × α) → List (ReplayRecord × α)) : Prop where
  subset : ∀ pairs, select pairs ⊆ pairs
  outline : ∀ pairs, select (reading.outline pairs) = reading.outline (select pairs)

variable {reading}

theorem Selects.comp {first second : List (ReplayRecord × α) → List (ReplayRecord × α)}
    (inner : reading.Selects first) (outer : reading.Selects second) :
    reading.Selects fun pairs => second (first pairs) where
  subset pairs := fun _ member => inner.subset _ (outer.subset _ member)
  outline pairs := by rw [inner.outline, outer.outline]

theorem selects_filter {p : α → Bool} (respects : ∀ quote, p (reading.figures quote) = p quote) :
    reading.Selects (List.filter fun item => p item.2) where
  subset pairs := fun _ member => (List.mem_filter.mp member).1
  outline pairs := by
    simp only [QuoteReading.outline, List.filter_map]
    congr 2
    funext item
    exact respects item.2

theorem selects_take (n : ℕ) : reading.Selects (List.take n) where
  subset pairs := List.take_subset _ _
  outline pairs := by simp only [QuoteReading.outline, List.map_take]

theorem selects_insertionSort {r : α → α → Prop} [DecidableRel r]
    (respects : ∀ a b, r (reading.figures a) (reading.figures b) ↔ r a b) :
    reading.Selects (List.insertionSort fun a b : ReplayRecord × α => r a.2 b.2) where
  subset _ := fun _ member => (List.mem_insertionSort _).mp member
  outline _ :=
    (List.map_insertionSort (fun a b : ReplayRecord × α => r a.2 b.2)
      (fun a b : ReplayRecord × α => r a.2 b.2) _ _
      fun a _ b _ => (respects a.2 b.2).symm).symm

theorem newer_outline (current candidate : ReplayRecord × α) :
    newer (Prod.map id reading.figures current) (Prod.map id reading.figures candidate) =
      Prod.map id reading.figures (newer current candidate) := by
  simp only [newer, Prod.map_fst, id_eq]
  split <;> rfl

theorem newest_outline (pairs : List (ReplayRecord × α)) :
    newest (reading.outline pairs) = (newest pairs).map (Prod.map id reading.figures) := by
  induction pairs using List.reverseRecOn with
  | nil => rfl
  | append_singleton xs x ih =>
    simp only [QuoteReading.outline, List.map_append, List.map_singleton, newest_append] at ih ⊢
    rw [ih]
    cases newest xs with
    | none => rfl
    | some current => simp [newer_outline]

theorem selects_newest : reading.Selects fun pairs => (newest pairs).toList where
  subset pairs := by
    intro item member
    exact (newest_spec (Option.mem_toList.mp member)).1
  outline pairs := by
    rw [newest_outline]
    cases newest pairs <;> rfl

theorem latestBy_outline {key : α → String}
    (respects : ∀ quote, key (reading.figures quote) = key quote)
    (pairs : List (ReplayRecord × α)) :
    latestBy key (reading.outline pairs) =
      (latestBy key pairs).mapValues (Prod.map id reading.figures) := by
  induction pairs using List.reverseRecOn with
  | nil => rfl
  | append_singleton xs x ih =>
    simp only [QuoteReading.outline, List.map_append, List.map_singleton] at ih ⊢
    rw [latestBy_append, latestBy_append, ih, Dict.mapValues_set, Dict.get?_mapValues]
    simp only [Prod.map_snd, respects]
    cases (latestBy key xs).get? (key x.2) with
    | none => rfl
    | some existing => simp [newer_outline]

theorem selects_latestBy {key : α → String}
    (respects : ∀ quote, key (reading.figures quote) = key quote) :
    reading.Selects fun pairs => (latestBy key pairs).values where
  subset pairs := by
    intro item member
    obtain ⟨k, found⟩ := Dict.mem_values.mp member
    rw [get?_latestBy] at found
    exact (List.mem_filter.mp (newest_spec found).1).1
  outline pairs := by
    rw [latestBy_outline respects]
    simp [Dict.values, Dict.mapValues, QuoteReading.outline]

/-- What is selected from readings of the same records shows the same records. -/
theorem Selects.records {select : List (ReplayRecord × α) → List (ReplayRecord × α)}
    (selects : reading.Selects select) {draws draws' : ℕ → UUID}
    {pairs others : List (ReplayRecord × α)}
    (records : pairs.map Prod.fst = others.map Prod.fst) (reads : reading.Reads draws pairs)
    (reads' : reading.Reads draws' others) :
    (select pairs).map Prod.fst = (select others).map Prod.fst := by
  rw [← reading.outline_records, ← selects.outline, outline_eq records reads reads',
    selects.outline, reading.outline_records]

/-- The quotes selected are the same whatever is drawn exactly where the records that show
them carry their identifiers. -/
theorem Selects.eq_iff {select : List (ReplayRecord × α) → List (ReplayRecord × α)}
    (selects : reading.Selects select) {found : (ℕ → UUID) → List (ReplayRecord × α)}
    {kept : List ReplayRecord} (records : ∀ draws, (found draws).map Prod.fst = kept)
    (reads : ∀ draws, reading.Reads draws (found draws)) (draws₀ : ℕ → UUID) :
    (∀ draws draws', (select (found draws)).map Prod.snd = (select (found draws')).map Prod.snd) ↔
      ∀ record ∈ (select (found draws₀)).map Prod.fst, record.carriesSnapshotId = true := by
  have shown : ∀ draws draws',
      (select (found draws)).map Prod.fst = (select (found draws')).map Prod.fst :=
    fun draws draws' => selects.records ((records draws).trans (records draws').symm) (reads draws)
      (reads draws')
  have selected : ∀ draws, reading.Reads draws (select (found draws)) :=
    fun draws pair member => reads draws pair (selects.subset _ member)
  constructor
  · intro same
    rw [shown draws₀ fun _ => ⟨0⟩]
    exact carried_of_eq (show (⟨0⟩ : UUID) ≠ ⟨1⟩ by simp) (shown _ _) (selected _) (selected _)
      (same _ _)
  · intro carried draws draws'
    rw [eq_of_carried (shown draws draws') (selected _) (selected _)
      (shown draws₀ draws ▸ carried)]

end QuoteReading

/-! ### The records a query shows -/

/-- Of the records found none is more recent. -/
def Newest (found : ReplayRecord → Prop) (record : ReplayRecord) : Prop :=
  found record ∧ ∀ other, found other → other.recency ≤ record.recency

theorem newest_congr {found found' : ReplayRecord → Prop} {record : ReplayRecord}
    (same : ∀ other, found other ↔ found' other) : Newest found record ↔ Newest found' record := by
  simp only [Newest, same]

section Records

variable {α : Type} {pairs : List (ReplayRecord × α)} {record : ReplayRecord}

theorem mem_newest_records
    (distinct : ∀ a ∈ pairs.map Prod.fst, ∀ b ∈ pairs.map Prod.fst, a.recency = b.recency → a = b) :
    record ∈ (newest pairs).toList.map Prod.fst ↔ Newest (· ∈ pairs.map Prod.fst) record := by
  constructor
  · intro member
    obtain ⟨item, selected, rfl⟩ := List.mem_map.mp member
    obtain ⟨listed, largest⟩ := newest_spec (Option.mem_toList.mp selected)
    refine ⟨List.mem_map_of_mem listed, fun other present => ?_⟩
    obtain ⟨pair, paired, rfl⟩ := List.mem_map.mp present
    exact largest pair paired
  · rintro ⟨listed, largest⟩
    obtain ⟨pair, paired, rfl⟩ := List.mem_map.mp listed
    cases selected : newest pairs with
    | none =>
      rw [newest_eq_none.mp selected] at paired
      cases paired
    | some item =>
      obtain ⟨member, above⟩ := newest_spec selected
      have same : pair.1 = item.1 := distinct _ listed _ (List.mem_map_of_mem member)
        (le_antisymm (above pair paired) (largest _ (List.mem_map_of_mem member)))
      simp [same]

/-- Where a record shows its key, the latest records under each key are those that no record
of their key is more recent than. -/
theorem mem_latestBy_records {κ : Type} {key : α → String} (shown : ReplayRecord → κ)
    (distinct : ∀ a ∈ pairs.map Prod.fst, ∀ b ∈ pairs.map Prod.fst, a.recency = b.recency → a = b)
    (keyed : ∀ a ∈ pairs, ∀ b ∈ pairs, key a.2 = key b.2 ↔ shown a.1 = shown b.1) :
    record ∈ (latestBy key pairs).values.map Prod.fst ↔
      Newest (fun other => other ∈ pairs.map Prod.fst ∧ shown other = shown record) record := by
  have under : ∀ pair ∈ pairs, record = pair.1 →
      (record ∈ (newest (pairs.filter fun item => key item.2 = key pair.2)).toList.map Prod.fst ↔
        Newest (fun other => other ∈ pairs.map Prod.fst ∧ shown other = shown record) record) := by
    rintro pair paired rfl
    have fewer : (pairs.filter fun item => decide (key item.2 = key pair.2)).map Prod.fst ⊆
        pairs.map Prod.fst := List.map_subset _ fun _ member => (List.mem_filter.mp member).1
    rw [mem_newest_records fun a left b right => distinct a (fewer left) b (fewer right)]
    refine newest_congr fun other => ?_
    simp only [List.mem_map, List.mem_filter, decide_eq_true_eq]
    constructor
    · rintro ⟨item, ⟨listed, same⟩, rfl⟩
      exact ⟨⟨item, listed, rfl⟩, (keyed item listed pair paired).mp same⟩
    · rintro ⟨⟨item, listed, rfl⟩, same⟩
      exact ⟨item, ⟨listed, (keyed item listed pair paired).mpr same⟩, rfl⟩
  constructor
  · intro member
    obtain ⟨item, selected, rfl⟩ := List.mem_map.mp member
    obtain ⟨k, found⟩ := Dict.mem_values.mp selected
    rw [get?_latestBy] at found
    obtain ⟨listed, same⟩ := List.mem_filter.mp (newest_spec found).1
    obtain rfl := of_decide_eq_true same
    exact (under item listed rfl).mp (by simp [found])
  · intro isNewest
    obtain ⟨pair, paired, rfl⟩ := List.mem_map.mp isNewest.1.1
    obtain ⟨item, selected, same⟩ := List.mem_map.mp ((under pair paired rfl).mpr isNewest)
    refine List.mem_map.mpr ⟨item, Dict.mem_values.mpr ⟨key pair.2, ?_⟩, same⟩
    rw [get?_latestBy]
    exact Option.mem_toList.mp selected

/-- The keys of the latest items are distinct. -/
theorem nodup_latestBy (key : α → String) (pairs : List (ReplayRecord × α)) :
    ((latestBy key pairs).values.map fun item => key item.2).Nodup := by
  have keys : (latestBy key pairs).values.map (fun item => key item.2) =
      (latestBy key pairs).keys := by
    simp only [Dict.values, Dict.keys, List.map_map]
    refine List.map_congr_left fun entry member => ?_
    have found := Dict.mem_entries.mp (show (entry.1, entry.2) ∈ _ from member)
    rw [get?_latestBy] at found
    simpa using (List.mem_filter.mp (newest_spec found).1).2
  rw [keys]
  exact (latestBy key pairs).distinct

end Records

/-- In a strictly sorted list the first so many are those that have fewer before them. -/
theorem mem_take_of_sorted {α β : Type} [LinearOrder β] {key : α → β} {sorted : List α} {x : α}
    (strict : sorted.Pairwise fun a b => key a < key b) (n : ℕ) :
    x ∈ sorted.take n ↔ x ∈ sorted ∧ sorted.countP (fun a => decide (key a < key x)) < n := by
  induction sorted generalizing n with
  | nil => simp
  | cons a rest ih =>
    obtain ⟨first, remaining⟩ := List.pairwise_cons.mp strict
    cases n with
    | zero => simp
    | succ n =>
      rw [List.take_succ_cons, List.mem_cons, ih remaining n, List.mem_cons, List.countP_cons]
      by_cases here : x = a
      · subst here
        have none_less : rest.countP (fun b => decide (key b < key x)) = 0 := by
          rw [List.countP_eq_zero]
          intro b member
          simpa using (first b member).le
        simp [none_less]
      · simp only [here, false_or]
        refine and_congr_right fun member => ?_
        simp [first x member]

namespace OfflineReplayMarketDataProvider

variable {py : MarketRuntime} (provider : OfflineReplayMarketDataProvider py)

/-- Whether a scan asks for the symbol of a record. -/
def Permits (py : MarketRuntime) (request : EquityScanRequest) (record : ReplayRecord) : Prop :=
  ∃ allowed, request.symbols.mapM py.symbol = .ok allowed ∧
    (allowed = [] ∨ py.upper (record.symbolText py) ∈ allowed)

/-- What a scan sorts by. -/
def scanKey (quote : EquityQuote) : ℤ ×ₗ String := toLex (-(quote.volume : ℤ), quote.symbol)

/-- A scan lists a record: the latest of its symbol, read as a quote within the limits. -/
structure Listed (t : Time) (request : EquityScanRequest) (record : ReplayRecord)
    (quote : EquityQuote) : Prop where
  latest : Newest (fun other => other ∈ provider.visible .equityQuote t ∧ Permits py request other ∧
    py.upper (other.symbolText py) = py.upper (record.symbolText py)) record
  read : ∃ draw, EquityQuote.modelValidate py draw record.payload = some quote
  wanted : wanted request quote = true

/-- The records whose quotes a query shows. -/
def Shows (t : Time) : Query → ReplayRecord → Prop
  | .equityQuote symbol => Newest fun record => record ∈ provider.visible .equityQuote t ∧
      py.symbol symbol = .ok (py.upper (record.symbolText py))
  | .optionChain symbol => fun record => Newest (fun other =>
      (other ∈ provider.visible .optionQuote t ∧ ∃ text, other.contractText py "symbol" = .ok text ∧
        py.symbol symbol = .ok (py.upper text)) ∧
      other.contractText py "instrument_id" = record.contractText py "instrument_id") record
  | .optionQuote instrumentId => provider.IsLatest t instrumentId
  | .scan request => fun record => ∃ quote, provider.Listed t request record quote ∧
      {other | ∃ q, provider.Listed t request other q ∧ scanKey q < scanKey quote}.ncard <
        request.limit
  | .bars .. | .visibleRecords => fun _ => False

variable {provider}

/-! ### What the queries collect -/

section Collect

variable {α : Type} {t : Time} {record : ReplayRecord}

theorem latest_eq_iff {xs ys : List (ReplayRecord × α)} (description : String) :
    latest xs description = latest ys description ↔
      (newest xs).toList.map Prod.snd = (newest ys).toList.map Prod.snd := by
  unfold latest
  cases newest xs <;> cases newest ys <;> simp

theorem visible_distinct {kind : ReplayKind} {p : ReplayRecord → Bool} {records : List ReplayRecord}
    (shown : records = (provider.visible kind t).filter p) :
    ∀ a ∈ records, ∀ b ∈ records, a.recency = b.recency → a = b := by
  subst shown
  exact fun a left b right => recency_injective (List.mem_filter.mp left).1
    (List.mem_filter.mp right).1

theorem readable_equity (member : record ∈ provider.visible .equityQuote t) (draw : UUID) :
    ∃ quote, EquityQuote.modelValidate py draw record.payload = some quote := by
  obtain ⟨listed, kind, -⟩ := mem_visible.mp member
  obtain ⟨draw', passed⟩ := validatePayloads_mem provider.validated record listed
  unfold ReplayFixture.validatePayload at passed
  split at passed
  · cases passed
  next metadata found =>
    simp only [ReplayRecord.metadata, kind, Option.map_eq_some_iff] at found
    obtain ⟨quote, read, -⟩ := found
    exact (EquityQuote.reading py).read_of_read read draw

/-- The text an equity record shows is the symbol of its quote. -/
theorem symbolText_eq {draw : UUID} {quote : EquityQuote}
    (read : EquityQuote.modelValidate py draw record.payload = some quote) :
    record.symbolText py = quote.symbol := by
  simp only [EquityQuote.modelValidate, Option.bind_eq_bind, Option.bind_eq_some_iff] at read
  obtain ⟨-, -, id, -, symbol, named, bid, -, ask, -, last, -, volume, -, metadata, -, built⟩ :=
    read
  split at built
  · cases built
    obtain ⟨document, found, text⟩ := Option.bind_eq_some_iff.mp named
    obtain ⟨rfl, -⟩ := boundedText_eq text
    simp [ReplayRecord.symbolText, found, MarketRuntime.text]
  · cases built

theorem collect_equity (provider : OfflineReplayMarketDataProvider py) (t : Time)
    (p : ReplayRecord → Bool) (draws : ℕ → UUID) :
    ∃ pairs, collect (fun record => .ok (p record)) (EquityQuote.modelValidate py) draws
        (provider.visible .equityQuote t) = .ok pairs ∧
      pairs.map Prod.fst = (provider.visible .equityQuote t).filter p ∧
      (EquityQuote.reading py).Reads draws pairs :=
  collect_ok (fun _ _ => rfl) (fun _ member => readable_equity member) draws

theorem collect_option (provider : OfflineReplayMarketDataProvider py) (t : Time) {name : String}
    {field : OptionContract → String}
    (shown : ∀ record contract quotes, QuotedAs py record contract quotes →
      record.contractText py name = .ok (field contract))
    (accepts : String → Bool) (draws : ℕ → UUID) :
    ∃ pairs, collect (fun record => (record.contractText py name).map accepts)
        (OptionQuote.modelValidate py) draws (provider.visible .optionQuote t) = .ok pairs ∧
      pairs.map Prod.fst =
        (provider.visible .optionQuote t).filter (contractMatches py name accepts) ∧
      (OptionQuote.reading py).Reads draws pairs :=
  collect_ok (contractMatches_spec shown accepts) (fun _ member => readable_option member) draws

/-- A reading that draws nothing collects the same whatever is drawn. -/
theorem collect_undrawn (keep : ReplayRecord → Except MarketError Bool) (read : Payload → Option α)
    (records : List ReplayRecord) (draws draws' : ℕ → UUID) :
    collect keep (fun _ => read) draws records = collect keep (fun _ => read) draws' records := by
  induction records generalizing draws draws' with
  | nil => rfl
  | cons record rest ih =>
    simp only [collect]
    rw [ih draws draws', ih (fun n => draws (n + 1)) fun n => draws' (n + 1)]

end Collect

/-! ### Each query and the identifiers it shows -/

section Queries

theorem map_ok_inj {ε α β : Type} {f : α → β} (injective : ∀ a b, f a = f b → a = b)
    {x y : Except ε α} : x.map f = y.map f ↔ x = y := by
  cases x <;> cases y <;> simp [Except.map]
  exact ⟨injective _ _, congrArg f⟩

variable {t now : Time} {asOf : Option Datetime}

theorem getEquityQuote_eq_iff (window : cutoff py now asOf = .ok t) (symbol : String) :
    (∀ draws draws', provider.getEquityQuote now asOf draws symbol =
      provider.getEquityQuote now asOf draws' symbol) ↔
      ∀ record, provider.Shows t (.equityQuote symbol) record → record.carriesSnapshotId = true := by
  rcases valid : py.symbol symbol with e | normalized
  · simp [getEquityQuote, window, valid, bind, Except.bind, Shows, Newest]
  choose found collected records reads using collect_equity provider t
    fun record => py.upper (record.symbolText py) == normalized
  have unfolded : ∀ draws, provider.getEquityQuote now asOf draws symbol =
      latest (found draws) ("equity quote for " ++ normalized) := by
    intro draws
    simp only [getEquityQuote, window, valid, bind, Except.bind, collected]
  simp only [unfolded, latest_eq_iff]
  rw [QuoteReading.selects_newest.eq_iff records reads fun _ => ⟨0⟩]
  refine forall_congr' fun record => imp_congr_left ?_
  rw [mem_newest_records (visible_distinct (records _)), Shows]
  refine newest_congr fun other => ?_
  rw [records, List.mem_filter, valid, Except.ok.injEq, beq_iff_eq, @eq_comm _ normalized]

theorem getOptionQuote_eq_iff (window : cutoff py now asOf = .ok t) (instrumentId : String) :
    (∀ draws draws', provider.getOptionQuote now asOf draws instrumentId =
      provider.getOptionQuote now asOf draws' instrumentId) ↔
      ∀ record, provider.Shows t (.optionQuote instrumentId) record →
        record.carriesSnapshotId = true := by
  choose found collected records reads using collect_option provider t
    (fun _ _ _ quoted => quoted.instrument) fun text => text == instrumentId
  have unfolded : ∀ draws, provider.getOptionQuote now asOf draws instrumentId =
      latest (found draws) ("option quote for " ++ instrumentId) := by
    intro draws
    simp only [getOptionQuote, window, bind, Except.bind, collected]
  simp only [unfolded, latest_eq_iff]
  rw [QuoteReading.selects_newest.eq_iff records reads fun _ => ⟨0⟩]
  refine forall_congr' fun record => imp_congr_left ?_
  rw [mem_newest_records (visible_distinct (records _)), Shows]
  have isLatest : provider.IsLatest t instrumentId record ↔ Newest (fun other =>
      other ∈ provider.visible .optionQuote t ∧
        other.contractText py "instrument_id" = .ok instrumentId) record := by
    simp only [IsLatest, Newest, and_assoc, and_imp]
  rw [isLatest]
  refine newest_congr fun other => ?_
  rw [records, List.mem_filter, contractMatches_iff]
  simp

/-- The latest quote of each instrument, in the order of a chain, beside their records. -/
def chainPairs (found : List (ReplayRecord × OptionQuote)) : List (ReplayRecord × OptionQuote) :=
  (latestBy (fun quote => quote.contract.instrumentId) found).values.insertionSort
    fun a b => chainKey a.2 ≤ chainKey b.2

theorem chainOf_eq (found : List (ReplayRecord × OptionQuote)) :
    chainOf found = (chainPairs found).map Prod.snd := by
  unfold chainOf chainPairs
  rw [List.map_insertionSort _ (fun a b => chainKey a ≤ chainKey b)]
  exact fun _ _ _ _ => Iff.rfl

theorem selects_chain : (OptionQuote.reading py).Selects chainPairs :=
  (QuoteReading.selects_latestBy fun _ => rfl).comp
    (QuoteReading.selects_insertionSort (r := fun a b => chainKey a ≤ chainKey b) fun _ _ => Iff.rfl)

theorem getOptionChain_eq_iff (window : cutoff py now asOf = .ok t) (symbol : String) :
    (∀ draws draws', provider.getOptionChain now asOf draws symbol =
      provider.getOptionChain now asOf draws' symbol) ↔
      ∀ record, provider.Shows t (.optionChain symbol) record → record.carriesSnapshotId = true := by
  rcases valid : py.symbol symbol with e | normalized
  · simp [getOptionChain, window, valid, bind, Except.bind, Shows, Newest]
  choose found collected records reads using collect_option provider t
    (fun _ _ _ quoted => quoted.symbol) fun text => py.upper text == normalized
  have unfolded : ∀ draws, provider.getOptionChain now asOf draws symbol =
      .ok ((chainPairs (found draws)).map Prod.snd) := by
    intro draws
    rw [← chainOf_eq]
    simp only [getOptionChain, window, valid, bind, Except.bind, collected]
    rfl
  simp only [unfolded, Except.ok.injEq]
  rw [selects_chain.eq_iff records reads fun _ => ⟨0⟩]
  refine forall_congr' fun record => imp_congr_left ?_
  have sorted : record ∈ (chainPairs (found fun _ => ⟨0⟩)).map Prod.fst ↔
      record ∈ (latestBy (fun quote : OptionQuote => quote.contract.instrumentId)
        (found fun _ => ⟨0⟩)).values.map Prod.fst :=
    ((List.perm_insertionSort _ _).map _).mem_iff
  have keyed : ∀ a ∈ found fun _ => ⟨0⟩, a.1.contractText py "instrument_id" =
      .ok a.2.contract.instrumentId := by
    intro a member
    have visible : a.1 ∈ provider.visible .optionQuote t :=
      (List.mem_filter.mp (records (fun _ => ⟨0⟩) ▸ List.mem_map_of_mem member)).1
    obtain ⟨n, read⟩ := reads _ a member
    obtain ⟨contract, quotes, quoted, -, same⟩ := quotedAs_read visible read
    rw [quoted.instrument, same]
  rw [sorted, mem_latestBy_records (fun record => record.contractText py "instrument_id")
    (visible_distinct (records _)) (fun a left b right => by simp [keyed a left, keyed b right]),
    Shows]
  refine newest_congr fun other => and_congr_left fun _ => ?_
  rw [records, List.mem_filter, contractMatches_iff]
  simp only [valid, Except.ok.injEq, beq_iff_eq, @eq_comm _ normalized]

/-- What a scan lists, beside their records. -/
def scanListed (py : MarketRuntime) (request : EquityScanRequest) (allowed : List String)
    (found : List (ReplayRecord × EquityQuote)) : List (ReplayRecord × EquityQuote) :=
  (latestBy (fun quote => py.upper quote.symbol) (found.filter fun item =>
      allowed.isEmpty || allowed.contains (py.upper item.2.symbol))).values.filter
    fun item => wanted request item.2

/-- What a scan shows: the first of what it lists. -/
def scanPairs (py : MarketRuntime) (request : EquityScanRequest) (allowed : List String)
    (found : List (ReplayRecord × EquityQuote)) : List (ReplayRecord × EquityQuote) :=
  ((scanListed py request allowed found).insertionSort fun a b => scanKey a.2 ≤ scanKey b.2).take
    request.limit

theorem figures_symbol (quote : EquityQuote) :
    ((EquityQuote.reading py).figures quote).symbol = quote.symbol := rfl

theorem wanted_figures (request : EquityScanRequest) (quote : EquityQuote) :
    wanted request ((EquityQuote.reading py).figures quote) = wanted request quote := rfl

theorem scanKey_figures (quote : EquityQuote) :
    scanKey ((EquityQuote.reading py).figures quote) = scanKey quote := rfl

theorem selects_latestSymbol : (EquityQuote.reading py).Selects fun pairs =>
    (latestBy (fun quote : EquityQuote => py.upper quote.symbol) pairs).values :=
  QuoteReading.selects_latestBy fun quote => by rw [figures_symbol]

theorem selects_scanListed (request : EquityScanRequest) (allowed : List String) :
    (EquityQuote.reading py).Selects (scanListed py request allowed) := by
  have permitted : (EquityQuote.reading py).Selects (List.filter fun item =>
      allowed.isEmpty || allowed.contains (py.upper item.2.symbol)) :=
    QuoteReading.selects_filter
      (p := fun quote : EquityQuote => allowed.isEmpty || allowed.contains (py.upper quote.symbol))
      fun quote => by rw [figures_symbol]
  exact (permitted.comp selects_latestSymbol).comp
    (QuoteReading.selects_filter (wanted_figures request))

theorem selects_scan (request : EquityScanRequest) (allowed : List String) :
    (EquityQuote.reading py).Selects (scanPairs py request allowed) := by
  have sorted : (EquityQuote.reading py).Selects
      (List.insertionSort fun a b : ReplayRecord × EquityQuote => scanKey a.2 ≤ scanKey b.2) :=
    QuoteReading.selects_insertionSort (r := fun a b => scanKey a ≤ scanKey b) fun a b => by
      rw [scanKey_figures, scanKey_figures]
  exact ((selects_scanListed request allowed).comp sorted).comp
    (QuoteReading.selects_take request.limit)

theorem scanEquities_eq (window : cutoff py now asOf = .ok t) {request : EquityScanRequest}
    {allowed : List String} (valid : request.symbols.mapM py.symbol = .ok allowed)
    {draws : ℕ → UUID} {pairs : List (ReplayRecord × EquityQuote)}
    (collected : collect (fun _ => .ok true) (EquityQuote.modelValidate py) draws
      (provider.visible .equityQuote t) = .ok pairs) :
    provider.scanEquities now asOf draws request =
      .ok ((scanPairs py request allowed pairs).map Prod.snd) := by
  simp only [scanEquities, window, valid, bind, Except.bind, collected, scanPairs, scanListed,
    List.map_take]
  rw [List.map_insertionSort _ (fun a b => scanKey a ≤ scanKey b) _ _ fun _ _ _ _ => Iff.rfl,
    List.filter_map]
  rfl

/-- Nothing that a scan lists has the symbol of another. -/
theorem nodup_scanListed (request : EquityScanRequest) (allowed : List String)
    (found : List (ReplayRecord × EquityQuote)) :
    ((scanListed py request allowed found).map fun item => scanKey item.2).Nodup := by
  have symbols := (List.filter_sublist (p := fun item => wanted request item.2)).map
    (fun item : ReplayRecord × EquityQuote => py.upper item.2.symbol) |>.nodup
    (nodup_latestBy (fun quote : EquityQuote => py.upper quote.symbol) (found.filter fun item =>
      allowed.isEmpty || allowed.contains (py.upper item.2.symbol)))
  refine List.Nodup.of_map (fun key : ℤ ×ₗ String => py.upper (ofLex key).2) ?_
  rw [List.map_map]
  exact symbols

theorem mem_scanPairs (request : EquityScanRequest) (allowed : List String)
    (found : List (ReplayRecord × EquityQuote)) (item : ReplayRecord × EquityQuote) :
    item ∈ scanPairs py request allowed found ↔ item ∈ scanListed py request allowed found ∧
      ((scanListed py request allowed found).filter fun other =>
        scanKey other.2 < scanKey item.2).length < request.limit := by
  let sorted := (scanListed py request allowed found).insertionSort
    fun a b => scanKey a.2 ≤ scanKey b.2
  have perm : sorted.Perm (scanListed py request allowed found) := List.perm_insertionSort _ _
  have total : Std.Total fun a b : ReplayRecord × EquityQuote => scanKey a.2 ≤ scanKey b.2 :=
    ⟨fun a b => le_total (scanKey a.2) (scanKey b.2)⟩
  have transitive : IsTrans (ReplayRecord × EquityQuote) fun a b => scanKey a.2 ≤ scanKey b.2 :=
    ⟨fun _ _ _ first second => le_trans first second⟩
  have ascending : sorted.Pairwise fun a b => scanKey a.2 ≤ scanKey b.2 :=
    List.pairwise_insertionSort _ _
  have distinct := List.pairwise_map.mp
    ((perm.map _).nodup_iff.mpr (nodup_scanListed request allowed found))
  have strict := (ascending.and distinct).imp fun both => lt_of_le_of_ne both.1 both.2
  rw [scanPairs, mem_take_of_sorted strict request.limit, perm.mem_iff, perm.countP_eq,
    List.countP_eq_length_filter]

section Scan

variable {request : EquityScanRequest} {allowed : List String} {draws : ℕ → UUID}
  {pairs : List (ReplayRecord × EquityQuote)}

/-- The records whose symbol a scan asks for. -/
theorem mem_permitted (valid : request.symbols.mapM py.symbol = .ok allowed)
    (records : pairs.map Prod.fst = provider.visible .equityQuote t)
    (reads : (EquityQuote.reading py).Reads draws pairs) (record : ReplayRecord) :
    record ∈ (pairs.filter fun item =>
        allowed.isEmpty || allowed.contains (py.upper item.2.symbol)).map Prod.fst ↔
      record ∈ provider.visible .equityQuote t ∧ Permits py request record := by
  have permits : ∀ item ∈ pairs, Permits py request item.1 ↔
      (allowed.isEmpty || allowed.contains (py.upper item.2.symbol)) = true := by
    intro item member
    obtain ⟨n, read⟩ := reads item member
    simp [Permits, valid, symbolText_eq read]
  rw [← records]
  simp only [List.mem_map, List.mem_filter]
  constructor
  · rintro ⟨item, ⟨member, accepted⟩, rfl⟩
    exact ⟨⟨item, member, rfl⟩, (permits item member).mpr accepted⟩
  · rintro ⟨⟨item, member, rfl⟩, permitted⟩
    exact ⟨item, ⟨member, (permits item member).mp permitted⟩, rfl⟩

theorem mem_scanListed_records (valid : request.symbols.mapM py.symbol = .ok allowed)
    (records : pairs.map Prod.fst = provider.visible .equityQuote t)
    (reads : (EquityQuote.reading py).Reads draws pairs) (record : ReplayRecord) :
    record ∈ (latestBy (fun quote : EquityQuote => py.upper quote.symbol) (pairs.filter fun item =>
        allowed.isEmpty || allowed.contains (py.upper item.2.symbol))).values.map Prod.fst ↔
      Newest (fun other => other ∈ provider.visible .equityQuote t ∧ Permits py request other ∧
        py.upper (other.symbolText py) = py.upper (record.symbolText py)) record := by
  have distinct : ∀ a ∈ (pairs.filter fun item =>
      allowed.isEmpty || allowed.contains (py.upper item.2.symbol)).map Prod.fst,
      ∀ b ∈ (pairs.filter fun item =>
        allowed.isEmpty || allowed.contains (py.upper item.2.symbol)).map Prod.fst,
      a.recency = b.recency → a = b := fun a left b right =>
    recency_injective ((mem_permitted valid records reads a).mp left).1
      ((mem_permitted valid records reads b).mp right).1
  have shown : ∀ item ∈ pairs.filter fun item =>
      allowed.isEmpty || allowed.contains (py.upper item.2.symbol),
      item.1.symbolText py = item.2.symbol := by
    intro item member
    obtain ⟨n, read⟩ := reads item (List.mem_filter.mp member).1
    exact symbolText_eq read
  rw [mem_latestBy_records (fun record => py.upper (record.symbolText py)) distinct
    fun a left b right => by rw [shown a left, shown b right]]
  refine newest_congr fun other => ?_
  rw [mem_permitted valid records reads, and_assoc]

/-- What a scan lists, whatever it draws. -/
theorem listed_of_mem (valid : request.symbols.mapM py.symbol = .ok allowed)
    (records : pairs.map Prod.fst = provider.visible .equityQuote t)
    (reads : (EquityQuote.reading py).Reads draws pairs) {item : ReplayRecord × EquityQuote}
    (member : item ∈ scanListed py request allowed pairs) :
    provider.Listed t request item.1 item.2 := by
  obtain ⟨selected, wanted⟩ := List.mem_filter.mp member
  have subset := (selects_scanListed request allowed).subset pairs member
  obtain ⟨n, read⟩ := reads item subset
  exact ⟨(mem_scanListed_records valid records reads item.1).mp (List.mem_map_of_mem selected),
    ⟨draws n, read⟩, wanted⟩

theorem mem_of_listed (valid : request.symbols.mapM py.symbol = .ok allowed)
    (records : pairs.map Prod.fst = provider.visible .equityQuote t)
    (reads : (EquityQuote.reading py).Reads draws pairs) {record : ReplayRecord}
    {quote : EquityQuote} (listed : provider.Listed t request record quote) :
    ∃ item ∈ scanListed py request allowed pairs, item.1 = record ∧
      scanKey item.2 = scanKey quote := by
  obtain ⟨item, selected, rfl⟩ := List.mem_map.mp
    ((mem_scanListed_records valid records reads record).mpr listed.latest)
  have inside := (@selects_latestSymbol py).subset _ selected
  obtain ⟨n, read⟩ := reads item (List.mem_filter.mp inside).1
  obtain ⟨draw, read'⟩ := listed.read
  have same := (EquityQuote.reading py).figures_eq read read'
  refine ⟨item, List.mem_filter.mpr ⟨selected, ?_⟩, rfl, ?_⟩
  · rw [← wanted_figures, same, wanted_figures]
    exact listed.wanted
  · rw [← scanKey_figures, same, scanKey_figures]

theorem ncard_earlier (valid : request.symbols.mapM py.symbol = .ok allowed)
    (records : pairs.map Prod.fst = provider.visible .equityQuote t)
    (reads : (EquityQuote.reading py).Reads draws pairs) (key : ℤ ×ₗ String) :
    {other | ∃ q, provider.Listed t request other q ∧ scanKey q < key}.ncard =
      ((scanListed py request allowed pairs).filter fun other => scanKey other.2 < key).length := by
  classical
  have listedOnce : ((scanListed py request allowed pairs).filter fun other =>
      scanKey other.2 < key).map Prod.fst |>.Nodup := by
    have nodup : (pairs.map Prod.fst).Nodup := by
      rw [records]
      exact (List.Nodup.of_map _ provider.fixture.ordered_nodup).filter _
    refine ((List.Nodup.of_map _ (nodup_scanListed request allowed pairs)).filter _).map_on ?_
    intro a left b right same
    have subset := (@selects_scanListed py request allowed).subset pairs
    exact List.inj_on_of_nodup_map nodup (subset (List.mem_filter.mp left).1)
      (subset (List.mem_filter.mp right).1) same
  have members : {other | ∃ q, provider.Listed t request other q ∧ scanKey q < key} =
      ↑(((scanListed py request allowed pairs).filter fun other =>
        scanKey other.2 < key).map Prod.fst).toFinset := by
    ext record
    simp only [Set.mem_ofPred_eq, List.coe_toFinset, List.mem_map, List.mem_filter,
      decide_eq_true_eq]
    constructor
    · rintro ⟨quote, listed, before⟩
      obtain ⟨item, member, shown, same⟩ := mem_of_listed valid records reads listed
      exact ⟨item, ⟨member, same ▸ before⟩, shown⟩
    · rintro ⟨item, ⟨member, before⟩, rfl⟩
      exact ⟨item.2, listed_of_mem valid records reads member, before⟩
  rw [members, Set.ncard_coe_finset, List.toFinset_card_of_nodup listedOnce, List.length_map]

/-- The records a scan shows, whatever it draws. -/
theorem mem_scanPairs_records (valid : request.symbols.mapM py.symbol = .ok allowed)
    (records : pairs.map Prod.fst = provider.visible .equityQuote t)
    (reads : (EquityQuote.reading py).Reads draws pairs) (record : ReplayRecord) :
    record ∈ (scanPairs py request allowed pairs).map Prod.fst ↔
      provider.Shows t (.scan request) record := by
  constructor
  · intro member
    obtain ⟨item, shown, rfl⟩ := List.mem_map.mp member
    obtain ⟨listed, few⟩ := (mem_scanPairs request allowed pairs item).mp shown
    refine ⟨item.2, listed_of_mem valid records reads listed, ?_⟩
    rwa [ncard_earlier valid records reads]
  · rintro ⟨quote, listed, few⟩
    obtain ⟨item, member, rfl, same⟩ := mem_of_listed valid records reads listed
    rw [ncard_earlier valid records reads, ← same] at few
    exact List.mem_map_of_mem ((mem_scanPairs request allowed pairs item).mpr ⟨member, few⟩)

end Scan

theorem scanEquities_eq_iff (window : cutoff py now asOf = .ok t) (request : EquityScanRequest) :
    (∀ draws draws', provider.scanEquities now asOf draws request =
      provider.scanEquities now asOf draws' request) ↔
      ∀ record, provider.Shows t (.scan request) record → record.carriesSnapshotId = true := by
  rcases valid : request.symbols.mapM py.symbol with e | allowed
  · have refused : ∀ record, ¬ provider.Shows t (.scan request) record := by
      rintro record ⟨quote, listed, -⟩
      obtain ⟨allowed, accepted, -⟩ := listed.latest.1.2.1
      cases valid.symm.trans accepted
    simp [scanEquities, window, valid, bind, Except.bind, refused]
  choose found collected records reads using collect_equity provider t fun _ => true
  have all : ∀ draws, (found draws).map Prod.fst = provider.visible .equityQuote t := by
    intro draws
    rw [records, List.filter_eq_self.mpr fun _ _ => rfl]
  simp only [scanEquities_eq window valid (collected _), Except.ok.injEq]
  rw [(selects_scan request allowed).eq_iff records reads fun _ => ⟨0⟩]
  exact forall_congr' fun record =>
    imp_congr_left (mem_scanPairs_records valid (all _) (reads _) record)

/-- A query answers the same whatever is drawn exactly where every record it shows carries
a snapshot identifier. -/
theorem answer_eq_iff (window : cutoff py now asOf = .ok t) (query : Query) :
    (∀ draws draws', provider.answer now asOf draws query = provider.answer now asOf draws' query) ↔
      ∀ record, provider.Shows t query record → record.carriesSnapshotId = true := by
  cases query with
  | equityQuote symbol =>
    rw [← getEquityQuote_eq_iff window]
    simp only [answer, map_ok_inj fun _ _ => Answer.equityQuote.inj]
  | bars symbol start end_ timeframe =>
    simp only [Shows, false_imp_iff, implies_true, iff_true, answer, getBars]
    intro draws draws'
    simp only [collect_undrawn _ _ _ draws draws']
  | optionChain symbol =>
    rw [← getOptionChain_eq_iff window]
    simp only [answer, map_ok_inj fun _ _ => Answer.optionChain.inj]
  | optionQuote instrumentId =>
    rw [← getOptionQuote_eq_iff window]
    simp only [answer, map_ok_inj fun _ _ => Answer.optionQuote.inj]
  | scan request =>
    rw [← scanEquities_eq_iff window]
    simp only [answer, map_ok_inj fun _ _ => Answer.scan.inj]
  | visibleRecords =>
    simp [Shows, answer]

end Queries

/-- Every record that a query shows carries a snapshot identifier. -/
def Carried (provider : OfflineReplayMarketDataProvider py) (now : Time) (asOf : Option Datetime)
    (query : Query) : Prop :=
  ∀ t, cutoff py now asOf = .ok t → ∀ record, provider.Shows t query record →
    record.carriesSnapshotId = true

theorem carried_iff {now : Time} {asOf : Option Datetime} {query : Query} :
    (∀ draws draws', provider.answer now asOf draws query = provider.answer now asOf draws' query) ↔
      provider.Carried now asOf query := by
  rcases window : cutoff py now asOf with e | t
  · -- without a cutoff no query gets as far as reading a record
    simp only [Carried, window, reduceCtorEq, false_imp_iff, implies_true, iff_true]
    intro draws draws'
    cases query <;> simp only [answer, getEquityQuote, getBars, getOptionChain, getOptionQuote,
      scanEquities, visibleRecords, window, bind, Except.bind]
  · rw [answer_eq_iff window]
    simp only [Carried, window, Except.ok.injEq, forall_eq']

theorem answer_agree_iff {one other : OfflineReplayMarketDataProvider py} {c now now' : Time}
    (agree : ReplayFixture.AgreeUntil c one.fixture other.fixture) {asOf : Datetime}
    (early : ∀ utc, asOf = .aware utc → utc ≤ c) (past : c ≤ now) (past' : c ≤ now')
    (query : Query) :
    (∀ draws draws', one.answer now (some asOf) draws query =
      other.answer now' (some asOf) draws' query) ↔ one.Carried now (some asOf) query := by
  rw [← carried_iff]
  refine forall_congr' fun draws => forall_congr' fun draws' => ?_
  rw [answer_agree agree early past past' draws' query]

/-- Queries before a time cannot tell apart fixtures that agree until then: with the same
draws always, and with any draws exactly where every record shown carries its snapshot
identifier. The two ways to an instrument's quote agree exactly where its latest record
carries a snapshot identifier and a symbol that stripping leaves alone. -/
theorem causal_and_consistent {one other : OfflineReplayMarketDataProvider py} {c : Time}
    (agree : ReplayFixture.AgreeUntil c one.fixture other.fixture) :
    (∀ (now now' : Time) (asOf : Datetime) (query : Query), c ≤ now → c ≤ now' →
      (∀ utc, asOf = .aware utc → utc ≤ c) →
      (∀ draws : ℕ → UUID, one.answer now (some asOf) draws query =
        other.answer now' (some asOf) draws query) ∧
      ((∀ draws draws' : ℕ → UUID, one.answer now (some asOf) draws query =
        other.answer now' (some asOf) draws' query) ↔ one.Carried now (some asOf) query)) ∧
    ∀ (now : Time) (asOf : Option Datetime) (instrumentId : String),
      one.QuoteInChain now asOf instrumentId ↔ one.Settled now asOf instrumentId :=
  ⟨fun _ _ _ query past past' early =>
      ⟨fun draws => answer_agree agree early past past' draws query,
        answer_agree_iff agree early past past' query⟩,
    fun _ _ _ => ⟨settled_of_quoteInChain, quoteInChain_of_settled⟩⟩

end OfflineReplayMarketDataProvider

namespace ReplaySample

/-- Numbers, Unix times and the few texts below, as the validation library reads them. -/
def python : MarketRuntime where
  uuid
    | .str "00000000-0000-4000-8000-000000000011" => some ⟨0x4000800000000000000011⟩
    | _ => none
  decimal
    | .int n => some n
    | _ => none
  integer
    | .int n => some n
    | _ => none
  datetime
    | .int n => some (.aware (n * 1000000))
    | _ => none
  date
    | .str "2026-01-23" => some 739639
    | _ => none
  str := fun _ => ""
  uppercase := fun c => [c.toUpper]
  isoformat := fun _ => ""
  uppercase_ne := by simp

/-- 2026-01-05T14:30:00Z. -/
def opening : ℤ := 1767623400

/-- An option observation so many seconds after the opening. -/
def observation (sequence : ℕ) (seconds : ℤ) (snapshotId : Payload) (symbol : String) :
    ReplayRecord where
  sequence
  kind := .optionQuote
  observedAt := (opening + seconds) * 1000000
  effectiveAt := (opening + seconds) * 1000000
  payload := snapshotId ++
    [("contract", .obj [("instrument_id", .str "ACME-20260123-C-102"), ("symbol", .str symbol),
        ("option_type", .str "call"), ("strike", .int 102), ("expiration", .str "2026-01-23")]),
      ("bid", .int 1), ("ask", .int 2),
      ("metadata", .obj [("provider", .str "offline-replay"),
        ("capability_version", .str "replay-v1"), ("observed_at", .int (opening + seconds)),
        ("effective_at", .int (opening + seconds))])]
  observation_is_not_early := le_refl _

def identifier : Payload := [("snapshot_id", .str "00000000-0000-4000-8000-000000000011")]

theorem version_named : "fixture-v1" ≠ "" := by simp

theorem provider_named : "offline-replay" ≠ "" := by simp

theorem capabilityVersion_named : "replay-v1" ≠ "" := by simp

def session (first : ReplayRecord) : ReplayFixture where
  version := "fixture-v1"
  provider := "offline-replay"
  capabilityVersion := "replay-v1"
  records := [first]
  sequences_unique := List.nodup_singleton _
  deterministic_order := .singleton _
  version_ne := version_named
  provider_ne := provider_named
  capabilityVersion_ne := capabilityVersion_named

def complete : OfflineReplayMarketDataProvider python where
  fixture := session (observation 0 0 identifier "ACME")
  draws := fun _ => ⟨0⟩
  validated := by decide +kernel

/-- The same session with an observation a minute later. -/
def extended : OfflineReplayMarketDataProvider python where
  fixture :=
    { version := "fixture-v1"
      provider := "offline-replay"
      capabilityVersion := "replay-v1"
      records := [observation 0 0 identifier "ACME", observation 1 60 [] "ACME"]
      sequences_unique := by decide
      deterministic_order := by decide
      version_ne := version_named
      provider_ne := provider_named
      capabilityVersion_ne := capabilityVersion_named }
  draws := fun _ => ⟨0⟩
  validated := by decide +kernel

/-- A blank before the symbol. -/
def blank : OfflineReplayMarketDataProvider python where
  fixture := session (observation 0 0 identifier " ACME")
  draws := fun _ => ⟨0⟩
  validated := by decide +kernel

/-- No snapshot identifier. -/
def anonymous : OfflineReplayMarketDataProvider python where
  fixture := session (observation 0 0 [] "ACME")
  draws := fun _ => ⟨0⟩
  validated := by decide +kernel

theorem agree :
    ReplayFixture.AgreeUntil (opening * 1000000) complete.fixture extended.fixture := by
  intro record available
  have late : record ≠ observation 1 60 [] "ACME" := by
    rintro rfl
    revert available
    decide
  simp [complete, extended, session, late]

theorem settled : complete.Settled (opening * 1000000) none "ACME-20260123-C-102" := by
  intro t window record isLatest
  have member := ReplayFixture.mem_ordered.mp
    (OfflineReplayMarketDataProvider.mem_visible.mp isLatest.1).1
  cases List.mem_singleton.mp member
  refine ⟨rfl, ?_⟩
  intro symbol shown
  cases shown
  decide +kernel

/-- The identifier of the option quote that is answered. -/
def shownId : Except MarketError OfflineReplayMarketDataProvider.Answer → Option UUID
  | .ok (.optionQuote quote) => some quote.snapshotId
  | _ => none

theorem identified : ∀ record ∈ complete.fixture.ordered, record.carriesSnapshotId = true := by
  intro record member
  cases List.mem_singleton.mp (ReplayFixture.mem_ordered.mp member)
  rfl

/-- The record of a session of one is the latest there is. -/
theorem latest_of_session (provider : OfflineReplayMarketDataProvider python)
    (snapshotId : Payload) (symbol : String)
    (single : provider.fixture = session (observation 0 0 snapshotId symbol)) :
    provider.IsLatest (opening * 1000000) "ACME-20260123-C-102"
      (observation 0 0 snapshotId symbol) := by
  have only : ∀ record, record ∈ provider.visible .optionQuote (opening * 1000000) →
      record = observation 0 0 snapshotId symbol := by
    intro record member
    have listed := ReplayFixture.mem_ordered.mp
      (OfflineReplayMarketDataProvider.mem_visible.mp member).1
    rw [single] at listed
    exact List.mem_singleton.mp listed
  refine ⟨OfflineReplayMarketDataProvider.mem_visible.mpr ⟨?_, rfl, rfl⟩, ?_, ?_⟩
  · rw [ReplayFixture.mem_ordered, single]
    exact List.mem_singleton.mpr rfl
  · simp [ReplayRecord.contractText, observation, Payload.get?, MarketRuntime.text]
  · intro other member _
    rw [only other member]

end ReplaySample

open ReplaySample in
/-- The chain of a session whose record carries its identifier is the same at both clocks,
whatever the two calls draw. -/
theorem causal_and_consistent_complete :
    complete.answer (opening * 1000000) (some (.aware (opening * 1000000))) (fun _ => ⟨5⟩)
        (.optionChain "acme") =
      extended.answer ((opening + 60) * 1000000) (some (.aware (opening * 1000000)))
        (fun _ => ⟨7⟩) (.optionChain "acme") ∧
    complete.QuoteInChain (opening * 1000000) none "ACME-20260123-C-102" := by
  have both := OfflineReplayMarketDataProvider.causal_and_consistent agree
  refine ⟨(both.1 (opening * 1000000) _ _ (.optionChain "acme") (le_refl _) (by decide) ?_).2.mpr
    ?_ _ _, (both.2 _ _ _).mpr settled⟩
  · rintro utc ⟨⟩
    exact le_refl _
  · intro t window record shown
    exact identified _ (OfflineReplayMarketDataProvider.mem_visible.mp shown.1.1.1).1

open ReplaySample in
/-- A contract symbol with a leading blank is never found by its own chain query, and a
record without a snapshot identifier is a different quote each time it is read, by one
fixture or by two. -/
theorem quote_missing_from_chain :
    ¬ blank.QuoteInChain (opening * 1000000) none "ACME-20260123-C-102" ∧
    ¬ anonymous.QuoteInChain (opening * 1000000) none "ACME-20260123-C-102" ∧
    anonymous.answer (opening * 1000000) (some (.aware (opening * 1000000))) (fun _ => ⟨0⟩)
        (.optionQuote "ACME-20260123-C-102") ≠
      anonymous.answer (opening * 1000000) (some (.aware (opening * 1000000))) (fun _ => ⟨1⟩)
        (.optionQuote "ACME-20260123-C-102") := by
  refine ⟨fun consistent => ?_, fun consistent => ?_, fun same => ?_⟩
  · have bare := OfflineReplayMarketDataProvider.settled_of_quoteInChain consistent _ rfl _
      (latest_of_session blank identifier " ACME" rfl)
    exact absurd (bare.2 " ACME" rfl) (by decide +kernel)
  · have carries := OfflineReplayMarketDataProvider.settled_of_quoteInChain consistent _ rfl _
      (latest_of_session anonymous [] "ACME" rfl)
    exact absurd carries.1 (by decide +kernel)
  · have shown := congrArg shownId same
    exact absurd shown (by decide +kernel)

end Sentry
