import Mathlib.Data.List.DropRight
import Mathlib.Data.String.Basic
import Sentry.Market.Models
import Sentry.Support.Dict

/-!
# The replay market-data provider

`app/market/replay.py`: queries over a fixture that a clock gates. Every query sees the
records that were observed and effective by its cutoff and nothing else, so two fixtures
that agree up to a time cannot be told apart before it. A quote is read from its record
anew at each query, and a record without a snapshot identifier is given a drawn one each
time; the draws of a query are an argument of it.
-/
namespace Sentry

open Support

inductive MarketError where
  | notFound (text : String)
  | lookahead (text : String)
  | dataInvalid (text : String)
  | valueError (text : String)
  | attributeError (text : String)
  /-- A payload that does not validate. -/
  | validation
  deriving DecidableEq

/-! ### Texts -/

/-- `str.isspace` of one character. -/
def isSpace (c : Char) : Bool :=
  let n := c.toNat
  (9 ≤ n && n ≤ 13) || (28 ≤ n && n ≤ 32) || n == 0x85 || n == 0xa0 || n == 0x1680 ||
    (0x2000 ≤ n && n ≤ 0x200a) || n == 0x2028 || n == 0x2029 || n == 0x202f || n == 0x205f ||
    n == 0x3000

/-- `str.strip`. -/
def strip (s : String) : String :=
  String.ofList ((s.toList.dropWhile isSpace).rdropWhile isSpace)

/-- `str.upper`. -/
def MarketRuntime.upper (py : MarketRuntime) (s : String) : String :=
  String.ofList (s.toList.flatMap py.uppercase)

/-- `_symbol`. -/
def MarketRuntime.symbol (py : MarketRuntime) (value : String) : Except MarketError String :=
  let normalized := py.upper (strip value)
  if normalized = "" then .error (.valueError "symbol cannot be empty") else .ok normalized

/-- `_as_utc`. -/
def asUtc (name : String) : Datetime → Except MarketError Time
  | .aware utc => .ok utc
  | .naive _ => .error (.valueError (name ++ " must be timezone-aware"))

/-! ### Records -/

namespace ReplayRecord

/-- `_recency`. -/
def recency (record : ReplayRecord) : Time ×ₗ Time ×ₗ ℕ :=
  toLex (record.effectiveAt, toLex (record.observedAt, record.sequence))

/-- Whether a query with this cutoff may see the record. -/
def availableBy (cutoff : Time) (record : ReplayRecord) : Bool :=
  decide (record.observedAt ≤ cutoff) && decide (record.effectiveAt ≤ cutoff)

/-- `str(record.payload.get("symbol", ""))`. -/
def symbolText (py : MarketRuntime) (record : ReplayRecord) : String :=
  py.text ((record.payload.get? "symbol").getD (.str ""))

/-- `str(record.payload.get("contract", {}).get(name, ""))`. -/
def contractText (py : MarketRuntime) (name : String) (record : ReplayRecord) :
    Except MarketError String :=
  match (record.payload.get? "contract").getD (.obj []) with
  | .obj members => .ok (py.text ((Payload.get? name members).getD (.str "")))
  | _ => .error (.attributeError "get")

/-- Whether the payload brings its own snapshot identifier. -/
def carriesSnapshotId (record : ReplayRecord) : Bool := (record.payload.get? "snapshot_id").isSome

end ReplayRecord

/-- The later one of two, the first of equals. -/
def newer {α : Type} (current candidate : ReplayRecord × α) : ReplayRecord × α :=
  if current.1.recency < candidate.1.recency then candidate else current

/-- `max(values, key=recency)`. -/
def newest {α : Type} : List (ReplayRecord × α) → Option (ReplayRecord × α)
  | [] => none
  | first :: rest => some (rest.foldl newer first)

/-- `_latest`. -/
def latest {α : Type} (values : List (ReplayRecord × α)) (description : String) :
    Except MarketError α :=
  match newest values with
  | none => .error (.notFound ("no visible " ++ description))
  | some item => .ok item.2

/-- The latest item under each key, in the order the keys first came up. -/
def latestBy {α : Type} (key : α → String) (values : List (ReplayRecord × α)) :
    Dict String (ReplayRecord × α) :=
  values.foldl (fun found item => found.set (key item.2)
    (match found.get? (key item.2) with
      | none => item
      | some existing => newer existing item)) .empty

/-- The records that a query keeps, each with what its payload is read as. -/
def collect {α : Type} (keep : ReplayRecord → Except MarketError Bool)
    (read : UUID → Payload → Option α) :
    (ℕ → UUID) → List ReplayRecord → Except MarketError (List (ReplayRecord × α))
  | _, [] => .ok []
  | draws, record :: rest =>
    match keep record with
    | .error e => .error e
    | .ok false => collect keep read draws rest
    | .ok true =>
      match read (draws 0) record.payload with
      | none => .error .validation
      | some value =>
        match collect keep read (fun n => draws (n + 1)) rest with
        | .error e => .error e
        | .ok others => .ok ((record, value) :: others)

/-! ### The provider -/

/-- The metadata of a record's payload, if the payload is valid for its kind. -/
def ReplayRecord.metadata (py : MarketRuntime) (draw : UUID) (record : ReplayRecord) :
    Option ProviderMetadata :=
  match record.kind with
  | .equityQuote => (EquityQuote.modelValidate py draw record.payload).map EquityQuote.metadata
  | .optionQuote => (OptionQuote.modelValidate py draw record.payload).map OptionQuote.metadata
  | .bar => (PriceBar.modelValidate py record.payload).map PriceBar.metadata

/-- One round of `_validate_payloads`. -/
def ReplayFixture.validatePayload (py : MarketRuntime) (fixture : ReplayFixture) (draw : UUID)
    (record : ReplayRecord) : Except MarketError Unit :=
  match record.metadata py draw with
  | none => .error (.dataInvalid "invalid replay payload")
  | some metadata =>
    if metadata.provider ≠ fixture.provider then
      .error (.dataInvalid
        "invalid replay payload: payload provider differs from fixture provider")
    else if metadata.capabilityVersion ≠ fixture.capabilityVersion then
      .error (.dataInvalid
        "invalid replay payload: payload capability version differs from fixture")
    else if metadata.observedAt ≠ record.observedAt then
      .error (.dataInvalid
        "invalid replay payload: payload observed_at differs from replay record")
    else if metadata.effectiveAt ≠ record.effectiveAt then
      .error (.dataInvalid
        "invalid replay payload: payload effective_at differs from replay record")
    else .ok ()

/-- `_validate_payloads`. -/
def ReplayFixture.validatePayloads (py : MarketRuntime) (fixture : ReplayFixture) :
    (ℕ → UUID) → List ReplayRecord → Except MarketError Unit
  | _, [] => .ok ()
  | draws, record :: rest =>
    match fixture.validatePayload py (draws 0) record with
    | .error e => .error e
    | .ok () => fixture.validatePayloads py (fun n => draws (n + 1)) rest

/-- A provider that was constructed: every payload of its fixture passed the checks. -/
structure OfflineReplayMarketDataProvider (py : MarketRuntime) where
  fixture : ReplayFixture
  draws : ℕ → UUID
  validated : fixture.validatePayloads py draws fixture.ordered = .ok ()

namespace OfflineReplayMarketDataProvider

variable {py : MarketRuntime} (provider : OfflineReplayMarketDataProvider py) (now : Time)
  (asOf : Option Datetime) (draws : ℕ → UUID)

/-- `_cutoff`. -/
def cutoff (py : MarketRuntime) (now : Time) (asOf : Option Datetime) : Except MarketError Time :=
  match asOf with
  | none => .ok now
  | some given =>
    match asUtc "as_of" given with
    | .error e => .error e
    | .ok value =>
      if now < value then
        .error (.lookahead ("requested replay time " ++ py.isoformat value ++ " exceeds clock " ++
          py.isoformat now))
      else .ok value

/-- `_visible`. -/
def visible (kind : ReplayKind) (cutoff : Time) : List ReplayRecord :=
  provider.fixture.ordered.filter fun record =>
    decide (record.kind = kind) && record.availableBy cutoff

def visibleRecords : Except MarketError (List ReplayRecord) := do
  let cutoff ← cutoff py now asOf
  pure (provider.fixture.ordered.filter (ReplayRecord.availableBy cutoff))

def getEquityQuote (symbol : String) : Except MarketError EquityQuote := do
  let cutoff ← cutoff py now asOf
  let normalized ← py.symbol symbol
  let matches_ ← collect (fun record => .ok (py.upper (record.symbolText py) == normalized))
    (EquityQuote.modelValidate py) draws (provider.visible .equityQuote cutoff)
  latest matches_ ("equity quote for " ++ normalized)

/-- Whether a bar falls in the requested window. -/
def inWindow (start : Option Time) (end_ : Time) (timeframe : Option String) (bar : PriceBar) :
    Bool :=
  timeframe.all (fun wanted => bar.timeframe == wanted) &&
    start.all (fun start => decide (start ≤ bar.endsAt)) && decide (bar.endsAt ≤ end_)

def getBars (symbol : String) (start end_ : Option Datetime) (timeframe : Option String) :
    Except MarketError (List PriceBar) := do
  let cutoff ← cutoff py now asOf
  let normalized ← py.symbol symbol
  let start ← start.mapM (asUtc "start")
  let end_ ← (end_.map (asUtc "end")).getD (.ok cutoff)
  if cutoff < end_ then
    .error (.lookahead "bar end exceeds the causally available cutoff")
  else if start.any fun start => decide (end_ < start) then
    .error (.valueError "bar start exceeds end")
  else
    let bars ← collect (fun record => .ok (py.upper (record.symbolText py) == normalized))
      (fun _ => PriceBar.modelValidate py) draws (provider.visible .bar cutoff)
    pure (((bars.map Prod.snd).filter (inWindow start end_ timeframe)).insertionSort fun a b =>
      toLex (a.endsAt, a.startsAt) ≤ toLex (b.endsAt, b.startsAt))

/-- The order of a chain. -/
def chainKey (quote : OptionQuote) : Date ×ₗ String ×ₗ ℚ ×ₗ String :=
  toLex (quote.contract.expiration, toLex
    (match quote.contract.optionType with
      | .call => "call"
      | .put => "put",
      toLex (quote.contract.strike, quote.contract.instrumentId)))

/-- The latest quote of each instrument, in the order of a chain. -/
def chainOf (found : List (ReplayRecord × OptionQuote)) : List OptionQuote :=
  ((latestBy (fun quote => quote.contract.instrumentId) found).values.map
    Prod.snd).insertionSort fun a b => chainKey a ≤ chainKey b

def getOptionChain (symbol : String) : Except MarketError (List OptionQuote) := do
  let cutoff ← cutoff py now asOf
  let normalized ← py.symbol symbol
  let found ← collect
    (fun record => (record.contractText py "symbol").map fun text => py.upper text == normalized)
    (OptionQuote.modelValidate py) draws (provider.visible .optionQuote cutoff)
  pure (chainOf found)

def getOptionQuote (instrumentId : String) : Except MarketError OptionQuote := do
  let cutoff ← cutoff py now asOf
  let matches_ ← collect
    (fun record => (record.contractText py "instrument_id").map fun text => text == instrumentId)
    (OptionQuote.modelValidate py) draws (provider.visible .optionQuote cutoff)
  latest matches_ ("option quote for " ++ instrumentId)

/-- Whether a scan returns an equity. -/
def wanted (request : EquityScanRequest) (quote : EquityQuote) : Bool :=
  request.minimumPrice.all (fun low => decide (low ≤ quote.last)) &&
    request.maximumPrice.all (fun high => decide (quote.last ≤ high)) &&
    request.minimumVolume.all fun low => decide (low ≤ quote.volume)

def scanEquities (request : EquityScanRequest) : Except MarketError (List EquityQuote) := do
  let cutoff ← cutoff py now asOf
  let allowed ← request.symbols.mapM py.symbol
  let quotes ← collect (fun _ => .ok true) (EquityQuote.modelValidate py) draws
    (provider.visible .equityQuote cutoff)
  let permitted := quotes.filter fun item =>
    allowed.isEmpty || allowed.contains (py.upper item.2.symbol)
  let found := (latestBy (fun quote => py.upper quote.symbol) permitted).values.map Prod.snd
  pure (((found.filter (wanted request)).insertionSort fun a b =>
    toLex (-(a.volume : ℤ), a.symbol) ≤ toLex (-(b.volume : ℤ), b.symbol)).take request.limit)

/-! ### Queries -/

inductive Query where
  | equityQuote (symbol : String)
  | bars (symbol : String) (start end_ : Option Datetime) (timeframe : Option String)
  | optionChain (symbol : String)
  | optionQuote (instrumentId : String)
  | scan (request : EquityScanRequest)
  | visibleRecords

inductive Answer where
  | equityQuote (quote : EquityQuote)
  | bars (bars : List PriceBar)
  | optionChain (quotes : List OptionQuote)
  | optionQuote (quote : OptionQuote)
  | scan (quotes : List EquityQuote)
  | visibleRecords (records : List ReplayRecord)

def answer : Query → Except MarketError Answer
  | .equityQuote symbol => (provider.getEquityQuote now asOf draws symbol).map .equityQuote
  | .bars symbol start end_ timeframe =>
    (provider.getBars now asOf draws symbol start end_ timeframe).map .bars
  | .optionChain symbol => (provider.getOptionChain now asOf draws symbol).map .optionChain
  | .optionQuote instrumentId =>
    (provider.getOptionQuote now asOf draws instrumentId).map .optionQuote
  | .scan request => (provider.scanEquities now asOf draws request).map .scan
  | .visibleRecords => (provider.visibleRecords now asOf).map .visibleRecords

end OfflineReplayMarketDataProvider

/-! ### No lookahead -/

namespace ReplayFixture

/-- Two fixtures hold the same records up to a time. -/
def AgreeUntil (c : Time) (one other : ReplayFixture) : Prop :=
  ∀ record : ReplayRecord, record.availableBy c = true →
    (record ∈ one.records ↔ record ∈ other.records)

theorem availableBy_mono {record : ReplayRecord} {early late : Time} (order : early ≤ late)
    (available : record.availableBy early = true) : record.availableBy late = true := by
  simp only [ReplayRecord.availableBy, Bool.and_eq_true, decide_eq_true_eq] at *
  exact ⟨Int.le_trans available.1 order, Int.le_trans available.2 order⟩

/-- What can be seen of agreeing fixtures is the same list: each is strictly ordered by
its sequence numbers, so the members decide it. -/
theorem AgreeUntil.visible_eq {c : Time} {one other : ReplayFixture} (agree : AgreeUntil c one other)
    {cutoff : Time} (early : cutoff ≤ c) :
    one.ordered.filter (ReplayRecord.availableBy cutoff) =
      other.ordered.filter (ReplayRecord.availableBy cutoff) := by
  have ascending : ∀ fixture : ReplayFixture,
      (fixture.ordered.filter (ReplayRecord.availableBy cutoff)).Pairwise
        fun a b => a.sequence < b.sequence :=
    fun fixture => fixture.ordered_sequence.filter _
  have distinct : ∀ fixture : ReplayFixture,
      (fixture.ordered.filter (ReplayRecord.availableBy cutoff)).Nodup := by
    intro fixture
    refine (ascending fixture).imp ?_
    rintro a b smaller rfl
    exact Nat.lt_irrefl _ smaller
  have members : ∀ record : ReplayRecord,
      record ∈ one.ordered.filter (ReplayRecord.availableBy cutoff) ↔
        record ∈ other.ordered.filter (ReplayRecord.availableBy cutoff) := by
    intro record
    simp only [List.mem_filter, mem_ordered, and_congr_left_iff]
    exact fun available => agree record (availableBy_mono early available)
  have perm := (List.perm_ext_iff_of_nodup (distinct one) (distinct other)).mpr members
  refine perm.eq_of_pairwise ?_ (ascending one) (ascending other)
  intro a b _ _ before after
  omega

end ReplayFixture

namespace OfflineReplayMarketDataProvider

variable {py : MarketRuntime}

theorem visible_eq_filter (provider : OfflineReplayMarketDataProvider py) (kind : ReplayKind)
    (cutoff : Time) :
    provider.visible kind cutoff =
      (provider.fixture.ordered.filter (ReplayRecord.availableBy cutoff)).filter
        fun record => decide (record.kind = kind) := by
  rw [List.filter_filter]
  rfl

/-- A cutoff that was asked for is itself, or the same error, under any later clock. -/
theorem cutoff_eq {c now now' : Time} {asOf : Datetime} (early : ∀ utc, asOf = .aware utc → utc ≤ c)
    (past : c ≤ now) (past' : c ≤ now') :
    cutoff py now (some asOf) = cutoff py now' (some asOf) := by
  cases asOf with
  | naive wall => rfl
  | aware utc =>
    have bound := early utc rfl
    have seen : ¬ now < utc := not_lt.mpr (bound.trans past)
    have seen' : ¬ now' < utc := not_lt.mpr (bound.trans past')
    simp [cutoff, asUtc, seen, seen']

theorem cutoff_le {c now t : Time} {asOf : Datetime} (early : ∀ utc, asOf = .aware utc → utc ≤ c)
    (found : cutoff py now (some asOf) = .ok t) : t ≤ c := by
  cases asOf with
  | naive wall => simp [cutoff, asUtc] at found
  | aware utc =>
    simp only [cutoff, asUtc] at found
    split at found
    · cases found
    · cases found
      exact early _ rfl

theorem answer_agree {one other : OfflineReplayMarketDataProvider py} {c now now' : Time}
    (agree : ReplayFixture.AgreeUntil c one.fixture other.fixture) {asOf : Datetime}
    (early : ∀ utc, asOf = .aware utc → utc ≤ c) (past : c ≤ now) (past' : c ≤ now')
    (draws : ℕ → UUID) (query : Query) :
    one.answer now (some asOf) draws query = other.answer now' (some asOf) draws query := by
  have window : cutoff py now (some asOf) = cutoff py now' (some asOf) :=
    cutoff_eq early past past'
  rcases found : cutoff py now (some asOf) with e | t
  · -- the cutoff itself is refused, before any record is looked at
    have found' := window ▸ found
    cases query <;>
      simp only [answer, getEquityQuote, getBars, getOptionChain, getOptionQuote, scanEquities,
        visibleRecords, found, found', bind, Except.bind]
  · have found' := window ▸ found
    have same := agree.visible_eq (cutoff_le early found)
    have kinds : ∀ kind, one.visible kind t = other.visible kind t := by
      intro kind
      rw [visible_eq_filter, visible_eq_filter, same]
    cases query <;>
      simp only [answer, getEquityQuote, getBars, getOptionChain, getOptionQuote, scanEquities,
        visibleRecords, found, found', same, kinds, bind, Except.bind]

end OfflineReplayMarketDataProvider

/-! ### The latest of several records -/

section Latest

variable {α : Type}

theorem newest_append (xs : List (ReplayRecord × α)) (x : ReplayRecord × α) :
    newest (xs ++ [x]) = some (match newest xs with
      | none => x
      | some current => newer current x) := by
  cases xs with
  | nil => rfl
  | cons first rest => simp [newest, List.foldl_append]

theorem newest_eq_none {xs : List (ReplayRecord × α)} : newest xs = none ↔ xs = [] := by
  cases xs <;> simp [newest]

theorem newer_cases (current candidate : ReplayRecord × α) :
    newer current candidate = current ∨ newer current candidate = candidate := by
  unfold newer
  split <;> simp

theorem le_newer (current candidate : ReplayRecord × α) :
    current.1.recency ≤ (newer current candidate).1.recency ∧
      candidate.1.recency ≤ (newer current candidate).1.recency := by
  unfold newer
  split
  next smaller => exact ⟨le_of_lt smaller, le_refl _⟩
  next larger => exact ⟨le_refl _, not_lt.mp larger⟩

/-- The selected item is one of them, and none is more recent. -/
theorem newest_spec {xs : List (ReplayRecord × α)} {item : ReplayRecord × α}
    (found : newest xs = some item) :
    item ∈ xs ∧ ∀ other ∈ xs, other.1.recency ≤ item.1.recency := by
  induction xs using List.reverseRecOn generalizing item with
  | nil => simp [newest] at found
  | append_singleton xs x ih =>
    rw [newest_append] at found
    cases previous : newest xs with
    | none =>
      have empty := newest_eq_none.mp previous
      subst empty
      simp only [previous, Option.some.injEq] at found
      subst found
      simp
    | some current =>
      obtain ⟨member, largest⟩ := ih previous
      simp only [previous, Option.some.injEq] at found
      have bounds := le_newer current x
      rw [found] at bounds
      constructor
      · rcases newer_cases current x with kept | replaced
        · rw [← found, kept]
          exact List.mem_append_left _ member
        · rw [← found, replaced]
          simp
      · intro other present
        rcases List.mem_append.mp present with old | new
        · exact (largest other old).trans bounds.1
        · rw [List.mem_singleton.mp new]
          exact bounds.2

theorem latestBy_append (key : α → String) (xs : List (ReplayRecord × α)) (x : ReplayRecord × α) :
    latestBy key (xs ++ [x]) = (latestBy key xs).set (key x.2)
      (match (latestBy key xs).get? (key x.2) with
        | none => x
        | some existing => newer existing x) := by
  simp only [latestBy, List.foldl_append, List.foldl_cons, List.foldl_nil]

theorem get?_latestBy (key : α → String) (values : List (ReplayRecord × α)) (k : String) :
    (latestBy key values).get? k = newest (values.filter fun item => key item.2 = k) := by
  induction values using List.reverseRecOn with
  | nil => rfl
  | append_singleton xs x ih =>
    rw [latestBy_append, Dict.get?_set, List.filter_append]
    by_cases same : key x.2 = k
    · subst same
      simp only [if_true, decide_true, List.filter_cons_of_pos, List.filter_nil, newest_append, ih]
    · simp [same, ih]

/-- The values of a dictionary under their own keys: at most one has a given key. -/
theorem filter_values_latestBy (key : α → String) (values : List (ReplayRecord × α)) (k : String) :
    ((latestBy key values).values.map Prod.snd).filter (fun value => key value = k) =
      ((newest (values.filter fun item => key item.2 = k)).map Prod.snd).toList := by
  have own : ∀ entry ∈ (latestBy key values).entries, key entry.2.2 = entry.1 := by
    rintro ⟨j, item⟩ member
    rw [Dict.mem_entries, get?_latestBy] at member
    simpa using (List.mem_filter.mp (newest_spec member).1).2
  rw [← get?_latestBy]
  generalize latestBy key values = found at own
  have selected : ∀ entries : List (String × ReplayRecord × α),
      (entries.map Prod.fst).Nodup → (∀ entry ∈ entries, key entry.2.2 = entry.1) →
      ((entries.map Prod.snd).map Prod.snd).filter (fun value => key value = k) =
        ((Dict.lookup k entries).map Prod.snd).toList := by
    intro entries
    induction entries with
    | nil => intro _ _; rfl
    | cons entry rest ih =>
      obtain ⟨j, item⟩ := entry
      intro distinct keyed
      simp only [List.map_cons, List.nodup_cons] at distinct
      have here : key item.2 = j := keyed (j, item) (by simp)
      have later := ih distinct.2 fun entry member => keyed entry (by simp [member])
      by_cases same : j = k
      · subst same
        have absent : Dict.lookup j rest = none := Dict.lookup_eq_none.mpr distinct.1
        rw [absent] at later
        simp only [List.map_cons, List.filter_cons, here, decide_true, if_true, later, Dict.lookup]
        rfl
      · simp only [List.map_cons, List.filter_cons, here, same, decide_false, Bool.false_eq_true,
          if_false, later, Dict.lookup]
  exact selected found.entries found.distinct own

/-- Where no record is refused, a query collects exactly the records it keeps, each read
with some draw of its own. -/
theorem collect_ok {keep : ReplayRecord → Except MarketError Bool}
    {read : UUID → Payload → Option α} {p : ReplayRecord → Bool} {records : List ReplayRecord}
    (kept : ∀ record ∈ records, keep record = .ok (p record))
    (readable : ∀ record ∈ records, ∀ draw, ∃ value, read draw record.payload = some value)
    (draws : ℕ → UUID) :
    ∃ pairs, collect keep read draws records = .ok pairs ∧
      pairs.map Prod.fst = records.filter p ∧
      ∀ pair ∈ pairs, ∃ n, read (draws n) pair.1.payload = some pair.2 := by
  induction records generalizing draws with
  | nil => exact ⟨[], rfl, rfl, by simp⟩
  | cons record rest ih =>
    have remaining := ih (fun r member => kept r (List.mem_cons_of_mem _ member))
      fun r member => readable r (List.mem_cons_of_mem _ member)
    have here := kept record (by simp)
    cases kind : p record with
    | false =>
      obtain ⟨pairs, collected, firsts, reads⟩ := remaining draws
      exact ⟨pairs, by simp [collect, here, kind, collected], by simp [firsts, kind], reads⟩
    | true =>
      obtain ⟨value, valued⟩ := readable record (by simp) (draws 0)
      obtain ⟨pairs, collected, firsts, reads⟩ := remaining fun n => draws (n + 1)
      refine ⟨(record, value) :: pairs, by simp [collect, here, kind, valued, collected],
        by simp [firsts, kind], ?_⟩
      intro pair member
      rcases List.mem_cons.mp member with rfl | later
      · exact ⟨0, valued⟩
      · obtain ⟨n, read⟩ := reads pair later
        exact ⟨n + 1, read⟩

end Latest

/-! ### What an option record is read as -/

theorem strip_infix (s : String) : ∃ before after, s.toList = before ++ (strip s).toList ++ after := by
  obtain ⟨before, cut⟩ := List.dropWhile_suffix (l := s.toList) isSpace
  obtain ⟨after, cut'⟩ := List.rdropWhile_prefix isSpace (s.toList.dropWhile isSpace)
  refine ⟨before, after, ?_⟩
  rw [← cut, ← cut']
  simp [strip]

theorem MarketRuntime.flatMap_uppercase_eq_nil (py : MarketRuntime) {cs : List Char} :
    cs.flatMap py.uppercase = [] ↔ cs = [] := by
  cases cs <;> simp [py.uppercase_ne]

/-- Upper case loses no character, so it tells a text from its stripped form. -/
theorem MarketRuntime.upper_strip_eq (py : MarketRuntime) {s : String} :
    py.upper (strip s) = py.upper s ↔ strip s = s := by
  constructor
  · intro same
    obtain ⟨before, after, cut⟩ := strip_infix s
    have lists : (strip s).toList.flatMap py.uppercase = s.toList.flatMap py.uppercase :=
      String.ofList_injective same
    have lengths := congrArg List.length lists
    rw [cut, List.flatMap_append, List.flatMap_append, List.length_append,
      List.length_append] at lengths
    have none_before : before = [] := by
      rw [← py.flatMap_uppercase_eq_nil, ← List.length_eq_zero_iff]
      omega
    have none_after : after = [] := by
      rw [← py.flatMap_uppercase_eq_nil, ← List.length_eq_zero_iff]
      omega
    rw [none_before, none_after, List.nil_append, List.append_nil] at cut
    exact String.toList_injective cut.symm
  · intro same
    rw [same]

theorem MarketRuntime.upper_ne (py : MarketRuntime) {s : String} (filled : s ≠ "") :
    py.upper s ≠ "" := by
  intro empty
  have lists : s.toList.flatMap py.uppercase = [] := String.ofList_injective empty
  rw [py.flatMap_uppercase_eq_nil] at lists
  exact filled (String.toList_injective lists)

section Reading

variable {py : MarketRuntime}

theorem boundedText_eq {limit : ℕ} {document : Json} {s : String}
    (read : boundedText limit document = some s) : document = .str s ∧ s ≠ "" := by
  cases document <;> simp [boundedText, Json.strField, Option.filter] at read
  obtain ⟨⟨positive, -⟩, rfl⟩ := read
  refine ⟨rfl, ?_⟩
  rintro rfl
  simp at positive

theorem strField_eq {document : Json} {s : String} (read : document.strField = some s) :
    document = .str s := by
  cases document <;> simp_all [Json.strField]

/-- The texts a contract document shows under its raw keys are the contract's own. -/
theorem OptionContract.modelValidate_texts {document : Json} {contract : OptionContract}
    (read : OptionContract.modelValidate py document = some contract) :
    ∃ members, document = .obj members ∧
      Payload.get? "instrument_id" members = some (.str contract.instrumentId) ∧
      Payload.get? "symbol" members = some (.str contract.symbol) ∧ contract.symbol ≠ "" := by
  cases document <;> simp only [OptionContract.modelValidate, Json.fields?, Option.bind_eq_bind,
    Option.bind_none, Option.bind_some, Option.bind_eq_some_iff, reduceCtorEq] at read
  case obj members =>
    obtain ⟨-, -, instrumentId, hInstrument, symbol, hSymbol, optionType, -, strike, -,
      expiration, -, multiplier, -, built⟩ := read
    split at built
    · cases built
      obtain ⟨document, found, text⟩ := Option.bind_eq_some_iff.mp hInstrument
      obtain ⟨document', found', text'⟩ := Option.bind_eq_some_iff.mp hSymbol
      obtain ⟨rfl, filled⟩ := boundedText_eq text'
      rw [strField_eq text] at found
      exact ⟨members, rfl, found, found', filled⟩
    · cases built

theorem OptionQuote.modelValidateFields_spec {fields : Payload} {quote : UUID → OptionQuote}
    (read : OptionQuote.modelValidateFields py fields = some quote) :
    ∃ contract, fields.required "contract" (OptionContract.modelValidate py) = some contract ∧
      (∀ id, (quote id).contract = contract ∧ (quote id).snapshotId = id) ∧
      ∀ id id', quote id' = { quote id with snapshotId := id' } := by
  unfold OptionQuote.modelValidateFields at read
  obtain ⟨-, -, read⟩ := Option.bind_eq_some_iff.mp read
  obtain ⟨contract, found, read⟩ := Option.bind_eq_some_iff.mp read
  -- the eleven market fields are whatever they are
  obtain ⟨bid, -, read⟩ := Option.bind_eq_some_iff.mp read
  obtain ⟨ask, -, read⟩ := Option.bind_eq_some_iff.mp read
  obtain ⟨last, -, read⟩ := Option.bind_eq_some_iff.mp read
  obtain ⟨mark, -, read⟩ := Option.bind_eq_some_iff.mp read
  obtain ⟨volume, -, read⟩ := Option.bind_eq_some_iff.mp read
  obtain ⟨openInterest, -, read⟩ := Option.bind_eq_some_iff.mp read
  obtain ⟨impliedVolatility, -, read⟩ := Option.bind_eq_some_iff.mp read
  obtain ⟨delta, -, read⟩ := Option.bind_eq_some_iff.mp read
  obtain ⟨bidSize, -, read⟩ := Option.bind_eq_some_iff.mp read
  obtain ⟨askSize, -, read⟩ := Option.bind_eq_some_iff.mp read
  obtain ⟨metadata, -, built⟩ := Option.bind_eq_some_iff.mp read
  split at built
  · cases built
    exact ⟨contract, found, fun id => ⟨rfl, rfl⟩, fun id id' => rfl⟩
  · cases built

/-- How a valid option record is read: always for one contract, with its own snapshot
identifier or else with the drawn one. -/
structure QuotedAs (py : MarketRuntime) (record : ReplayRecord) (contract : OptionContract)
    (quote : UUID → OptionQuote) : Prop where
  read : ∀ draw, OptionQuote.modelValidate py draw record.payload = some (quote draw)
  contract_eq : ∀ draw, (quote draw).contract = contract
  instrument : record.contractText py "instrument_id" = .ok contract.instrumentId
  symbol : record.contractText py "symbol" = .ok contract.symbol
  symbol_ne : contract.symbol ≠ ""
  kept : record.carriesSnapshotId = true → ∀ draw draw', quote draw = quote draw'
  drawn : record.carriesSnapshotId = false → ∀ draw, (quote draw).snapshotId = draw

theorem quotedAs_of_modelValidate {record : ReplayRecord} {draw : UUID} {quote : OptionQuote}
    (read : OptionQuote.modelValidate py draw record.payload = some quote) :
    ∃ contract quotes, QuotedAs py record contract quotes := by
  simp only [OptionQuote.modelValidate, Option.bind_eq_bind, Option.bind_eq_some_iff] at read
  obtain ⟨snapshotId, identified, quotes, fields, -⟩ := read
  obtain ⟨contract, declared, parts, -⟩ := OptionQuote.modelValidateFields_spec fields
  obtain ⟨document, found, validated⟩ := Option.bind_eq_some_iff.mp declared
  obtain ⟨members, rfl, instrument, symbol, filled⟩ :=
    OptionContract.modelValidate_texts validated
  cases present : record.payload.get? "snapshot_id" with
  | none =>
    refine ⟨contract, quotes, ?_⟩
    exact
      { read := by
          intro draw
          simp [OptionQuote.modelValidate, Payload.defaulted, present, fields]
        contract_eq := fun draw => (parts draw).1
        instrument := by simp [ReplayRecord.contractText, found, instrument, MarketRuntime.text]
        symbol := by simp [ReplayRecord.contractText, found, symbol, MarketRuntime.text]
        symbol_ne := filled
        kept := by simp [ReplayRecord.carriesSnapshotId, present]
        drawn := fun _ draw => (parts draw).2 }
  | some document =>
    refine ⟨contract, fun _ => quotes snapshotId, ?_⟩
    exact
      { read := by
          intro draw
          simp only [Payload.defaulted, present] at identified
          simp [OptionQuote.modelValidate, Payload.defaulted, present, identified, fields]
        contract_eq := fun _ => (parts snapshotId).1
        instrument := by simp [ReplayRecord.contractText, found, instrument, MarketRuntime.text]
        symbol := by simp [ReplayRecord.contractText, found, symbol, MarketRuntime.text]
        symbol_ne := filled
        kept := fun _ _ _ => rfl
        drawn := by simp [ReplayRecord.carriesSnapshotId, present] }

end Reading

/-! ### The two ways to an option quote -/

namespace OfflineReplayMarketDataProvider

variable {py : MarketRuntime} (provider : OfflineReplayMarketDataProvider py)

/-- What a caller gets for an instrument is its entry in the chain of its contract. -/
def QuoteInChain (now : Time) (asOf : Option Datetime) (instrumentId : String) : Prop :=
  ∀ draws draws' quote, provider.getOptionQuote now asOf draws instrumentId = .ok quote →
    ∃ chain, provider.getOptionChain now asOf draws' quote.contract.symbol = .ok chain ∧
      chain.filter (fun entry => entry.contract.instrumentId = instrumentId) = [quote]

/-- No visible record of the instrument is more recent. -/
def IsLatest (cutoff : Time) (instrumentId : String) (record : ReplayRecord) : Prop :=
  record ∈ provider.visible .optionQuote cutoff ∧
    record.contractText py "instrument_id" = .ok instrumentId ∧
    ∀ other ∈ provider.visible .optionQuote cutoff,
      other.contractText py "instrument_id" = .ok instrumentId → other.recency ≤ record.recency

/-- The latest record of the instrument carries a snapshot identifier and a symbol without
surrounding white space. -/
def Settled (now : Time) (asOf : Option Datetime) (instrumentId : String) : Prop :=
  ∀ t, cutoff py now asOf = .ok t → ∀ record, provider.IsLatest t instrumentId record →
    record.carriesSnapshotId = true ∧
      ∀ symbol, record.contractText py "symbol" = .ok symbol → strip symbol = symbol

variable {provider}

theorem validatePayloads_mem {fixture : ReplayFixture} {records : List ReplayRecord}
    {draws : ℕ → UUID} (validated : fixture.validatePayloads py draws records = .ok ()) :
    ∀ record ∈ records, ∃ draw, fixture.validatePayload py draw record = .ok () := by
  induction records generalizing draws with
  | nil => simp
  | cons first rest ih =>
    simp only [ReplayFixture.validatePayloads] at validated
    split at validated
    · cases validated
    next passed =>
      intro record member
      rcases List.mem_cons.mp member with rfl | later
      · exact ⟨_, passed⟩
      · exact ih validated record later

theorem mem_visible {kind : ReplayKind} {t : Time} {record : ReplayRecord} :
    record ∈ provider.visible kind t ↔
      record ∈ provider.fixture.ordered ∧ record.kind = kind ∧ record.availableBy t = true := by
  simp [visible]

theorem quotedAs {t : Time} {record : ReplayRecord}
    (member : record ∈ provider.visible .optionQuote t) :
    ∃ contract quotes, QuotedAs py record contract quotes := by
  obtain ⟨listed, kind, -⟩ := mem_visible.mp member
  obtain ⟨draw, passed⟩ := validatePayloads_mem provider.validated record listed
  unfold ReplayFixture.validatePayload at passed
  split at passed
  · cases passed
  next metadata found =>
    simp only [ReplayRecord.metadata, kind, Option.map_eq_some_iff] at found
    obtain ⟨quote, read, -⟩ := found
    exact quotedAs_of_modelValidate read

/-- Sequence numbers are unique, so recency tells records apart. -/
theorem recency_injective {t : Time} {kind : ReplayKind} {a b : ReplayRecord}
    (left : a ∈ provider.visible kind t) (right : b ∈ provider.visible kind t)
    (same : a.recency = b.recency) : a = b := by
  have sequences : a.sequence = b.sequence := by
    have parts := congrArg ofLex same
    simp only [ReplayRecord.recency, ofLex_toLex, Prod.mk.injEq, toLex_inj] at parts
    exact parts.2.2
  exact List.inj_on_of_nodup_map provider.fixture.ordered_nodup (mem_visible.mp left).1
    (mem_visible.mp right).1 sequences

/-- How one of the visible option records was read. -/
theorem quotedAs_read {t : Time} {record : ReplayRecord} {draw : UUID} {quote : OptionQuote}
    (member : record ∈ provider.visible .optionQuote t)
    (read : OptionQuote.modelValidate py draw record.payload = some quote) :
    ∃ contract quotes, QuotedAs py record contract quotes ∧ quote = quotes draw ∧
      quote.contract = contract := by
  obtain ⟨contract, quotes, quoted⟩ := quotedAs member
  have same : quote = quotes draw := Option.some.inj (read.symm.trans (quoted.read draw))
  exact ⟨contract, quotes, quoted, same, same ▸ quoted.contract_eq draw⟩

/-- What a query collects when it selects option records by a text of their contract. -/
structure Collected (provider : OfflineReplayMarketDataProvider py) (t : Time) (name : String)
    (accepts : String → Bool) (draws : ℕ → UUID) (pairs : List (ReplayRecord × OptionQuote)) :
    Prop where
  records : ∀ record, (∃ quote, (record, quote) ∈ pairs) ↔
    record ∈ provider.visible .optionQuote t ∧
      ∃ text, record.contractText py name = .ok text ∧ accepts text = true
  read : ∀ pair ∈ pairs, ∃ n, OptionQuote.modelValidate py (draws n) pair.1.payload = some pair.2

/-- Whether a text of a record's contract is accepted. -/
def contractMatches (py : MarketRuntime) (name : String) (accepts : String → Bool)
    (record : ReplayRecord) : Bool :=
  match record.contractText py name with
  | .ok text => accepts text
  | .error _ => false

theorem contractMatches_iff {name : String} {accepts : String → Bool} {record : ReplayRecord} :
    contractMatches py name accepts record = true ↔
      ∃ text, record.contractText py name = .ok text ∧ accepts text = true := by
  unfold contractMatches
  cases record.contractText py name <;> simp

theorem contractMatches_spec {t : Time} {name : String} {field : OptionContract → String}
    (shown : ∀ record contract quotes, QuotedAs py record contract quotes →
      record.contractText py name = .ok (field contract)) (accepts : String → Bool) :
    ∀ record ∈ provider.visible .optionQuote t,
      (record.contractText py name).map accepts = .ok (contractMatches py name accepts record) := by
  intro record member
  obtain ⟨contract, quotes, quoted⟩ := quotedAs member
  simp only [contractMatches, shown record contract quotes quoted, Except.map]

theorem readable_option {t : Time} {record : ReplayRecord}
    (member : record ∈ provider.visible .optionQuote t) (draw : UUID) :
    ∃ quote, OptionQuote.modelValidate py draw record.payload = some quote := by
  obtain ⟨contract, quotes, quoted⟩ := quotedAs member
  exact ⟨quotes draw, quoted.read draw⟩

theorem collect_contract (provider : OfflineReplayMarketDataProvider py) (t : Time) {name : String}
    {field : OptionContract → String}
    (shown : ∀ record contract quotes, QuotedAs py record contract quotes →
      record.contractText py name = .ok (field contract))
    (accepts : String → Bool) (draws : ℕ → UUID) :
    ∃ pairs, collect (fun record => (record.contractText py name).map accepts)
        (OptionQuote.modelValidate py) draws (provider.visible .optionQuote t) = .ok pairs ∧
      Collected provider t name accepts draws pairs := by
  obtain ⟨pairs, collected, firsts, read⟩ := collect_ok (contractMatches_spec shown accepts)
    (fun _ member => readable_option member) draws
  refine ⟨pairs, collected, ?_, read⟩
  intro record
  have listed : (∃ quote, (record, quote) ∈ pairs) ↔ record ∈ pairs.map Prod.fst := by
    simp
  rw [listed, firsts, List.mem_filter, contractMatches_iff]

/-- A single quote comes from the latest record of its instrument. -/
theorem getOptionQuote_spec {now t : Time} {asOf : Option Datetime}
    (window : cutoff py now asOf = .ok t) (draws : ℕ → UUID) (instrumentId : String) :
    (∀ quote, provider.getOptionQuote now asOf draws instrumentId = .ok quote →
      ∃ record n, provider.IsLatest t instrumentId record ∧
        OptionQuote.modelValidate py (draws n) record.payload = some quote) ∧
    (∀ record, provider.IsLatest t instrumentId record →
      ∃ quote, provider.getOptionQuote now asOf draws instrumentId = .ok quote) := by
  obtain ⟨pairs, collected, spec⟩ := collect_contract provider t
    (fun _ _ _ quoted => quoted.instrument) (fun text => text == instrumentId) draws
  have unfolded : provider.getOptionQuote now asOf draws instrumentId =
      latest pairs ("option quote for " ++ instrumentId) := by
    simp only [getOptionQuote, window, bind, Except.bind, collected]
  have named : ∀ record, (∃ quote, (record, quote) ∈ pairs) ↔
      record ∈ provider.visible .optionQuote t ∧
        record.contractText py "instrument_id" = .ok instrumentId := by
    intro record
    simpa using spec.records record
  rw [unfolded]
  constructor
  · intro quote found
    unfold latest at found
    split at found
    · cases found
    next item selected =>
      cases found
      obtain ⟨member, largest⟩ := newest_spec selected
      obtain ⟨n, read⟩ := spec.read item member
      obtain ⟨listed, instrument⟩ := (named item.1).mp ⟨item.2, member⟩
      refine ⟨item.1, n, ⟨listed, instrument, ?_⟩, read⟩
      intro other present same
      obtain ⟨quote, paired⟩ := (named other).mpr ⟨present, same⟩
      exact largest (other, quote) paired
  · intro record isLatest
    obtain ⟨quote, paired⟩ := (named record).mpr ⟨isLatest.1, isLatest.2.1⟩
    unfold latest
    split
    next none_found =>
      rw [newest_eq_none.mp none_found] at paired
      cases paired
    next item _ => exact ⟨item.2, rfl⟩

/-- The entry of a chain for an instrument, if there is one: sorting permutes the entries,
and at most one of them is the instrument's. -/
theorem filter_chainOf (pairs : List (ReplayRecord × OptionQuote)) (instrumentId : String) :
    (chainOf pairs).filter (fun entry => entry.contract.instrumentId = instrumentId) =
      ((newest (pairs.filter fun item =>
        item.2.contract.instrumentId = instrumentId)).map Prod.snd).toList := by
  have sorted := (List.perm_insertionSort (fun a b => chainKey a ≤ chainKey b)
    ((latestBy (fun quote : OptionQuote => quote.contract.instrumentId) pairs).values.map
      Prod.snd)).filter fun entry => entry.contract.instrumentId = instrumentId
  rw [filter_values_latestBy fun quote : OptionQuote => quote.contract.instrumentId] at sorted
  unfold chainOf
  cases selected : newest (pairs.filter fun item =>
    item.2.contract.instrumentId = instrumentId) with
  | none =>
    rw [selected] at sorted
    exact sorted.eq_nil
  | some item =>
    rw [selected] at sorted
    exact sorted.eq_singleton

theorem getOptionChain_spec (provider : OfflineReplayMarketDataProvider py) {now t : Time}
    {asOf : Option Datetime} (window : cutoff py now asOf = .ok t) {symbol normalized : String}
    (valid : py.symbol symbol = .ok normalized) (draws : ℕ → UUID) :
    ∃ pairs, provider.getOptionChain now asOf draws symbol = .ok (chainOf pairs) ∧
      Collected provider t "symbol" (fun text => py.upper text == normalized) draws pairs := by
  obtain ⟨pairs, collected, spec⟩ := collect_contract provider t
    (fun _ _ _ quoted => quoted.symbol) (fun text => py.upper text == normalized) draws
  refine ⟨pairs, ?_, spec⟩
  simp only [getOptionChain, window, valid, bind, Except.bind, collected]
  rfl

/-- In a chain whose symbol matches the latest record of an instrument, that record is what
the instrument's entry is read from. -/
theorem entry_of_matched {t : Time} {normalized instrumentId : String} {draws : ℕ → UUID}
    {pairs : List (ReplayRecord × OptionQuote)}
    (spec : Collected provider t "symbol" (fun text => py.upper text == normalized) draws pairs)
    {record : ReplayRecord} (isLatest : provider.IsLatest t instrumentId record)
    {symbol : String} (shown : record.contractText py "symbol" = .ok symbol)
    (matched : py.upper symbol = normalized) :
    ∃ n quote, OptionQuote.modelValidate py (draws n) record.payload = some quote ∧
      (chainOf pairs).filter (fun entry => entry.contract.instrumentId = instrumentId) =
        [quote] := by
  obtain ⟨own, paired⟩ := (spec.records record).mpr ⟨isLatest.1, symbol, shown, by simpa using matched⟩
  obtain ⟨m, ownRead⟩ := spec.read _ paired
  obtain ⟨contract, quotes, quoted, -, ownContract⟩ := quotedAs_read isLatest.1 ownRead
  have instrument : contract.instrumentId = instrumentId :=
    Except.ok.inj (quoted.instrument.symm.trans isLatest.2.1)
  have present : (record, own) ∈
      pairs.filter fun item => item.2.contract.instrumentId = instrumentId :=
    List.mem_filter.mpr ⟨paired, decide_eq_true ((congrArg _ ownContract).trans instrument)⟩
  cases selected : newest (pairs.filter fun item =>
    item.2.contract.instrumentId = instrumentId) with
  | none =>
    rw [newest_eq_none.mp selected] at present
    cases present
  | some item =>
    obtain ⟨member, largest⟩ := newest_spec selected
    obtain ⟨listed, sameInstrument⟩ := List.mem_filter.mp member
    obtain ⟨n, read⟩ := spec.read item listed
    obtain ⟨visible, -⟩ := (spec.records item.1).mp ⟨item.2, listed⟩
    obtain ⟨contract', quotes', quoted', -, itemContract⟩ := quotedAs_read visible read
    have named : item.1.contractText py "instrument_id" = .ok instrumentId := by
      rw [quoted'.instrument, ← itemContract]
      simpa using sameInstrument
    -- neither is more recent than the other, so they are one record
    have same : item.1 = record := recency_injective visible isLatest.1
      (le_antisymm (isLatest.2.2 item.1 visible named) (largest (record, own) present))
    refine ⟨n, item.2, same ▸ read, ?_⟩
    rw [filter_chainOf, selected]
    rfl

/-- Where a chain has an entry for an instrument, its symbol matches the contract's. -/
theorem matched_of_entry {t : Time} {normalized instrumentId : String} {draws : ℕ → UUID}
    {pairs : List (ReplayRecord × OptionQuote)}
    (spec : Collected provider t "symbol" (fun text => py.upper text == normalized) draws pairs)
    {quote : OptionQuote}
    (entry : (chainOf pairs).filter (fun entry => entry.contract.instrumentId = instrumentId) =
      [quote]) :
    py.upper quote.contract.symbol = normalized := by
  rw [filter_chainOf] at entry
  cases selected : newest (pairs.filter fun item =>
    item.2.contract.instrumentId = instrumentId) with
  | none =>
    rw [selected] at entry
    cases entry
  | some item =>
    rw [selected] at entry
    simp only [Option.map_some, Option.toList_some, List.cons.injEq, and_true] at entry
    subst entry
    have listed := (List.mem_filter.mp (newest_spec selected).1).1
    obtain ⟨n, read⟩ := spec.read item listed
    obtain ⟨visible, symbol, shown, accepted⟩ := (spec.records item.1).mp ⟨item.2, listed⟩
    obtain ⟨contract, quotes, quoted, -, itemContract⟩ := quotedAs_read visible read
    have text : symbol = contract.symbol := Except.ok.inj (shown.symm.trans quoted.symbol)
    rw [itemContract, ← text]
    simpa using accepted

theorem settled_of_quoteInChain {now : Time} {asOf : Option Datetime} {instrumentId : String}
    (consistent : provider.QuoteInChain now asOf instrumentId) :
    provider.Settled now asOf instrumentId := by
  intro t window record isLatest
  obtain ⟨contract, quotes, quoted⟩ := quotedAs isLatest.1
  -- two calls never draw the same identifier: let them draw two constants
  let first : ℕ → UUID := fun _ => ⟨0⟩
  let second : ℕ → UUID := fun _ => ⟨1⟩
  obtain ⟨quote, found⟩ := (getOptionQuote_spec window first instrumentId).2 record isLatest
  obtain ⟨record', n, isLatest', read⟩ :=
    (getOptionQuote_spec window first instrumentId).1 quote found
  have same : record' = record := recency_injective isLatest'.1 isLatest.1
    (le_antisymm (isLatest.2.2 record' isLatest'.1 isLatest'.2.1)
      (isLatest'.2.2 record isLatest.1 isLatest.2.1))
  subst same
  have quoteEq : quote = quotes ⟨0⟩ := Option.some.inj (read.symm.trans (quoted.read _))
  have quoteContract : quote.contract = contract := quoteEq ▸ quoted.contract_eq _
  obtain ⟨chain, listed, entry⟩ := consistent first second quote found
  -- the chain query returned, so its symbol was accepted
  rcases valid : py.symbol quote.contract.symbol with e | normalized
  · simp [getOptionChain, window, valid, bind, Except.bind] at listed
  obtain ⟨pairs, chained, spec⟩ := getOptionChain_spec provider window valid second
  cases Except.ok.inj (chained.symm.trans listed)
  have matched := matched_of_entry spec entry
  have normal : py.upper (strip contract.symbol) = normalized := by
    rw [quoteContract] at valid
    dsimp only [MarketRuntime.symbol] at valid
    split at valid
    · cases valid
    · exact Except.ok.inj valid
  have stripped : strip contract.symbol = contract.symbol := by
    rw [← py.upper_strip_eq, normal, ← matched, quoteContract]
  constructor
  · -- without an identifier of its own the record is read with another one each time
    by_contra missing
    have absent : record'.carriesSnapshotId = false := by simpa using missing
    obtain ⟨m, quote', read', entry'⟩ := entry_of_matched spec isLatest quoted.symbol
      (quoteContract ▸ matched)
    have sameQuote : quote' = quote := List.head_eq_of_cons_eq (entry'.symm.trans entry)
    have drawn' : quote'.snapshotId = ⟨1⟩ := by
      rw [Option.some.inj (read'.symm.trans (quoted.read _))]
      exact quoted.drawn absent _
    have drawn : quote.snapshotId = ⟨0⟩ := quoteEq ▸ quoted.drawn absent _
    rw [sameQuote, drawn] at drawn'
    cases drawn'
  · intro symbol shown
    rw [Except.ok.inj (shown.symm.trans quoted.symbol)]
    exact stripped

theorem quoteInChain_of_settled {now : Time} {asOf : Option Datetime} {instrumentId : String}
    (settled : provider.Settled now asOf instrumentId) :
    provider.QuoteInChain now asOf instrumentId := by
  intro draws draws' quote found
  rcases window : cutoff py now asOf with e | t
  · simp [getOptionQuote, window, bind, Except.bind] at found
  obtain ⟨record, n, isLatest, read⟩ := (getOptionQuote_spec window draws instrumentId).1 quote found
  obtain ⟨contract, quotes, quoted, quoteEq, quoteContract⟩ := quotedAs_read isLatest.1 read
  obtain ⟨carries, bare⟩ := settled t window record isLatest
  have stripped := bare contract.symbol quoted.symbol
  have valid : py.symbol quote.contract.symbol = .ok (py.upper contract.symbol) := by
    simp [MarketRuntime.symbol, quoteContract, stripped, py.upper_ne quoted.symbol_ne]
  obtain ⟨pairs, chained, spec⟩ := getOptionChain_spec provider window valid draws'
  obtain ⟨m, quote', read', entry⟩ := entry_of_matched spec isLatest quoted.symbol rfl
  have same : quote' = quote := by
    rw [quoteEq, Option.some.inj (read'.symm.trans (quoted.read _))]
    exact quoted.kept carries _ _
  exact ⟨_, chained, same ▸ entry⟩

end OfflineReplayMarketDataProvider

end Sentry
