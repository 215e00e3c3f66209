import Sentry.Catalysts.Documents
import Sentry.Support.Decimal

/-!
# Issuers of a document

`app/catalysts/entity_mapping.py`, with the part of `SourcesConfig` it reads. A document is
mapped to an issuer when one of the issuer's names stands in it as whole words, and only to a
ticker that all such issuers share. What the mapper returns always passes its own validation,
and does not depend on the order in which an operator lists issuers and sources.

How texts are folded, and which characters are letters or digits, are parameters.
-/
namespace Sentry

open Support

/-! ### Names -/

/-- What the platform makes of characters. -/
structure NameRuntime where
  /-- `unicodedata.normalize("NFKC", value).casefold()`. -/
  fold : String → String
  isalnum : Char → Bool

/-- `_tokens`, which the configuration has as `_normalized_issuer_alias`. -/
def NameRuntime.tokens (names : NameRuntime) (value : String) : List String :=
  words (String.ofList ((names.fold value).toList.map fun c => if names.isalnum c then c else ' '))

/-- `_contains_tokens`. -/
def containsTokens (haystack needle : List String) : Bool :=
  if needle = [] ∨ haystack.length < needle.length then false
  else (List.range (haystack.length - needle.length + 1)).any fun index =>
    (haystack.drop index).take needle.length == needle

/-- A needle that is not empty, as a block of the haystack. -/
theorem containsTokens_iff {haystack needle : List String} :
    containsTokens haystack needle = true ↔ needle ≠ [] ∧ needle <:+: haystack := by
  unfold containsTokens
  split
  next out =>
    simp only [Bool.false_eq_true, false_iff, not_and]
    intro some_ block
    rcases out with empty | longer
    · exact some_ empty
    · exact absurd block.length_le (not_le.mpr longer)
  next fits =>
    rw [not_or, not_lt] at fits
    simp only [List.any_eq_true, List.mem_range, beq_iff_eq]
    constructor
    · rintro ⟨index, -, same⟩
      refine ⟨fits.1, haystack.take index, (haystack.drop index).drop needle.length, ?_⟩
      have front := List.take_append_drop needle.length (haystack.drop index)
      rw [same] at front
      rw [List.append_assoc, front, List.take_append_drop]
    · rintro ⟨-, before, after, rfl⟩
      refine ⟨before.length, ?_, ?_⟩
      · simp only [List.length_append]
        omega
      · rw [List.append_assoc, List.drop_left, List.take_left]

/-! ### The configuration -/

structure OfficialSourceConfig where
  id : String
  url : String
  enabled : Bool := false
  surveillancePriority : Decimal := ⟨60, 0⟩

def OfficialSourceConfig.dump (source : OfficialSourceConfig) : Json :=
  .obj [("id", .str source.id), ("url", .str source.url), ("enabled", .bool source.enabled),
    ("surveillance_priority", .str source.surveillancePriority.str)]

structure IssuerAliasMappingConfig where
  mappingId : String
  ticker : String
  issuerName : String
  aliases : List String
  sourceIds : List String
  provenanceUrl : String
  aliases_length : 1 ≤ aliases.length ∧ aliases.length ≤ 20

def IssuerAliasMappingConfig.dump (mapping : IssuerAliasMappingConfig) : Json :=
  .obj [("mapping_id", .str mapping.mappingId), ("ticker", .str mapping.ticker),
    ("issuer_name", .str mapping.issuerName), ("aliases", .arr (mapping.aliases.map .str)),
    ("source_ids", .arr (mapping.sourceIds.map .str)),
    ("provenance_url", .str mapping.provenanceUrl)]

/-- The tickers that are assigned to the names of the sources. -/
abbrev Assigned : Type := Dict (String × List String) String

/-- The keys under which a mapping enters its ticker. -/
def IssuerAliasMappingConfig.keys (mapping : IssuerAliasMappingConfig) (names : NameRuntime) :
    List (String × List String) :=
  mapping.sourceIds.flatMap fun sourceId => mapping.aliases.map fun name =>
    (sourceId, names.tokens name)

/-- `aliases.setdefault(key, mapping.ticker)`, where another ticker is refused. -/
def assign (ticker : String) : List (String × List String) → Assigned → Except String Assigned
  | [], aliases => .ok aliases
  | key :: rest, aliases =>
    match aliases.get? key with
    | none => assign ticker rest (aliases.set key ticker)
    | some assigned =>
      if assigned ≠ ticker then
        .error "one literal issuer alias cannot map to multiple tickers for a source"
      else assign ticker rest aliases

/-- The loop over the mappings. -/
def assignAll (names : NameRuntime) (knownSources : List String) :
    List IssuerAliasMappingConfig → Assigned → Except String Assigned
  | [], aliases => .ok aliases
  | mapping :: rest, aliases =>
    if ¬ mapping.sourceIds ⊆ knownSources then
      .error "issuer mappings may reference only configured source IDs"
    else do
      let aliases ← assign mapping.ticker (mapping.keys names) aliases
      assignAll names knownSources rest aliases

/-- `valid_source_and_mapping_identities`. -/
def validSourceAndMappingIdentities (names : NameRuntime) (sources : List OfficialSourceConfig)
    (mappings : List IssuerAliasMappingConfig) : Except String Unit :=
  if ¬ (sources.map OfficialSourceConfig.id).Nodup then
    .error "official source IDs must be unique"
  else if ¬ (mappings.map IssuerAliasMappingConfig.mappingId).Nodup then
    .error "issuer mapping IDs must be unique"
  else (assignAll names (sources.map OfficialSourceConfig.id) mappings .empty).map fun _ => ()

structure SourcesConfig (names : NameRuntime) where
  version : String
  officialSources : List OfficialSourceConfig
  issuerMappings : List IssuerAliasMappingConfig := []
  valid : validSourceAndMappingIdentities names officialSources issuerMappings = .ok ()

section Assignment

variable {names : NameRuntime} {knownSources : List String} {aliases : Assigned} {ticker : String}
  {keys : List (String × List String)}

/-- Where the keys are assigned, none of them had another ticker. -/
theorem assign_ok {aliases' : Assigned} (entered : assign ticker keys aliases = .ok aliases') :
    (∀ key ∈ keys, ∀ assigned, aliases.get? key = some assigned → assigned = ticker) ∧
      ∀ key, aliases'.get? key = if key ∈ keys then some ticker else aliases.get? key := by
  induction keys generalizing aliases with
  | nil =>
    cases entered
    simp
  | cons first rest ih =>
    unfold assign at entered
    cases found : aliases.get? first with
    | none =>
      rw [found] at entered
      obtain ⟨agree, after⟩ := ih entered
      constructor
      · intro key member assigned there
        rcases List.mem_cons.mp member with rfl | later
        · rw [found] at there
          cases there
        · apply agree key later
          rw [Dict.get?_set]
          split
          next same => rw [← same, found] at there; cases there
          next => exact there
      · intro key
        rw [after, Dict.get?_set]
        by_cases same : first = key
        · simp [same]
        · simp [same, Ne.symm same]
    | some assigned =>
      rw [found] at entered
      dsimp only at entered
      split at entered
      next => cases entered
      next same =>
        rw [not_not] at same
        subst same
        obtain ⟨agree, after⟩ := ih entered
        constructor
        · intro key member other there
          rcases List.mem_cons.mp member with rfl | later
          · rw [found] at there
            exact (Option.some.inj there).symm
          · exact agree key later other there
        · intro key
          rw [after]
          by_cases same : key = first
          · subst same
            simp [found]
          · simp [same]

theorem exists_assign (agree : ∀ key ∈ keys, ∀ assigned, aliases.get? key = some assigned →
    assigned = ticker) : ∃ aliases', assign ticker keys aliases = .ok aliases' := by
  induction keys generalizing aliases with
  | nil => exact ⟨aliases, rfl⟩
  | cons first rest ih =>
    unfold assign
    cases found : aliases.get? first with
    | none =>
      apply ih
      intro key member assigned there
      rw [Dict.get?_set] at there
      split at there
      next => exact (Option.some.inj there).symm
      next => exact agree key (List.mem_cons_of_mem _ member) assigned there
    | some assigned =>
      have same := agree first List.mem_cons_self assigned found
      dsimp only
      rw [if_neg (not_not.mpr same)]
      exact ih fun key member => agree key (List.mem_cons_of_mem _ member)

/-- No name of a source belongs to two tickers. -/
def Unambiguous (names : NameRuntime) (mappings : List IssuerAliasMappingConfig) : Prop :=
  mappings.Pairwise fun a b => ∀ key ∈ a.keys names, key ∈ b.keys names → a.ticker = b.ticker

theorem assignAll_isOk_iff {mappings : List IssuerAliasMappingConfig} :
    (∃ aliases', assignAll names knownSources mappings aliases = .ok aliases') ↔
      (∀ mapping ∈ mappings, mapping.sourceIds ⊆ knownSources) ∧
      (∀ mapping ∈ mappings, ∀ key ∈ mapping.keys names, ∀ assigned,
        aliases.get? key = some assigned → assigned = mapping.ticker) ∧
      Unambiguous names mappings := by
  induction mappings generalizing aliases with
  | nil => simp [assignAll, Unambiguous]
  | cons first rest ih =>
    unfold assignAll
    by_cases known : first.sourceIds ⊆ knownSources
    · rw [if_neg (not_not.mpr known)]
      simp only [bind, Except.bind]
      cases entered : assign first.ticker (first.keys names) aliases with
      | error text =>
        simp only [reduceCtorEq, exists_false, false_iff]
        rintro ⟨-, agree, -⟩
        obtain ⟨aliases', done⟩ := exists_assign (agree first List.mem_cons_self)
        rw [entered] at done
        cases done
      | ok aliases' =>
        obtain ⟨agree, after⟩ := assign_ok entered
        simp only [ih, List.forall_mem_cons, Unambiguous, List.pairwise_cons, known, true_and]
        constructor
        · rintro ⟨sources, later, apart⟩
          refine ⟨sources, ⟨agree, ?_⟩, ?_, apart⟩
          · intro mapping member key named assigned there
            by_cases shared : key ∈ first.keys names
            · have same := later mapping member key named first.ticker (by simp [after, shared])
              rw [agree key shared assigned there, same]
            · exact later mapping member key named assigned (by simp [after, shared, there])
          · intro mapping member key shared named
            exact later mapping member key named first.ticker (by simp [after, shared])
        · rintro ⟨sources, ⟨-, later⟩, apart, rest⟩
          refine ⟨sources, ?_, rest⟩
          intro mapping member key named assigned there
          rw [after] at there
          split at there
          next shared =>
            cases there
            exact apart mapping member key shared named
          next => exact later mapping member key named assigned there
    · simp [known]

end Assignment

/-- A configuration is accepted when sources and mappings have identifiers of their own, mappings
are of known sources, and no name of a source belongs to two tickers. -/
theorem validSourceAndMappingIdentities_iff {names : NameRuntime}
    {sources : List OfficialSourceConfig} {mappings : List IssuerAliasMappingConfig} :
    validSourceAndMappingIdentities names sources mappings = .ok () ↔
      (sources.map OfficialSourceConfig.id).Nodup ∧
      (mappings.map IssuerAliasMappingConfig.mappingId).Nodup ∧
      (∀ mapping ∈ mappings, mapping.sourceIds ⊆ sources.map OfficialSourceConfig.id) ∧
      Unambiguous names mappings := by
  have entered : (assignAll names (sources.map OfficialSourceConfig.id) mappings .empty).map
      (fun _ => ()) = .ok () ↔ ∃ aliases',
        assignAll names (sources.map OfficialSourceConfig.id) mappings .empty = .ok aliases' := by
    cases assignAll names (sources.map OfficialSourceConfig.id) mappings .empty <;> simp [Except.map]
  unfold validSourceAndMappingIdentities
  split
  next twice => simp [twice]
  next once =>
    rw [not_not] at once
    split
    next twice => simp [twice]
    next once' =>
      rw [not_not] at once'
      rw [entered, assignAll_isOk_iff]
      simp [once, once']

/-! ### Mapping -/

inductive EntityMappingStatus where
  | noMatch | mapped | ambiguous
  deriving DecidableEq

def EntityMappingStatus.value : EntityMappingStatus → String
  | .noMatch => "NO_MATCH"
  | .mapped => "MAPPED"
  | .ambiguous => "AMBIGUOUS"

structure IssuerAliasMatch where
  mappingId : String
  ticker : String
  issuerName : String
  matchedAliases : List String
  provenanceUrl : String
  deriving DecidableEq

structure SourceEntityMapping where
  status : EntityMappingStatus
  documentId : String
  sourceId : String
  documentContentHash : String
  mappingConfigVersion : String
  mappingConfigDigest : String
  mappedTicker : Option String := none
  matchesFound : List IssuerAliasMatch := []
  deriving DecidableEq

namespace SourceEntityMapping

/-- The matched tickers, without repetitions. -/
def tickers (matchesFound : List IssuerAliasMatch) : List String :=
  (matchesFound.map IssuerAliasMatch.ticker).dedup

/-- `result_is_consistent`. -/
def resultIsConsistent (result : SourceEntityMapping) : Except Exc Unit :=
  let tickers := tickers result.matchesFound
  if result.status = .noMatch ∧ (result.matchesFound ≠ [] ∨ result.mappedTicker ≠ none) then
    .error (.valueError "NO_MATCH cannot contain issuer matches")
  else if result.status = .mapped ∧
      (tickers.length ≠ 1 ∨ result.mappedTicker.any tickers.contains = false) then
    .error (.valueError "MAPPED requires exactly one matched ticker")
  else if result.status = .ambiguous ∧ (tickers.length < 2 ∨ result.mappedTicker ≠ none) then
    .error (.valueError "AMBIGUOUS requires multiple tickers and no selected ticker")
  else .ok ()

/-- What is checked when a result is made. -/
def validate (result : SourceEntityMapping) : Except Exc SourceEntityMapping := do
  if !isDigest result.documentContentHash then
    throw (.valueError "document_content_hash does not match its pattern")
  if !isDigest result.mappingConfigDigest then
    throw (.valueError "mapping_config_digest does not match its pattern")
  result.resultIsConsistent
  pure result

/-- `model_dump(mode="json")`. -/
def dump (result : SourceEntityMapping) : Json :=
  .obj [("status", .str result.status.value), ("document_id", .str result.documentId),
    ("source_id", .str result.sourceId), ("document_content_hash", .str result.documentContentHash),
    ("mapping_config_version", .str result.mappingConfigVersion),
    ("mapping_config_digest", .str result.mappingConfigDigest),
    ("mapped_ticker", Json.optionStr result.mappedTicker),
    ("matches", .arr (result.matchesFound.map fun found =>
      .obj [("mapping_id", .str found.mappingId), ("ticker", .str found.ticker),
        ("issuer_name", .str found.issuerName),
        ("matched_aliases", .arr (found.matchedAliases.map .str)),
        ("provenance_url", .str found.provenanceUrl)])),
    ("operator_maintained", .bool true)]

end SourceEntityMapping

/-- `ExplicitIssuerMapper(config)`. -/
structure ExplicitIssuerMapper (rt : SourceRuntime) where
  names : NameRuntime
  config : SourcesConfig names

namespace ExplicitIssuerMapper

variable {rt : SourceRuntime} (mapper : ExplicitIssuerMapper rt)

/-- `_mappings`. -/
def mappings : List IssuerAliasMappingConfig :=
  ranking IssuerAliasMappingConfig.mappingId mapper.config.issuerMappings

def configDigest : String :=
  rt.hashing.sha256Json (.obj
    [("version", .str mapper.config.version),
      ("official_sources", .arr ((ranking OfficialSourceConfig.id
        mapper.config.officialSources).map OfficialSourceConfig.dump)),
      ("issuer_mappings", .arr (mapper.mappings.map IssuerAliasMappingConfig.dump))])

/-- Whether a name stands in the title or in the text. -/
def names? (document : SourceDocument rt) (name : String) : Bool :=
  containsTokens (mapper.names.tokens document.title.val) (mapper.names.tokens name) ||
    containsTokens (mapper.names.tokens document.normalizedText.val) (mapper.names.tokens name)

def matched (document : SourceDocument rt) (mapping : IssuerAliasMappingConfig) : List String :=
  ranking id (mapping.aliases.filter (mapper.names? document))

/-- `_match`. -/
def match_ (mapping : IssuerAliasMappingConfig) (matchedAliases : List String) :
    Except Exc IssuerAliasMatch :=
  if 1 ≤ matchedAliases.length ∧ matchedAliases.length ≤ 20 then
    .ok
      { mappingId := mapping.mappingId
        ticker := mapping.ticker
        issuerName := mapping.issuerName
        matchedAliases
        provenanceUrl := mapping.provenanceUrl }
  else .error (.valueError "matched_aliases should have 1 to 20 items")

/-- The loop over the mappings. -/
def matchAll (document : SourceDocument rt) :
    List IssuerAliasMappingConfig → List IssuerAliasMatch → Except Exc (List IssuerAliasMatch)
  | [], found => .ok found
  | mapping :: rest, found =>
    if document.sourceId ∉ mapping.sourceIds then matchAll document rest found
    else if mapper.matched document mapping = [] then matchAll document rest found
    else do
      let one ← match_ mapping (mapper.matched document mapping)
      matchAll document rest (found ++ [one])

/-- A release that names several issuers is kept, and wakes none of them. -/
def statusOf : List String → EntityMappingStatus × Option String
  | [] => (.noMatch, none)
  | [ticker] => (.mapped, some ticker)
  | _ => (.ambiguous, none)

def map (document : SourceDocument rt) : Except Exc SourceEntityMapping := do
  let found ← mapper.matchAll document mapper.mappings []
  let ordered := ranking IssuerAliasMatch.mappingId found
  let decided := statusOf (SourceEntityMapping.tickers ordered)
  SourceEntityMapping.validate
    { status := decided.1
      documentId := document.documentId.val.str
      sourceId := document.sourceId
      documentContentHash := document.contentHash
      mappingConfigVersion := mapper.config.version
      mappingConfigDigest := mapper.configDigest
      mappedTicker := decided.2
      matchesFound := ordered }

/-! ### What a document is mapped to -/

/-- A name stands in a document as whole words. -/
def Stands (document : SourceDocument rt) (name : String) : Prop :=
  mapper.names.tokens name ≠ [] ∧
    (mapper.names.tokens name <:+: mapper.names.tokens document.title.val ∨
      mapper.names.tokens name <:+: mapper.names.tokens document.normalizedText.val)

/-- A mapping of the document's source, one of whose names stands in it. -/
def Mentioned (document : SourceDocument rt) (mapping : IssuerAliasMappingConfig) : Prop :=
  mapping ∈ mapper.config.issuerMappings ∧ document.sourceId ∈ mapping.sourceIds ∧
    ∃ name ∈ mapping.aliases, mapper.Stands document name

theorem names?_iff {document : SourceDocument rt} {name : String} :
    mapper.names? document name = true ↔ mapper.Stands document name := by
  simp only [names?, Bool.or_eq_true, containsTokens_iff, Stands, ← and_or_left]

theorem mem_matched {document : SourceDocument rt} {mapping : IssuerAliasMappingConfig}
    {name : String} : name ∈ mapper.matched document mapping ↔
      name ∈ mapping.aliases ∧ mapper.Stands document name := by
  rw [matched, (ranking_perm _ _).mem_iff, List.mem_filter, names?_iff]

theorem mem_mappings {mapping : IssuerAliasMappingConfig} :
    mapping ∈ mapper.mappings ↔ mapping ∈ mapper.config.issuerMappings :=
  (ranking_perm _ _).mem_iff

/-- What a mapping contributes. -/
def evidence (document : SourceDocument rt) (mapping : IssuerAliasMappingConfig) :
    IssuerAliasMatch where
  mappingId := mapping.mappingId
  ticker := mapping.ticker
  issuerName := mapping.issuerName
  matchedAliases := mapper.matched document mapping
  provenanceUrl := mapping.provenanceUrl

/-- The mappings that contribute something. -/
def concerned (document : SourceDocument rt) (mapping : IssuerAliasMappingConfig) : Bool :=
  decide (document.sourceId ∈ mapping.sourceIds ∧ mapper.matched document mapping ≠ [])

theorem match_eq {document : SourceDocument rt} {mapping : IssuerAliasMappingConfig}
    (some_ : mapper.matched document mapping ≠ []) :
    match_ mapping (mapper.matched document mapping) = .ok (mapper.evidence document mapping) := by
  have fewer : (mapper.matched document mapping).length ≤ mapping.aliases.length := by
    rw [matched, (ranking_perm _ _).length_eq]
    exact List.length_filter_le _ _
  have bound := mapping.aliases_length.2
  have least : 1 ≤ (mapper.matched document mapping).length := List.length_pos_iff.mpr some_
  rw [match_, if_pos ⟨least, by omega⟩]
  rfl

theorem matchAll_eq (document : SourceDocument rt) (mappings : List IssuerAliasMappingConfig)
    (found : List IssuerAliasMatch) :
    mapper.matchAll document mappings found =
      .ok (found ++ (mappings.filter (mapper.concerned document)).map (mapper.evidence document)) := by
  induction mappings generalizing found with
  | nil => simp [matchAll]
  | cons mapping rest ih =>
    unfold matchAll
    by_cases listed : document.sourceId ∈ mapping.sourceIds
    · by_cases none_ : mapper.matched document mapping = []
      · rw [if_neg (not_not.mpr listed), if_pos none_, ih, List.filter_cons_of_neg]
        simp [concerned, none_]
      · rw [if_neg (not_not.mpr listed), if_neg none_, mapper.match_eq none_,
          List.filter_cons_of_pos (by simp [concerned, listed, none_])]
        simp only [bind, Except.bind]
        rw [ih, List.map_cons, List.append_assoc, List.singleton_append]
    · rw [if_pos listed, ih, List.filter_cons_of_neg]
      simp [concerned, listed]

/-- The contributions, in the order of the mappings. -/
def contributions (document : SourceDocument rt) : List IssuerAliasMatch :=
  (mapper.mappings.filter (mapper.concerned document)).map (mapper.evidence document)

theorem ranking_contributions (document : SourceDocument rt) :
    ranking IssuerAliasMatch.mappingId (mapper.contributions document) =
      mapper.contributions document := by
  apply ranking_of_pairwise
  apply List.pairwise_map.mpr
  exact (ranking_sorted _ _).sublist List.filter_sublist

theorem mem_contributions {document : SourceDocument rt} {found : IssuerAliasMatch} :
    found ∈ mapper.contributions document ↔
      ∃ mapping, mapper.Mentioned document mapping ∧ found = mapper.evidence document mapping := by
  have concerned_iff {mapping : IssuerAliasMappingConfig} :
      mapping ∈ mapper.mappings ∧ mapper.concerned document mapping = true ↔
        mapper.Mentioned document mapping := by
    rw [mem_mappings, concerned, decide_eq_true_eq, Mentioned, ne_eq,
      List.eq_nil_iff_forall_not_mem, not_forall]
    simp only [not_not, mem_matched]
  simp only [contributions, List.mem_map, List.mem_filter, concerned_iff]
  exact exists_congr fun mapping => and_congr_right fun _ => eq_comm

/-- What a result says of a document. -/
structure Classifies (document : SourceDocument rt) (result : SourceEntityMapping) : Prop where
  identity : result.documentId = document.documentId.val.str ∧ result.sourceId = document.sourceId ∧
    result.documentContentHash = document.contentHash ∧
    result.mappingConfigDigest = mapper.configDigest
  evidence : ∀ found, found ∈ result.matchesFound ↔
    ∃ mapping, mapper.Mentioned document mapping ∧ found = mapper.evidence document mapping
  names : ∀ mapping name, name ∈ (mapper.evidence document mapping).matchedAliases ↔
    name ∈ mapping.aliases ∧ mapper.Stands document name
  ordered : result.matchesFound.Pairwise fun a b => a.mappingId < b.mappingId
  noMatch : result.status = .noMatch ↔ ∀ mapping, ¬ mapper.Mentioned document mapping
  mapped : ∀ ticker, result.status = .mapped ∧ result.mappedTicker = some ticker ↔
    (∃ mapping, mapper.Mentioned document mapping) ∧
      ∀ mapping, mapper.Mentioned document mapping → mapping.ticker = ticker
  ambiguous : result.status = .ambiguous ↔ ∃ a b, mapper.Mentioned document a ∧
    mapper.Mentioned document b ∧ a.ticker ≠ b.ticker
  selected : result.mappedTicker ≠ none → result.status = .mapped
  /-- Different tickers come from different names. -/
  apart : ∀ a b, mapper.Mentioned document a → mapper.Mentioned document b → a.ticker ≠ b.ticker →
    ∀ x ∈ mapper.matched document a, ∀ y ∈ mapper.matched document b,
      mapper.names.tokens x ≠ mapper.names.tokens y

section Result

variable {mapper} {document : SourceDocument rt}

theorem mem_tickers {ticker : String} :
    ticker ∈ SourceEntityMapping.tickers (mapper.contributions document) ↔
      ∃ mapping, mapper.Mentioned document mapping ∧ mapping.ticker = ticker := by
  simp only [SourceEntityMapping.tickers, List.mem_dedup, List.mem_map, mem_contributions]
  constructor
  · rintro ⟨found, ⟨mapping, mentioned, rfl⟩, same⟩
    exact ⟨mapping, mentioned, same⟩
  · rintro ⟨mapping, mentioned, same⟩
    exact ⟨_, ⟨mapping, mentioned, rfl⟩, same⟩

theorem ordered_contributions : (mapper.contributions document).Pairwise
    fun a b => a.mappingId < b.mappingId := by
  have distinct : Distinguished IssuerAliasMappingConfig.mappingId mapper.config.issuerMappings :=
    List.pairwise_map.mp (validSourceAndMappingIdentities_iff.mp mapper.config.valid).2.1
  exact List.pairwise_map.mpr ((ranking_strict distinct).sublist List.filter_sublist)

/-- The tickers of a result decide its status and its ticker. -/
structure Decided (tickers : List String) (status : EntityMappingStatus) (ticker : Option String) :
    Prop where
  noMatch : status = .noMatch ↔ tickers = []
  mapped : ∀ t, status = .mapped ∧ ticker = some t ↔ tickers = [t]
  ambiguous : status = .ambiguous ↔ 2 ≤ tickers.length
  selected : ticker ≠ none ↔ status = .mapped

theorem statusOf_decided (tickers : List String) :
    Decided tickers (statusOf tickers).1 (statusOf tickers).2 := by
  match tickers with
  | [] => constructor <;> simp [statusOf]
  | [t] => constructor <;> simp [statusOf]
  | a :: b :: rest => constructor <;> simp [statusOf]

variable (mapper document)

def result : SourceEntityMapping where
  status := (statusOf (SourceEntityMapping.tickers (mapper.contributions document))).1
  documentId := document.documentId.val.str
  sourceId := document.sourceId
  documentContentHash := document.contentHash
  mappingConfigVersion := mapper.config.version
  mappingConfigDigest := mapper.configDigest
  mappedTicker := (statusOf (SourceEntityMapping.tickers (mapper.contributions document))).2
  matchesFound := mapper.contributions document

variable {mapper document} in
theorem Decided.resultIsConsistent {result : SourceEntityMapping}
    (decided : Decided (SourceEntityMapping.tickers result.matchesFound) result.status
      result.mappedTicker) : result.resultIsConsistent = .ok () := by
  unfold SourceEntityMapping.resultIsConsistent
  rw [if_neg, if_neg, if_neg]
  · rintro ⟨several, fewer | chosen⟩
    · exact absurd (decided.ambiguous.mp several) (not_le.mpr fewer)
    · rw [decided.selected.mp chosen] at several
      cases several
  · rintro ⟨one, other⟩
    obtain ⟨ticker, chosen⟩ := Option.ne_none_iff_exists'.mp (decided.selected.mpr one)
    have only := (decided.mapped ticker).mp ⟨one, chosen⟩
    rw [only, chosen] at other
    simp at other
  · rintro ⟨none_, some_ | chosen⟩
    · have empty := decided.noMatch.mp none_
      simp [SourceEntityMapping.tickers, some_] at empty
    · rw [decided.selected.mp chosen] at none_
      cases none_

theorem map_eq : mapper.map document = .ok (mapper.result document) := by
  have hash : isDigest document.contentHash = true := rt.sha256_digest _
  have digest : isDigest mapper.configDigest = true := rt.sha256Json_digest _
  have matched := mapper.matchAll_eq document mapper.mappings []
  rw [List.nil_append] at matched
  have consistent : (mapper.result document).resultIsConsistent = .ok () :=
    Decided.resultIsConsistent (statusOf_decided _)
  unfold map
  rw [matched]
  simp only [bind, Except.bind]
  change SourceEntityMapping.validate { mapper.result document with
    status := (statusOf (SourceEntityMapping.tickers (ranking IssuerAliasMatch.mappingId
      (mapper.contributions document)))).1
    mappedTicker := (statusOf (SourceEntityMapping.tickers (ranking IssuerAliasMatch.mappingId
      (mapper.contributions document)))).2
    matchesFound := ranking IssuerAliasMatch.mappingId (mapper.contributions document) } = _
  rw [ranking_contributions]
  change SourceEntityMapping.validate (mapper.result document) = _
  simp only [SourceEntityMapping.validate, bind, Except.bind, consistent]
  simp [result, hash, digest, pure, Except.pure]

theorem two_le_length_iff {texts : List String} (nodup : texts.Nodup) :
    2 ≤ texts.length ↔ ∃ s ∈ texts, ∃ t ∈ texts, s ≠ t := by
  match texts, nodup with
  | [], _ => simp
  | [s], _ => simp
  | s :: t :: rest, nodup =>
    have apart : s ≠ t := List.rel_of_pairwise_cons nodup List.mem_cons_self
    simp only [List.length_cons, Nat.le_add_left, true_iff]
    exact ⟨s, by simp, t, by simp, apart⟩

theorem mem_keys {mapping : IssuerAliasMappingConfig} {sourceId name : String}
    (source : sourceId ∈ mapping.sourceIds) (named : name ∈ mapping.aliases) (names : NameRuntime) :
    (sourceId, names.tokens name) ∈ mapping.keys names := by
  unfold IssuerAliasMappingConfig.keys
  exact List.mem_flatMap.mpr ⟨sourceId, source, List.mem_map.mpr ⟨name, named, rfl⟩⟩

variable {mapper} in
theorem one_ticker {a b : IssuerAliasMappingConfig} {key : String × List String}
    (inA : a ∈ mapper.config.issuerMappings) (inB : b ∈ mapper.config.issuerMappings)
    (keyA : key ∈ a.keys mapper.names) (keyB : key ∈ b.keys mapper.names) :
    a.ticker = b.ticker := by
  have unambiguous := (validSourceAndMappingIdentities_iff.mp mapper.config.valid).2.2.2
  have back : mapper.config.issuerMappings.Pairwise fun b a =>
      ∀ key ∈ a.keys mapper.names, key ∈ b.keys mapper.names → a.ticker = b.ticker :=
    unambiguous.imp fun agree key left right => (agree key right left).symm
  exact List.Pairwise.forall_of_forall_of_flip (fun _ _ _ _ _ => rfl) unambiguous back inA inB key
    keyA keyB

theorem result_classifies : mapper.Classifies document (mapper.result document) := by
  have decided := statusOf_decided (SourceEntityMapping.tickers (mapper.contributions document))
  have nodup : (SourceEntityMapping.tickers (mapper.contributions document)).Nodup :=
    List.nodup_dedup _
  refine ⟨⟨rfl, rfl, rfl, rfl⟩, fun found => mem_contributions mapper, fun mapping name =>
    mem_matched mapper, ordered_contributions, ?_, ?_, ?_, decided.selected.mp, ?_⟩
  · rw [result, decided.noMatch, List.eq_nil_iff_forall_not_mem]
    simp only [mem_tickers, not_exists, not_and]
    exact ⟨fun none_ mapping mentioned => none_ _ mapping mentioned rfl,
      fun none_ _ mapping mentioned _ => none_ mapping mentioned⟩
  · intro ticker
    rw [result, decided.mapped]
    constructor
    · intro one
      have only {mapping : IssuerAliasMappingConfig} (mentioned : mapper.Mentioned document mapping) :
          mapping.ticker = ticker := by
        have among := mem_tickers.mpr ⟨mapping, mentioned, rfl⟩
        rw [one] at among
        exact List.mem_singleton.mp among
      have among : ticker ∈ SourceEntityMapping.tickers (mapper.contributions document) := by
        simp [one]
      obtain ⟨mapping, mentioned, -⟩ := mem_tickers.mp among
      exact ⟨⟨mapping, mentioned⟩, fun mapping => only⟩
    · rintro ⟨⟨mapping, mentioned⟩, only⟩
      apply List.perm_singleton.mp
      rw [List.perm_ext_iff_of_nodup nodup (List.nodup_singleton ticker)]
      intro other
      rw [List.mem_singleton, mem_tickers]
      constructor
      · rintro ⟨mapping', mentioned', rfl⟩
        exact only mapping' mentioned'
      · rintro rfl
        exact ⟨mapping, mentioned, only mapping mentioned⟩
  · rw [result, decided.ambiguous, two_le_length_iff nodup]
    constructor
    · rintro ⟨s, left, t, right, apart⟩
      obtain ⟨a, first, rfl⟩ := mem_tickers.mp left
      obtain ⟨b, second, rfl⟩ := mem_tickers.mp right
      exact ⟨a, b, first, second, apart⟩
    · rintro ⟨a, b, first, second, apart⟩
      exact ⟨_, mem_tickers.mpr ⟨a, first, rfl⟩, _, mem_tickers.mpr ⟨b, second, rfl⟩, apart⟩
  · rintro a b ⟨inA, sourceA, -⟩ ⟨inB, sourceB, -⟩ apart x matchedX y matchedY same
    have keyX := mem_keys sourceA ((mapper.mem_matched.mp matchedX).1) mapper.names
    have keyY := mem_keys sourceB ((mapper.mem_matched.mp matchedY).1) mapper.names
    exact apart (one_ticker inA inB keyX (same ▸ keyY))

end Result

/-- A document is mapped to the ticker that all the mappings that are mentioned in it share. The
result passes its own validation, and does not depend on the order of the configuration. -/
theorem map_classifies (document : SourceDocument rt) :
    ∃ result, mapper.map document = .ok result ∧ mapper.Classifies document result ∧
      ∀ config : SourcesConfig mapper.names, config.version = mapper.config.version →
        config.officialSources.Perm mapper.config.officialSources →
        config.issuerMappings.Perm mapper.config.issuerMappings →
        ExplicitIssuerMapper.map ⟨mapper.names, config⟩ document = .ok result := by
  refine ⟨_, mapper.map_eq document, mapper.result_classifies document, ?_⟩
  intro config version sources mappings
  set other : ExplicitIssuerMapper rt := ⟨mapper.names, config⟩
  obtain ⟨distinct, distinct', -⟩ := validSourceAndMappingIdentities_iff.mp config.valid
  have listed : other.mappings = mapper.mappings :=
    ranking_eq_of_perm (List.pairwise_map.mp distinct') mappings
  have digest : other.configDigest = mapper.configDigest := by
    rw [configDigest, configDigest, listed,
      ranking_eq_of_perm (List.pairwise_map.mp distinct) sources, version]
  -- what a mapping contributes depends on the names only
  have contributed : other.contributions document = mapper.contributions document := by
    change (other.mappings.filter (mapper.concerned document)).map (mapper.evidence document) = _
    rw [listed, contributions]
  rw [map_eq, result, result, contributed, digest]
  change Except.ok { (mapper.result document) with mappingConfigVersion := config.version } = _
  rw [version]
  rfl

end ExplicitIssuerMapper

end Sentry
