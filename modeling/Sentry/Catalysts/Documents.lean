import Sentry.Market.Replay
import Sentry.Sentinel.EventLog
import Sentry.Strategy.Candidates
import Sentry.Support.Representatives

/-!
# Source documents

`app/catalysts/models.py`, and `deduplicate_documents` of `app/catalysts/collector.py`. A document
carries what its validators have checked, so that one that was stored can be read again, as the
same document under the same keys. The addresses, digests and times of the standard library and
of the validation library are parameters, with what the code relies on.
-/
namespace Sentry

open Support

/-! ### The platform -/

/-- What is checked of `urlsplit(value)`. -/
structure SplitUrl where
  scheme : String
  hostname : Option String
  username : Option String
  password : Option String

structure SourceRuntime where
  py : MarketRuntime
  hashing : Hashing
  /-- `hashlib.sha256(text.encode("utf-8")).hexdigest()`. -/
  sha256 : String → String
  /-- `str.lower`. -/
  lower : String → String
  /-- Nothing, where the address is refused. -/
  urlsplit : String → Option SplitUrl
  /-- A moment as `model_dump(mode="json")` writes it. -/
  timestamp : Time → String
  sha256_digest : ∀ text, isDigest (sha256 text) = true
  sha256Json_digest : ∀ document, isDigest (hashing.sha256Json document) = true
  /-- A moment that was read is written as a text that is read as it. -/
  instant_timestamp : ∀ document t, py.instant document = some t →
    py.instant (.str (timestamp t)) = some t
  uuid_str : ∀ document id, py.uuid document = some id → py.uuid (.str id.str) = some id
  uuid5_str : ∀ space name,
    py.uuid (.str (hashing.uuid5 space name).str) = some (hashing.uuid5 space name)

/-- `no_control_characters`. -/
def withoutControls (value : String) : String :=
  String.ofList (value.toList.filter fun c => c == '\n' || c == '\t' || decide (32 ≤ c.toNat))

theorem withoutControls_idem (value : String) :
    withoutControls (withoutControls value) = withoutControls value := by
  simp [withoutControls]

/-- `str.split()`. -/
def words (value : String) : List String :=
  ((value.toList.splitOnP isSpace).filter (· ≠ [])).map String.ofList

/-- `" ".join(value.split())`. -/
def joinedWords (value : String) : String := " ".intercalate (words value)

/-- A text without control characters. -/
abbrev Line : Type := { text : String // withoutControls text = text }

def Line.ofText (text : String) : Line := ⟨withoutControls text, withoutControls_idem text⟩

@[simp] theorem Line.ofText_val (line : Line) : Line.ofText line.val = line :=
  Subtype.ext line.property

namespace SourceRuntime

variable (rt : SourceRuntime)

/-- A moment of a time zone, as one that can be read again. -/
abbrev Moment : Type := { t : Time // rt.py.instant (.str (rt.timestamp t)) = some t }

/-- An identifier of the usual form. -/
abbrev Identifier : Type := { id : UUID // rt.py.uuid (.str id.str) = some id }

def moment (document : Json) : Option rt.Moment :=
  match found : rt.py.instant document with
  | some t => some ⟨t, rt.instant_timestamp document t found⟩
  | none => none

def identifier (document : Json) : Option rt.Identifier :=
  match found : rt.py.uuid document with
  | some id => some ⟨id, rt.uuid_str document id found⟩
  | none => none

/-- `uuid5`. -/
def uuid5 (space : UUID) (name : String) : rt.Identifier :=
  ⟨rt.hashing.uuid5 space name, rt.uuid5_str space name⟩

/-- `safe_reference_url`. -/
def safeReferenceUrl (value : String) : Bool :=
  (rt.urlsplit value).any fun parsed =>
    (parsed.scheme == "http" || parsed.scheme == "https") && parsed.hostname.any (· != "") &&
      parsed.username.isNone && parsed.password.isNone

/-- An address of a reference. -/
abbrev Reference : Type := { url : String // rt.safeReferenceUrl url = true }

def reference (document : Json) : Option rt.Reference :=
  document.strField.bind fun url =>
    if safe : rt.safeReferenceUrl url = true then some ⟨url, safe⟩ else none

@[simp] theorem moment_timestamp (t : rt.Moment) : rt.moment (.str (rt.timestamp t.val)) = some t := by
  unfold moment
  split
  next t' found =>
    rw [t.property] at found
    cases found
    rfl
  next found =>
    rw [t.property] at found
    cases found

@[simp] theorem identifier_str (id : rt.Identifier) : rt.identifier (.str id.val.str) = some id := by
  unfold identifier
  split
  next id' found =>
    rw [id.property] at found
    cases found
    rfl
  next found =>
    rw [id.property] at found
    cases found

@[simp] theorem reference_str (url : rt.Reference) : rt.reference (.str url.val) = some url := by
  simp [reference, Json.strField, url.property]

end SourceRuntime

/-! ### Documents -/

inductive DataMode where
  | fixture | liveRead | replay
  deriving DecidableEq

namespace DataMode

def value : DataMode → String
  | .fixture => "FIXTURE"
  | .liveRead => "LIVE_READ"
  | .replay => "REPLAY"

def modelValidate : Json → Option DataMode
  | .str "FIXTURE" => some .fixture
  | .str "LIVE_READ" => some .liveRead
  | .str "REPLAY" => some .replay
  | _ => none

@[simp] theorem modelValidate_value (mode : DataMode) :
    modelValidate (.str mode.value) = some mode := by
  cases mode <;> rfl

end DataMode

/-- `content_hash`, of a title and a text. -/
def SourceRuntime.contentHash (rt : SourceRuntime) (title text : String) : String :=
  rt.sha256 (joinedWords (rt.lower (title ++ "\n" ++ text)))

/-- A document that has been validated. -/
@[ext]
structure SourceDocument (rt : SourceRuntime) where
  createdAt : rt.Moment
  documentId : rt.Identifier
  sourceId : String
  canonicalUrl : rt.Reference
  title : Line
  normalizedText : Line
  publicationTime : Option rt.Moment := none
  fetchedAt : rt.Moment
  tickers : List String := []
  dataMode : DataMode := .fixture
  storedContentHash : Option String := none
  verify_stored_hash : ∀ hash ∈ storedContentHash,
    hash = rt.contentHash title.val normalizedText.val := by simp

namespace SourceDocument

variable {rt : SourceRuntime} (document : SourceDocument rt)

def contentHash : String := rt.contentHash document.title.val document.normalizedText.val

def deduplicationKey : String :=
  rt.sha256 (document.sourceId ++ "\n" ++ document.canonicalUrl.val ++ "\n" ++
    joinedWords (rt.lower document.title.val) ++ "\n" ++ document.contentHash)

/-- `model_dump(mode="json")`. -/
def dump : Payload :=
  [("created_at", .str (rt.timestamp document.createdAt.val)),
    ("document_id", .str document.documentId.val.str),
    ("source_id", .str document.sourceId),
    ("canonical_url", .str document.canonicalUrl.val),
    ("title", .str document.title.val),
    ("normalized_text", .str document.normalizedText.val),
    ("publication_time", match document.publicationTime with
      | none => .null
      | some moment => .str (rt.timestamp moment.val)),
    ("fetched_at", .str (rt.timestamp document.fetchedAt.val)),
    ("tickers", .arr (document.tickers.map .str)),
    ("untrusted_external_text", .bool true),
    ("data_mode", .str document.dataMode.value),
    ("stored_content_hash", Json.optionStr document.storedContentHash)]

/-- `Literal[True]`. -/
def literalTrue : Json → Option Unit
  | .bool true => some ()
  | _ => none

/-- The pattern of a stored hash. -/
def digest (field : Json) : Option String := field.strField.filter isDigest

/-- `model_validate`; a missing identifier is drawn. -/
def modelValidate (rt : SourceRuntime) (draw : rt.Identifier) (fields : Payload) :
    Option (SourceDocument rt) := do
  guard (fields.declares
    ["created_at", "document_id", "source_id", "canonical_url", "title", "normalized_text",
      "publication_time", "fetched_at", "tickers", "untrusted_external_text", "data_mode",
      "stored_content_hash"])
  let createdAt ← fields.required "created_at" rt.moment
  let documentId ← fields.defaulted "document_id" draw rt.identifier
  let sourceId ← fields.required "source_id" Json.strField
  let canonicalUrl ← fields.required "canonical_url" rt.reference
  let title ← fields.required "title" Json.strField
  let normalizedText ← fields.required "normalized_text" Json.strField
  let publicationTime ← fields.optional "publication_time" rt.moment
  let fetchedAt ← fields.required "fetched_at" rt.moment
  let tickers ← fields.defaulted "tickers" [] SentinelEvent.texts
  fields.defaulted "untrusted_external_text" () literalTrue
  let dataMode ← fields.defaulted "data_mode" .fixture DataMode.modelValidate
  let storedContentHash ← fields.optional "stored_content_hash" digest
  let title := Line.ofText title
  let normalizedText := Line.ofText normalizedText
  if verified : ∀ hash ∈ storedContentHash, hash = rt.contentHash title.val normalizedText.val then
    some
      { createdAt, documentId, sourceId, canonicalUrl, title, normalizedText, publicationTime
        fetchedAt, tickers, dataMode, storedContentHash, verify_stored_hash := verified }
  else none

theorem texts_map_str (texts : List String) : SentinelEvent.texts (.arr (texts.map .str)) = some texts := by
  simp only [SentinelEvent.texts]
  induction texts with
  | nil => rfl
  | cons text rest ih => simp [List.mapM_cons, Json.strField, ih]

theorem digest_of_stored {hash : String} (stored : document.storedContentHash = some hash) :
    digest (.str hash) = some hash := by
  rw [document.verify_stored_hash hash stored]
  simp [digest, Json.strField, SourceRuntime.contentHash, rt.sha256_digest]

/-- What is stored of a document is read as the document. -/
theorem modelValidate_dump (draw : rt.Identifier) : modelValidate rt draw document.dump = some document := by
  have declared : document.dump.declares
      ["created_at", "document_id", "source_id", "canonical_url", "title", "normalized_text",
        "publication_time", "fetched_at", "tickers", "untrusted_external_text", "data_mode",
        "stored_content_hash"] = true := by
    simp [Payload.declares, dump]
  have publication : document.dump.optional "publication_time" rt.moment =
      some document.publicationTime := by
    cases document with | mk _ _ _ _ _ _ publication => 
    cases publication with
    | none => simp [Payload.optional, Payload.get?, dump]
    | some t => simp [Payload.optional, Payload.get?, dump]
  have stored : document.dump.optional "stored_content_hash" digest =
      some document.storedContentHash := by
    cases found : document.storedContentHash with
    | none => simp [Payload.optional, Payload.get?, dump, found, Json.optionStr]
    | some hash => simp [Payload.optional, Payload.get?, dump, found, Json.optionStr,
        document.digest_of_stored found]
  unfold modelValidate
  rw [declared, publication, stored]
  simp [Payload.required, Payload.defaulted, Payload.get?, dump, Json.strField, texts_map_str, literalTrue]
  exact fun hash there => document.verify_stored_hash hash there

/-! ### Stored documents -/

/-- The name from which the identifier of a document in the tables is made. -/
def storedName : String := "official-source-v2:" ++ document.deduplicationKey

def storedId : rt.Identifier := rt.uuid5 NAMESPACE_URL document.storedName

/-- `document.model_copy(update={…})`, as a document is stored. -/
def stored : SourceDocument rt :=
  { document with
    documentId := document.storedId
    dataMode := .liveRead
    storedContentHash := some document.contentHash
    verify_stored_hash := by simp [contentHash] }

/-- A document that is written is read as itself. One that is stored is filed under the keys of
the one that was fetched, and storing what was read again changes nothing. -/
theorem stored_reread (draw : rt.Identifier) :
    modelValidate rt draw document.dump = some document ∧
      ∃ again, modelValidate rt draw document.stored.dump = some again ∧
        again.deduplicationKey = document.deduplicationKey ∧
        again.contentHash = document.contentHash ∧ again.documentId = document.storedId ∧
        again.stored = again :=
  ⟨document.modelValidate_dump draw, document.stored, document.stored.modelValidate_dump draw, rfl,
    rfl, rfl, rfl⟩

/-! ### Duplicates -/

/-- The order in which documents are gone through. -/
def orderKey : Time ×ₗ String ×ₗ String ×ₗ String :=
  toLex ((document.publicationTime.map Subtype.val).getD document.fetchedAt.val,
    toLex (document.sourceId, toLex (document.canonicalUrl.val, document.deduplicationKey)))

def identity : String × String := (document.sourceId, document.contentHash)

end SourceDocument

/-- `deduplicate_documents`. -/
def deduplicateDocuments {rt : SourceRuntime} (documents : List (SourceDocument rt)) :
    List (SourceDocument rt) :=
  representatives SourceDocument.orderKey SourceDocument.identity documents

/-- Of the documents with one content from one source the earliest is kept, once, and in order.
In whatever order they come, documents with the same keys are kept. -/
theorem deduplicateDocuments_represents {rt : SourceRuntime} (documents : List (SourceDocument rt)) :
    Represents SourceDocument.orderKey SourceDocument.identity documents
        (deduplicateDocuments documents) ∧
      ∀ others, documents.Perm others →
        (deduplicateDocuments others).map SourceDocument.orderKey =
          (deduplicateDocuments documents).map SourceDocument.orderKey := by
  have each := represents_representatives (@SourceDocument.orderKey rt) SourceDocument.identity
  refine ⟨each documents, fun others same => ?_⟩
  exact ((each others).of_perm same.symm).keys_eq (each documents)

end Sentry
