import Sentry.Observability.Logging

/-!
# What redaction lets through

Two events that differ in nothing but credentials and the contents of exceptions leave the same
record, and a record has nothing in it but mappings, lists, texts, numbers, truth values and
`None`. Both hold at every depth, whatever becomes of keys that are written as one text.
-/
namespace Sentry.Logging

open Support Regex

variable {rt : TextRuntime} {handled : Option String}

/-! ### Sensitive keys -/

/-- A key is sensitive that has one of the words in it, in letters of any case. -/
theorem isSensitive_of_word {name listed : String} (skipped part rest : List Char)
    (known : listed ∈ ["token", "secret", "password", "authorization", "refresh"])
    (split : name.toList = skipped ++ (part ++ rest)) (same : part.map caseless = listed.toList) :
    isSensitive rt name = true := by
  obtain ⟨last, read, -⟩ : ∃ c', Reads rt.word (literal (part.map caseless))
      ⟨skipped.getLast?, part ++ rest⟩ c' ∧ c'.rest = rest :=
    reads_literal part skipped.getLast? rest
  rw [same] at read
  have member : literal listed.toList ∈ literal "token".toList ::
      [literal "secret".toList, literal "password".toList, literal "authorization".toList,
        accountKey, literal "refresh".toList, apiKey] := by
    simp only [List.mem_cons, List.not_mem_nil, or_false] at known ⊢
    rcases known with rfl | rfl | rfl | rfl | rfl <;> simp
  exact search_of_reads split (reads_oneOf member read)

/-! ### The same record -/

theorem exceptionType_of_alike {item item' : AnyValue} (alike : Alike rt handled item item') :
    exceptionType handled item = exceptionType handled item' := by
  cases item with
  | scalar leaf =>
    cases item' with
    | scalar leaf' =>
      obtain rfl : leaf = leaf' := by simpa [Alike] using alike
      rfl
    | list items' | tuple items' | mapping entries' => simp [Alike] at alike
  | list items =>
    cases item' with
    | list items' => rfl
    | scalar leaf' | tuple items' | mapping entries' => simp [Alike] at alike
  | mapping entries =>
    cases item' with
    | mapping entries' => rfl
    | scalar leaf' | tuple items' | list items' => simp [Alike] at alike
  | tuple items =>
    cases item' with
    | scalar leaf' | list items' | mapping entries' => simp [Alike] at alike
    | tuple items' =>
      -- only the first item counts, and a class is alike to itself alone
      simp only [Alike] at alike
      cases items with
      | nil =>
        cases items' with
        | nil => rfl
        | cons first' rest' => simp [AlikeItems] at alike
      | cons first rest =>
        cases items' with
        | nil => simp [AlikeItems] at alike
        | cons first' rest' =>
          obtain ⟨head, -⟩ := alike
          cases first <;> cases first' <;> simp only [Alike] at head
          case scalar.scalar leaf leaf' =>
            subst head
            cases leaf with
            | «type» name metaclass isException => cases isException <;> rfl
            | _ => rfl
          all_goals rfl

theorem redactItems_eq {items items' : List AnyValue}
    (each : ∀ item ∈ items, ∀ item', Alike rt handled item item' →
      redact rt handled item = redact rt handled item')
    (alike : AlikeItems rt handled items items') :
    redactItems rt handled items = redactItems rt handled items' := by
  induction items generalizing items' with
  | nil =>
    cases items' with
    | nil => rfl
    | cons item' rest' => simp [AlikeItems] at alike
  | cons item rest ih =>
    cases items' with
    | nil => simp [AlikeItems] at alike
    | cons item' rest' =>
      obtain ⟨head, tail⟩ := alike
      rw [redactItems, redactItems, each item List.mem_cons_self item' head,
        ih (fun item member => each item (List.mem_cons_of_mem _ member)) tail]

theorem redactEntries_eq {entries entries' : List (AnyKey × AnyValue)}
    (each : ∀ entry ∈ entries, ∀ item', Alike rt handled entry.2 item' →
      redact rt handled entry.2 = redact rt handled item')
    (alike : AlikeEntries rt handled entries entries') (sanitized : List (AnyKey × AnyValue)) :
    redactEntries rt handled entries sanitized = redactEntries rt handled entries' sanitized := by
  induction entries generalizing entries' sanitized with
  | nil =>
    cases entries' with
    | nil => rfl
    | cons entry' rest' => simp [AlikeEntries] at alike
  | cons entry rest ih =>
    cases entries' with
    | nil => simp [AlikeEntries] at alike
    | cons entry' rest' =>
      obtain ⟨key, item⟩ := entry
      obtain ⟨key', item'⟩ := entry'
      obtain ⟨rfl, stored, tail⟩ := alike
      have here := each (key, item) List.mem_cons_self item'
      rw [redactEntries, redactEntries,
        ih (fun entry member => each entry (List.mem_cons_of_mem _ member)) tail]
      congr 1
      -- the three branches: replaced, suppressed but for the class, or redacted itself
      split
      · rfl
      next plain =>
        split
        next exceptional =>
          have type : exceptionType handled item = exceptionType handled item' := by
            rcases stored with sensitive | ⟨-, same⟩ | alike
            · exact absurd sensitive plain
            · exact same
            · exact exceptionType_of_alike alike
          rw [type]
        next ordinary =>
          rcases stored with sensitive | ⟨exceptional, -⟩ | alike
          · exact absurd sensitive plain
          · exact absurd exceptional ordinary
          · rw [here alike]

/-- Values that are alike leave the same record. -/
theorem redact_eq (value : AnyValue) : ∀ value', Alike rt handled value value' →
    redact rt handled value = redact rt handled value' := by
  induction value using Tree.induct with
  | scalar leaf =>
    intro value' alike
    cases value' with
    | scalar leaf' =>
      obtain rfl : leaf = leaf' := by simpa [Alike] using alike
      rfl
    | list items' | tuple items' | mapping entries' => simp [Alike] at alike
  | list items ih =>
    intro value' alike
    cases value' with
    | list items' =>
      simp only [Alike] at alike
      rw [redact, redact, redactItems_eq ih alike]
    | scalar leaf' | tuple items' | mapping entries' => simp [Alike] at alike
  | tuple items ih =>
    intro value' alike
    cases value' with
    | tuple items' =>
      simp only [Alike] at alike
      rw [redact, redact, redactItems_eq ih alike]
    | scalar leaf' | list items' | mapping entries' => simp [Alike] at alike
  | mapping entries ih =>
    intro value' alike
    cases value' with
    | mapping entries' =>
      simp only [Alike] at alike
      rw [redact, redact, redactEntries_eq ih alike]
    | scalar leaf' | list items' | tuple items' => simp [Alike] at alike

/-! ### Nothing but plain values -/

theorem plain_text (content : String) : Plain (text content) := .scalar rfl

/-- The entries of a plain mapping, while it is written. -/
structure PlainEntries (sanitized : List (AnyKey × AnyValue)) : Prop where
  texts : ∀ entry ∈ sanitized, ∃ name, entry.1 = .str name
  distinct : (sanitized.map Prod.fst).Nodup
  each : ∀ entry ∈ sanitized, Plain entry.2

theorem plainEntries_nil : PlainEntries [] where
  texts := by simp
  distinct := List.nodup_nil
  each := by simp

theorem PlainEntries.write {sanitized : List (AnyKey × AnyValue)} (plain : PlainEntries sanitized)
    (name : String) {value : AnyValue} (plainValue : Plain value) :
    PlainEntries (Logging.write name value sanitized) where
  texts := by
    intro entry listed
    rcases Dict.mem_store listed with rfl | before
    · exact ⟨name, rfl⟩
    · exact plain.texts entry before
  distinct := Dict.store_distinct _ _ plain.distinct
  each := by
    intro entry listed
    rcases Dict.mem_store listed with rfl | before
    · exact plainValue
    · exact plain.each entry before

theorem PlainEntries.suppress {sanitized : List (AnyKey × AnyValue)}
    (plain : PlainEntries sanitized) (name : String) (type : Option String) :
    PlainEntries (Logging.suppress name type sanitized) := by
  have suppressed := plain.write name (plain_text "[exception details suppressed]")
  rw [Logging.suppress]
  split
  next type _ => exact suppressed.write "exception_type" (plain_text type)
  · exact suppressed

theorem plain_redactLeaf (leaf : AnyLeaf) : Plain (redactLeaf rt leaf) := by
  cases leaf with
  | «exception» class_ contents =>
    exact .mapping (by simp) (by simp) (by simpa using plain_text class_)
  | _ => exact .scalar rfl

theorem plain_redactItems {items : List AnyValue}
    (each : ∀ item ∈ items, Plain (redact rt handled item)) :
    ∀ item ∈ redactItems rt handled items, Plain item := by
  induction items with
  | nil => simp [redactItems]
  | cons first rest ih =>
    intro item listed
    rw [redactItems] at listed
    rcases List.mem_cons.mp listed with rfl | later
    · exact each first List.mem_cons_self
    · exact ih (fun item member => each item (List.mem_cons_of_mem _ member)) item later

theorem plain_redactEntries {entries sanitized : List (AnyKey × AnyValue)}
    (each : ∀ entry ∈ entries, Plain (redact rt handled entry.2)) (plain : PlainEntries sanitized) :
    PlainEntries (redactEntries rt handled entries sanitized) := by
  induction entries generalizing sanitized with
  | nil =>
    rw [redactEntries]
    exact plain
  | cons entry rest ih =>
    obtain ⟨key, item⟩ := entry
    rw [redactEntries]
    apply ih fun entry member => each entry (List.mem_cons_of_mem _ member)
    split
    · exact plain.write _ (plain_text _)
    · split
      · exact plain.suppress _ _
      · exact plain.write _ (each (key, item) List.mem_cons_self)

/-- A record is plain. -/
theorem plain_redact (value : AnyValue) : Plain (redact rt handled value) := by
  induction value using Tree.induct with
  | scalar leaf =>
    rw [redact]
    exact plain_redactLeaf leaf
  | list items ih =>
    rw [redact]
    exact .list (plain_redactItems ih)
  | tuple items ih =>
    rw [redact]
    exact .list (plain_redactItems ih)
  | mapping entries ih =>
    have written := plain_redactEntries ih plainEntries_nil
    rw [redact]
    exact .mapping written.texts written.distinct written.each

/-- Redaction lets no credential and no content of an exception through, and leaves plain values
only. -/
theorem redaction_noninterference (rt : TextRuntime) (handled : Option String) :
    (∀ value value', Alike rt handled value value' →
      redact rt handled value = redact rt handled value') ∧
      ∀ value, Plain (redact rt handled value) :=
  ⟨redact_eq, plain_redact⟩

namespace RedactionSample

def asciiText : TextRuntime where
  isalnum := Char.isAlphanum
  casefold := fun text => String.ofList (text.toList.map Char.toLower)

/-- A request with a password and the exception it ended in. -/
def request (password message : String) : AnyValue :=
  .list [.mapping
    [(.str "Password", text password),
      (.str "EXC_INFO", .scalar (.exception "TimeoutError" message)), (.int 3, text "retry")]]

theorem alike_request (password password' message message' : String) :
    Alike asciiText none (request password message) (request password' message') := by
  have listed : "password" ∈ ["token", "secret", "password", "authorization", "refresh"] := by simp
  have sensitive : isSensitive asciiText (safeKey (.str "Password")) = true :=
    isSensitive_of_word [] "Password".toList [] listed (by simp [safeKey]) (by simp [caseless])
  have exceptional : isExceptionKey asciiText (safeKey (.str "EXC_INFO")) = true := by
    simp [isExceptionKey, exceptionKeys, safeKey, asciiText]
  simp [request, Alike, AlikeItems, AlikeEntries, sensitive, exceptional, exceptionType, text]

end RedactionSample

open RedactionSample in
theorem redaction_noninterference_request :
    redact asciiText none (request "first" "first message") =
      redact asciiText none (request "second" "second message") :=
  (redaction_noninterference asciiText none).1 _ _ (alike_request _ _ _ _)

open RedactionSample in
/-- Mappings are equal whatever the order of their entries. A class that is written under
`exception_type` beside an entry for an exception is kept only where it comes after it. -/
theorem redaction_depends_on_order :
    let failed : AnyKey × AnyValue :=
      (.str "exc_info", .scalar (.exception "TimeoutError" "timed out"))
    let custom : AnyKey × AnyValue := (.str "exception_type", text "custom")
    let suppressed : AnyKey × AnyValue := (.str "exc_info", text "[exception details suppressed]")
    [failed, custom].Perm [custom, failed] ∧
      redact asciiText none (.mapping [failed, custom]) =
        .mapping [suppressed, (.str "exception_type", text "custom")] ∧
      redact asciiText none (.mapping [custom, failed]) =
        .mapping [(.str "exception_type", text "TimeoutError"), suppressed] :=
  ⟨.swap _ _ [], rfl, rfl⟩

end Sentry.Logging
