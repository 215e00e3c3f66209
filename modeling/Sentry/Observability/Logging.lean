import Sentry.Domain.Values
import Sentry.Market.Replay
import Sentry.Support.Dict
import Sentry.Support.Regex

/-!
# Redaction of log events

`_redact` of `app/observability/logging.py`: values under keys that look like credentials are
replaced, values under keys for exceptions leave the name of the class only, and everything
else is rebuilt from mappings, lists, texts and numbers. A key that is no text is written as
one, so two keys of a mapping can become one.

What the Unicode database says of characters is a parameter.
-/
namespace Sentry

open Support Regex

structure TextRuntime where
  /-- `str.isalnum` of one character. -/
  isalnum : Char → Bool
  casefold : String → String

namespace TextRuntime

variable (rt : TextRuntime)

/-- `\w`. -/
def word (x : Char) : Bool := rt.isalnum x || x == '_'

end TextRuntime

/-! ### The patterns -/

namespace Logging

def words (first : String) (others : List String) : Regex :=
  oneOf (literal first.toList) (others.map fun text => literal text.toList)

/-- A character of a class, without regard to case. -/
def among (characters : List Char) (letters digits : Bool) : Regex :=
  .set fun x =>
    characters.contains x || (letters && (caseless x).isAlpha) || (digits && x.isDigit)

def noneOf (characters : List Char) (spaces : Bool) : Regex :=
  .set fun x => !(characters.contains x || (spaces && isSpace x))

def space : Regex := .set isSpace

/-- `[_-]?` between two words. -/
def joined (first : String) (second : Regex) : Regex :=
  .seq (literal first.toList) (.seq (optional (among ['_', '-'] false false)) second)

/-- `account[_-]?(?:number|fingerprint)`. -/
def accountKey : Regex := joined "account" (words "number" ["fingerprint"])

/-- `api[_-]?key`. -/
def apiKey : Regex := joined "api" (literal "key".toList)

/-- `_SENSITIVE_KEY`. -/
def sensitiveKey : Regex :=
  oneOf (literal "token".toList)
    [literal "secret".toList, literal "password".toList, literal "authorization".toList,
      accountKey, literal "refresh".toList, apiKey]

/-- `_URL_CREDENTIAL`. -/
def urlCredential : Grouped where
  group := .seq (among [] true false)
    (.seq (.star (among ['+', '.', '-'] true true)) (literal "://".toList))
  after := .seq (plus (noneOf ['/', '@'] true)) (literal "@".toList)

/-- `_AUTH_CREDENTIAL`. -/
def authCredential : Grouped where
  group := .seq .boundary (words "bearer" ["basic"])
  after := .seq (plus space) (plus (among ['.', '_', '~', '+', '/', '=', '-'] true true))

/-- A text between two quotes, where a backslash takes the next character along. -/
def quoted (quote : Char) : Regex :=
  .seq (letter quote) (.seq
    (.star (.alt (.seq (letter '\\') (.set fun x => x != '\n')) (noneOf [quote, '\\'] false)))
    (letter quote))

/-- `_KEY_VALUE_CREDENTIAL`. -/
def keyValueCredential : Grouped where
  group :=
    .seq .boundary <| .seq
      (oneOf (.seq (.star (among ['_', '-'] true true)) (words "token" ["secret", "password"]))
        [literal "authorization".toList, accountKey, apiKey]) <|
    .seq .boundary <| .seq (optional (among ['"', '\''] false false)) <|
    .seq (.star space) <| .seq (among [':', '='] false false) (.star space)
  after := oneOf (quoted '"') [quoted '\'', plus (noneOf [',', ';', '&', '}', ']'] true)]

variable (rt : TextRuntime)

/-- The three substitutions in a text. -/
def redactText (text : String) : String :=
  let withoutUrls := urlCredential.sub rt.word (fun group => group ++ "[REDACTED]@".toList) text
  let withoutAuth :=
    authCredential.sub rt.word (fun group => group ++ " [REDACTED]".toList) withoutUrls
  keyValueCredential.sub rt.word (fun group => group ++ "[REDACTED]".toList) withoutAuth

/-! ### Keys -/

/-- `str(key) if isinstance(key, (str, int)) else "[key]"`. -/
def safeKey : AnyKey → String
  | .str text => text
  | .int value => toString value
  | .bool value => if value then "True" else "False"
  | .other => "[key]"

def isSensitive (name : String) : Bool := sensitiveKey.search rt.word name

def exceptionKeys : List String := ["exc_info", "exception", "stack_info", "traceback", "stack"]

def isExceptionKey (name : String) : Bool := exceptionKeys.contains (rt.casefold name)

/-- `_exception_type`, where `handled` is the class of the exception that is being handled. -/
def exceptionType (handled : Option String) : AnyValue → Option String
  | .scalar (.exception class_ _) => some class_
  | .scalar (.bool true) => handled
  | .tuple (.scalar (.type name _ true) :: _) => some name
  | _ => none

/-! ### Redaction -/

/-- `sanitized[name] = value`. -/
def write (name : String) (value : AnyValue) (sanitized : List (AnyKey × AnyValue)) :
    List (AnyKey × AnyValue) :=
  Dict.store (.str name) value sanitized

def text (content : String) : AnyValue := .scalar (.str content)

/-- What a suppressed exception leaves. An empty name is no name. -/
def suppress (name : String) (type : Option String) (sanitized : List (AnyKey × AnyValue)) :
    List (AnyKey × AnyValue) :=
  let suppressed := write name (text "[exception details suppressed]") sanitized
  match type.filter fun type => type != "" with
  | some type => write "exception_type" (text type) suppressed
  | none => suppressed

def redactLeaf : AnyLeaf → AnyValue
  | .str content => text (redactText rt content)
  | .exception class_ _ => .mapping [(.str "exception_type", text class_)]
  | .type _ metaclass _ => text ("[" ++ metaclass ++ "]")
  | .object type _ => text ("[" ++ type ++ "]")
  | leaf => .scalar leaf

variable (handled : Option String)

mutual

/-- `_redact`. -/
def redact : AnyValue → AnyValue
  | .mapping entries => .mapping (redactEntries entries [])
  | .list items | .tuple items => .list (redactItems items)
  | .scalar leaf => redactLeaf rt leaf

def redactItems : List AnyValue → List AnyValue
  | [] => []
  | item :: rest => redact item :: redactItems rest

/-- The entries that are left, written after those that were sanitized before. -/
def redactEntries : List (AnyKey × AnyValue) → List (AnyKey × AnyValue) →
    List (AnyKey × AnyValue)
  | [], sanitized => sanitized
  | (key, item) :: rest, sanitized =>
    redactEntries rest
      (if isSensitive rt (safeKey key) then write (safeKey key) (text "[REDACTED]") sanitized
      else if isExceptionKey rt (safeKey key) then
        suppress (safeKey key) (exceptionType handled item) sanitized
      else write (safeKey key) (redact item) sanitized)

end

/-! ### Two runs -/

mutual

/-- Equal values, but for what is stored under sensitive keys, and for what is stored under
keys for exceptions beside the name of the exception's class. -/
def Alike : AnyValue → AnyValue → Prop
  | .scalar leaf, .scalar leaf' => leaf = leaf'
  | .list items, .list items' => AlikeItems items items'
  | .tuple items, .tuple items' => AlikeItems items items'
  | .mapping entries, .mapping entries' => AlikeEntries entries entries'
  | _, _ => False

def AlikeItems : List AnyValue → List AnyValue → Prop
  | [], [] => True
  | item :: rest, item' :: rest' => Alike item item' ∧ AlikeItems rest rest'
  | _, _ => False

def AlikeEntries : List (AnyKey × AnyValue) → List (AnyKey × AnyValue) → Prop
  | [], [] => True
  | (key, item) :: rest, (key', item') :: rest' =>
    key = key' ∧
      (isSensitive rt (safeKey key) = true ∨
        isExceptionKey rt (safeKey key) = true ∧
          exceptionType handled item = exceptionType handled item' ∨
        Alike item item') ∧
      AlikeEntries rest rest'
  | _, _ => False

end

/-! ### Plain results -/

/-- `None`, a truth value, a number or a text. -/
def isPlainLeaf : AnyLeaf → Bool
  | .none | .bool _ | .int _ | .float _ | .infinity _ | .nan | .str _ => true
  | _ => false

/-- A value of mappings with distinct texts for keys, lists and plain scalars. -/
inductive Plain : AnyValue → Prop where
  | scalar {leaf : AnyLeaf} (plain : isPlainLeaf leaf = true) : Plain (.scalar leaf)
  | list {items : List AnyValue} (each : ∀ item ∈ items, Plain item) : Plain (.list items)
  | mapping {entries : List (AnyKey × AnyValue)} (texts : ∀ entry ∈ entries, ∃ name, entry.1 = .str name)
      (distinct : (entries.map Prod.fst).Nodup) (each : ∀ entry ∈ entries, Plain entry.2) :
      Plain (.mapping entries)

end Logging

end Sentry
