import Mathlib.Data.List.Infix
import Mathlib.Tactic.Common

/-!
# Regular expressions

Patterns as a backtracking engine runs them: `run` tries alternatives in order, repeats as often
as it can, and gives a way back when what comes after a pattern fails. `Reads` says which parts
of a text a pattern can read at all, and `run_isSome` that the engine finds a way whenever there
is one, so `search` finds a pattern exactly where some part of the text is read by it.
-/
namespace Support

inductive Regex where
  | set (member : Char → Bool)
  | empty
  | seq (first second : Regex)
  | alt (first second : Regex)
  | star (body : Regex)
  | boundary

/-- A place in a text: the character before it and what is still to be read. -/
structure Cursor where
  before : Option Char
  rest : List Char

/-- Whether a word begins or ends here. -/
def Cursor.atBoundary (word : Char → Bool) (c : Cursor) : Bool :=
  c.before.any word != c.rest.head?.any word

namespace Regex

/-! ### Patterns -/

/-- The letter that a character is compared as when case is ignored. Beside the capitals there
are four letters outside of ASCII that count as an `i`, an `s` or a `k`. -/
def caseless (x : Char) : Char :=
  if x = '\u0130' ∨ x = '\u0131' then 'i'
  else if x = '\u017f' then 's'
  else if x = '\u212a' then 'k'
  else x.toLower

def letter (a : Char) : Regex := .set fun x => caseless x == a

/-- A text in lower case, read without regard to case. -/
def literal (text : List Char) : Regex := text.foldr (fun a rest => .seq (letter a) rest) .empty

def oneOf (first : Regex) (others : List Regex) : Regex :=
  match others with
  | [] => first
  | second :: others => .alt first (oneOf second others)

def optional (body : Regex) : Regex := .alt body .empty

def plus (body : Regex) : Regex := .seq body (.star body)

/-! ### The engine -/

section Engine

variable {α : Type} (word : Char → Bool)

/-- As many turns as there can be, each of which reads something. -/
def turns (body : Cursor → (Cursor → Option α) → Option α) :
    ℕ → Cursor → (Cursor → Option α) → Option α
  | 0, c, next => next c
  | n + 1, c, next =>
    (body c fun c' =>
      if c'.rest.length < c.rest.length then turns body n c' next else none).or (next c)

/-- Read a pattern and go on, with the first way on which everything after it succeeds. -/
def run : Regex → Cursor → (Cursor → Option α) → Option α
  | .set member, c, next =>
    match c.rest with
    | [] => none
    | x :: rest => if member x then next ⟨some x, rest⟩ else none
  | .empty, c, next => next c
  | .seq first second, c, next => run first c fun c' => run second c' next
  | .alt first second, c, next => (run first c next).or (run second c next)
  | .star body, c, next => turns (fun c' next' => run body c' next') c.rest.length c next
  | .boundary, c, next => if c.atBoundary word then next c else none

/-- Whether a pattern can be read here. -/
def matchesAt (r : Regex) (c : Cursor) : Bool := (r.run word c some).isSome

def searchFrom (r : Regex) : Option Char → List Char → Bool
  | before, [] => r.matchesAt word ⟨before, []⟩
  | before, x :: rest => r.matchesAt word ⟨before, x :: rest⟩ || searchFrom r (some x) rest

/-- `pattern.search(text)`. -/
def search (r : Regex) (text : String) : Bool := searchFrom word r none text.toList

/-- A pattern that begins with its only group and reads something. -/
structure Grouped where
  group : Regex
  after : Regex

/-- Where the group ends and where the match does. -/
def Grouped.attempt (p : Grouped) (c : Cursor) : Option (Cursor × Cursor) :=
  p.group.run word c fun middle => p.after.run word middle fun last => some (middle, last)

/-- Every match is replaced by what is written for its group; a turn goes on after the match or
after one character. -/
def Grouped.subFrom (p : Grouped) (write : List Char → List Char) : ℕ → Cursor → List Char
  | 0, c => c.rest
  | n + 1, c =>
    match c.rest with
    | [] => []
    | x :: rest =>
      match p.attempt word c with
      | some (middle, last) =>
        write (c.rest.take (c.rest.length - middle.rest.length)) ++ subFrom p write n last
      | none => x :: subFrom p write n ⟨some x, rest⟩

/-- `pattern.sub(replacement, text)`. -/
def Grouped.sub (p : Grouped) (write : List Char → List Char) (text : String) : String :=
  String.ofList (p.subFrom word write text.toList.length ⟨none, text.toList⟩)

end Engine

/-! ### What a pattern reads -/

inductive Reads (word : Char → Bool) : Regex → Cursor → Cursor → Prop where
  | set {member : Char → Bool} {x : Char} {before : Option Char} {rest : List Char}
      (found : member x = true) : Reads word (.set member) ⟨before, x :: rest⟩ ⟨some x, rest⟩
  | empty (c : Cursor) : Reads word .empty c c
  | seq {first second : Regex} {c middle last : Cursor} (head : Reads word first c middle)
      (tail : Reads word second middle last) : Reads word (.seq first second) c last
  | left {first second : Regex} {c last : Cursor} (read : Reads word first c last) :
      Reads word (.alt first second) c last
  | right {first second : Regex} {c last : Cursor} (read : Reads word second c last) :
      Reads word (.alt first second) c last
  | stop (body : Regex) (c : Cursor) : Reads word (.star body) c c
  | again {body : Regex} {c middle last : Cursor} (turn : Reads word body c middle)
      (others : Reads word (.star body) middle last) : Reads word (.star body) c last
  | boundary {c : Cursor} (here : c.atBoundary word = true) : Reads word .boundary c c

variable {α : Type} {word : Char → Bool} {r body : Regex} {c c' : Cursor}

/-- A pattern that reads nothing stays where it is. -/
theorem Reads.shrinks (read : Reads word r c c') :
    c' = c ∨ c'.rest.length < c.rest.length := by
  induction read with
  | set found => exact Or.inr (by simp)
  | empty c | stop body c => exact Or.inl rfl
  | boundary here => exact Or.inl rfl
  | left read ih | right read ih => exact ih
  | seq head tail ih ih' | again head tail ih ih' =>
    rcases ih with rfl | less
    · exact ih'
    · rcases ih' with rfl | less'
      · exact Or.inr less
      · exact Or.inr (less'.trans less)

/-- A repetition is over, or has a turn that reads something. -/
theorem Reads.star_cases (read : Reads word (.star body) c c') :
    c' = c ∨ ∃ middle, Reads word body c middle ∧ middle.rest.length < c.rest.length ∧
      Reads word (.star body) middle c' := by
  generalize same : Regex.star body = repeated at read
  induction read with
  | set found => cases same
  | empty c => cases same
  | seq head tail => cases same
  | left read => cases same
  | right read => cases same
  | boundary here => cases same
  | stop body c => exact Or.inl rfl
  | again turn others _ ih =>
    cases same
    -- a turn that reads nothing is left out
    rcases turn.shrinks with rfl | less
    · exact ih rfl
    · exact Or.inr ⟨_, turn, less, others⟩

theorem turns_isSome {next : Cursor → Option α}
    (body_isSome : ∀ (c : Cursor) (next : Cursor → Option α), (body.run word c next).isSome = true ↔
      ∃ c', Reads word body c c' ∧ (next c').isSome = true)
    (n : ℕ) (c : Cursor) (enough : c.rest.length ≤ n) :
    (turns (fun c next => body.run word c next) n c next).isSome = true ↔
      ∃ c', Reads word (.star body) c c' ∧ (next c').isSome = true := by
  induction n generalizing c with
  | zero =>
    constructor
    · intro ended
      exact ⟨c, .stop body c, ended⟩
    · rintro ⟨c', read, ended⟩
      rcases read.shrinks with rfl | less
      · exact ended
      · omega
  | succ n ih =>
    rw [turns, Option.isSome_or, Bool.or_eq_true, body_isSome]
    constructor
    · rintro (⟨middle, turn, went⟩ | ended)
      · split at went
        next less =>
          obtain ⟨c', others, ended⟩ := (ih middle (by omega)).mp went
          exact ⟨c', .again turn others, ended⟩
        · cases went
      · exact ⟨c, .stop body c, ended⟩
    · rintro ⟨c', read, ended⟩
      rcases read.star_cases with rfl | ⟨middle, turn, less, others⟩
      · exact Or.inr ended
      · refine Or.inl ⟨middle, turn, ?_⟩
        rw [if_pos less]
        exact (ih middle (by omega)).mpr ⟨c', others, ended⟩

/-- The engine finds a way on whenever there is one. -/
theorem run_isSome (r : Regex) (c : Cursor) (next : Cursor → Option α) :
    (r.run word c next).isSome = true ↔ ∃ c', Reads word r c c' ∧ (next c').isSome = true := by
  induction r generalizing c next with
  | set member =>
    obtain ⟨before, rest⟩ := c
    cases rest with
    | nil =>
      simp only [run, Option.isSome_none, Bool.false_eq_true, false_iff, not_exists, not_and]
      rintro c' ⟨⟩
    | cons x rest =>
      by_cases found : member x = true
      · simp only [run, found, if_true]
        constructor
        · exact fun ended => ⟨_, .set found, ended⟩
        · rintro ⟨c', ⟨⟩, ended⟩
          exact ended
      · simp only [run, found, if_false, Option.isSome_none, Bool.false_eq_true, false_iff]
        rintro ⟨c', read, -⟩
        cases read
        exact found ‹_›
  | empty =>
    constructor
    · exact fun ended => ⟨c, .empty c, ended⟩
    · rintro ⟨c', ⟨⟩, ended⟩
      exact ended
  | seq first second ih ih' =>
    rw [run, ih]
    constructor
    · rintro ⟨middle, head, went⟩
      obtain ⟨c', tail, ended⟩ := (ih' middle next).mp went
      exact ⟨c', .seq head tail, ended⟩
    · rintro ⟨c', read, ended⟩
      cases read with
      | seq head tail => exact ⟨_, head, (ih' _ next).mpr ⟨c', tail, ended⟩⟩
  | alt first second ih ih' =>
    rw [run, Option.isSome_or, Bool.or_eq_true, ih, ih']
    constructor
    · rintro (⟨c', read, ended⟩ | ⟨c', read, ended⟩)
      · exact ⟨c', .left read, ended⟩
      · exact ⟨c', .right read, ended⟩
    · rintro ⟨c', read, ended⟩
      cases read with
      | left read => exact Or.inl ⟨c', read, ended⟩
      | right read => exact Or.inr ⟨c', read, ended⟩
  | star body ih => exact turns_isSome ih _ c le_rfl
  | boundary =>
    by_cases here : c.atBoundary word = true
    · simp only [run, here, if_true]
      constructor
      · exact fun ended => ⟨c, .boundary here, ended⟩
      · rintro ⟨c', ⟨⟩, ended⟩
        exact ended
    · simp only [run, here, if_false, Option.isSome_none, Bool.false_eq_true, false_iff]
      rintro ⟨c', read, -⟩
      cases read
      exact here ‹_›

theorem matchesAt_iff (r : Regex) (c : Cursor) :
    r.matchesAt word c = true ↔ ∃ c', Reads word r c c' := by
  rw [matchesAt, run_isSome]
  simp

theorem searchFrom_of_reads {before : Option Char} {skipped rest : List Char}
    (read : Reads word r ⟨skipped.getLast?.or before, rest⟩ c') :
    searchFrom word r before (skipped ++ rest) = true := by
  induction skipped generalizing before with
  | nil =>
    have here := (matchesAt_iff r _).mpr ⟨c', read⟩
    cases rest <;> simp_all [searchFrom]
  | cons x skipped ih =>
    have later : Reads word r ⟨skipped.getLast?.or (some x), rest⟩ c' := by
      rw [List.getLast?_cons] at read
      cases last : skipped.getLast? <;> simpa [last] using read
    rw [List.cons_append, searchFrom, ih later, Bool.or_true]

/-- A pattern is found wherever it can be read. -/
theorem search_of_reads {text : String} {skipped rest : List Char}
    (split : text.toList = skipped ++ rest)
    (read : Reads word r ⟨skipped.getLast?, rest⟩ c') : r.search word text = true := by
  rw [search, split]
  exact searchFrom_of_reads (by simpa using read)

/-! ### Literals -/

/-- A literal reads every text that is the same without regard to case. -/
theorem reads_literal (text : List Char) (before : Option Char) (rest : List Char) :
    ∃ c', Reads word (literal (text.map caseless)) ⟨before, text ++ rest⟩ c' ∧ c'.rest = rest := by
  induction text generalizing before with
  | nil => exact ⟨_, .empty _, rfl⟩
  | cons x text ih =>
    obtain ⟨c', read, same⟩ := ih (some x)
    exact ⟨c', .seq (.set (by simp)) read, same⟩

theorem reads_oneOf {first : Regex} {others : List Regex} (listed : r ∈ first :: others)
    (read : Reads word r c c') : Reads word (oneOf first others) c c' := by
  induction others generalizing first with
  | nil =>
    obtain rfl := List.mem_singleton.mp listed
    exact read
  | cons second others ih =>
    rcases List.mem_cons.mp listed with rfl | later
    · exact .left read
    · exact .right (ih later)

end Regex

end Support
