import Sentry.Support.Regex

/-!
# What a substitution leaves

A search that finds something has read it, and a substitution keeps the characters at which its
pattern cannot be read. `subFrom_induct` is the rule for a fact about a text and what becomes of
it. A repeated class of characters is read to its end.
-/
namespace Support

namespace Regex

variable {α : Type} {word : Char → Bool} {r body first second : Regex} {c c' : Cursor}

/-! ### Reading -/

theorem reads_set_iff {member : Char → Bool} : Reads word (.set member) c c' ↔
    ∃ x rest, c.rest = x :: rest ∧ member x = true ∧ c' = ⟨some x, rest⟩ := by
  obtain ⟨before, text⟩ := c
  constructor
  · intro read
    cases read
    exact ⟨_, _, rfl, ‹_›, rfl⟩
  · rintro ⟨x, rest, rfl, found, rfl⟩
    exact .set found

theorem reads_seq_iff : Reads word (.seq first second) c c' ↔
    ∃ middle, Reads word first c middle ∧ Reads word second middle c' := by
  constructor
  · intro read
    cases read
    exact ⟨_, ‹_›, ‹_›⟩
  · rintro ⟨middle, head, tail⟩
    exact .seq head tail

theorem reads_empty_iff : Reads word .empty c c' ↔ c' = c := by
  constructor
  · intro read
    cases read
    rfl
  · rintro rfl
    exact .empty c'

/-- What is left after reading is the end of the text. -/
theorem Reads.suffix (read : Reads word r c c') : c'.rest <:+ c.rest := by
  induction read with
  | set found => exact List.suffix_cons _ _
  | empty c | stop body c => exact List.suffix_refl _
  | boundary here => exact List.suffix_refl _
  | left read ih | right read ih => exact ih
  | seq head tail ih ih' | again head tail ih ih' => exact ih'.trans ih

/-- What a repeated class has read belongs to the class. -/
theorem Reads.star_set {member : Char → Bool} (read : Reads word (.star (.set member)) c c') :
    ∃ inside, c.rest = inside ++ c'.rest ∧ ∀ x ∈ inside, member x = true := by
  generalize same : Regex.star (.set member) = repeated at read
  induction read with
  | set found => cases same
  | empty c => cases same
  | seq head tail => cases same
  | left read => cases same
  | right read => cases same
  | boundary here => cases same
  | stop body c => exact ⟨[], rfl, by simp⟩
  | again turn others _ ih =>
    cases same
    obtain ⟨inside, split, belong⟩ := ih rfl
    obtain ⟨x, rest, head, found, rfl⟩ := reads_set_iff.mp turn
    refine ⟨x :: inside, by rw [head, List.cons_append, ← split], ?_⟩
    simpa [found] using belong

theorem reads_star_set {member : Char → Bool} {inside : List Char}
    (belong : ∀ x ∈ inside, member x = true) (before : Option Char) (rest : List Char) :
    ∃ c', Reads word (.star (.set member)) ⟨before, inside ++ rest⟩ c' ∧ c'.rest = rest := by
  induction inside generalizing before with
  | nil => exact ⟨_, .stop _ _, rfl⟩
  | cons x inside ih =>
    obtain ⟨c', read, same⟩ := ih (fun y member => belong y (List.mem_cons_of_mem x member)) (some x)
    exact ⟨c', .again (.set (belong x List.mem_cons_self)) read, same⟩

theorem turns_eq_some {a : α}
    (body_eq_some : ∀ (c : Cursor) (next : Cursor → Option α), body.run word c next = some a →
      ∃ c', Reads word body c c' ∧ next c' = some a)
    {next : Cursor → Option α} (n : ℕ) (c : Cursor)
    (ran : turns (fun c next => body.run word c next) n c next = some a) :
    ∃ c', Reads word (.star body) c c' ∧ next c' = some a := by
  induction n generalizing c with
  | zero => exact ⟨c, .stop body c, ran⟩
  | succ n ih =>
    rw [turns, Option.or_eq_some_iff] at ran
    rcases ran with turned | ⟨-, ended⟩
    · obtain ⟨middle, turn, went⟩ := body_eq_some c _ turned
      split at went
      · obtain ⟨c', others, ended⟩ := ih middle went
        exact ⟨c', .again turn others, ended⟩
      · cases went
    · exact ⟨c, .stop body c, ended⟩

/-- What the engine comes to was read. -/
theorem run_eq_some {a : α} (r : Regex) (c : Cursor) (next : Cursor → Option α)
    (ran : r.run word c next = some a) : ∃ c', Reads word r c c' ∧ next c' = some a := by
  induction r generalizing c next with
  | set member =>
    rw [run] at ran
    split at ran
    · cases ran
    next x rest here =>
      split at ran
      next found => exact ⟨_, reads_set_iff.mpr ⟨x, rest, here, found, rfl⟩, ran⟩
      next => cases ran
  | empty => exact ⟨c, .empty c, ran⟩
  | seq first second ih ih' =>
    obtain ⟨middle, head, went⟩ := ih c _ ran
    obtain ⟨c', tail, ended⟩ := ih' middle next went
    exact ⟨c', .seq head tail, ended⟩
  | alt first second ih ih' =>
    rw [run, Option.or_eq_some_iff] at ran
    rcases ran with left | ⟨-, right⟩
    · obtain ⟨c', read, ended⟩ := ih c next left
      exact ⟨c', .left read, ended⟩
    · obtain ⟨c', read, ended⟩ := ih' c next right
      exact ⟨c', .right read, ended⟩
  | star body ih => exact turns_eq_some ih _ c ran
  | boundary =>
    rw [run] at ran
    split at ran
    next here => exact ⟨c, .boundary here, ran⟩
    next => cases ran

theorem run_set_cons (member : Char → Bool) (before : Option Char) (x : Char) (rest : List Char)
    (next : Cursor → Option α) : (Regex.set member).run word ⟨before, x :: rest⟩ next =
      if member x then next ⟨some x, rest⟩ else none := rfl

/-- A repeated class is read to its end when what comes after it always succeeds. -/
theorem turns_set {member : Char → Bool} {next : Cursor → Option α}
    (goes : ∀ c, (next c).isSome = true) (n : ℕ) (c : Cursor) (enough : c.rest.length ≤ n) :
    ∃ before, turns (fun c next => (Regex.set member).run word c next) n c next =
      next ⟨before, c.rest.dropWhile member⟩ := by
  induction n generalizing c with
  | zero =>
    obtain ⟨before, text⟩ := c
    obtain rfl : text = [] := List.eq_nil_of_length_eq_zero (Nat.le_zero.mp enough)
    exact ⟨before, rfl⟩
  | succ n ih =>
    obtain ⟨before, text⟩ := c
    cases text with
    | nil => exact ⟨before, by simp [turns, run]⟩
    | cons x rest =>
      by_cases found : member x = true
      · obtain ⟨last, turned⟩ := ih ⟨some x, rest⟩ (by simpa using enough)
        refine ⟨last, ?_⟩
        have shorter : rest.length < (x :: rest).length := Nat.lt_succ_self _
        rw [turns, run_set_cons, if_pos found, if_pos shorter, turned,
          List.dropWhile_cons_of_pos found]
        -- the turn succeeds, so the way on without it is not tried
        exact Option.or_of_isSome (goes _)
      · exact ⟨before, by simp [turns, run, found]⟩

theorem reads_of_searchFrom {before : Option Char} {text : List Char}
    (found : searchFrom word r before text = true) :
    ∃ skipped rest before' c', text = skipped ++ rest ∧ Reads word r ⟨before', rest⟩ c' := by
  induction text generalizing before with
  | nil =>
    obtain ⟨c', read⟩ := (matchesAt_iff r _).mp found
    exact ⟨[], [], before, c', rfl, read⟩
  | cons x text ih =>
    rw [searchFrom, Bool.or_eq_true] at found
    rcases found with here | later
    · obtain ⟨c', read⟩ := (matchesAt_iff r _).mp here
      exact ⟨[], x :: text, before, c', rfl, read⟩
    · obtain ⟨skipped, rest, before', c', split, read⟩ := ih later
      exact ⟨x :: skipped, rest, before', c', by rw [split, List.cons_append], read⟩

/-! ### Substitutions -/

namespace Grouped

variable {p : Grouped} {write : List Char → List Char} {middle last : Cursor}

theorem attempt_isSome : (p.attempt word c).isSome = true ↔
    ∃ middle last, Reads word p.group c middle ∧ Reads word p.after middle last := by
  rw [attempt, run_isSome]
  constructor
  · rintro ⟨middle, head, went⟩
    obtain ⟨last, tail, -⟩ := (run_isSome _ _ _).mp went
    exact ⟨middle, last, head, tail⟩
  · rintro ⟨middle, last, head, tail⟩
    exact ⟨middle, head, (run_isSome _ _ _).mpr ⟨last, tail, rfl⟩⟩

theorem reads_of_attempt (found : p.attempt word c = some (middle, last)) :
    Reads word p.group c middle ∧ Reads word p.after middle last := by
  obtain ⟨middle', head, went⟩ := run_eq_some _ _ _ found
  obtain ⟨last', tail, ended⟩ := run_eq_some _ _ _ went
  cases ended
  exact ⟨head, tail⟩

/-- A character is kept where nothing is read, and what is read is written anew. -/
theorem subFrom_induct {P : Cursor → List Char → Prop}
    (ended : ∀ before, P ⟨before, []⟩ [])
    (kept : ∀ before x rest out, p.attempt word ⟨before, x :: rest⟩ = none →
      P ⟨some x, rest⟩ out → P ⟨before, x :: rest⟩ (x :: out))
    (written : ∀ c middle last out, p.attempt word c = some (middle, last) → P last out →
      P c (write (c.rest.take (c.rest.length - middle.rest.length)) ++ out))
    (advances : ∀ c middle last, p.attempt word c = some (middle, last) →
      last.rest.length < c.rest.length)
    (n : ℕ) (c : Cursor) (enough : c.rest.length ≤ n) : P c (p.subFrom word write n c) := by
  induction n generalizing c with
  | zero =>
    obtain ⟨before, text⟩ := c
    obtain rfl : text = [] := List.eq_nil_of_length_eq_zero (Nat.le_zero.mp enough)
    exact ended before
  | succ n ih =>
    obtain ⟨before, text⟩ := c
    cases text with
    | nil => exact ended before
    | cons x rest =>
      cases found : p.attempt word ⟨before, x :: rest⟩ with
      | none =>
        simp only [subFrom, found]
        exact kept before x rest _ found (ih _ (by simpa using enough))
      | some places =>
        obtain ⟨middle, last⟩ := places
        have shorter := advances _ _ _ found
        simp only [subFrom, found]
        simp only at enough shorter
        exact written _ _ _ _ found (ih last (by omega))

end Grouped

end Regex

end Support
