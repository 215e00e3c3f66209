import Mathlib.Data.List.Chain
import Mathlib.Data.List.TakeWhile
import Sentry.Market.Replay
import Sentry.Support.Substitution

/-!
# Flattening markup

`normalize_external_text` of `app/catalysts/collector.py`: entities are replaced, tags become
blanks in one pass from left to right, white space is collapsed, and the ends are cut. A bracket
that is left over is closed by the very next character or by none at all, and neither collapsing
nor cutting brings a closing bracket to it.

What replaces the entities is a parameter.
-/
namespace Sentry

open Support Regex

namespace Catalysts

/-! ### The function -/

/-- `_TAG`. -/
def tag : Regex :=
  .seq (.set fun x => x == '<') (.seq (plus (.set fun x => x != '>')) (.set fun x => x == '>'))

/-- `_SPACE`. -/
def space : Regex := plus (.set isSpace)

/-- A pattern without a group. -/
def ungrouped (pattern : Regex) : Grouped where
  group := .empty
  after := pattern

/-- Neither pattern asks where words begin. -/
def noWord : Char → Bool := fun _ => false

/-- `pattern.sub(" ", text)`. -/
def blanked (pattern : Regex) (text : String) : String :=
  (ungrouped pattern).sub noWord (fun _ => [' ']) text

/-- `text[:stop]`. -/
def upTo (stop : ℤ) (text : String) : String :=
  let length := if 0 ≤ stop then stop else text.length + stop
  String.ofList (text.toList.take length.toNat)

def normalizeExternalText (unescape : String → String) (value : String)
    (maximumLength : ℤ := 50000) : String :=
  let withoutTags := blanked tag (unescape value)
  upTo maximumLength (strip (blanked space withoutTags))

/-! ### Brackets -/

/-- What follows an opening bracket closes it at once or never. -/
def Closed (rest : List Char) : Prop := rest.head? = some '>' ∨ '>' ∉ rest

def Untagged (text : List Char) : Prop :=
  ∀ before rest, text = before ++ '<' :: rest → Closed rest

variable {word : Char → Bool} {c c' middle last : Cursor} {pattern : Regex} {text : List Char}

theorem reads_tag (read : Reads word tag c c') :
    ∃ rest, c.rest = '<' :: rest ∧ ¬Closed rest ∧ c'.rest.length < rest.length := by
  rw [tag, reads_seq_iff] at read
  obtain ⟨one, opened, read⟩ := read
  rw [reads_seq_iff] at read
  obtain ⟨two, inside, closed⟩ := read
  rw [plus, reads_seq_iff] at inside
  obtain ⟨three, first, others⟩ := inside
  obtain ⟨x, rest, split, bracket, rfl⟩ := reads_set_iff.mp opened
  obtain ⟨y, more, split', other, rfl⟩ := reads_set_iff.mp first
  obtain ⟨z, after, split'', bracket', rfl⟩ := reads_set_iff.mp closed
  obtain ⟨kept, more_eq, -⟩ := others.star_set
  simp only at split' more_eq
  simp only [beq_iff_eq] at bracket bracket'
  simp only [bne_iff_ne, ne_eq] at other
  subst bracket bracket' split'
  refine ⟨y :: more, split, ?_, ?_⟩
  · rw [more_eq, split'']
    rintro (head | none)
    · exact other (Option.some.inj head)
    · simp at none
  · rw [more_eq, split'']
    simp only [List.length_cons, List.length_append]
    omega

theorem exists_reads_tag {rest : List Char} (open_ : ¬Closed rest) (before : Option Char) :
    ∃ c', Reads word tag ⟨before, '<' :: rest⟩ c' := by
  rw [Closed, not_or, not_not] at open_
  obtain ⟨other, member⟩ := open_
  cases rest with
  | nil => simp at member
  | cons x rest =>
    simp only [List.head?_cons, Option.some.injEq] at other
    have later : '>' ∈ rest := by
      rcases List.mem_cons.mp member with here | later
      · exact absurd here.symm other
      · exact later
    -- the first bracket that closes
    obtain ⟨inside, after, rfl, fresh⟩ := List.eq_append_cons_of_mem later
    have belong : ∀ y ∈ inside, (y != '>') = true := by
      intro y member
      simp only [bne_iff_ne, ne_eq]
      rintro rfl
      exact fresh member
    obtain ⟨ended, read, left⟩ : ∃ c', Reads word (.star (.set fun y => y != '>'))
        ⟨some x, inside ++ '>' :: after⟩ c' ∧ c'.rest = '>' :: after := reads_star_set belong _ _
    refine ⟨⟨some '>', after⟩, .seq (.set (by decide)) (.seq (.seq (.set (by simpa using other)) read) ?_)⟩
    exact reads_set_iff.mpr ⟨'>', after, left, by decide, rfl⟩

theorem not_reads_of_attempt (missed : (ungrouped pattern).attempt word c = none) (c' : Cursor) :
    ¬Reads word pattern c c' := by
  intro read
  have found : ((ungrouped pattern).attempt word c).isSome = true :=
    Grouped.attempt_isSome.mpr ⟨c, c', .empty c, read⟩
  simp [missed] at found

theorem reads_of_attempt (found : (ungrouped pattern).attempt word c = some (middle, last)) :
    Reads word pattern c last := by
  obtain ⟨nothing, read⟩ := Grouped.reads_of_attempt found
  rw [reads_empty_iff.mp nothing] at read
  exact read

/-! ### One substitution -/

/-- A pattern that reads something, and nothing that begins with a closing bracket. -/
structure Blankable (pattern : Regex) : Prop where
  advances : ∀ {word : Char → Bool} {c c' : Cursor},
    Reads word pattern c c' → c'.rest.length < c.rest.length
  spares : ∀ {word : Char → Bool} {c c' : Cursor},
    Reads word pattern c c' → c.rest.head? ≠ some '>'

theorem tag_blankable : Blankable tag where
  advances read := by
    obtain ⟨rest, split, -, shorter⟩ := reads_tag read
    rw [split, List.length_cons]
    omega
  spares read := by
    obtain ⟨rest, split, -⟩ := reads_tag read
    simp [split]

theorem reads_space (read : Reads word space c c') :
    ∃ x rest, c.rest = x :: rest ∧ isSpace x = true ∧ c'.rest.length ≤ rest.length := by
  rw [space, plus, reads_seq_iff] at read
  obtain ⟨middle, first, others⟩ := read
  obtain ⟨x, rest, split, blank, rfl⟩ := reads_set_iff.mp first
  exact ⟨x, rest, split, blank, others.suffix.length_le⟩

theorem space_blankable : Blankable space where
  advances read := by
    obtain ⟨x, rest, split, -, shorter⟩ := reads_space read
    rw [split, List.length_cons]
    omega
  spares read := by
    obtain ⟨x, rest, split, blank, -⟩ := reads_space read
    rw [split, List.head?_cons]
    intro bracket
    rw [Option.some.inj bracket] at blank
    exact absurd blank (by decide)

theorem untagged_cons {x : Char} (closed : x = '<' → Closed text) (untagged : Untagged text) :
    Untagged (x :: text) := by
  intro before rest split
  cases before with
  | nil =>
    cases split
    exact closed rfl
  | cons y before =>
    rw [List.cons_append, List.cons.injEq] at split
    exact untagged before rest split.2

/-- A closing bracket stays in its place, none appears, and the brackets that are kept decide
whether a tag is left. -/
theorem blankFrom_brackets (blankable : Blankable pattern) (n : ℕ) (c : Cursor)
    (enough : c.rest.length ≤ n) :
    let out := (ungrouped pattern).subFrom word (fun _ => [' ']) n c
    (c.rest.head? = some '>' → out.head? = some '>') ∧ ('>' ∉ c.rest → '>' ∉ out) ∧
      ((∀ before rest, '<' :: rest <:+ c.rest →
        (∀ c', ¬Reads word pattern ⟨before, '<' :: rest⟩ c') → Closed rest) → Untagged out) := by
  apply Grouped.subFrom_induct (P := fun c out =>
    (c.rest.head? = some '>' → out.head? = some '>') ∧ ('>' ∉ c.rest → '>' ∉ out) ∧
      ((∀ before rest, '<' :: rest <:+ c.rest →
        (∀ c', ¬Reads word pattern ⟨before, '<' :: rest⟩ c') → Closed rest) → Untagged out))
  · intro before
    refine ⟨by simp, by simp, fun _ before rest split => ?_⟩
    simp at split
  · rintro before x rest out missed ⟨head, none, untagged⟩
    refine ⟨by simp, ?_, fun closed => ?_⟩
    · simp only [List.mem_cons, not_or]
      exact fun absent => ⟨absent.1, none absent.2⟩
    · apply untagged_cons
      · rintro rfl
        have kept := closed before rest (List.suffix_refl _) (not_reads_of_attempt missed)
        exact kept.imp head none
      · exact untagged fun before rest' suffix =>
          closed before rest' (suffix.trans (List.suffix_cons x rest))
  · rintro c middle last out found ⟨-, none, untagged⟩
    have read := reads_of_attempt found
    refine ⟨fun head => absurd head (blankable.spares read), fun absent => ?_, fun closed => ?_⟩
    · have later : '>' ∉ out := none fun member => absent (read.suffix.subset member)
      simpa using later
    · exact untagged_cons (fun bracket => absurd bracket (by decide)) (untagged fun before rest suffix =>
        closed before rest (suffix.trans read.suffix))
  · exact fun c middle last found => blankable.advances (reads_of_attempt found)
  · exact enough

theorem untagged_blanked {text : String} (blankable : Blankable pattern)
    (closed : ∀ before rest, '<' :: rest <:+ text.toList →
      (∀ c', ¬Reads noWord pattern ⟨before, '<' :: rest⟩ c') → Closed rest) :
    Untagged (blanked pattern text).toList := by
  rw [blanked, Grouped.sub, String.toList_ofList]
  exact (blankFrom_brackets blankable _ ⟨none, text.toList⟩ le_rfl).2.2 closed

/-- The pattern is read wherever a bracket is not closed, so the first pass leaves no tag. -/
theorem untagged_blanked_tag (text : String) : Untagged (blanked tag text).toList := by
  apply untagged_blanked tag_blankable
  intro before rest _ missed
  by_contra open_
  obtain ⟨c', read⟩ : ∃ c', Reads noWord tag ⟨before, '<' :: rest⟩ c' := exists_reads_tag open_ before
  exact missed c' read

theorem untagged_blanked_space {text : String} (untagged : Untagged text.toList) :
    Untagged (blanked space text).toList := by
  apply untagged_blanked space_blankable
  rintro before rest ⟨skipped, split⟩ -
  exact untagged skipped rest split.symm

/-! ### White space -/

/-- No two characters in a row are white space. -/
def Collapsed (text : List Char) : Prop :=
  text.IsChain fun x y => ¬(isSpace x = true ∧ isSpace y = true)

/-- The white space is read to its end. -/
theorem attempt_space (word : Char → Bool) (before : Option Char) {x : Char} (rest : List Char)
    (blank : isSpace x = true) :
    ∃ last, (ungrouped space).attempt word ⟨before, x :: rest⟩ =
      some (⟨before, x :: rest⟩, ⟨last, rest.dropWhile isSpace⟩) := by
  obtain ⟨last, turned⟩ : ∃ last, turns (fun c next => (Regex.set isSpace).run word c next)
      rest.length ⟨some x, rest⟩ (fun last => some ((⟨before, x :: rest⟩ : Cursor), last)) =
        some (⟨before, x :: rest⟩, ⟨last, rest.dropWhile isSpace⟩) :=
    turns_set (fun _ => rfl) rest.length ⟨some x, rest⟩ le_rfl
  have one : (ungrouped space).attempt word ⟨before, x :: rest⟩ =
      (Regex.set isSpace).run word ⟨before, x :: rest⟩ fun c =>
        turns (fun c next => (Regex.set isSpace).run word c next) c.rest.length c
          fun last => some (⟨before, x :: rest⟩, last) := rfl
  refine ⟨last, ?_⟩
  rw [one, run_set_cons, if_pos blank]
  exact turned

theorem head_dropWhile (text : List Char) :
    ∀ x ∈ (text.dropWhile isSpace).head?, isSpace x = false := by
  intro x first
  rw [← List.find?_not_eq_head?_dropWhile] at first
  simpa using List.find?_some first

/-- After white space that became one blank comes none. -/
theorem blankFrom_collapsed (n : ℕ) (c : Cursor) (enough : c.rest.length ≤ n) :
    let out := (ungrouped space).subFrom word (fun _ => [' ']) n c
    Collapsed out ∧ ((∀ x ∈ c.rest.head?, isSpace x = false) → ∀ x ∈ out.head?, isSpace x = false) := by
  apply Grouped.subFrom_induct (P := fun c out => Collapsed out ∧
    ((∀ x ∈ c.rest.head?, isSpace x = false) → ∀ x ∈ out.head?, isSpace x = false))
  · exact fun before => ⟨.nil, by simp⟩
  · rintro before x rest out missed ⟨collapsed, -⟩
    have solid : isSpace x = false := by
      by_contra blank
      obtain ⟨last, found⟩ := attempt_space word before rest
        (Bool.not_eq_false _ ▸ blank)
      simp [missed] at found
    refine ⟨List.isChain_cons.mpr ⟨fun y _ => by simp [solid], collapsed⟩, fun _ => by simp [solid]⟩
  · rintro c middle last out found ⟨collapsed, head⟩
    obtain ⟨x, rest, split, blank, -⟩ := reads_space (reads_of_attempt found)
    obtain ⟨before, text⟩ := c
    obtain rfl : text = x :: rest := split
    obtain ⟨last', found'⟩ := attempt_space word before rest blank
    cases found.symm.trans found'
    have solid := head (head_dropWhile rest)
    refine ⟨List.isChain_cons.mpr ⟨fun y first => ?_, collapsed⟩, fun solid => ?_⟩
    · simp [solid y first]
    · exact absurd (solid x rfl) (by simp [blank])
  · exact fun c middle last found => space_blankable.advances (reads_of_attempt found)
  · exact enough

theorem collapsed_blanked_space (text : String) : Collapsed (blanked space text).toList := by
  rw [blanked, Grouped.sub, String.toList_ofList]
  exact (blankFrom_collapsed _ ⟨none, text.toList⟩ le_rfl).1

/-! ### The ends -/

theorem Untagged.part {skipped inside left : List Char}
    (untagged : Untagged (skipped ++ inside ++ left)) : Untagged inside := by
  rintro before rest rfl
  have closed := untagged (skipped ++ before) (rest ++ left) (by simp)
  rcases closed with head | none
  · cases rest with
    | nil => exact Or.inr (by simp)
    | cons x rest => exact Or.inl (by simpa using head)
  · exact Or.inr fun member => none (List.mem_append_left left member)

theorem toList_upTo {stop : ℤ} (nonneg : 0 ≤ stop) (text : String) :
    (upTo stop text).toList = text.toList.take stop.toNat := by
  simp [upTo, nonneg]

theorem head_of_prefix {text beginning : List Char} (part : beginning <+: text)
    (solid : ∀ x ∈ text.head?, isSpace x = false) : ∀ x ∈ beginning.head?, isSpace x = false := by
  obtain ⟨left, rfl⟩ := part
  cases beginning with
  | nil => simp
  | cons x rest => simpa using solid

theorem head_strip (text : String) : ∀ x ∈ (strip text).toList.head?, isSpace x = false := by
  rw [strip, String.toList_ofList]
  exact head_of_prefix (List.rdropWhile_prefix _ _) (head_dropWhile _)

theorem search_tag {text : String} (untagged : Untagged text.toList) :
    tag.search noWord text = false := by
  by_contra found
  obtain ⟨skipped, rest, before, c', split, read⟩ :=
    reads_of_searchFrom (Bool.not_eq_false _ ▸ found)
  obtain ⟨rest', bracket, open_, -⟩ := reads_tag read
  simp only at bracket
  subst bracket
  exact open_ (untagged skipped rest' split)

/-- Whatever the entities of a text stand for, what is left has no tag, no two characters of white
space in a row and none at its beginning. -/
theorem normalizeExternalText_flat (unescape : String → String) (value : String)
    (maximumLength : ℤ) (nonneg : 0 ≤ maximumLength) :
    let text := normalizeExternalText unescape value maximumLength
    (text.length : ℤ) ≤ maximumLength ∧ tag.search noWord text = false ∧
      Collapsed text.toList ∧ ∀ x ∈ text.toList.head?, isSpace x = false := by
  have untagged := untagged_blanked_space (untagged_blanked_tag (unescape value))
  have collapsed := collapsed_blanked_space (blanked tag (unescape value))
  simp only [normalizeExternalText]
  generalize blanked space (blanked tag (unescape value)) = flat at untagged collapsed ⊢
  have text := toList_upTo nonneg (strip flat)
  -- what is kept is a part of the flat text
  obtain ⟨before, after, cut⟩ := strip_infix flat
  rw [← List.take_append_drop maximumLength.toNat (strip flat).toList, ← text,
    List.append_assoc, List.append_assoc, ← List.append_assoc] at cut
  rw [cut] at untagged collapsed
  refine ⟨?_, search_tag untagged.part, collapsed.left_of_append.right_of_append, ?_⟩
  · rw [← String.length_toList, text, List.length_take]
    omega
  · rw [text]
    exact head_of_prefix (List.take_prefix _ _) (head_strip flat)

/-- Brackets that are left over next to a tag that is removed. -/
theorem normalizeExternalText_flat_nested :
    let text := normalizeExternalText id "<<a>b>\t <><c>" 4
    text = "b> <" ∧ (text.length : ℤ) ≤ 4 ∧ tag.search noWord text = false ∧
      Collapsed text.toList ∧ ∀ x ∈ text.toList.head?, isSpace x = false :=
  ⟨by decide +kernel, normalizeExternalText_flat id _ 4 (by decide)⟩

end Catalysts

end Sentry
