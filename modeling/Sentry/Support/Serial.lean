import Sentry.Support.Attempts

/-!
# One call after another

Calls that a lock lets run one at a time. Each of them asks for operations and ends with a
value or an exception, and the next one starts in the state it left; between two calls, and
while an operation is awaited, others may move the state within bounds. Every call that has
ended is remembered with what it was answered and the state it left.
-/
namespace Support

open Coroutine

variable {Γ ε Op α Call : Type} {Ans : Op → Type}

structure Ended (Γ ε : Type) {Op : Type} (Ans : Op → Type) (α Call : Type) where
  call : Call
  history : List (Done ε Ans)
  outcome : Except ε α
  final : Γ

inductive Serial (rely : (op : Op) → Γ → Except ε (Ans op) → Γ → Prop) (idle : Γ → Γ → Prop)
    (body : Call → Coroutine Γ ε Ans α) (g₀ : Γ) : List (Ended Γ ε Ans α Call) → Γ → Prop where
  | none : Serial rely idle body g₀ [] g₀
  | idle {ended g g'} (earlier : Serial rely idle body g₀ ended g) (moved : idle g g') :
      Serial rely idle body g₀ ended g'
  | call {ended g c h r g'} (earlier : Serial rely idle body g₀ ended g)
      (passes : Passes rely (body c) g h (lift r) g') :
      Serial rely idle body g₀ (ended ++ [⟨c, h, r, g'⟩]) g'

variable {rely : (op : Op) → Γ → Except ε (Ans op) → Γ → Prop} {idle : Γ → Γ → Prop}
  {body : Call → Coroutine Γ ε Ans α} {g₀ g : Γ}

namespace Serial

/-- A run up to the end of one of its calls, and the run from there. -/
theorem split {before after : List (Ended Γ ε Ans α Call)} {e : Ended Γ ε Ans α Call}
    (run : Serial rely idle body g₀ (before ++ e :: after) g) :
    Serial rely idle body g₀ (before ++ [e]) e.final ∧
      Serial rely idle body e.final after g := by
  generalize all : before ++ e :: after = ended at run
  induction run generalizing after with
  | none => simp at all
  | idle _ moved ih =>
    obtain ⟨first, rest⟩ := ih all
    exact ⟨first, rest.idle moved⟩
  | @call ended g c h r g' earlier passes ih =>
    -- the last call is the one in question, or belongs to the rest
    rcases List.eq_nil_or_concat after with rfl | ⟨later, last, rfl⟩
    · obtain ⟨same, final⟩ := List.append_inj' all rfl
      cases final
      exact ⟨same ▸ earlier.call passes, .none⟩
    · rw [List.concat_eq_append, ← List.cons_append, ← List.append_assoc] at all
      obtain ⟨same, final⟩ := List.append_inj' all rfl
      obtain ⟨first, rest⟩ := ih same
      cases final
      rw [List.concat_eq_append]
      exact ⟨first, rest.call passes⟩

/-- What every call preserves, and leaves behind when it starts from there. -/
theorem sound {I : Γ → Prop} {issue : List (Done ε Ans) → Op → Γ → Prop}
    {P : Call → List (Done ε Ans) → Γ → Except ε α → Prop}
    (between : ∀ {g g'}, I g → idle g g' → I g')
    (sat : ∀ c g, I g → Sat ⟨issue, rely⟩ (fun h g' r => I g' ∧ P c h g' r) (body c) [] g)
    {ended : List (Ended Γ ε Ans α Call)} (run : Serial rely idle body g₀ ended g)
    (start : I g₀) : I g ∧ ∀ e ∈ ended, P e.call e.history e.final e.outcome := by
  induction run with
  | none => exact ⟨start, by simp⟩
  | idle _ moved ih => exact ⟨between ih.1 moved, ih.2⟩
  | call _ passes ih =>
    have left := (sat _ _ ih.1).passes passes
    rw [sat_lift] at left
    refine ⟨left.1, ?_⟩
    intro e member
    rcases List.mem_append.mp member with old | new
    · exact ih.2 e old
    · cases List.mem_singleton.mp new
      exact left.2

/-- Every call that ended passed through its program. -/
theorem passed {ended : List (Ended Γ ε Ans α Call)} (run : Serial rely idle body g₀ ended g)
    {e : Ended Γ ε Ans α Call} (member : e ∈ ended) :
    ∃ g₁, Passes rely (body e.call) g₁ e.history (lift e.outcome) e.final := by
  induction run with
  | none => cases member
  | idle _ _ ih => exact ih member
  | call _ passes ih =>
    rcases List.mem_append.mp member with old | new
    · exact ih old
    · cases List.mem_singleton.mp new
      exact ⟨_, passes⟩

end Serial
end Support
