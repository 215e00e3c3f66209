import Sentry.Support.Triples

/-!
# Services that others use too

Operations on a shared state. While one is awaited others move the state; then it is answered and
its effect is committed, or it fails, and may have been committed all the same. An exception may
take part of the state with it, as the end of a process takes its memory.
-/
namespace Support.Coroutine

variable {Γ ε Op : Type}

/-- What is known of the operations. -/
structure Service (Γ ε : Type) {Op : Type} (Ans : Op → Type) where
  others : Γ → Γ → Prop
  answers : (op : Op) → Γ → Ans op → Prop
  commits : Op → Γ → Γ → Prop
  after : ε → Γ → Γ

namespace Service

variable {Ans : Op → Type} (service : Service Γ ε Ans)

def Performs (op : Op) (g : Γ) (r : Except ε (Ans op)) (g' : Γ) : Prop :=
  match r with
  | .ok answer => service.answers op g answer ∧ service.commits op g g'
  | .error e => ∃ g₁, (g₁ = g ∨ service.commits op g g₁) ∧ g' = service.after e g₁

def rely (op : Op) (g : Γ) (r : Except ε (Ans op)) (g' : Γ) : Prop :=
  ∃ g₁, service.others g g₁ ∧ service.Performs op g₁ r g'

/-- Every operation may be asked for where `Now` holds. -/
def spec (Now : Γ → Prop) : Spec Γ ε Ans := ⟨fun _ _ g => Now g, service.rely⟩

variable {service} {op : Op} {Now P : Γ → Prop} {E : ε → Γ → Prop} {Q : Ans op → Γ → Prop}

/-- An operation, committed or not, from what others keep. -/
theorem call (now : ∀ g, P g → Now g) (stable : ∀ g g', service.others g g' → P g → P g')
    (failed : ∀ g e, P g → E e (service.after e g))
    (lost : ∀ g g' e, P g → service.commits op g g' → E e (service.after e g'))
    (answered : ∀ g a g', P g → service.answers op g a → service.commits op g g' → Q a g') :
    Triple (service.spec Now) E P (Coroutine.call op) Q := by
  refine Triple.call (fun _ => now) ?_ ?_
  · rintro g e g' holds ⟨g₁, moved, g₂, reached, rfl⟩
    have before := stable g g₁ moved holds
    rcases reached with rfl | committed
    · exact failed g₂ e before
    · exact lost g₁ g₂ e before committed
  · rintro g a g' holds ⟨g₁, moved, answer, committed⟩
    exact answered g₁ a g' (stable g g₁ moved holds) answer committed

/-- An operation without an effect. -/
theorem read (idle : ∀ g g', service.commits op g g' → g' = g) (now : ∀ g, P g → Now g)
    (stable : ∀ g g', service.others g g' → P g → P g')
    (failed : ∀ g e, P g → E e (service.after e g)) :
    Triple (service.spec Now) E P (Coroutine.call op) fun a g => service.answers op g a ∧ P g := by
  refine call now stable failed ?_ ?_
  · intro g g' e holds committed
    rw [idle g g' committed]
    exact failed g e holds
  · intro g a g' holds answer committed
    rw [idle g g' committed]
    exact ⟨answer, holds⟩

end Service

end Support.Coroutine
