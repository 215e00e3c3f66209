import Sentry.Support.Attempts

/-!
# Triples over coroutines

From a precondition on the ambient state a program ends in a postcondition on its value and the
state, or raises into a condition on the exception and the state. Nothing is said of what was
asked for before. The rules follow the shapes of programs; a program that is attempted again and
again keeps what one attempt keeps.
-/
namespace Support.Coroutine

variable {Γ ε Op α β : Type} {Ans : Op → Type} {S : Spec Γ ε Ans} {E : ε → Γ → Prop}
  {P : Γ → Prop} {Q : α → Γ → Prop} {R : β → Γ → Prop}

/-- The value satisfies `Q` or the exception satisfies `E`. -/
def Post.either (E : ε → Γ → Prop) (Q : α → Γ → Prop) : Post Γ ε Ans α
  | _, g, .ok a => Q a g
  | _, g, .error e => E e g

def Triple (S : Spec Γ ε Ans) (E : ε → Γ → Prop) (P : Γ → Prop) (p : Coroutine Γ ε Ans α)
    (Q : α → Γ → Prop) : Prop :=
  ∀ h g, P g → Sat S (Post.either E Q) p h g

namespace Triple

theorem consequence {P' : Γ → Prop} {Q' : α → Γ → Prop} {p : Coroutine Γ ε Ans α}
    (triple : Triple S E P p Q) (stronger : ∀ g, P' g → P g) (weaker : ∀ a g, Q a g → Q' a g) :
    Triple S E P' p Q' := by
  intro h g now
  refine Sat.mono ?_ (triple h g (stronger g now))
  intro h g r ended
  cases r with
  | ok a => exact weaker a g ended
  | error e => exact ended

theorem strengthen {P' : Γ → Prop} {p : Coroutine Γ ε Ans α} (triple : Triple S E P p Q)
    (stronger : ∀ g, P' g → P g) : Triple S E P' p Q :=
  triple.consequence stronger fun _ _ => id

theorem weaken {Q' : α → Γ → Prop} {p : Coroutine Γ ε Ans α} (triple : Triple S E P p Q)
    (weaker : ∀ a g, Q a g → Q' a g) : Triple S E P p Q' :=
  triple.consequence (fun _ => id) weaker

/-- A fact about values alone may be used to prove a triple. -/
theorem assuming {c : Prop} {p : Coroutine Γ ε Ans α} (triple : c → Triple S E P p Q) :
    Triple S E (fun g => c ∧ P g) p Q :=
  fun h g now => triple now.1 h g now.2

/-- What is known to exist may be named. -/
theorem of_exists {ι : Type} {I : ι → Γ → Prop} {p : Coroutine Γ ε Ans α}
    (each : ∀ i, Triple S E (I i) p Q) : Triple S E (fun g => ∃ i, I i g) p Q :=
  fun h g ⟨i, now⟩ => each i h g now

theorem pure {a : α} (now : ∀ g, P g → Q a g) :
    Triple S E P (Pure.pure a : Coroutine Γ ε Ans α) Q :=
  fun _ g => now g

theorem raise {e : ε} (now : ∀ g, P g → E e g) :
    Triple S E P (Coroutine.raise e : Coroutine Γ ε Ans α) Q :=
  fun _ g => now g

theorem bind {p : Coroutine Γ ε Ans β} {f : β → Coroutine Γ ε Ans α}
    (first : Triple S E P p R) (rest : ∀ b, Triple S E (R b) (f b) Q) :
    Triple S E P (p >>= f) Q := by
  intro h g now
  rw [sat_bind]
  refine Sat.mono ?_ (first h g now)
  intro h g r ended
  cases r with
  | ok b => exact rest b h g ended
  | error e => exact ended

/-- The value of the first part is not used. -/
theorem seq {I : Γ → Prop} {p : Coroutine Γ ε Ans β} {f : β → Coroutine Γ ε Ans α}
    (first : Triple S E P p fun _ => I) (rest : ∀ b, Triple S E I (f b) Q) :
    Triple S E P (p >>= f) Q :=
  first.bind rest

theorem attempt {H : ε → Γ → Prop} {p : Coroutine Γ ε Ans α} {f : ε → Coroutine Γ ε Ans α}
    (body : Triple S H P p Q) (handler : ∀ e, Triple S E (H e) (f e) Q) :
    Triple S E P (Coroutine.attempt p f) Q := by
  intro h g now
  rw [sat_attempt]
  refine Sat.mono ?_ (body h g now)
  intro h g r ended
  cases r with
  | ok a => exact ended
  | error e => exact handler e h g ended

theorem peek {φ : Γ → β} {f : β → Coroutine Γ ε Ans α}
    (rest : ∀ b, Triple S E (fun g => P g ∧ φ g = b) (f b) Q) :
    Triple S E P (Coroutine.peek φ >>= f) Q :=
  fun h g now => rest (φ g) h g ⟨now, rfl⟩

theorem change {φ : Γ → Γ} {Q : Unit → Γ → Prop} (now : ∀ g, P g → Q () (φ g)) :
    Triple S E P (Coroutine.change φ) Q :=
  fun _ g => now g

theorem raiseIf {c : Bool} {e : ε} {f : Unit → Coroutine Γ ε Ans α}
    (raised : c = true → ∀ g, P g → E e g) (rest : c = false → Triple S E P (f ()) Q) :
    Triple S E P (Coroutine.raiseIf c e >>= f) Q :=
  fun h g now => Sat.raiseIf_bind (fun yes => raised yes g now) fun no => rest no h g now

theorem lift {x : Except ε α} (raised : ∀ e, x = .error e → ∀ g, P g → E e g)
    (returned : ∀ a, x = .ok a → ∀ g, P g → Q a g) :
    Triple S E P (Coroutine.lift x : Coroutine Γ ε Ans α) Q := by
  intro h g now
  rw [sat_lift]
  cases x with
  | ok a => exact returned a rfl g now
  | error e => exact raised e rfl g now

theorem call {op : Op} {Q : Ans op → Γ → Prop} (issue : ∀ h g, P g → S.issue h op g)
    (failed : ∀ g e g', P g → S.rely op g (.error e) g' → E e g')
    (answered : ∀ g a g', P g → S.rely op g (.ok a) g' → Q a g') :
    Triple S E P (Coroutine.call op) Q := by
  intro h g now
  rw [sat_call]
  refine ⟨issue h g now, fun r g' moved => ?_⟩
  cases r with
  | ok a => exact answered g a g' now moved
  | error e => exact failed g e g' now moved

end Triple

/-! ### Attempts -/

section Attempts

variable {rely : (op : Op) → Γ → Except ε (Ans op) → Γ → Prop} {idle : Γ → Γ → Prop}
  {p : Coroutine Γ ε Ans α} {g₀ : Γ}

/-- What each attempt establishes when it returns, and keeps when it does not, holds between
attempts: the last value is as it was when it was returned. -/
theorem Triple.attempts {I Now : Γ → Prop} {Last : α → Γ → Prop} (start : I g₀)
    (waits : ∀ {g g'}, I g → idle g g' → I g')
    (remains : ∀ {a g g'}, Last a g → idle g g' → Last a g')
    (each : Triple ⟨fun _ _ g => Now g, rely⟩ (fun _ g => I g) I p fun a g => I g ∧ Last a g) :
    Attempts.Sound rely idle p g₀
      (fun _ rs g => I g ∧ ∀ a, rs.getLast? = some (.ok a) → Last a g)
      fun _ _ _ g => Now g where
  start := ⟨start, fun a none_ => by cases none_⟩
  idle := by
    rintro h rs g g' ⟨now, last⟩ moved
    exact ⟨waits now moved, fun a returned => remains (last a returned) moved⟩
  attempt := by
    rintro h rs g ⟨now, -⟩
    refine Sat.mono ?_ (each h g now)
    intro h g r ended
    cases r with
    | ok a =>
      refine ⟨ended.1, fun b returned => ?_⟩
      rw [List.getLast?_concat] at returned
      cases returned
      exact ended.2
    | error e =>
      refine ⟨ended, fun b returned => ?_⟩
      rw [List.getLast?_concat] at returned
      cases returned

end Attempts

end Support.Coroutine
