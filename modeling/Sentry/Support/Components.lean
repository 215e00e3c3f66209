import Sentry.Support.Coroutine

/-!
# Components

A coroutine over a part of a state, run as a part of a larger program. The component says where
its part is, and under which names the surroundings know the operations it asks for. Whatever
such a coroutine is answered, it only ever changes the state by putting its part back.
-/
namespace Support
namespace Coroutine

variable {Γ Δ ε Op Op' α : Type} {Ans : Op → Type} {Ans' : Op' → Type}

/-- A part of a state with operations of its own. -/
structure Component (Γ Δ : Type) {Op Op' : Type} (Ans : Op → Type) (Ans' : Op' → Type) where
  get : Γ → Δ
  put : Δ → Γ → Γ
  op : Op' → Op
  answer : ∀ o, Ans (op o) → Ans' o

def within (c : Component Γ Δ Ans Ans') : Coroutine Δ ε Ans' α → Coroutine Γ ε Ans α
  | ret a => ret a
  | raise e => raise e
  | read k => read fun g => within c (k (c.get g))
  | write u k => write (fun g => c.put (u (c.get g)) g) (within c k)
  | await o k => await (c.op o) fun r => within c (k (r.map (c.answer o)))

/-- What does not depend on the part is kept by everything that runs over it. -/
theorem keeps_within {I : Γ → Prop} {c : Component Γ Δ Ans Ans'}
    (spared : ∀ d g, I g → I (c.put d g)) (p : Coroutine Δ ε Ans' α) : Keeps I (within c p) := by
  induction p with
  | ret a => trivial
  | raise e => trivial
  | read k ih => exact fun g => ih (c.get g)
  | write u k ih => exact ⟨fun g => spared (u (c.get g)) g, ih⟩
  | await o k ih => exact fun r => ih (r.map (c.answer o))

end Coroutine
end Support
