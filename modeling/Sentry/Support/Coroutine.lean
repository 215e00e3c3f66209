import Mathlib.Data.List.Basic
import Mathlib.Tactic.Common

/-!
# Coroutines

Programs that run alone between two suspension points. A coroutine reads and
writes an ambient state and suspends only to ask its surroundings for an
operation; while it is suspended the ambient state may change, and any failure,
cancellation included, may be raised at the suspension point in place of the
answer.

`Sat` is a weakest precondition over such programs: what is guaranteed whenever an
operation is asked for, given everything that was answered before, and what holds
when the program ends.
-/
namespace Support

/-- A program over the ambient state `Γ` that raises `ε`, asks for operations `Op`
and is answered in `Ans`. -/
inductive Coroutine (Γ ε : Type) {Op : Type} (Ans : Op → Type) (α : Type) : Type where
  | ret (a : α)
  | raise (e : ε)
  | read (k : Γ → Coroutine Γ ε Ans α)
  | write (f : Γ → Γ) (k : Coroutine Γ ε Ans α)
  | await (op : Op) (k : Except ε (Ans op) → Coroutine Γ ε Ans α)

/-- An operation that was asked for, and how it was answered. -/
structure Done (ε : Type) {Op : Type} (Ans : Op → Type) where
  op : Op
  answer : Except ε (Ans op)

variable {Γ ε Op α β : Type} {Ans : Op → Type}

namespace Coroutine

def bind : Coroutine Γ ε Ans α → (α → Coroutine Γ ε Ans β) → Coroutine Γ ε Ans β
  | ret a, f => f a
  | raise e, _ => raise e
  | read k, f => read fun g => bind (k g) f
  | write u k, f => write u (bind k f)
  | await op k, f => await op fun r => bind (k r) f

instance : Monad (Coroutine Γ ε Ans) where
  pure := ret
  bind := bind

/-- `try … except`: the handler decides by itself which exceptions it lets through. -/
def attempt : Coroutine Γ ε Ans α → (ε → Coroutine Γ ε Ans α) → Coroutine Γ ε Ans α
  | ret a, _ => ret a
  | raise e, f => f e
  | read k, f => read fun g => attempt (k g) f
  | write u k, f => write u (attempt k f)
  | await op k, f => await op fun r => attempt (k r) f

/-- Ask for an operation and let its failure through. -/
def call (op : Op) : Coroutine Γ ε Ans (Ans op) :=
  await op fun r => match r with
    | .ok a => ret a
    | .error e => raise e

def peek (f : Γ → α) : Coroutine Γ ε Ans α := read fun g => ret (f g)

def change (f : Γ → Γ) : Coroutine Γ ε Ans Unit := write f (ret ())

def raiseIf (c : Bool) (e : ε) : Coroutine Γ ε Ans Unit := if c then raise e else ret ()

/-- A synchronous computation that fails or not. -/
def lift : Except ε α → Coroutine Γ ε Ans α
  | .ok a => ret a
  | .error e => raise e

/-! ### Specifications -/

/-- `issue` is what holds when an operation is asked for, after a history of answered
ones; `rely` bounds what may happen to the ambient state while it is awaited. -/
structure Spec (Γ ε : Type) {Op : Type} (Ans : Op → Type) where
  issue : List (Done ε Ans) → Op → Γ → Prop
  rely : (op : Op) → Γ → Except ε (Ans op) → Γ → Prop

/-- What holds at the end: after a history, in an ambient state, for an outcome. -/
abbrev Post (Γ ε : Type) {Op : Type} (Ans : Op → Type) (α : Type) :=
  List (Done ε Ans) → Γ → Except ε α → Prop

def Sat (S : Spec Γ ε Ans) (Q : Post Γ ε Ans α) :
    Coroutine Γ ε Ans α → List (Done ε Ans) → Γ → Prop
  | ret a, h, g => Q h g (.ok a)
  | raise e, h, g => Q h g (.error e)
  | read k, h, g => Sat S Q (k g) h g
  | write u k, h, g => Sat S Q k h (u g)
  | await op k, h, g =>
    S.issue h op g ∧ ∀ r g', S.rely op g r g' → Sat S Q (k r) (h ++ [⟨op, r⟩]) g'

variable {S : Spec Γ ε Ans} {Q : Post Γ ε Ans α} {h : List (Done ε Ans)} {g : Γ}

/-- The postcondition of the first part of a sequence. -/
def Post.before (S : Spec Γ ε Ans) (Q : Post Γ ε Ans β) (f : α → Coroutine Γ ε Ans β) :
    Post Γ ε Ans α
  | h, g, .ok a => Sat S Q (f a) h g
  | h, g, .error e => Q h g (.error e)

/-- The postcondition of a guarded block. -/
def Post.guarded (S : Spec Γ ε Ans) (Q : Post Γ ε Ans α) (f : ε → Coroutine Γ ε Ans α) :
    Post Γ ε Ans α
  | h, g, .ok a => Q h g (.ok a)
  | h, g, .error e => Sat S Q (f e) h g

theorem sat_bind (p : Coroutine Γ ε Ans α) (f : α → Coroutine Γ ε Ans β) (Q : Post Γ ε Ans β) :
    Sat S Q (p >>= f) h g ↔ Sat S (Post.before S Q f) p h g := by
  change Sat S Q (bind p f) h g ↔ _
  induction p generalizing h g with
  | ret a => rfl
  | raise e => rfl
  | read k ih => exact ih g
  | write u k ih => exact ih
  | await op k ih => simp only [bind, Sat, ih]

theorem sat_attempt (p : Coroutine Γ ε Ans α) (f : ε → Coroutine Γ ε Ans α) :
    Sat S Q (attempt p f) h g ↔ Sat S (Post.guarded S Q f) p h g := by
  induction p generalizing h g with
  | ret a => rfl
  | raise e => rfl
  | read k ih => exact ih g
  | write u k ih => exact ih
  | await op k ih => simp only [attempt, Sat, ih]

theorem sat_raiseIf (c : Bool) (e : ε) (Q : Post Γ ε Ans Unit) :
    Sat S Q (raiseIf c e) h g ↔
      (c = true → Q h g (.error e)) ∧ (c = false → Q h g (.ok ())) := by
  cases c <;> simp [raiseIf, Sat]

theorem sat_lift (x : Except ε α) : Sat S Q (lift x) h g ↔ Q h g x := by
  cases x <;> rfl

/-- Asking for an operation: it may be asked for, and every answer is covered. -/
theorem sat_call (op : Op) (Q : Post Γ ε Ans (Ans op)) :
    Sat S Q (call op) h g ↔
      S.issue h op g ∧ ∀ r g', S.rely op g r g' → Q (h ++ [⟨op, r⟩]) g' r := by
  have answered : ∀ r g', Sat S Q
      (match r with
        | .ok a => ret a
        | .error e => raise e) (h ++ [⟨op, r⟩]) g' ↔ Q (h ++ [⟨op, r⟩]) g' r := by
    intro r g'
    cases r <;> rfl
  simp only [call, Sat, answered]

/-! ### Running a sequence symbolically -/

section Sequence

variable {Q : Post Γ ε Ans β} {f : α → Coroutine Γ ε Ans β}

theorem Sat.call_bind {op : Op} {f : Ans op → Coroutine Γ ε Ans β} (issue : S.issue h op g)
    (failed : ∀ e g', S.rely op g (.error e) g' → Q (h ++ [⟨op, .error e⟩]) g' (.error e))
    (answered : ∀ a g', S.rely op g (.ok a) g' → Sat S Q (f a) (h ++ [⟨op, .ok a⟩]) g') :
    Sat S Q (call op >>= f) h g := by
  rw [sat_bind, sat_call]
  refine ⟨issue, fun r g' moved => ?_⟩
  cases r with
  | ok a => exact answered a g' moved
  | error e => exact failed e g' moved

theorem Sat.peek_bind {φ : Γ → α} (rest : Sat S Q (f (φ g)) h g) : Sat S Q (peek φ >>= f) h g :=
  rest

theorem Sat.change_bind {φ : Γ → Γ} {f : Unit → Coroutine Γ ε Ans β}
    (rest : Sat S Q (f ()) h (φ g)) : Sat S Q (change φ >>= f) h g := rest

theorem Sat.pure_bind {a : α} (rest : Sat S Q (f a) h g) : Sat S Q (pure a >>= f) h g := rest

theorem Sat.raiseIf_bind {c : Bool} {e : ε} {f : Unit → Coroutine Γ ε Ans β}
    (raised : c = true → Q h g (.error e)) (rest : c = false → Sat S Q (f ()) h g) :
    Sat S Q (raiseIf c e >>= f) h g := by
  rw [sat_bind, sat_raiseIf]
  exact ⟨raised, rest⟩

theorem Sat.lift_bind {x : Except ε α} (raised : ∀ e, x = .error e → Q h g (.error e))
    (rest : ∀ a, x = .ok a → Sat S Q (f a) h g) : Sat S Q (lift x >>= f) h g := by
  rw [sat_bind, sat_lift]
  cases x with
  | ok a => exact rest a rfl
  | error e => exact raised e rfl

end Sequence

theorem Sat.mono {Q' : Post Γ ε Ans α} {p : Coroutine Γ ε Ans α}
    (weaker : ∀ h g r, Q h g r → Q' h g r) (sat : Sat S Q p h g) : Sat S Q' p h g := by
  induction p generalizing h g with
  | ret a => exact weaker _ _ _ sat
  | raise e => exact weaker _ _ _ sat
  | read k ih => exact ih g sat
  | write u k ih => exact ih sat
  | await op k ih => exact ⟨sat.1, fun r g' moved => ih r (sat.2 r g' moved)⟩

/-! ### Programs that keep to a kind of operation -/

/-- Whatever it is answered, the program only asks for such operations and only returns
such values. -/
def Emits (ok : Op → Prop) (returns : α → Prop) : Coroutine Γ ε Ans α → Prop
  | ret a => returns a
  | raise _ => True
  | read k => ∀ g, Emits ok returns (k g)
  | write _ k => Emits ok returns k
  | await op k => ok op ∧ ∀ r, Emits ok returns (k r)

section Emission

variable {ok : Op → Prop} {returns : α → Prop} {after : β → Prop}

theorem Emits.bind {p : Coroutine Γ ε Ans α} {f : α → Coroutine Γ ε Ans β}
    (first : Emits ok returns p) (rest : ∀ a, returns a → Emits ok after (f a)) :
    Emits ok after (p >>= f) := by
  change Emits ok after (Coroutine.bind p f)
  induction p with
  | ret a => exact rest a first
  | raise e => trivial
  | read k ih => exact fun g => ih g (first g)
  | write u k ih => exact ih first
  | await op k ih => exact ⟨first.1, fun r => ih r (first.2 r)⟩

theorem Emits.attempt {p : Coroutine Γ ε Ans α} {f : ε → Coroutine Γ ε Ans α}
    (first : Emits ok returns p) (handler : ∀ e, Emits ok returns (f e)) :
    Emits ok returns (attempt p f) := by
  induction p with
  | ret a => exact first
  | raise e => exact handler e
  | read k ih => exact fun g => ih g (first g)
  | write u k ih => exact ih first
  | await op k ih => exact ⟨first.1, fun r => ih r (first.2 r)⟩

theorem emits_pure {a : α} (returned : returns a) :
    Emits ok returns (pure a : Coroutine Γ ε Ans α) := returned

theorem emits_done (a : α) : Emits ok (fun _ => True) (pure a : Coroutine Γ ε Ans α) := trivial

theorem emits_raise (e : ε) : Emits ok returns (raise e : Coroutine Γ ε Ans α) := trivial

theorem emits_peek (f : Γ → α) : Emits ok (fun _ => True) (peek f : Coroutine Γ ε Ans α) :=
  fun _ => trivial

theorem emits_change (f : Γ → Γ) :
    Emits ok (fun _ => True) (change f : Coroutine Γ ε Ans Unit) := trivial

theorem emits_raiseIf (c : Bool) (e : ε) :
    Emits ok (fun _ => c = false) (raiseIf c e : Coroutine Γ ε Ans Unit) := by
  cases c with
  | false => rfl
  | true => trivial

theorem emits_lift (x : Except ε α) :
    Emits ok (fun _ => True) (lift x : Coroutine Γ ε Ans α) := by
  cases x <;> trivial

theorem emits_call {op : Op} (allowed : ok op) :
    Emits ok (fun _ => True) (call op : Coroutine Γ ε Ans (Ans op)) :=
  ⟨allowed, fun r => by cases r <;> trivial⟩

/-- Such a program extends the history by answered operations of its kind only. -/
theorem Emits.sat {p : Coroutine Γ ε Ans α} (emits : Emits ok returns p)
    (issue : ∀ rest op g, (∀ item ∈ rest, ok item.op) → ok op → S.issue (h ++ rest) op g)
    (raised : ∀ rest g e, (∀ item ∈ rest, ok item.op) → Q (h ++ rest) g (.error e))
    (returned : ∀ rest g a, (∀ item ∈ rest, ok item.op) → returns a →
      Q (h ++ rest) g (.ok a)) :
    Sat S Q p h g := by
  have extended : ∀ rest : List (Done ε Ans), (∀ item ∈ rest, ok item.op) → ∀ g,
      Sat S Q p (h ++ rest) g := by
    induction p with
    | ret a => exact fun rest all g => returned rest g a all emits
    | raise e => exact fun rest all g => raised rest g e all
    | read k ih => exact fun rest all g => ih g (emits g) rest all g
    | write u k ih => exact fun rest all g => ih emits rest all (u g)
    | await op k ih =>
      intro rest all g
      refine ⟨issue rest op g all emits.1, fun r g' _ => ?_⟩
      rw [List.append_assoc]
      apply ih r (emits.2 r)
      intro item member
      rcases List.mem_append.mp member with old | new
      · exact all item old
      · rw [List.mem_singleton] at new
        exact new ▸ emits.1
  simpa using extended [] (by simp) g

end Emission

/-! ### Programs that keep an ambient invariant -/

/-- No update of the program itself breaks `I`. -/
def Keeps (I : Γ → Prop) : Coroutine Γ ε Ans α → Prop
  | ret _ | raise _ => True
  | read k => ∀ g, Keeps I (k g)
  | write f k => (∀ g, I g → I (f g)) ∧ Keeps I k
  | await _ k => ∀ r, Keeps I (k r)

section Invariants

variable {I : Γ → Prop}

theorem Keeps.bind {p : Coroutine Γ ε Ans α} {f : α → Coroutine Γ ε Ans β}
    (first : Keeps I p) (rest : ∀ a, Keeps I (f a)) : Keeps I (p >>= f) := by
  change Keeps I (Coroutine.bind p f)
  induction p with
  | ret a => exact rest a
  | raise e => trivial
  | read k ih => exact fun g => ih g (first g)
  | write u k ih => exact ⟨first.1, ih first.2⟩
  | await op k ih => exact fun r => ih r (first r)

theorem Keeps.attempt {p : Coroutine Γ ε Ans α} {f : ε → Coroutine Γ ε Ans α}
    (first : Keeps I p) (handler : ∀ e, Keeps I (f e)) : Keeps I (attempt p f) := by
  induction p with
  | ret a => trivial
  | raise e => exact handler e
  | read k ih => exact fun g => ih g (first g)
  | write u k ih => exact ⟨first.1, ih first.2⟩
  | await op k ih => exact fun r => ih r (first r)

theorem keeps_pure (a : α) : Keeps I (pure a : Coroutine Γ ε Ans α) := trivial

theorem keeps_raise (e : ε) : Keeps I (raise e : Coroutine Γ ε Ans α) := trivial

theorem keeps_peek (f : Γ → α) : Keeps I (peek f : Coroutine Γ ε Ans α) := fun _ => trivial

theorem keeps_change {f : Γ → Γ} (kept : ∀ g, I g → I (f g)) :
    Keeps I (change f : Coroutine Γ ε Ans Unit) := ⟨kept, trivial⟩

theorem keeps_raiseIf (c : Bool) (e : ε) : Keeps I (raiseIf c e : Coroutine Γ ε Ans Unit) := by
  cases c <;> trivial

theorem keeps_lift (x : Except ε α) : Keeps I (lift x : Coroutine Γ ε Ans α) := by
  cases x <;> trivial

theorem keeps_call (op : Op) : Keeps I (call op : Coroutine Γ ε Ans (Ans op)) := by
  intro r
  cases r <;> trivial

/-- What always holds is kept. -/
theorem keeps_true (p : Coroutine Γ ε Ans α) : Keeps (fun _ => True) p := by
  induction p with
  | ret a => trivial
  | raise e => trivial
  | read k ih => exact ih
  | write u k ih => exact ⟨fun _ _ => trivial, ih⟩
  | await op k ih => exact ih

/-- Where the surroundings keep the invariant too, it holds at the end. -/
theorem Keeps.sat {p : Coroutine Γ ε Ans α} (keeps : Keeps I p)
    (issue : ∀ rest op g, S.issue (h ++ rest) op g)
    (rely : ∀ op g r g', S.rely op g r g' → I g → I g')
    (ended : ∀ rest g r, I g → Q (h ++ rest) g r) (now : I g) : Sat S Q p h g := by
  have extended : ∀ rest g, I g → Sat S Q p (h ++ rest) g := by
    induction p with
    | ret a => exact fun rest g now => ended rest g _ now
    | raise e => exact fun rest g now => ended rest g _ now
    | read k ih => exact fun rest g now => ih g (keeps g) rest g now
    | write u k ih => exact fun rest g now => ih keeps.2 rest (u g) (keeps.1 g now)
    | await op k ih =>
      intro rest g now
      refine ⟨issue rest op g, fun r g' moved => ?_⟩
      rw [List.append_assoc]
      exact ih r (keeps r) _ g' (rely op g r g' moved now)
  simpa using extended [] g now

/-- A program of one kind of operation that keeps the invariant, as its surroundings do. -/
theorem Emits.sat_kept {ok : Op → Prop} {returns : α → Prop} {p : Coroutine Γ ε Ans α}
    (emits : Emits ok returns p) (keeps : Keeps I p)
    (issue : ∀ h op g, ok op → I g → S.issue h op g)
    (rely : ∀ op g r g', S.rely op g r g' → I g → I g')
    (raised : ∀ h g e, I g → Q h g (.error e))
    (returned : ∀ h g a, I g → returns a → Q h g (.ok a)) (now : I g) : Sat S Q p h g := by
  induction p generalizing h g with
  | ret a => exact returned h g a now emits
  | raise e => exact raised h g e now
  | read k ih => exact ih g (emits g) (keeps g) now
  | write u k ih => exact ih emits keeps.2 (keeps.1 g now)
  | await op k ih =>
    refine ⟨issue h op g emits.1 now, fun r g' moved => ?_⟩
    exact ih r (emits.2 r) (keeps r) (rely op g r g' moved now)

end Invariants

/-! ### Running without interruption -/

/-- Run to the end, every operation being performed as soon as it is asked for. -/
def run (handler : (op : Op) → Γ → Except ε (Ans op) × Γ) : Coroutine Γ ε Ans α → Γ → Except ε α × Γ
  | ret a, g => (.ok a, g)
  | raise e, g => (.error e, g)
  | read k, g => run handler (k g) g
  | write u k, g => run handler k (u g)
  | await op k, g => run handler (k (handler op g).1) (handler op g).2

theorem run_bind (handler : (op : Op) → Γ → Except ε (Ans op) × Γ) (p : Coroutine Γ ε Ans α)
    (f : α → Coroutine Γ ε Ans β) (g : Γ) :
    run handler (p >>= f) g = match run handler p g with
      | (.ok a, g') => run handler (f a) g'
      | (.error e, g') => (.error e, g') := by
  change run handler (Coroutine.bind p f) g = _
  induction p generalizing g with
  | ret a => rfl
  | raise e => rfl
  | read k ih => exact ih g g
  | write u k ih => exact ih (u g)
  | await op k ih => exact ih _ _

theorem run_pure (handler : (op : Op) → Γ → Except ε (Ans op) × Γ) (a : α) (g : Γ) :
    run handler (pure a : Coroutine Γ ε Ans α) g = (.ok a, g) := rfl

theorem run_peek (handler : (op : Op) → Γ → Except ε (Ans op) × Γ) (f : Γ → α) (g : Γ) :
    run handler (peek f : Coroutine Γ ε Ans α) g = (.ok (f g), g) := rfl

theorem run_lift (handler : (op : Op) → Γ → Except ε (Ans op) × Γ) (x : Except ε α) (g : Γ) :
    run handler (lift x : Coroutine Γ ε Ans α) g = (x, g) := by
  cases x <;> rfl

theorem run_call (handler : (op : Op) → Γ → Except ε (Ans op) × Γ) (op : Op) (g : Γ) :
    run handler (call op) g = handler op g := by
  change run handler _ (handler op g).2 = _
  generalize handler op g = answered
  obtain ⟨r, g'⟩ := answered
  cases r <;> rfl

/-- What is guaranteed of every way the operations may go holds of the way they do go. -/
theorem Sat.run {handler : (op : Op) → Γ → Except ε (Ans op) × Γ} {p : Coroutine Γ ε Ans α}
    (sat : Sat S Q p h g)
    (conforms : ∀ op g, S.rely op g (handler op g).1 (handler op g).2) :
    ∃ h', Q h' (run handler p g).2 (run handler p g).1 := by
  induction p generalizing h g with
  | ret a => exact ⟨h, sat⟩
  | raise e => exact ⟨h, sat⟩
  | read k ih => exact ih g sat
  | write u k ih => exact ih sat
  | await op k ih => exact ih _ (sat.2 _ _ (conforms op g))

/-! ### Running to the next suspension point -/

/-- A coroutine that has run as far as it can by itself, or whose awaited operation has
been answered without it having been woken yet. -/
inductive Status (Γ ε : Type) {Op : Type} (Ans : Op → Type) (α : Type) where
  | finished (g : Γ) (r : Except ε α)
  | waiting (g : Γ) (op : Op) (k : Except ε (Ans op) → Coroutine Γ ε Ans α)
  | answered (g : Γ) (op : Op) (k : Except ε (Ans op) → Coroutine Γ ε Ans α)
      (r : Except ε (Ans op))

def settle : Coroutine Γ ε Ans α → Γ → Status Γ ε Ans α
  | ret a, g => .finished g (.ok a)
  | raise e, g => .finished g (.error e)
  | read k, g => settle (k g) g
  | write u k, g => settle k (u g)
  | await op k, g => .waiting g op k

theorem settle_ne_answered (p : Coroutine Γ ε Ans α) (g : Γ) {g' : Γ} {op : Op}
    {k : Except ε (Ans op) → Coroutine Γ ε Ans α} {r : Except ε (Ans op)} :
    p.settle g ≠ .answered g' op k r := by
  induction p generalizing g with
  | read k ih => exact ih g g
  | write u k ih => exact ih (u g)
  | ret a => nofun
  | raise e => nofun
  | await op k ih => nofun

/-- What is known of a suspended coroutine. -/
def Status.Sat (S : Spec Γ ε Ans) (Q : Post Γ ε Ans α) (h : List (Done ε Ans)) :
    Status Γ ε Ans α → Prop
  | .finished g r => Q h g r
  | .waiting g op k | .answered g op k _ =>
    S.issue h op g ∧ ∀ r g', S.rely op g r g' → Coroutine.Sat S Q (k r) (h ++ [⟨op, r⟩]) g'

theorem Sat.settle {p : Coroutine Γ ε Ans α} (sat : Sat S Q p h g) :
    (p.settle g).Sat S Q h := by
  induction p generalizing h g with
  | ret a => exact sat
  | raise e => exact sat
  | read k ih => exact ih g sat
  | write u k ih => exact ih sat
  | await op k ih => exact sat

/-- The ambient state in which a coroutine stopped. -/
def Status.ambient : Status Γ ε Ans α → Γ
  | .finished g _ | .waiting g _ _ | .answered g _ _ _ => g

theorem Keeps.settle {I : Γ → Prop} {p : Coroutine Γ ε Ans α} (keeps : Keeps I p) (now : I g) :
    I (p.settle g).ambient := by
  induction p generalizing g with
  | ret a => exact now
  | raise e => exact now
  | read k ih => exact ih g (keeps g) now
  | write u k ih => exact ih keeps.2 (keeps.1 g now)
  | await op k ih => exact now

/-- What is left of a coroutine after a suspension point keeps what the whole of it keeps. -/
theorem Keeps.rest {I : Γ → Prop} {p : Coroutine Γ ε Ans α} (keeps : Keeps I p) {g' : Γ} {op : Op}
    {k : Except ε (Ans op) → Coroutine Γ ε Ans α} (stop : p.settle g = .waiting g' op k)
    (r : Except ε (Ans op)) : Keeps I (k r) := by
  induction p generalizing g with
  | ret a => nomatch stop
  | raise e => nomatch stop
  | read f ih => exact ih g (keeps g) stop
  | write u f ih => exact ih keeps.2 stop
  | await op f ih =>
    cases stop
    exact keeps r

/-! ### Programs that ask for fewer operations -/

section Embedding

variable {Op' : Type} {Ans' : Op' → Type}

/-- A program among others that ask for more: `ι` names its operations to them. -/
def embed (ι : Op → Op') :
    Coroutine Γ ε (fun op => Ans' (ι op)) α → Coroutine Γ ε Ans' α
  | ret a => ret a
  | raise e => raise e
  | read k => read fun g => embed ι (k g)
  | write f k => write f (embed ι k)
  | await op k => await (ι op) fun r => embed ι (k r)

theorem embed_call (ι : Op → Op') (op : Op) :
    embed ι (call op : Coroutine Γ ε (fun op => Ans' (ι op)) _) = (call (ι op) :
      Coroutine Γ ε Ans' _) := by
  change await (ι op) _ = await (ι op) _
  congr 1
  funext r
  cases r <;> rfl

theorem Keeps.embed {I : Γ → Prop} (ι : Op → Op')
    {p : Coroutine Γ ε (fun op => Ans' (ι op)) α} (keeps : Keeps I p) : Keeps I (p.embed ι) := by
  induction p with
  | ret a => trivial
  | raise e => trivial
  | read k ih => exact fun g => ih g (keeps g)
  | write f k ih => exact ⟨keeps.1, ih keeps.2⟩
  | await op k ih => exact fun r => ih r (keeps r)

end Embedding

end Coroutine
end Support
