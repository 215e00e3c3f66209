import Mathlib.Logic.Function.Iterate
import Mathlib.Logic.Relation
import Sentry.Support.Coroutine

/-!
# One coroutine at a time over a shared state

Coroutines that run under a lock. At most one of them is suspended at any time, and its
ambient state is shared with everything else: events move it at any moment, the awaited
operation takes effect on it when it is performed, and the coroutine is woken some time
later or interrupted instead.

`Locked.Sound` lists what makes a property of the shared state an invariant of every
moment of every run, and another one an invariant of the moments at which the lock is
free. The precondition of an operation is established when it is asked for and has to
survive the events until the operation is performed.
-/
namespace Support

open Coroutine Relation

variable {Γ ε Op α Call : Type} {Ans : Op → Type}

/-- What each call runs, what each operation does to the shared state and how it may be
answered, what others may do to that state, and which calls are made in which state. -/
structure Locked (Γ ε : Type) {Op : Type} (Ans : Op → Type) (α Call : Type) where
  body : Call → Coroutine Γ ε Ans α
  performs : (op : Op) → Γ → Except ε (Ans op) → Γ → Prop
  event : Γ → Γ → Prop
  admits : Call → Γ → Prop := fun _ _ => True

/-- The call that holds the lock: it waits for an operation, which may have been performed
already. -/
structure Session (Γ ε : Type) {Op : Type} (Ans : Op → Type) (α : Type) where
  history : List (Done ε Ans)
  op : Op
  resume : Except ε (Ans op) → Coroutine Γ ε Ans α
  answer : Option (Except ε (Ans op))

structure Shared (Γ ε : Type) {Op : Type} (Ans : Op → Type) (α : Type) where
  state : Γ
  session : Option (Session Γ ε Ans α)

/-- Run a coroutine to its next suspension point; at its end the lock is released. -/
def Shared.land (h : List (Done ε Ans)) (p : Coroutine Γ ε Ans α) (g : Γ) : Shared Γ ε Ans α :=
  match p.settle g with
  | .finished g' _ => ⟨g', none⟩
  | .waiting g' op k | .answered g' op k _ => ⟨g', some ⟨h, op, k, none⟩⟩

namespace Locked

inductive Step (W : Locked Γ ε Ans α Call) : Shared Γ ε Ans α → Shared Γ ε Ans α → Prop where
  | event {g g' x} (moved : W.event g g') : Step W ⟨g, x⟩ ⟨g', x⟩
  | start {g} (c : Call) (admitted : W.admits c g) : Step W ⟨g, none⟩ (.land [] (W.body c) g)
  | perform {g g' h op k r} (performed : W.performs op g r g') :
      Step W ⟨g, some ⟨h, op, k, none⟩⟩ ⟨g', some ⟨h, op, k, some r⟩⟩
  | resume {g h op k r} :
      Step W ⟨g, some ⟨h, op, k, some r⟩⟩ (.land (h ++ [⟨op, r⟩]) (k r) g)
  | interrupt {g h op k r} (e : ε) :
      Step W ⟨g, some ⟨h, op, k, r⟩⟩ (.land (h ++ [⟨op, .error e⟩]) (k (.error e)) g)

/-- The states that can arise from an idle one. -/
def Reachable (W : Locked Γ ε Ans α Call) (g : Γ) (s : Shared Γ ε Ans α) : Prop :=
  ReflTransGen (Step W) ⟨g, none⟩ s

/-! ### What holds of every run -/

/-- One change of the shared state while an operation is awaited. -/
def Nudge (W : Locked Γ ε Ans α Call) (I : Γ → Prop) (op : Op) (g g' : Γ) : Prop :=
  I g ∧ I g' ∧ (W.event g g' ∨ ∃ r, W.performs op g r g')

/-- What may have happened between asking for an operation and being woken: the state was
nudged, and an answer other than an exception was given at one of the nudges. -/
structure Relied (W : Locked Γ ε Ans α Call) (I : Γ → Prop) (op : Op) (g : Γ)
    (r : Except ε (Ans op)) (g' : Γ) : Prop where
  moved : ReflTransGen (W.Nudge I op) g g'
  answered : ∀ a, r = .ok a → ∃ m m', ReflTransGen (W.Nudge I op) g m ∧ I m ∧
    W.performs op m (.ok a) m' ∧ ReflTransGen (W.Nudge I op) m' g'

/-- What makes `I` an invariant of the shared state and `free` one of the idle states, given
the precondition `issue` under which operations are asked for. -/
structure Sound (W : Locked Γ ε Ans α Call) (I : Γ → Prop)
    (issue : List (Done ε Ans) → Op → Γ → Prop) (free : Γ → Prop) : Prop where
  event : ∀ {g g'}, W.event g g' → I g → I g'
  unheld : ∀ {g g'}, W.event g g' → I g → free g → free g'
  stable : ∀ {h op g g'}, issue h op g → I g → W.event g g' → issue h op g'
  perform : ∀ {h op g r g'}, issue h op g → I g → W.performs op g r g' → I g'
  keeps : ∀ c, Keeps I (W.body c)
  sat : ∀ c g, W.admits c g → I g → free g →
    Sat ⟨issue, W.Relied I⟩ (fun _ g _ => free g) (W.body c) [] g

variable {W : Locked Γ ε Ans α Call} {I : Γ → Prop}
  {issue : List (Done ε Ans) → Op → Γ → Prop} {free : Γ → Prop} {g : Γ} {s s' : Shared Γ ε Ans α}

/-- What is known of the suspended call in the present state. -/
structure Poised (W : Locked Γ ε Ans α Call) (I : Γ → Prop)
    (issue : List (Done ε Ans) → Op → Γ → Prop) (free : Γ → Prop) (x : Session Γ ε Ans α) (g : Γ) : Prop where
  asked : ∃ g₀, ReflTransGen (W.Nudge I x.op) g₀ g ∧
    (∀ r g', W.Relied I x.op g₀ r g' → Sat ⟨issue, W.Relied I⟩ (fun _ g _ => free g)
      (x.resume r) (x.history ++ [⟨x.op, r⟩]) g') ∧
    ∀ a, x.answer = some (.ok a) → ∃ m m', ReflTransGen (W.Nudge I x.op) g₀ m ∧ I m ∧
      W.performs x.op m (.ok a) m' ∧ ReflTransGen (W.Nudge I x.op) m' g
  keeps : ∀ r, Keeps I (x.resume r)
  ready : x.answer = none → issue x.history x.op g

structure Consistent (W : Locked Γ ε Ans α Call) (I : Γ → Prop)
    (issue : List (Done ε Ans) → Op → Γ → Prop) (free : Γ → Prop) (s : Shared Γ ε Ans α) : Prop where
  invariant : I s.state
  poised : ∀ x, s.session = some x → W.Poised I issue free x s.state
  free : s.session = none → free s.state

/-- A coroutine that meets its specification lands in a consistent state. -/
theorem consistent_land {p : Coroutine Γ ε Ans α} {h : List (Done ε Ans)} (keeps : Keeps I p)
    (sat : Sat ⟨issue, W.Relied I⟩ (fun _ g _ => free g) p h g) (now : I g) :
    W.Consistent I issue free (.land h p g) := by
  induction p generalizing g with
  | ret a => exact ⟨now, nofun, fun _ => sat⟩
  | raise e => exact ⟨now, nofun, fun _ => sat⟩
  | read k ih => exact ih g (keeps g) sat now
  | write u k ih => exact ih keeps.2 sat (keeps.1 g now)
  | await op k ih =>
    refine ⟨now, ?_, nofun⟩
    rintro x ⟨⟩
    exact ⟨⟨g, .refl, sat.2, nofun⟩, keeps, fun _ => sat.1⟩

theorem Step.consistent (sound : W.Sound I issue free) (step : W.Step s s')
    (consistent : W.Consistent I issue free s) : W.Consistent I issue free s' := by
  have now := consistent.invariant
  cases step with
  | event moved =>
    have then_ := sound.event moved now
    have nudge : ∀ op, W.Nudge I op _ _ := fun op => ⟨now, then_, Or.inl moved⟩
    refine ⟨then_, fun x held => ?_, fun idle => sound.unheld moved now (consistent.free idle)⟩
    obtain ⟨⟨g₀, nudged, sat, answered⟩, keeps, ready⟩ := consistent.poised x held
    refine ⟨⟨g₀, nudged.tail (nudge x.op), sat, ?_⟩, keeps, ?_⟩
    · intro a given
      obtain ⟨m, m', before, holds, performed, after⟩ := answered a given
      exact ⟨m, m', before, holds, performed, after.tail (nudge x.op)⟩
    · exact fun unanswered => sound.stable (ready unanswered) now moved
  | start c admitted =>
    exact consistent_land (sound.keeps c) (sound.sat c _ admitted now (consistent.free rfl)) now
  | @perform g g' h op k r performed =>
    obtain ⟨⟨g₀, nudged, sat, -⟩, keeps, ready⟩ := consistent.poised _ rfl
    have then_ := sound.perform (ready rfl) now performed
    have nudge : W.Nudge I op g g' := ⟨now, then_, Or.inr ⟨r, performed⟩⟩
    refine ⟨then_, ?_, nofun⟩
    rintro x ⟨⟩
    refine ⟨⟨g₀, nudged.tail nudge, sat, ?_⟩, keeps, nofun⟩
    intro a given
    have same : r = .ok a := Option.some.inj given
    rw [same] at performed
    exact ⟨g, g', nudged, now, performed, .refl⟩
  | resume =>
    obtain ⟨⟨g₀, nudged, sat, answered⟩, keeps, -⟩ := consistent.poised _ rfl
    refine consistent_land (keeps _) (sat _ _ ⟨nudged, ?_⟩) now
    exact fun a given => answered a (congrArg some given)
  | interrupt e =>
    obtain ⟨⟨g₀, nudged, sat, -⟩, keeps, -⟩ := consistent.poised _ rfl
    exact consistent_land (keeps _) (sat _ _ ⟨nudged, nofun⟩) now

theorem Reachable.consistent (sound : W.Sound I issue free) (initially : I g) (idle : free g)
    (run : W.Reachable g s) : W.Consistent I issue free s := by
  induction run with
  | refl => exact ⟨initially, nofun, fun _ => idle⟩
  | tail _ step ih => exact step.consistent sound ih

/-- The invariant holds at every moment of every run. -/
theorem Reachable.invariant (sound : W.Sound I issue free) (initially : I g) (idle : free g)
    (run : W.Reachable g s) : I s.state :=
  (run.consistent sound initially idle).invariant

/-- The other one holds whenever no call holds the lock. -/
theorem Reachable.idle_invariant (sound : W.Sound I issue free) (initially : I g) (idle : free g)
    (run : W.Reachable g s) (unheld : s.session = none) : free s.state :=
  (run.consistent sound initially idle).free unheld

end Locked

/-! ### Scheduling -/

namespace Shared

/-- Let the awaited operation be answered by `handler`, and wake the call at once. -/
def turn (handler : (op : Op) → Γ → Except ε (Ans op) × Γ) (s : Shared Γ ε Ans α) :
    Shared Γ ε Ans α :=
  match s.session with
  | some ⟨h, op, k, none⟩ =>
    let answer := handler op s.state
    .land (h ++ [⟨op, answer.1⟩]) (k answer.1) answer.2
  | _ => s

/-- Start a call, if the lock is free. -/
def start (p : Coroutine Γ ε Ans α) (s : Shared Γ ε Ans α) : Shared Γ ε Ans α :=
  match s.session with
  | none => .land [] p s.state
  | some _ => s

/-- Let others move the state. -/
def move (f : Γ → Γ) (s : Shared Γ ε Ans α) : Shared Γ ε Ans α := { s with state := f s.state }

end Shared

namespace Locked

variable {W : Locked Γ ε Ans α Call} {g : Γ} {s : Shared Γ ε Ans α}

theorem Reachable.turn (run : W.Reachable g s) {handler : (op : Op) → Γ → Except ε (Ans op) × Γ}
    (conforms : ∀ op g, W.performs op g (handler op g).1 (handler op g).2) :
    W.Reachable g (s.turn handler) := by
  obtain ⟨state, session⟩ := s
  unfold Shared.turn
  split
  next h op k found =>
    obtain rfl : session = some ⟨h, op, k, none⟩ := found
    exact (run.tail (.perform (conforms op state))).tail .resume
  · exact run

theorem Reachable.turns (run : W.Reachable g s) {handler : (op : Op) → Γ → Except ε (Ans op) × Γ}
    (conforms : ∀ op g, W.performs op g (handler op g).1 (handler op g).2) (n : ℕ) :
    W.Reachable g ((Shared.turn handler)^[n] s) := by
  induction n with
  | zero => exact run
  | succ n ih =>
    rw [Function.iterate_succ_apply']
    exact ih.turn conforms

theorem Reachable.start (run : W.Reachable g s) (c : Call) (admitted : W.admits c s.state) :
    W.Reachable g (s.start (W.body c)) := by
  obtain ⟨state, session⟩ := s
  cases session with
  | none => exact run.tail (.start c admitted)
  | some x => exact run

theorem Reachable.move (run : W.Reachable g s) {f : Γ → Γ} (moved : W.event s.state (f s.state)) :
    W.Reachable g (s.move f) :=
  run.tail (.event moved)

end Locked
end Support
