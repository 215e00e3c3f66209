import Sentry.Support.Coroutine

/-!
# Repeated attempts

One program that is run again and again over a state that survives its failures. Every
attempt asks for operations and ends with a value or an exception; between two attempts,
and while an operation is awaited, others may move the state within bounds. The history
is that of all attempts together.

`Attempts.sound` is the induction rule: what one attempt preserves, started from any state
and history that earlier attempts left, holds after any number of them and whenever an
operation is asked for.
-/
namespace Support

open Coroutine

variable {Γ ε Op α : Type} {Ans : Op → Type}

namespace Coroutine

/-- A program on its way: what was answered so far, what is left of it, and where. -/
inductive Passes (rely : (op : Op) → Γ → Except ε (Ans op) → Γ → Prop) :
    Coroutine Γ ε Ans α → Γ → List (Done ε Ans) → Coroutine Γ ε Ans α → Γ → Prop where
  | here {p g} : Passes rely p g [] p g
  | read {k g h p g'} (rest : Passes rely (k g) g h p g') : Passes rely (.read k) g h p g'
  | write {u k g h p g'} (rest : Passes rely k (u g) h p g') : Passes rely (.write u k) g h p g'
  | await {op k g r g₁ h p g'} (moved : rely op g r g₁) (rest : Passes rely (k r) g₁ h p g') :
      Passes rely (.await op k) g (⟨op, r⟩ :: h) p g'

theorem Sat.passes {S : Spec Γ ε Ans} {Q : Post Γ ε Ans α} {p p' : Coroutine Γ ε Ans α} {g g' : Γ}
    {before h : List (Done ε Ans)} (sat : Sat S Q p before g) (passes : Passes S.rely p g h p' g') :
    Sat S Q p' (before ++ h) g' := by
  induction passes generalizing before with
  | here => simpa using sat
  | read _ ih => exact ih sat
  | write _ ih => exact ih sat
  | await moved _ ih => simpa using ih (sat.2 _ _ moved)

/-- Whatever was asked for on the way might be asked for. -/
theorem Sat.asked {S : Spec Γ ε Ans} {Q : Post Γ ε Ans α} {p p' : Coroutine Γ ε Ans α} {g g' : Γ}
    {before h : List (Done ε Ans)} (sat : Sat S Q p before g) (passes : Passes S.rely p g h p' g')
    {item : Done ε Ans} (member : item ∈ h) :
    ∃ done g₁, done <+: h ∧ S.issue (before ++ done) item.op g₁ := by
  induction passes generalizing before with
  | here => cases member
  | read _ ih => exact ih sat member
  | write _ ih => exact ih sat member
  | @await op k g r g₁ h p g' moved _ ih =>
    rcases List.mem_cons.mp member with rfl | later
    · exact ⟨[], g, List.nil_prefix, by simpa using sat.1⟩
    · obtain ⟨done, g₂, earlier, issued⟩ := ih (sat.2 _ _ moved) later
      refine ⟨⟨op, r⟩ :: done, g₂, List.cons_prefix_cons.mpr ⟨rfl, earlier⟩, ?_⟩
      rwa [List.append_assoc, List.singleton_append] at issued

/-- A part of the state, moved by one answered operation after another. -/
inductive Evolves {Δ : Type} (move : (op : Op) → Δ → Except ε (Ans op) → Δ → Prop) :
    Δ → List (Done ε Ans) → Δ → Prop where
  | nil {d} : Evolves move d [] d
  | cons {d op r d₁ h d'} (moved : move op d r d₁) (rest : Evolves move d₁ h d') :
      Evolves move d (⟨op, r⟩ :: h) d'

/-- What a program leaves alone by itself is moved by its operations only. -/
theorem Passes.evolves {Δ : Type} {rely : (op : Op) → Γ → Except ε (Ans op) → Γ → Prop}
    {move : (op : Op) → Δ → Except ε (Ans op) → Δ → Prop} (view : Γ → Δ)
    (moves : ∀ op g r g', rely op g r g' → move op (view g) r (view g'))
    {p p' : Coroutine Γ ε Ans α} {g g' : Γ} {h : List (Done ε Ans)}
    (keeps : ∀ d, Keeps (fun g => view g = d) p) (passes : Passes rely p g h p' g') :
    Evolves move (view g) h (view g') := by
  induction passes with
  | here => exact .nil
  | read _ ih => exact ih fun d => keeps d _
  | write _ ih =>
    rename_i u k g h p g' _
    have same : view (u g) = view g := (keeps (view g)).1 g rfl
    rw [← same]
    exact ih fun d => (keeps d).2
  | await moved _ ih => exact .cons (moves _ _ _ _ moved) (ih fun d => keeps d _)

theorem Evolves.head {Δ : Type} {move : (op : Op) → Δ → Except ε (Ans op) → Δ → Prop} {d d' : Δ}
    {op : Op} {r : Except ε (Ans op)} {h : List (Done ε Ans)}
    (evolves : Evolves move d (⟨op, r⟩ :: h) d') : ∃ d₁, move op d r d₁ ∧ Evolves move d₁ h d' := by
  cases evolves with
  | cons moved rest => exact ⟨_, moved, rest⟩

theorem Evolves.split {Δ : Type} {move : (op : Op) → Δ → Except ε (Ans op) → Δ → Prop} {d d' : Δ}
    {first rest : List (Done ε Ans)} (evolves : Evolves move d (first ++ rest) d') :
    ∃ d₁, Evolves move d first d₁ ∧ Evolves move d₁ rest d' := by
  induction first generalizing d with
  | nil => exact ⟨d, .nil, evolves⟩
  | cons item first ih =>
    cases evolves with
    | cons moved later =>
      obtain ⟨d₁, begun, ended⟩ := ih later
      exact ⟨d₁, .cons moved begun, ended⟩

/-- What every operation of a kind keeps is kept by any number of them. -/
theorem Evolves.keeps {Δ : Type} {move : (op : Op) → Δ → Except ε (Ans op) → Δ → Prop} {d d' : Δ}
    {h : List (Done ε Ans)} {I : Δ → Prop}
    (each : ∀ item ∈ h, ∀ d d', move item.op d item.answer d' → I d → I d')
    (evolves : Evolves move d h d') (start : I d) : I d' := by
  induction evolves with
  | nil => exact start
  | cons moved _ ih =>
    apply ih
    · exact fun item member => each item (List.mem_cons_of_mem _ member)
    · exact each _ List.mem_cons_self _ _ moved start

/-- What is asked for and answered when every operation is performed at once. -/
def trace (handler : (op : Op) → Γ → Except ε (Ans op) × Γ) :
    Coroutine Γ ε Ans α → Γ → List (Done ε Ans)
  | .ret _, _ | .raise _, _ => []
  | .read k, g => trace handler (k g) g
  | .write u k, g => trace handler k (u g)
  | .await op k, g =>
    ⟨op, (handler op g).1⟩ :: trace handler (k (handler op g).1) (handler op g).2

/-- Running without interruption is one way to pass. -/
theorem passes_trace {rely : (op : Op) → Γ → Except ε (Ans op) → Γ → Prop}
    (handler : (op : Op) → Γ → Except ε (Ans op) × Γ)
    (conforms : ∀ op g, rely op g (handler op g).1 (handler op g).2) (p : Coroutine Γ ε Ans α)
    (g : Γ) : Passes rely p g (trace handler p g) (lift (run handler p g).1) (run handler p g).2 := by
  induction p generalizing g with
  | ret a => exact .here
  | raise e => exact .here
  | read k ih => exact .read (ih g g)
  | write u k ih => exact .write (ih (u g))
  | await op k ih => exact .await (conforms op g) (ih _ _)

theorem passes_run {rely : (op : Op) → Γ → Except ε (Ans op) → Γ → Prop}
    (handler : (op : Op) → Γ → Except ε (Ans op) × Γ)
    (conforms : ∀ op g, rely op g (handler op g).1 (handler op g).2) (p : Coroutine Γ ε Ans α)
    (g : Γ) : ∃ h, Passes rely p g h (lift (run handler p g).1) (run handler p g).2 :=
  ⟨_, passes_trace handler conforms p g⟩

theorem exists_ok {x : Except ε α} (returned : x.toOption.isSome = true) : ∃ a, x = .ok a := by
  cases x with
  | ok a => exact ⟨a, rfl⟩
  | error e => cases returned

end Coroutine

/-- Any number of attempts: their common history, how each of them ended, and the state. -/
inductive Attempts (rely : (op : Op) → Γ → Except ε (Ans op) → Γ → Prop) (idle : Γ → Γ → Prop)
    (p : Coroutine Γ ε Ans α) (g₀ : Γ) : List (Done ε Ans) → List (Except ε α) → Γ → Prop where
  | none : Attempts rely idle p g₀ [] [] g₀
  | idle {h rs g g'} (earlier : Attempts rely idle p g₀ h rs g) (moved : idle g g') :
      Attempts rely idle p g₀ h rs g'
  | again {h rs g h' r g'} (earlier : Attempts rely idle p g₀ h rs g)
      (passes : Passes rely p g h' (lift r) g') :
      Attempts rely idle p g₀ (h ++ h') (rs ++ [r]) g'

/-- A moment of such a run: between two attempts, or inside one at an operation it waits
for. -/
inductive Moment (rely : (op : Op) → Γ → Except ε (Ans op) → Γ → Prop) (idle : Γ → Γ → Prop)
    (p : Coroutine Γ ε Ans α) (g₀ : Γ) :
    List (Done ε Ans) → Option Op → List (Except ε α) → Γ → Prop where
  | between {h rs g} (attempts : Attempts rely idle p g₀ h rs g) :
      Moment rely idle p g₀ h .none rs g
  | inside {h rs g h' op k g'} (attempts : Attempts rely idle p g₀ h rs g)
      (passes : Passes rely p g h' (.await op k) g') :
      Moment rely idle p g₀ (h ++ h') (some op) rs g'

section Handled

/-- What performs every operation at once. -/
abbrev Handler (Γ ε : Type) {Op : Type} (Ans : Op → Type) :=
  (op : Op) → Γ → Except ε (Ans op) × Γ

/-- One attempt under each handler: their common history, how they ended, and the state. -/
def attemptAll (p : Coroutine Γ ε Ans α) :
    List (Handler Γ ε Ans) → Γ → List (Done ε Ans) × List (Except ε α) × Γ
  | [], g => ([], [], g)
  | handler :: rest, g =>
    let later := attemptAll p rest (run handler p g).2
    (trace handler p g ++ later.1, (run handler p g).1 :: later.2.1, later.2.2)

variable {rely : (op : Op) → Γ → Except ε (Ans op) → Γ → Prop} {idle : Γ → Γ → Prop}
  {p : Coroutine Γ ε Ans α} {g₀ g : Γ} {h : List (Done ε Ans)} {rs : List (Except ε α)}

theorem Attempts.attemptAll {handlers : List (Handler Γ ε Ans)}
    (conforms : ∀ handler ∈ handlers, ∀ op g, rely op g (handler op g).1 (handler op g).2)
    (earlier : Attempts rely idle p g₀ h rs g) :
    Attempts rely idle p g₀ (h ++ (Support.attemptAll p handlers g).1)
      (rs ++ (Support.attemptAll p handlers g).2.1) (Support.attemptAll p handlers g).2.2 := by
  induction handlers generalizing h rs g with
  | nil => simpa [Support.attemptAll] using earlier
  | cons handler rest ih =>
    have next := earlier.again (passes_trace handler (conforms handler List.mem_cons_self) p g)
    have later := ih (fun other listed => conforms other (List.mem_cons_of_mem _ listed)) next
    simpa [Support.attemptAll] using later

/-- Attempts under handlers, from the start. -/
theorem attempts_attemptAll {handlers : List (Handler Γ ε Ans)}
    (conforms : ∀ handler ∈ handlers, ∀ op g, rely op g (handler op g).1 (handler op g).2) (g : Γ) :
    Attempts rely idle p g (Support.attemptAll p handlers g).1
      (Support.attemptAll p handlers g).2.1 (Support.attemptAll p handlers g).2.2 := by
  have start : Attempts rely idle p g [] [] g := .none
  simpa using start.attemptAll conforms

end Handled

section Invariant

variable {rely : (op : Op) → Γ → Except ε (Ans op) → Γ → Prop} {idle : Γ → Γ → Prop}
  {p : Coroutine Γ ε Ans α} {g₀ : Γ}
  {I : List (Done ε Ans) → List (Except ε α) → Γ → Prop}
  {M : List (Except ε α) → List (Done ε Ans) → Op → Γ → Prop}

/-- What makes `I` hold between attempts and `M` at every operation. -/
structure Attempts.Sound (rely : (op : Op) → Γ → Except ε (Ans op) → Γ → Prop)
    (idle : Γ → Γ → Prop) (p : Coroutine Γ ε Ans α) (g₀ : Γ)
    (I : List (Done ε Ans) → List (Except ε α) → Γ → Prop)
    (M : List (Except ε α) → List (Done ε Ans) → Op → Γ → Prop) : Prop where
  start : I [] [] g₀
  idle : ∀ {h rs g g'}, I h rs g → idle g g' → I h rs g'
  attempt : ∀ {h rs g}, I h rs g →
    Sat ⟨M rs, rely⟩ (fun h' g' r => I h' (rs ++ [r]) g') p h g

theorem Attempts.sound (sound : Attempts.Sound rely idle p g₀ I M) {h : List (Done ε Ans)}
    {rs : List (Except ε α)} {g : Γ} (attempts : Attempts rely idle p g₀ h rs g) : I h rs g := by
  induction attempts with
  | none => exact sound.start
  | idle _ moved ih => exact sound.idle ih moved
  | again _ passes ih =>
    have ended := (sound.attempt ih).passes passes
    rwa [sat_lift] at ended

/-- At every moment: the invariant between attempts, the precondition at an operation. -/
theorem Moment.sound (sound : Attempts.Sound rely idle p g₀ I M) {h : List (Done ε Ans)}
    {waiting : Option Op} {rs : List (Except ε α)} {g : Γ}
    (moment : Moment rely idle p g₀ h waiting rs g) :
    match waiting with
    | .none => I h rs g
    | some op => M rs h op g := by
  cases moment with
  | between attempts => exact attempts.sound sound
  | inside attempts passes =>
    exact ((sound.attempt (attempts.sound sound)).passes passes).1

end Invariant

end Support
