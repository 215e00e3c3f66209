import Mathlib.Data.List.Basic
import Mathlib.Tactic.Common

/-!
# Sequences of writes

A write is made, or it is refused with nothing changed. A sequence of writes stops at the
first refusal and keeps what was written before it. Where writes only add, such a sequence
leaves the state as it was exactly when every write before the refused one was idle.
-/
namespace Support

abbrev Write (σ ε : Type) := σ → Except ε σ

namespace Write

variable {σ ε : Type} {w : Write σ ε} {ws : List (Write σ ε)} {s s' : σ}

def perform : List (Write σ ε) → σ → Except ε Unit × σ
  | [], s => (.ok (), s)
  | w :: ws, s => match w s with
    | .ok s' => perform ws s'
    | .error e => (.error e, s)

/-- Every write before the first refused one changes nothing. -/
def Idle : List (Write σ ε) → σ → Prop
  | [], _ => True
  | w :: ws, s => ∀ s', w s = .ok s' → s' = s ∧ Idle ws s

/-- A write that changes nothing or adds to what a state holds. -/
def Adds (size : σ → ℕ) (w : Write σ ε) : Prop :=
  ∀ s s', w s = .ok s' → s' = s ∨ size s < size s'

@[simp] theorem idle_nil : Idle ([] : List (Write σ ε)) s := trivial

theorem idle_cons : Idle (w :: ws) s ↔ ∀ s', w s = .ok s' → s' = s ∧ Idle ws s := Iff.rfl

@[simp] theorem perform_nil : perform ([] : List (Write σ ε)) s = (.ok (), s) := rfl

theorem perform_cons_ok (made : w s = .ok s') : perform (w :: ws) s = perform ws s' := by
  rw [perform, made]

theorem perform_cons_error {e : ε} (refused : w s = .error e) :
    perform (w :: ws) s = (.error e, s) := by
  rw [perform, refused]

theorem perform_append {vs : List (Write σ ε)} :
    perform (ws ++ vs) s = match perform ws s with
      | (.ok _, s') => perform vs s'
      | (.error e, s') => (.error e, s') := by
  induction ws generalizing s with
  | nil => rfl
  | cons w ws ih =>
    rw [List.cons_append]
    cases made : w s with
    | error e => rw [perform_cons_error made, perform_cons_error made]
    | ok s' =>
      rw [perform_cons_ok made, perform_cons_ok made]
      exact ih

section Growth

variable {size : σ → ℕ}

theorem perform_size_le (adds : ∀ w ∈ ws, Adds size w) : size s ≤ size (perform ws s).2 := by
  induction ws generalizing s with
  | nil => exact Nat.le_refl _
  | cons w ws ih =>
    cases made : w s with
    | error e => simp [perform_cons_error made]
    | ok s' =>
      rw [perform_cons_ok made]
      have rest := ih (s := s') fun w member => adds w (List.mem_cons_of_mem _ member)
      rcases adds w List.mem_cons_self s s' made with rfl | more
      · exact rest
      · omega

/-- A sequence leaves the state as it was if and only if it was idle up to its refusal. -/
theorem perform_unchanged_iff (adds : ∀ w ∈ ws, Adds size w) :
    (perform ws s).2 = s ↔ Idle ws s := by
  induction ws generalizing s with
  | nil => simp
  | cons w ws ih =>
    have later : ∀ w ∈ ws, Adds size w := fun w member => adds w (List.mem_cons_of_mem _ member)
    rw [idle_cons]
    cases made : w s with
    | error e => simp [perform_cons_error made]
    | ok s' =>
      rw [perform_cons_ok made]
      constructor
      · intro same s'' again
        cases again
        -- what was added once is still there at the end
        have grown := perform_size_le (s := s') later
        rcases adds w List.mem_cons_self s s' made with rfl | more
        · exact ⟨rfl, (ih later).mp same⟩
        · rw [same] at grown
          omega
      · intro idle
        obtain ⟨rfl, rest⟩ := idle s' rfl
        exact (ih later).mpr rest

end Growth

/-- Where the sequence was refused, its last write need not be looked at. -/
theorem idle_concat_iff {e : ε} (refused : (perform (ws ++ [w]) s).1 = .error e) :
    Idle (ws ++ [w]) s ↔ Idle ws s := by
  induction ws with
  | nil =>
    cases made : w s with
    | error e' => simp [idle_cons, made]
    | ok s' =>
      rw [List.nil_append, perform_cons_ok made] at refused
      cases refused
  | cons first ws ih =>
    rw [List.cons_append, idle_cons, idle_cons]
    apply forall_congr'
    intro s'
    apply forall_congr'
    intro made
    apply and_congr_right
    rintro rfl
    rw [List.cons_append, perform_cons_ok made] at refused
    exact ih refused

/-- What every write keeps is kept, wherever the sequence stops. -/
theorem perform_keeps {J : σ → Prop} (each : ∀ w ∈ ws, ∀ s s', w s = .ok s' → J s → J s')
    (start : J s) : J (perform ws s).2 := by
  induction ws generalizing s with
  | nil => exact start
  | cons w ws ih =>
    have later : ∀ v ∈ ws, ∀ s s', v s = .ok s' → J s → J s' :=
      fun v member => each v (List.mem_cons_of_mem _ member)
    cases made : w s with
    | error e =>
      rw [perform_cons_error made]
      exact start
    | ok s' =>
      rw [perform_cons_ok made]
      exact ih later (each w List.mem_cons_self s s' made start)

/-! ### Sequences that come to their end -/

/-- The whole sequence was made. -/
def Made (ws : List (Write σ ε)) (s s' : σ) : Prop := perform ws s = (.ok (), s')

theorem made_nil : Made ([] : List (Write σ ε)) s s' ↔ s = s' := by
  simp [Made]

theorem made_cons : Made (w :: ws) s s' ↔ ∃ s₁, w s = .ok s₁ ∧ Made ws s₁ s' := by
  unfold Made
  cases made : w s with
  | error e => simp [perform_cons_error made]
  | ok s₁ => simp [perform_cons_ok made]

theorem made_append {vs : List (Write σ ε)} :
    Made (ws ++ vs) s s' ↔ ∃ s₁, Made ws s s₁ ∧ Made vs s₁ s' := by
  induction ws generalizing s with
  | nil => simp [made_nil]
  | cons w ws ih =>
    rw [List.cons_append, made_cons]
    constructor
    · rintro ⟨s₁, first, rest⟩
      obtain ⟨s₂, middle, last⟩ := ih.mp rest
      exact ⟨s₂, made_cons.mpr ⟨s₁, first, middle⟩, last⟩
    · rintro ⟨s₂, made, last⟩
      obtain ⟨s₁, first, middle⟩ := made_cons.mp made
      exact ⟨s₁, first, ih.mpr ⟨s₂, middle, last⟩⟩

/-- A sequence of sequences, with what is established by those before each. -/
theorem Made.loop {α : Type} {f : α → List (Write σ ε)} {P : List α → σ → Prop} {xs : List α}
    (made : Made (xs.flatMap f) s s') (start : P [] s)
    (step : ∀ done x rest s s', xs = done ++ x :: rest → P done s → Made (f x) s s' →
      P (done ++ [x]) s') : P xs s' := by
  have go : ∀ rest done s, xs = done ++ rest → P done s → Made (rest.flatMap f) s s' → P xs s' := by
    intro rest
    induction rest with
    | nil =>
      intro done s split holds made
      rw [List.flatMap_nil, made_nil] at made
      rw [List.append_nil] at split
      exact split ▸ made ▸ holds
    | cons x rest ih =>
      intro done s split holds made
      rw [List.flatMap_cons, made_append] at made
      obtain ⟨s₁, first, later⟩ := made
      exact ih (done ++ [x]) s₁ (by simpa using split) (step done x rest s s₁ split holds first)
        later
  exact go xs [] s rfl start made

/-- Behind writes that pass over the state, the others decide. -/
theorem idle_append_iff {vs : List (Write σ ε)} (still : ∀ w ∈ ws, w s = .ok s) :
    Idle (ws ++ vs) s ↔ Idle vs s := by
  induction ws with
  | nil => rfl
  | cons w ws ih =>
    have passed := still w List.mem_cons_self
    have later := ih fun v member => still v (List.mem_cons_of_mem _ member)
    rw [List.cons_append, idle_cons]
    constructor
    · intro idle
      exact later.mp (idle s passed).2
    · intro idle s' made
      cases passed.symm.trans made
      exact ⟨rfl, later.mpr idle⟩

end Write

end Support
