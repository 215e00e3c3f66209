import Sentry.Support.Concurrent

/-!
# Calls that rely on what the others do

A rule for many coroutines over one shared state in which no call has the state to itself.
A call relies on `R` of what the steps of the others do to the state. What it promises when it
asks for an operation, and when it ends, may depend on the state it started in. Calls that exclude
each other, such as two calls that drew the same identifier, are never part of one run: `apart`
says which may be.
-/
namespace Support

open Coroutine Relation

variable {Γ ε Op α Call : Type} {Ans : Op → Type}

/-- `I` holds whenever nothing runs, the steps of the others move the state by `R` as a call
sees it, `issue` holds when a call that started in a state asks for an operation, and `post`
from its end on. -/
structure Protocol (Γ ε : Type) {Op : Type} (Ans : Op → Type) (α Call : Type) where
  I : Γ → Prop
  R : Call → Γ → Γ → Prop
  apart : Call → Call → Prop := fun _ _ => True
  issue : Call → Γ → List (Done ε Ans) → Op → Γ → Prop
  post : Call → Γ → Except ε α → Γ → Prop := fun _ _ _ _ => True

namespace Protocol

def spec (P : Protocol Γ ε Ans α Call) (W : Concurrent Γ ε Ans α Call) (c : Call) (since : Γ) :
    Spec Γ ε Ans where
  issue := fun h op g => P.I g ∧ P.issue c since h op g
  rely := W.Relied P.I (P.R c)

def ends (P : Protocol Γ ε Ans α Call) (c : Call) (since : Γ) : Post Γ ε Ans α :=
  fun _ g r => P.I g ∧ P.post c since r g

/-- The own updates of a call are such as the others rely on. -/
def Spares (P : Protocol Γ ε Ans α Call) (c : Call) (p : Coroutine Γ ε Ans α) : Prop :=
  ∀ c', P.apart c c' → ∀ g, Keeps (P.R c' g) p

/-- What makes a protocol hold in every run. -/
structure Sound (P : Protocol Γ ε Ans α Call) (W : Concurrent Γ ε Ans α Call) : Prop where
  R_refl : ∀ c g, P.R c g g
  R_trans : ∀ {κ a b c}, P.R κ a b → P.R κ b c → P.R κ a c
  event : ∀ {g g'}, W.event g g' → P.I g → P.I g' ∧ ∀ c, P.R c g g'
  perform : ∀ {c since h op g₀ g r g'}, P.issue c since h op g₀ → P.R c g₀ g → P.I g →
    W.performs op g r g' → P.I g' ∧ ∀ c', P.apart c c' → P.R c' g g'
  spares : ∀ c, P.Spares c (W.body c)
  admitted : ∀ {c s}, W.admits c s →
    (∀ i m, s.members i = some m → P.apart c m.call ∧ P.apart m.call c) ∧
      ∀ x ∈ s.returned, P.apart c x.call
  post_stable : ∀ {c since r g g'}, P.post c since r g → P.R c g g' → P.post c since r g'
  sat : ∀ {c s}, W.admits c s → P.I s.state →
    Sat (P.spec W c s.state) (P.ends c s.state) (W.body c) [] s.state

variable {P : Protocol Γ ε Ans α Call} {W : Concurrent Γ ε Ans α Call} {g : Γ}
  {s s' : Crew Γ ε Ans α Call}

/-- What is known of a suspended call: the state in which it asked, and what it will do. -/
structure Poised (P : Protocol Γ ε Ans α Call) (W : Concurrent Γ ε Ans α Call)
    (m : Member Γ ε Ans α Call) (g : Γ) : Prop where
  asked : ∃ h g₀, P.issue m.call m.since h m.op g₀ ∧
    match m.answer with
    | none => P.R m.call g₀ g ∧ ∀ r g', W.Relied P.I (P.R m.call) m.op g₀ r g' →
        Sat (P.spec W m.call m.since) (P.ends m.call m.since) (m.resume r) (h ++ [⟨m.op, r⟩]) g'
    | some r => ∀ g', P.R m.call g g' → P.I g' →
        Sat (P.spec W m.call m.since) (P.ends m.call m.since) (m.resume r) (h ++ [⟨m.op, r⟩]) g' ∧
          ∀ e, W.interrupts e → Sat (P.spec W m.call m.since) (P.ends m.call m.since)
            (m.resume (.error e)) (h ++ [⟨m.op, .error e⟩]) g'
  spares : ∀ r, P.Spares m.call (m.resume r)

structure Consistent (P : Protocol Γ ε Ans α Call) (W : Concurrent Γ ε Ans α Call)
    (s : Crew Γ ε Ans α Call) : Prop where
  invariant : P.I s.state
  poised : ∀ i m, s.members i = some m → P.Poised W m s.state
  returned : ∀ x ∈ s.returned, P.post x.call x.since x.outcome s.state
  apart : ∀ i m, s.members i = some m →
    (∀ j m', j ≠ i → s.members j = some m' → P.apart m.call m'.call) ∧
      ∀ x ∈ s.returned, P.apart m.call x.call

theorem Poised.moved (sound : P.Sound W) {m : Member Γ ε Ans α Call} (poised : P.Poised W m g)
    {g' : Γ} (moved : P.R m.call g g') : P.Poised W m g' := by
  obtain ⟨⟨h, g₀, issued, rest⟩, spares⟩ := poised
  refine ⟨⟨h, g₀, issued, ?_⟩, spares⟩
  obtain ⟨c, since, op, k, answer⟩ := m
  cases answer with
  | none => exact ⟨sound.R_trans rest.1 moved, rest.2⟩
  | some r => exact fun g'' later then_ => rest g'' (sound.R_trans moved later) then_

/-- A call that may be part of a crew, at a place of its own. -/
structure Joins (P : Protocol Γ ε Ans α Call) (s : Crew Γ ε Ans α Call) (i : ℕ) (c : Call) :
    Prop where
  members : ∀ j m, j ≠ i → s.members j = some m → P.apart c m.call ∧ P.apart m.call c
  returned : ∀ x ∈ s.returned, P.apart c x.call

theorem Consistent.joins (consistent : P.Consistent W s) {i : ℕ} {m : Member Γ ε Ans α Call}
    (found : s.members i = some m) : P.Joins s i m.call where
  members j m' other there := ⟨(consistent.apart i m found).1 j m' other there,
    (consistent.apart j m' there).1 i m (Ne.symm other) found⟩
  returned := (consistent.apart i m found).2

/-- A coroutine that meets its specification lands in a consistent crew. -/
theorem Consistent.land (sound : P.Sound W) (consistent : P.Consistent W s) {i : ℕ} {c : Call}
    {since : Γ} {p : Coroutine Γ ε Ans α} {h : List (Done ε Ans)} (joins : P.Joins s i c)
    (spares : P.Spares c p)
    (sat : Sat (P.spec W c since) (P.ends c since) p h s.state) :
    P.Consistent W (s.land i c since p) := by
  have spared : ∀ c', P.apart c c' → P.R c' s.state (p.settle s.state).ambient :=
    fun c' other => (spares c' other s.state).settle (sound.R_refl c' s.state)
  have settled := sat.settle
  have poised : ∀ j m, j ≠ i → s.members j = some m →
      P.Poised W m (p.settle s.state).ambient := by
    intro j m other found
    exact (consistent.poised j m found).moved sound (spared _ (joins.members j m other found).1)
  have stands : ∀ x ∈ s.returned, P.post x.call x.since x.outcome (p.settle s.state).ambient :=
    fun x member => sound.post_stable (consistent.returned x member)
      (spared _ (joins.returned x member))
  cases stop : p.settle s.state with
  | finished g r =>
    rw [Crew.land_finished stop]
    rw [stop] at settled poised stands
    have there : ∀ {j m}, Function.update s.members i none j = some m →
        j ≠ i ∧ s.members j = some m := by
      intro j m held
      by_cases same : j = i
      · subst same
        simp at held
      · exact ⟨same, by simpa [same] using held⟩
    refine ⟨settled.1, ?_, ?_, ?_⟩
    · exact fun j m held => poised j m (there held).1 (there held).2
    · intro x member
      rcases List.mem_append.mp member with old | new
      · exact stands x old
      · cases List.mem_singleton.mp new
        exact settled.2
    · intro j m held
      obtain ⟨other, found⟩ := there held
      constructor
      · exact fun l m' others held' => (consistent.apart j m found).1 l m' others (there held').2
      · intro x member
        rcases List.mem_append.mp member with old | new
        · exact (consistent.apart j m found).2 x old
        · cases List.mem_singleton.mp new
          exact (joins.members j m other found).2
  | waiting g op k =>
    rw [Crew.land_waiting stop]
    rw [stop] at settled poised stands
    refine ⟨settled.1.1, ?_, stands, ?_⟩
    · intro j m held
      by_cases same : j = i
      · subst same
        simp only [Function.update_self, Option.some.injEq] at held
        subst held
        refine ⟨⟨h, g, settled.1.2, sound.R_refl _ g, settled.2⟩, fun r => ?_⟩
        exact fun c' other a => (spares c' other a).rest stop r
      · exact poised j m same (by simpa [same] using held)
    · intro j m held
      by_cases same : j = i
      · subst same
        simp only [Function.update_self, Option.some.injEq] at held
        subst held
        refine ⟨?_, joins.returned⟩
        exact fun l m' other there => (joins.members l m' other (by simpa [other] using there)).1
      · have found : s.members j = some m := by simpa [same] using held
        refine ⟨?_, (consistent.apart j m found).2⟩
        intro l m' other there
        by_cases this : l = i
        · subst this
          simp only [Function.update_self, Option.some.injEq] at there
          subst there
          exact (joins.members j m same found).2
        · exact (consistent.apart j m found).1 l m' other (by simpa [this] using there)
  | answered g op k r => exact absurd stop (settle_ne_answered p s.state)

theorem Consistent.step (sound : P.Sound W) (step : W.Step s s') (consistent : P.Consistent W s) :
    P.Consistent W s' := by
  have now := consistent.invariant
  cases step with
  | event moved =>
    obtain ⟨then_, spared⟩ := sound.event moved now
    exact ⟨then_, fun i m found => (consistent.poised i m found).moved sound (spared _),
      fun x member => sound.post_stable (consistent.returned x member) (spared _),
      consistent.apart⟩
  | start i c vacant admitted =>
    obtain ⟨members, returned⟩ := sound.admitted admitted
    exact consistent.land sound ⟨fun j m _ found => members j m found, returned⟩
      (sound.spares c) (sound.sat admitted now)
  | @perform i c since op k r g found performed =>
    obtain ⟨⟨h, g₀, issued, before, rest⟩, spares⟩ := consistent.poised _ _ found
    have joins := consistent.joins found
    obtain ⟨then_, spared⟩ := sound.perform issued before now performed
    -- the members are the same calls as before
    have same_call : ∀ {j m}, Function.update s.members i (some ⟨c, since, op, k, some r⟩) j =
        some m → ∃ m₀, s.members j = some m₀ ∧ m₀.call = m.call := by
      intro j m held
      by_cases same : j = i
      · subst same
        simp only [Function.update_self, Option.some.injEq] at held
        subst held
        exact ⟨_, found, rfl⟩
      · exact ⟨m, by simpa [same] using held, rfl⟩
    refine ⟨then_, ?_, ?_, ?_⟩
    · intro j m held
      by_cases same : j = i
      · subst same
        simp only [Function.update_self, Option.some.injEq] at held
        subst held
        refine ⟨⟨h, g₀, issued, ?_⟩, spares⟩
        intro g' later last
        refine ⟨rest r g' (.performed before now performed later last), fun e raised => ?_⟩
        exact rest _ g' (.cutOff raised before now performed later last)
      · have there : s.members j = some m := by simpa [same] using held
        exact (consistent.poised j m there).moved sound (spared _ (joins.members j m same there).1)
    · intro x member
      exact sound.post_stable (consistent.returned x member) (spared _ (joins.returned x member))
    · intro j m held
      obtain ⟨m₀, there, same⟩ := same_call held
      rw [← same]
      refine ⟨?_, (consistent.apart j m₀ there).2⟩
      intro l m' other held'
      obtain ⟨m₁, there', same'⟩ := same_call held'
      rw [← same']
      exact (consistent.apart j m₀ there).1 l m₁ other there'
  | @resume i c since op k r found =>
    obtain ⟨⟨h, g₀, issued, rest⟩, spares⟩ := consistent.poised _ _ found
    exact consistent.land sound (consistent.joins found) (spares r)
      (rest s.state (sound.R_refl _ _) now).1
  | @interrupt i c since op k r e found raised =>
    obtain ⟨⟨h, g₀, issued, rest⟩, spares⟩ := consistent.poised _ _ found
    have sat : Sat (P.spec W c since) (P.ends c since) (k (.error e)) (h ++ [⟨op, .error e⟩])
        s.state := by
      cases r with
      | none => exact rest.2 _ s.state (.interrupted raised rest.1 now)
      | some r => exact (rest s.state (sound.R_refl _ _) now).2 e raised
    exact consistent.land sound (consistent.joins found) (spares _) sat

theorem Sound.consistent (sound : P.Sound W) (initially : P.I g) (run : W.Reachable g s) :
    P.Consistent W s := by
  induction run with
  | refl => exact ⟨initially, nofun, nofun, nofun⟩
  | tail _ step ih => exact ih.step sound step

/-- A call that all others are apart from sees every step as it relies on. -/
theorem Consistent.moved (sound : P.Sound W) (consistent : P.Consistent W s) {c : Call}
    (all : ∀ c', P.apart c' c) (step : W.Step s s') : P.R c s.state s'.state := by
  -- a call that runs on to its next suspension point makes own updates only
  have landed : ∀ {i c' since} {p : Coroutine Γ ε Ans α}, P.Spares c' p →
      P.R c s.state (s.land i c' since p).state := by
    intro i c' since p spares
    have settled := (spares c (all c') s.state).settle (sound.R_refl c s.state)
    cases stop : p.settle s.state with
    | finished g r =>
      rw [stop] at settled
      rwa [Crew.land_finished stop]
    | waiting g op k =>
      rw [stop] at settled
      rwa [Crew.land_waiting stop]
    | answered g op k r => exact absurd stop (settle_ne_answered p s.state)
  cases step with
  | event moved => exact (sound.event moved consistent.invariant).2 c
  | start i c' vacant admitted => exact landed (sound.spares c')
  | perform found performed =>
    obtain ⟨⟨h, g₀, issued, before, rest⟩, spares⟩ := consistent.poised _ _ found
    exact (sound.perform issued before consistent.invariant performed).2 c (all _)
  | resume found => exact landed ((consistent.poised _ _ found).spares _)
  | interrupt e found raised => exact landed ((consistent.poised _ _ found).spares _)

theorem Consistent.onward (sound : P.Sound W) (consistent : P.Consistent W s) {c : Call}
    (all : ∀ c', P.apart c' c) (later : ReflTransGen W.Step s s') :
    P.Consistent W s' ∧ P.R c s.state s'.state := by
  induction later with
  | refl => exact ⟨consistent, sound.R_refl c s.state⟩
  | tail _ step ih =>
    exact ⟨ih.1.step sound step, sound.R_trans ih.2 (ih.1.moved sound all step)⟩

end Protocol
end Support
