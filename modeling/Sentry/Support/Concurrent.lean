import Mathlib.Data.List.Basic
import Mathlib.Logic.Function.Iterate
import Mathlib.Logic.Relation
import Sentry.Support.Tasks

/-!
# Many coroutines over one shared state

Any number of coroutines that interleave at their suspension points. All of them read and
write the same state: an awaited operation takes effect on it when it is performed, and
events move it at any moment. Every request for an operation and every outcome is logged.

Calls are sorted into lanes, where at most one call of a lane is under way at any time.
A lane is then reasoned about by itself: its calls rely on what the other lanes and the
events may do to the state, and guarantee the same to the others.
-/
namespace Support

open Coroutine Relation

variable {Γ ε Op α Call K : Type} {Ans : Op → Type}

/-- A call that is under way. It waits for an operation, which may have been performed
already; `since` is the shared state at its start. -/
structure Member (Γ ε : Type) {Op : Type} (Ans : Op → Type) (α Call : Type) where
  call : Call
  since : Γ
  op : Op
  resume : Except ε (Ans op) → Coroutine Γ ε Ans α
  answer : Option (Except ε (Ans op))

structure Asked (Op Call : Type) where
  index : ℕ
  call : Call
  op : Op

structure Returned (Γ ε α Call : Type) where
  call : Call
  since : Γ
  outcome : Except ε α

structure Crew (Γ ε : Type) {Op : Type} (Ans : Op → Type) (α Call : Type) where
  state : Γ
  members : ℕ → Option (Member Γ ε Ans α Call)
  asked : List (Asked Op Call)
  returned : List (Returned Γ ε α Call)

/-- What each call runs, what each operation does to the shared state and how it may be
answered, what else may happen to that state, which exceptions may be raised into a
suspended call, and which calls are made when. -/
structure Concurrent (Γ ε : Type) {Op : Type} (Ans : Op → Type) (α Call : Type) where
  body : Call → Coroutine Γ ε Ans α
  performs : (op : Op) → Γ → Except ε (Ans op) → Γ → Prop
  event : Γ → Γ → Prop
  interrupts : ε → Prop := fun _ => True
  admits : Call → Crew Γ ε Ans α Call → Prop := fun _ _ => True

namespace Crew

/-- Nothing is under way yet. -/
def idle (g : Γ) : Crew Γ ε Ans α Call := ⟨g, fun _ => none, [], []⟩

/-- Run a coroutine to its next suspension point or to its end. -/
def land (i : ℕ) (c : Call) (since : Γ) (p : Coroutine Γ ε Ans α) (s : Crew Γ ε Ans α Call) :
    Crew Γ ε Ans α Call :=
  match p.settle s.state with
  | .finished g r =>
    ⟨g, Function.update s.members i none, s.asked, s.returned ++ [⟨c, since, r⟩]⟩
  | .waiting g op k | .answered g op k _ =>
    ⟨g, Function.update s.members i (some ⟨c, since, op, k, none⟩), s.asked ++ [⟨i, c, op⟩],
      s.returned⟩

section Landing

variable {i : ℕ} {c : Call} {since g : Γ} {p : Coroutine Γ ε Ans α} {s : Crew Γ ε Ans α Call}

theorem land_finished {r : Except ε α} (stop : p.settle s.state = .finished g r) :
    s.land i c since p =
      ⟨g, Function.update s.members i none, s.asked, s.returned ++ [⟨c, since, r⟩]⟩ := by
  unfold land
  rw [stop]

theorem land_waiting {op : Op} {k : Except ε (Ans op) → Coroutine Γ ε Ans α}
    (stop : p.settle s.state = .waiting g op k) :
    s.land i c since p =
      ⟨g, Function.update s.members i (some ⟨c, since, op, k, none⟩), s.asked ++ [⟨i, c, op⟩],
        s.returned⟩ := by
  unfold land
  rw [stop]

end Landing

end Crew

namespace Concurrent

inductive Step (W : Concurrent Γ ε Ans α Call) :
    Crew Γ ε Ans α Call → Crew Γ ε Ans α Call → Prop where
  | event {s g} (moved : W.event s.state g) : Step W s { s with state := g }
  | start {s} (i : ℕ) (c : Call) (vacant : s.members i = none) (admitted : W.admits c s) :
      Step W s (s.land i c s.state (W.body c))
  | perform {s i c since op k r g} (found : s.members i = some ⟨c, since, op, k, none⟩)
      (performed : W.performs op s.state r g) :
      Step W s { s with
        state := g
        members := Function.update s.members i (some ⟨c, since, op, k, some r⟩) }
  | resume {s i c since op k r} (found : s.members i = some ⟨c, since, op, k, some r⟩) :
      Step W s (s.land i c since (k r))
  | interrupt {s i c since op k r} (e : ε) (found : s.members i = some ⟨c, since, op, k, r⟩)
      (raised : W.interrupts e) : Step W s (s.land i c since (k (.error e)))

/-- The crews that can arise from an idle one. -/
def Reachable (W : Concurrent Γ ε Ans α Call) (g : Γ) (s : Crew Γ ε Ans α Call) : Prop :=
  ReflTransGen (Step W) (.idle g) s

/-! ### What every change respects -/

section Changes

variable {W : Concurrent Γ ε Ans α Call} {I : Γ → Prop} {g : Γ} {s s' : Crew Γ ε Ans α Call}

/-- The property holds, and no call that is under way breaks it. -/
structure Held (I : Γ → Prop) (s : Crew Γ ε Ans α Call) : Prop where
  now : I s.state
  keeps : ∀ i m, s.members i = some m → ∀ r, Keeps I (m.resume r)

/-- Another state, and at one place another call or none. -/
theorem Held.replace (held : Held I s) (now : I g) {i : ℕ} {x : Option (Member Γ ε Ans α Call)}
    (mine : ∀ m, x = some m → ∀ r, Keeps I (m.resume r)) {asked : List (Asked Op Call)}
    {returned : List (Returned Γ ε α Call)} :
    Held I ⟨g, Function.update s.members i x, asked, returned⟩ := by
  refine ⟨now, fun j m found => ?_⟩
  change Function.update s.members i x j = some m at found
  by_cases same : j = i
  · subst same
    rw [Function.update_self] at found
    exact mine m found
  · rw [Function.update_of_ne same] at found
    exact held.keeps j m found

theorem Held.land (held : Held I s) {i : ℕ} {c : Call} {since : Γ} {p : Coroutine Γ ε Ans α}
    (keeps : Keeps I p) : Held I (s.land i c since p) := by
  have now := keeps.settle held.now
  cases stop : p.settle s.state with
  | finished g r =>
    rw [stop] at now
    rw [Crew.land_finished stop]
    refine held.replace now ?_
    rintro m ⟨⟩
  | waiting g op k =>
    rw [stop] at now
    rw [Crew.land_waiting stop]
    refine held.replace now ?_
    rintro m ⟨⟩
    exact keeps.rest stop
  | answered g op k r => exact absurd stop (settle_ne_answered p s.state)

/-- What events, operations and the calls' own updates keep holds in every run. -/
theorem Reachable.holds (event : ∀ g g', W.event g g' → I g → I g')
    (perform : ∀ op g r g', W.performs op g r g' → I g → I g')
    (keeps : ∀ c, Keeps I (W.body c)) (now : I g) (run : W.Reachable g s) : I s.state := by
  have held : Held I s := by
    induction run with
    | refl => exact ⟨now, nofun⟩
    | tail _ step ih =>
      cases step with
      | event moved => exact ⟨event _ _ moved ih.now, ih.keeps⟩
      | start i c vacant admitted => exact ih.land (keeps c)
      | @perform i c since op k r g found performed =>
        have keeping : ∀ r, Keeps I (k r) := ih.keeps i ⟨c, since, op, k, none⟩ found
        refine ih.replace (perform _ _ _ _ performed ih.now) ?_
        rintro m ⟨⟩
        exact keeping
      | resume found => exact ih.land (ih.keeps _ _ found _)
      | interrupt e found raised => exact ih.land (ih.keeps _ _ found _)
  exact held.now

end Changes

/-! ### Lanes -/

/-- How the calls of a development share the state: `I` holds throughout, every step moves
the state by `G`, and all but the calls of a lane `κ` move it by `R κ`. -/
structure Discipline (Γ ε : Type) {Op : Type} (Ans : Op → Type) (α Call K : Type) where
  lane : ℕ → Call → K
  I : Γ → Prop
  G : Γ → Γ → Prop
  R : K → Γ → Γ → Prop
  /-- Holds when a lane asks for an operation, after everything its calls were answered. -/
  issue : K → List (Done ε Ans) → Op → Γ → Prop
  /-- Holds between two calls of a lane. -/
  free : K → List (Done ε Ans) → Γ → Prop
  /-- Holds from the moment on at which a call ends. -/
  post : Call → Γ → Except ε α → Γ → Prop

/-- What may have happened between asking for an operation and being woken: it was performed,
or the call was interrupted before or after that. -/
inductive Relied (W : Concurrent Γ ε Ans α Call) (I : Γ → Prop) (R : Γ → Γ → Prop) (op : Op)
    (g : Γ) : Except ε (Ans op) → Γ → Prop where
  | performed {m r m' g'} (before : R g m) (holds : I m) (performed : W.performs op m r m')
      (after : R m' g') (then_ : I g') : Relied W I R op g r g'
  | interrupted {e g'} (raised : W.interrupts e) (moved : R g g') (then_ : I g') :
      Relied W I R op g (.error e) g'
  | cutOff {e m r m' g'} (raised : W.interrupts e) (before : R g m) (holds : I m)
      (performed : W.performs op m r m') (after : R m' g') (then_ : I g') :
      Relied W I R op g (.error e) g'

/-- The specification a call of a lane is held to. Between two suspension points the call is
alone, so the invariant has to hold again only when it suspends or ends. -/
def spec (W : Concurrent Γ ε Ans α Call) (D : Discipline Γ ε Ans α Call K) (κ : K) :
    Spec Γ ε Ans where
  issue := fun h op g => D.I g ∧ D.issue κ h op g
  rely := W.Relied D.I (D.R κ)

def ends (D : Discipline Γ ε Ans α Call K) (κ : K) (c : Call) (since : Γ) : Post Γ ε Ans α :=
  fun h g r => D.I g ∧ D.free κ h g ∧ D.post c since r g

/-- What makes a discipline hold in every run. -/
structure Sound (W : Concurrent Γ ε Ans α Call) (D : Discipline Γ ε Ans α Call K) : Prop where
  G_refl : ∀ g, D.G g g
  G_trans : ∀ {a b c}, D.G a b → D.G b c → D.G a c
  R_refl : ∀ κ g, D.R κ g g
  R_trans : ∀ {κ a b c}, D.R κ a b → D.R κ b c → D.R κ a c
  event : ∀ {g g'}, W.event g g' → D.I g → D.I g' ∧ D.G g g' ∧ ∀ κ, D.R κ g g'
  perform : ∀ {κ h op g r g'}, D.issue κ h op g → D.I g → W.performs op g r g' →
    D.I g' ∧ D.G g g' ∧ ∀ κ', κ' ≠ κ → D.R κ' g g'
  moves : ∀ c g, Keeps (D.G g) (W.body c)
  spares : ∀ i c κ, κ ≠ D.lane i c → ∀ g, Keeps (D.R κ g) (W.body c)
  issue_stable : ∀ {κ h op g g'}, D.issue κ h op g → D.R κ g g' → D.issue κ h op g'
  free_stable : ∀ {κ h g g'}, D.free κ h g → D.R κ g g' → D.free κ h g'
  post_stable : ∀ {c since r g g'}, D.post c since r g → D.G g g' → D.post c since r g'
  /-- A call is made when its lane is free, or else it ends at once and does nothing. -/
  admitted : ∀ {i c s}, s.members i = none → W.admits c s → D.I s.state →
    (∀ j m, s.members j = some m → D.lane j m.call ≠ D.lane i c) ∨
      ∃ r, (W.body c).settle s.state = .finished s.state r ∧ D.post c s.state r s.state
  sat : ∀ {i c h g}, D.I g → D.free (D.lane i c) h g →
    Sat (W.spec D (D.lane i c)) (ends D (D.lane i c) c g) (W.body c) h g

/-! ### What holds of every run -/

section Runs

variable [DecidableEq K] {W : Concurrent Γ ε Ans α Call} {D : Discipline Γ ε Ans α Call K}
  {κ : K} {g g' : Γ} {s s' : Crew Γ ε Ans α Call} {h : List (Done ε Ans)}

/-- The operations that the calls of a lane have asked for. -/
def askedIn (D : Discipline Γ ε Ans α Call K) (κ : K) (s : Crew Γ ε Ans α Call) : List Op :=
  (s.asked.filter fun x => D.lane x.index x.call = κ).map Asked.op

/-- A program of a lane whose own updates keep to the discipline. -/
structure Conducted (D : Discipline Γ ε Ans α Call K) (κ : K) (p : Coroutine Γ ε Ans α) : Prop where
  moves : ∀ g, Keeps (D.G g) p
  spares : ∀ κ', κ' ≠ κ → ∀ g, Keeps (D.R κ' g) p

/-- What is known of a suspended call, depending on whether its operation was performed. -/
def Pending (W : Concurrent Γ ε Ans α Call) (D : Discipline Γ ε Ans α Call K) (κ : K)
    (m : Member Γ ε Ans α Call) (h : List (Done ε Ans)) (g : Γ) : Prop :=
  match m.answer with
  | none => D.issue κ h m.op g ∧ ∀ r g', W.Relied D.I (D.R κ) m.op g r g' →
      Sat (W.spec D κ) (ends D κ m.call m.since) (m.resume r) (h ++ [⟨m.op, r⟩]) g'
  | some r => ∀ g', D.R κ g g' → D.I g' →
      Sat (W.spec D κ) (ends D κ m.call m.since) (m.resume r) (h ++ [⟨m.op, r⟩]) g' ∧
        ∀ e, W.interrupts e → Sat (W.spec D κ) (ends D κ m.call m.since) (m.resume (.error e))
          (h ++ [⟨m.op, .error e⟩]) g'

structure Poised (W : Concurrent Γ ε Ans α Call) (D : Discipline Γ ε Ans α Call K) (κ : K)
    (m : Member Γ ε Ans α Call) (h : List (Done ε Ans)) (g : Γ) : Prop where
  asked : ∃ g₀, D.issue κ h m.op g₀ ∧ D.G g₀ g
  conducted : ∀ r, Conducted D κ (m.resume r)
  pending : W.Pending D κ m h g

/-- Either one call of the lane is under way, or none is. -/
inductive InLane (W : Concurrent Γ ε Ans α Call) (D : Discipline Γ ε Ans α Call K) (κ : K)
    (s : Crew Γ ε Ans α Call) : Prop where
  | busy (i : ℕ) (m : Member Γ ε Ans α Call) (h : List (Done ε Ans))
      (found : s.members i = some m) (mine : D.lane i m.call = κ)
      (alone : ∀ j m', s.members j = some m' → D.lane j m'.call = κ → j = i)
      (log : askedIn D κ s = Done.ops h ++ [m.op]) (poised : W.Poised D κ m h s.state)
  | quiet (h : List (Done ε Ans)) (clear : ∀ j m, s.members j = some m → D.lane j m.call ≠ κ)
      (log : askedIn D κ s = Done.ops h) (free : D.free κ h s.state)

structure Consistent (W : Concurrent Γ ε Ans α Call) (D : Discipline Γ ε Ans α Call K)
    (s : Crew Γ ε Ans α Call) : Prop where
  invariant : D.I s.state
  lanes : ∀ κ, W.InLane D κ s
  returned : ∀ x ∈ s.returned, D.post x.call x.since x.outcome s.state

omit [DecidableEq K] in
theorem Relied.prepend (sound : W.Sound D) {op : Op} {r : Except ε (Ans op)} {m : Γ}
    (moved : D.R κ g m) (relied : W.Relied D.I (D.R κ) op m r g') :
    W.Relied D.I (D.R κ) op g r g' := by
  cases relied with
  | performed before holds performed after then_ =>
    exact .performed (sound.R_trans moved before) holds performed after then_
  | interrupted raised rest then_ => exact .interrupted raised (sound.R_trans moved rest) then_
  | cutOff raised before holds performed after then_ =>
    exact .cutOff raised (sound.R_trans moved before) holds performed after then_

omit [DecidableEq K] in
/-- What is known of a suspended call survives what the others do. -/
theorem Poised.moved (sound : W.Sound D) {m : Member Γ ε Ans α Call}
    (poised : W.Poised D κ m h g) (moved : D.R κ g g') (moves : D.G g g') :
    W.Poised D κ m h g' := by
  obtain ⟨⟨g₀, issued, before⟩, conducted, pending⟩ := poised
  refine ⟨⟨g₀, issued, sound.G_trans before moves⟩, conducted, ?_⟩
  obtain ⟨c, since, op, k, answer⟩ := m
  cases answer with
  | none =>
    refine ⟨sound.issue_stable pending.1 moved, fun r g'' relied => ?_⟩
    exact pending.2 r g'' (relied.prepend sound moved)
  | some r => exact fun g'' rest then_ => pending g'' (sound.R_trans moved rest) then_

/-- A lane is untouched by a step that leaves its members and its log alone. -/
theorem InLane.frame (sound : W.Sound D) (lane : W.InLane D κ s) (moved : D.R κ s.state s'.state)
    (moves : D.G s.state s'.state)
    (members : ∀ j m, D.lane j m.call = κ → (s'.members j = some m ↔ s.members j = some m))
    (log : askedIn D κ s' = askedIn D κ s) : W.InLane D κ s' := by
  cases lane with
  | busy i m h found mine alone logged poised =>
    refine .busy i m h ((members i m mine).mpr found) mine ?_ (log.trans logged)
      (poised.moved sound moved moves)
    exact fun j m' held same => alone j m' ((members j m' same).mp held) same
  | quiet h clear logged free =>
    refine .quiet h ?_ (log.trans logged) (sound.free_stable free moved)
    exact fun j m held same => clear j m ((members j m same).mp held) same

theorem askedIn_append (asked : List (Asked Op Call)) (x : Asked Op Call) (κ : K) :
    ((asked ++ [x]).filter fun x => D.lane x.index x.call = κ).map Asked.op =
      (asked.filter fun x => D.lane x.index x.call = κ).map Asked.op ++
        if D.lane x.index x.call = κ then [x.op] else [] := by
  by_cases mine : D.lane x.index x.call = κ <;> simp [List.filter_append, mine]

omit [DecidableEq K] in
theorem alone_update {members : ℕ → Option (Member Γ ε Ans α Call)} {i : ℕ}
    (alone : ∀ j m, members j = some m → D.lane j m.call = κ → j = i)
    (x : Option (Member Γ ε Ans α Call)) (j : ℕ) (m : Member Γ ε Ans α Call)
    (held : Function.update members i x j = some m) (mine : D.lane j m.call = κ) : j = i := by
  by_cases there : j = i
  · exact there
  · rw [Function.update_of_ne there] at held
    exact alone j m held mine

omit [DecidableEq K] in
/-- Replacing one member of a lane is not seen by the other lanes. -/
theorem update_iff {members : ℕ → Option (Member Γ ε Ans α Call)} {i : ℕ} {c : Call}
    {x : Option (Member Γ ε Ans α Call)} (other : κ ≠ D.lane i c)
    (old : ∀ m, members i = some m → m.call = c) (new : ∀ m, x = some m → m.call = c) (j : ℕ)
    (m : Member Γ ε Ans α Call) (mine : D.lane j m.call = κ) :
    Function.update members i x j = some m ↔ members j = some m := by
  by_cases same : j = i
  · subst same
    rw [Function.update_self]
    constructor
    · exact fun given => absurd (new m given ▸ mine) (Ne.symm other)
    · exact fun given => absurd (old m given ▸ mine) (Ne.symm other)
  · rw [Function.update_of_ne same]

/-- A coroutine of a lane that meets its specification lands in a consistent crew. -/
theorem consistent_land (sound : W.Sound D) {i : ℕ} {c : Call} {since : Γ}
    {p : Coroutine Γ ε Ans α} (conducted : Conducted D (D.lane i c) p)
    (sat : Sat (W.spec D (D.lane i c)) (ends D (D.lane i c) c since) p h s.state)
    (log : askedIn D (D.lane i c) s = Done.ops h)
    (alone : ∀ j m, s.members j = some m → D.lane j m.call = D.lane i c → j = i)
    (own : ∀ m, s.members i = some m → m.call = c)
    (others : ∀ κ, κ ≠ D.lane i c → W.InLane D κ s)
    (returned : ∀ x ∈ s.returned, D.post x.call x.since x.outcome s.state) :
    W.Consistent D (s.land i c since p) := by
  have moved := (conducted.moves s.state).settle (sound.G_refl s.state)
  have spared := fun κ other =>
    (conducted.spares κ other s.state).settle (sound.R_refl κ s.state)
  have settled := sat.settle
  cases stop : p.settle s.state with
  | finished g r =>
    rw [Crew.land_finished stop]
    rw [stop] at moved settled
    refine ⟨settled.1, fun κ => ?_, ?_⟩
    · by_cases mine : κ = D.lane i c
      · subst mine
        refine .quiet h ?_ log settled.2.1
        intro j m held same
        obtain rfl := alone_update alone none j m held same
        simp at held
      · have seen := spared κ mine
        rw [stop] at seen
        exact (others κ mine).frame sound seen moved (update_iff mine own nofun) rfl
    · intro x member
      rcases List.mem_append.mp member with old | new
      · exact sound.post_stable (returned x old) moved
      · obtain rfl := List.mem_singleton.mp new
        exact settled.2.2
  | waiting g op k =>
    rw [Crew.land_waiting stop]
    rw [stop] at moved settled
    refine ⟨settled.1.1, fun κ => ?_, fun x member => sound.post_stable (returned x member) moved⟩
    by_cases mine : κ = D.lane i c
    · subst mine
      refine .busy i ⟨c, since, op, k, none⟩ h (Function.update_self ..) rfl
        (alone_update alone _) ?_ ?_
      · have grown := askedIn_append (D := D) s.asked ⟨i, c, op⟩ (D.lane i c)
        rw [if_pos rfl] at grown
        exact grown.trans (congrArg (· ++ [op]) log)
      · refine ⟨⟨g, settled.1.2, sound.G_refl g⟩, fun r => ⟨fun a => ?_, fun κ' other a => ?_⟩,
          settled.1.2, settled.2⟩
        · exact (conducted.moves a).rest stop r
        · exact (conducted.spares κ' other a).rest stop r
    · have seen := spared κ mine
      rw [stop] at seen
      refine (others κ mine).frame sound seen moved (update_iff mine own ?_) ?_
      · rintro m ⟨⟩
        rfl
      · have grown := askedIn_append (D := D) s.asked ⟨i, c, op⟩ κ
        rw [if_neg (Ne.symm mine), List.append_nil] at grown
        exact grown
  | answered g op k r => exact absurd stop (settle_ne_answered p s.state)

theorem Step.consistent (sound : W.Sound D) (step : W.Step s s') (consistent : W.Consistent D s) :
    W.Consistent D s' := by
  have now := consistent.invariant
  cases step with
  | event moved =>
    obtain ⟨then_, moves, spared⟩ := sound.event moved now
    refine ⟨then_, fun κ => ?_, fun x member => sound.post_stable (consistent.returned x member) moves⟩
    exact (consistent.lanes κ).frame sound (spared κ) moves (fun _ _ _ => Iff.rfl) rfl
  | start i c vacant admitted =>
    rcases sound.admitted vacant admitted now with clear | ⟨r, declined, held⟩
    · cases consistent.lanes (D.lane i c) with
      | busy j m h found mine alone log poised => exact absurd mine (clear j m found)
      | quiet h _ log free =>
        refine consistent_land sound ?_ (sound.sat now free) log ?_ ?_ ?_ consistent.returned
        · exact ⟨sound.moves c, sound.spares i c⟩
        · exact fun j m found same => absurd same (clear j m found)
        · exact fun m found => nomatch vacant.symm.trans found
        · exact fun κ _ => consistent.lanes κ
    · -- the call ends at once, so the crew only logs its outcome
      have landed : s.land i c s.state (W.body c) =
          { s with returned := s.returned ++ [⟨c, s.state, r⟩] } := by
        rw [Crew.land_finished declined, ← vacant, Function.update_eq_self]
      rw [landed]
      refine ⟨now, fun κ => ?_, ?_⟩
      · exact (consistent.lanes κ).frame sound (sound.R_refl κ _) (sound.G_refl _)
          (fun _ _ _ => Iff.rfl) rfl
      · intro x member
        rcases List.mem_append.mp member with old | new
        · exact consistent.returned x old
        · obtain rfl := List.mem_singleton.mp new
          exact held
  | @perform i c since op k r g found performed =>
    cases consistent.lanes (D.lane i c) with
    | quiet h clear => exact absurd rfl (clear i _ found)
    | busy j m h there mine alone log poised =>
      obtain rfl : i = j := alone i _ found rfl
      obtain rfl : (⟨c, since, op, k, none⟩ : Member Γ ε Ans α Call) = m :=
        Option.some.inj (found.symm.trans there)
      obtain ⟨⟨g₀, issued, before⟩, conducted, ready, sat⟩ := poised
      obtain ⟨then_, moves, spared⟩ := sound.perform ready now performed
      refine ⟨then_, fun κ => ?_, fun x member => sound.post_stable (consistent.returned x member) moves⟩
      by_cases other : κ = D.lane i c
      · subst other
        refine .busy i ⟨c, since, op, k, some r⟩ h (Function.update_self ..) rfl
          (alone_update alone _) log ?_
        · refine ⟨⟨g₀, issued, sound.G_trans before moves⟩, conducted,
            fun g' rest last => ⟨?_, fun e raised => ?_⟩⟩
          · exact sat r g' (.performed (sound.R_refl _ _) now performed rest last)
          · exact sat _ g' (.cutOff raised (sound.R_refl _ _) now performed rest last)
      · refine (consistent.lanes κ).frame sound (spared κ other) moves (update_iff other ?_ ?_) rfl
        · exact fun m held => by cases found.symm.trans held; rfl
        · rintro m ⟨⟩
          rfl
  | @resume i c since op k r found =>
    cases consistent.lanes (D.lane i c) with
    | quiet h clear => exact absurd rfl (clear i _ found)
    | busy j m h there mine alone log poised =>
      obtain rfl : i = j := alone i _ found rfl
      obtain rfl : (⟨c, since, op, k, some r⟩ : Member Γ ε Ans α Call) = m :=
        Option.some.inj (found.symm.trans there)
      refine consistent_land sound (poised.conducted r)
        (poised.pending s.state (sound.R_refl _ _) now).1 ?_ alone ?_ ?_ consistent.returned
      · simpa using log
      · exact fun m held => by cases found.symm.trans held; rfl
      · exact fun κ _ => consistent.lanes κ
  | @interrupt i c since op k r e found raised =>
    cases consistent.lanes (D.lane i c) with
    | quiet h clear => exact absurd rfl (clear i _ found)
    | busy j m h there mine alone log poised =>
      obtain rfl : i = j := alone i _ found rfl
      obtain rfl : (⟨c, since, op, k, r⟩ : Member Γ ε Ans α Call) = m :=
        Option.some.inj (found.symm.trans there)
      have sat : Sat (W.spec D (D.lane i c)) (ends D (D.lane i c) c since) (k (.error e))
          (h ++ [⟨op, .error e⟩]) s.state := by
        have pending := poised.pending
        cases r with
        | none => exact pending.2 _ s.state (.interrupted raised (sound.R_refl _ _) now)
        | some r => exact (pending s.state (sound.R_refl _ _) now).2 e raised
      refine consistent_land sound (poised.conducted _) sat ?_ alone ?_ ?_ consistent.returned
      · simpa using log
      · exact fun m held => by cases found.symm.trans held; rfl
      · exact fun κ _ => consistent.lanes κ

omit [DecidableEq K] in
theorem land_moves (sound : W.Sound D) {i : ℕ} {c : Call} {since : Γ} {p : Coroutine Γ ε Ans α}
    (moves : ∀ g, Keeps (D.G g) p) : D.G s.state (s.land i c since p).state := by
  have moved := (moves s.state).settle (sound.G_refl s.state)
  cases stop : p.settle s.state with
  | finished g r =>
    rw [stop] at moved
    rwa [Crew.land_finished stop]
  | waiting g op k =>
    rw [stop] at moved
    rwa [Crew.land_waiting stop]
  | answered g op k r => exact absurd stop (settle_ne_answered p s.state)

/-- Every step of a run moves the state as it was promised. -/
theorem Step.moves (sound : W.Sound D) (step : W.Step s s') (consistent : W.Consistent D s) :
    D.G s.state s'.state := by
  have member : ∀ {i m}, s.members i = some m → ∃ h, W.Poised D (D.lane i m.call) m h s.state := by
    intro i m found
    cases consistent.lanes (D.lane i m.call) with
    | quiet h clear => exact absurd rfl (clear i m found)
    | busy j m' h there mine alone log poised =>
      obtain rfl : i = j := alone i m found rfl
      obtain rfl : m = m' := Option.some.inj (found.symm.trans there)
      exact ⟨h, poised⟩
  cases step with
  | event moved => exact (sound.event moved consistent.invariant).2.1
  | start i c vacant admitted => exact land_moves sound (sound.moves c)
  | perform found performed =>
    obtain ⟨h, asked, conducted, ready, sat⟩ := member found
    exact (sound.perform ready consistent.invariant performed).2.1
  | resume found =>
    obtain ⟨h, poised⟩ := member found
    exact land_moves sound (poised.conducted _).moves
  | interrupt e found raised =>
    obtain ⟨h, poised⟩ := member found
    exact land_moves sound (poised.conducted _).moves

theorem Reachable.consistent (sound : W.Sound D) (initially : D.I g) (idle : ∀ κ, D.free κ [] g)
    (run : W.Reachable g s) : W.Consistent D s := by
  induction run with
  | refl => exact ⟨initially, fun κ => .quiet [] nofun rfl (idle κ), nofun⟩
  | tail _ step ih => exact step.consistent sound ih

end Runs

end Concurrent

/-! ### Scheduling -/

namespace Crew

/-- Start a call at a place that nothing else holds. -/
def start (i : ℕ) (c : Call) (p : Coroutine Γ ε Ans α) (s : Crew Γ ε Ans α Call) :
    Crew Γ ε Ans α Call :=
  match s.members i with
  | none => s.land i c s.state p
  | some _ => s

/-- Let the operation a call waits for be answered by `handler`, and wake it at once. -/
def turn (handler : (op : Op) → Γ → Except ε (Ans op) × Γ) (i : ℕ) (s : Crew Γ ε Ans α Call) :
    Crew Γ ε Ans α Call :=
  match s.members i with
  | some ⟨c, since, op, k, none⟩ =>
    let answer := handler op s.state
    { s with state := answer.2 }.land i c since (k answer.1)
  | _ => s

/-- Scheduling one call leaves the others where they are. -/
theorem land_members {i j : ℕ} (other : j ≠ i) (c : Call) (since : Γ) (p : Coroutine Γ ε Ans α)
    (s : Crew Γ ε Ans α Call) : (s.land i c since p).members j = s.members j := by
  unfold land
  split <;> simp [other]

theorem start_members {i j : ℕ} (other : j ≠ i) (c : Call) (p : Coroutine Γ ε Ans α)
    (s : Crew Γ ε Ans α Call) : (s.start i c p).members j = s.members j := by
  unfold start
  split
  · exact land_members other c s.state p s
  · rfl

theorem turns_members {i j : ℕ} (other : j ≠ i)
    (handler : (op : Op) → Γ → Except ε (Ans op) × Γ) (n : ℕ) (s : Crew Γ ε Ans α Call) :
    ((turn handler i)^[n] s).members j = s.members j := by
  induction n with
  | zero => rfl
  | succ n ih =>
    rw [Function.iterate_succ_apply', ← ih]
    generalize (turn handler i)^[n] s = s'
    unfold turn
    split
    · exact land_members other _ _ _ _
    · rfl

end Crew

namespace Concurrent

variable {W : Concurrent Γ ε Ans α Call} {g : Γ} {s : Crew Γ ε Ans α Call}

theorem Reachable.start (run : W.Reachable g s) (i : ℕ) (c : Call) (admitted : W.admits c s) :
    W.Reachable g (s.start i c (W.body c)) := by
  unfold Crew.start
  split
  next vacant => exact run.tail (.start i c vacant admitted)
  · exact run

/-- Answering and waking at once is two steps; the member in between is overwritten. -/
theorem Reachable.turn_of (run : W.Reachable g s)
    {handler : (op : Op) → Γ → Except ε (Ans op) × Γ} {i : ℕ}
    (conforms : ∀ m, s.members i = some m →
      W.performs m.op s.state (handler m.op s.state).1 (handler m.op s.state).2) :
    W.Reachable g (s.turn handler i) := by
  unfold Crew.turn
  split
  next c since op k found =>
    have performed := run.tail (.perform found (conforms _ found))
    have resumed := performed.tail (.resume (Function.update_self ..))
    have same : ∀ p : Coroutine Γ ε Ans α,
        Crew.land i c since p { s with
          state := (handler op s.state).2
          members := Function.update s.members i
            (some ⟨c, since, op, k, some (handler op s.state).1⟩) } =
        Crew.land i c since p { s with state := (handler op s.state).2 } := by
      intro p
      unfold Crew.land
      dsimp only
      split <;> simp only [Function.update_idem]
    rw [same] at resumed
    exact resumed
  · exact run

theorem Reachable.turns_of (run : W.Reachable g s)
    {handler : (op : Op) → Γ → Except ε (Ans op) × Γ} {i : ℕ} (n : ℕ)
    (conforms : ∀ k < n, ∀ m, ((Crew.turn handler i)^[k] s).members i = some m →
      W.performs m.op ((Crew.turn handler i)^[k] s).state
        (handler m.op ((Crew.turn handler i)^[k] s).state).1
        (handler m.op ((Crew.turn handler i)^[k] s).state).2) :
    W.Reachable g ((Crew.turn handler i)^[n] s) := by
  induction n with
  | zero => exact run
  | succ n ih =>
    rw [Function.iterate_succ_apply']
    exact (ih fun k less => conforms k (by omega)).turn_of (conforms n (by omega))

theorem Reachable.turn (run : W.Reachable g s) {handler : (op : Op) → Γ → Except ε (Ans op) × Γ}
    (conforms : ∀ op g, W.performs op g (handler op g).1 (handler op g).2) (i : ℕ) :
    W.Reachable g (s.turn handler i) :=
  run.turn_of fun m _ => conforms m.op s.state

theorem Reachable.turns (run : W.Reachable g s) {handler : (op : Op) → Γ → Except ε (Ans op) × Γ}
    (conforms : ∀ op g, W.performs op g (handler op g).1 (handler op g).2) (i n : ℕ) :
    W.Reachable g ((Crew.turn handler i)^[n] s) :=
  run.turns_of n fun _ _ m _ => conforms m.op _

end Concurrent
end Support
