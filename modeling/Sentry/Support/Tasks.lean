import Mathlib.Data.List.Pairwise
import Mathlib.Logic.Function.Iterate
import Mathlib.Logic.Relation
import Sentry.Support.Coroutine

/-!
# Tasks over a durable state

Any number of coroutines, started at any time, that share one durable state. An
operation takes effect when it is performed, its caller may be woken later or be
interrupted instead, and an operation that was asked for may still take effect
after its caller has gone. Nothing is assumed about the order of any of this. A
process that stops is a task that is never woken again.
-/
namespace Support

open Coroutine

variable {Γ ε Op ρ Call D : Type} {Ans : Op → Type}

/-- What each call runs and where it starts, what each operation does to the durable state
and how it may be answered, and what may happen to a task's ambient state while it waits. -/
structure World (Γ ε : Type) {Op : Type} (Ans : Op → Type) (ρ Call D : Type) where
  body : Call → Coroutine Γ ε Ans ρ
  origin : Call → Γ
  performs : (op : Op) → D → Except ε (Ans op) → D → Prop
  rely : (op : Op) → Γ → Except ε (Ans op) → Γ → Prop

structure Task (Γ ε : Type) {Op : Type} (Ans : Op → Type) (ρ Call : Type) where
  call : Call
  history : List (Done ε Ans)
  status : Status Γ ε Ans ρ

/-- The moment at which a task asks for an operation. -/
structure Issue (Γ ε : Type) {Op : Type} (Ans : Op → Type) (Call D : Type) where
  task : ℕ
  call : Call
  history : List (Done ε Ans)
  op : Op
  ambient : Γ
  durable : D

structure System (Γ ε : Type) {Op : Type} (Ans : Op → Type) (ρ Call D : Type) where
  durable : D
  tasks : ℕ → Option (Task Γ ε Ans ρ Call)
  issued : List (Issue Γ ε Ans Call D)

def Done.ops (h : List (Done ε Ans)) : List Op := h.map Done.op

@[simp] theorem Done.ops_append (h h' : List (Done ε Ans)) :
    Done.ops (h ++ h') = Done.ops h ++ Done.ops h' := List.map_append

@[simp] theorem Done.ops_singleton (item : Done ε Ans) : Done.ops [item] = [item.op] := rfl

@[simp] theorem Done.ops_nil : Done.ops ([] : List (Done ε Ans)) = [] := rfl

theorem Done.mem_ops {h : List (Done ε Ans)} {item : Done ε Ans} (member : item ∈ h) :
    item.op ∈ Done.ops h := List.mem_map_of_mem member

namespace Task

/-- The operation a task has just come to ask for. -/
def issues (i : ℕ) (t : Task Γ ε Ans ρ Call) (d : D) : List (Issue Γ ε Ans Call D) :=
  match t.status with
  | .waiting g op _ => [⟨i, t.call, t.history, op, g, d⟩]
  | _ => []

/-- Everything a task has asked for so far. -/
def asked (t : Task Γ ε Ans ρ Call) : List Op :=
  match t.status with
  | .finished _ _ => Done.ops t.history
  | .waiting _ op _ | .answered _ op _ _ => Done.ops t.history ++ [op]

theorem history_subset_asked (t : Task Γ ε Ans ρ Call) : Done.ops t.history ⊆ t.asked := by
  unfold asked
  split <;> simp

end Task

namespace System

/-- An empty system over a durable state. -/
def idle (d : D) : System Γ ε Ans ρ Call D := ⟨d, fun _ => none, []⟩

def put (s : System Γ ε Ans ρ Call D) (i : ℕ) (t : Task Γ ε Ans ρ Call) :
    System Γ ε Ans ρ Call D :=
  { s with tasks := Function.update s.tasks i (some t), issued := s.issued ++ t.issues i s.durable }

@[simp] theorem put_durable (s : System Γ ε Ans ρ Call D) (i : ℕ) (t : Task Γ ε Ans ρ Call) :
    (s.put i t).durable = s.durable := rfl

theorem put_tasks (s : System Γ ε Ans ρ Call D) (i : ℕ) (t : Task Γ ε Ans ρ Call) :
    (s.put i t).tasks = Function.update s.tasks i (some t) := rfl

/-- The call that a task runs. -/
def callOf (s : System Γ ε Ans ρ Call D) (i : ℕ) : Option Call := (s.tasks i).map Task.call

theorem callOf_put {s : System Γ ε Ans ρ Call D} {i : ℕ} {t : Task Γ ε Ans ρ Call} (j : ℕ) :
    (s.put i t).callOf j = if j = i then some t.call else s.callOf j := by
  unfold callOf
  rw [put_tasks, Function.update_apply]
  split <;> rfl

theorem mem_put_issued {s : System Γ ε Ans ρ Call D} {i : ℕ} {t : Task Γ ε Ans ρ Call}
    {e : Issue Γ ε Ans Call D} :
    e ∈ (s.put i t).issued ↔ e ∈ s.issued ∨ e ∈ t.issues i s.durable := List.mem_append

end System

inductive Step (W : World Γ ε Ans ρ Call D) :
    System Γ ε Ans ρ Call D → System Γ ε Ans ρ Call D → Prop where
  | start {s} (i : ℕ) (c : Call) (fresh : s.tasks i = none) :
      Step W s (s.put i ⟨c, [], (W.body c).settle (W.origin c)⟩)
  | perform {s i c h g op k r d} (found : s.tasks i = some ⟨c, h, .waiting g op k⟩)
      (performed : W.performs op s.durable r d) :
      Step W s (System.put { s with durable := d } i ⟨c, h, .answered g op k r⟩)
  | resume {s i c h g op k r g'} (found : s.tasks i = some ⟨c, h, .answered g op k r⟩)
      (moved : W.rely op g r g') :
      Step W s (s.put i ⟨c, h ++ [⟨op, r⟩], (k r).settle g'⟩)
  | interrupt {s i c h g op k g'} (e : ε)
      (found : s.tasks i = some ⟨c, h, .waiting g op k⟩ ∨
        ∃ r, s.tasks i = some ⟨c, h, .answered g op k r⟩)
      (moved : W.rely op g (.error e) g') :
      Step W s (s.put i ⟨c, h ++ [⟨op, .error e⟩], (k (.error e)).settle g'⟩)
  | late {s d} (issue : Issue Γ ε Ans Call D) (member : issue ∈ s.issued)
      (r : Except ε (Ans issue.op)) (performed : W.performs issue.op s.durable r d) :
      Step W s { s with durable := d }

/-- The systems that can arise from an idle one. -/
def Reachable (W : World Γ ε Ans ρ Call D) (d : D) (s : System Γ ε Ans ρ Call D) : Prop :=
  Relation.ReflTransGen (Step W) (System.idle d) s

/-! ### What holds of every run -/

/-- A fact that an answered operation leaves behind in the durable state. It is made when
the operation is performed and kept by whatever is performed later. -/
structure Persistent (W : World Γ ε Ans ρ Call D) (fact : Done ε Ans → D → Prop) : Prop where
  made : ∀ {op d r d'}, W.performs op d r d' → fact ⟨op, r⟩ d'
  kept : ∀ {op d r d' item}, W.performs op d r d' → fact item d → fact item d'
  failed : ∀ {op e d}, fact ⟨op, .error e⟩ d

/-- Every call meets its specification. -/
structure Meets (W : World Γ ε Ans ρ Call D) (spec : Call → Spec Γ ε Ans)
    (post : Call → Post Γ ε Ans ρ) : Prop where
  body : ∀ c, Coroutine.Sat (spec c) (post c) (W.body c) [] (W.origin c)
  rely : ∀ c op g r g', W.rely op g r g' → (spec c).rely op g r g'

/-- The answered operations of a task, the one it was not woken for yet included. -/
def Task.known (t : Task Γ ε Ans ρ Call) : List (Done ε Ans) :=
  match t.status with
  | .answered _ op _ r => t.history ++ [⟨op, r⟩]
  | _ => t.history

theorem Task.history_subset_known (t : Task Γ ε Ans ρ Call) : t.history ⊆ t.known := by
  unfold Task.known
  split <;> simp

structure Consistent (spec : Call → Spec Γ ε Ans) (post : Call → Post Γ ε Ans ρ)
    (fact : Done ε Ans → D → Prop) (s : System Γ ε Ans ρ Call D) : Prop where
  status : ∀ {i t}, s.tasks i = some t → t.status.Sat (spec t.call) (post t.call) t.history
  facts : ∀ {i t}, s.tasks i = some t → ∀ item ∈ t.known, fact item s.durable
  asked : ∀ {i t}, s.tasks i = some t → ∀ op ∈ t.asked, ∃ e ∈ s.issued, e.task = i ∧ e.op = op
  met : ∀ e ∈ s.issued, (spec e.call).issue e.history e.op e.ambient
  then_ : ∀ e ∈ s.issued, ∀ item ∈ e.history, fact item e.durable
  now : ∀ e ∈ s.issued, ∀ item ∈ e.history, fact item s.durable
  owner : ∀ e ∈ s.issued, ∃ t, s.tasks e.task = some t ∧ t.call = e.call ∧ e.op ∈ t.asked ∧
    e.history ⊆ t.history
  ordered : s.issued.Pairwise fun e e' => e.task = e'.task → e.op ∈ Done.ops e'.history

section Runs

variable {W : World Γ ε Ans ρ Call D} {spec : Call → Spec Γ ε Ans}
  {post : Call → Post Γ ε Ans ρ} {fact : Done ε Ans → D → Prop}
  {s s' : System Γ ε Ans ρ Call D} {d : D}

theorem Task.mem_issues {i : ℕ} {t : Task Γ ε Ans ρ Call} {e : Issue Γ ε Ans Call D}
    (member : e ∈ t.issues i d) :
    ∃ k, e = ⟨i, t.call, t.history, e.op, e.ambient, d⟩ ∧ t.status = .waiting e.ambient e.op k := by
  unfold Task.issues at member
  split at member
  next g op k waiting =>
    rw [List.mem_singleton] at member
    subst member
    exact ⟨k, rfl, waiting⟩
  · cases member

/-- The durable state may move on by itself. -/
theorem Consistent.effect (persistent : Persistent W fact) (consistent : Consistent spec post fact s)
    {op : Op} {r : Except ε (Ans op)} (performed : W.performs op s.durable r d) :
    Consistent spec post fact { s with durable := d } where
  status := consistent.status
  facts found item member := persistent.kept performed (consistent.facts found item member)
  asked := consistent.asked
  met := consistent.met
  then_ := consistent.then_
  now e member item known := persistent.kept performed (consistent.now e member item known)
  owner := consistent.owner
  ordered := consistent.ordered

/-- A task may be replaced by one that is no less far along. -/
theorem Consistent.put (consistent : Consistent spec post fact s) {i : ℕ} {t : Task Γ ε Ans ρ Call}
    (status : t.status.Sat (spec t.call) (post t.call) t.history)
    (facts : ∀ item ∈ t.known, fact item s.durable)
    (further : ∀ old, s.tasks i = some old →
      old.call = t.call ∧ old.asked ⊆ t.asked ∧ old.history ⊆ t.history)
    (past : ∀ op ∈ Done.ops t.history, ∃ e ∈ s.issued, e.task = i ∧ e.op = op)
    (new : ∀ e ∈ t.issues i s.durable, ∀ old, s.tasks i = some old →
      old.asked ⊆ Done.ops t.history)
    (current : ∀ g op k r, t.status = .answered g op k r →
      ∃ e ∈ s.issued, e.task = i ∧ e.op = op) :
    Consistent spec post fact (s.put i t) := by
  have found_cases : ∀ {j u}, (s.put i t).tasks j = some u →
      (j = i ∧ u = t) ∨ (j ≠ i ∧ s.tasks j = some u) := by
    intro j u found
    rw [System.put_tasks] at found
    by_cases same : j = i
    · subst same
      rw [Function.update_self] at found
      exact Or.inl ⟨rfl, (Option.some.inj found).symm⟩
    · rw [Function.update_of_ne same] at found
      exact Or.inr ⟨same, found⟩
  constructor
  · intro j u found
    rcases found_cases found with ⟨-, rfl⟩ | ⟨-, found⟩
    · exact status
    · exact consistent.status found
  · intro j u found
    rcases found_cases found with ⟨-, rfl⟩ | ⟨-, found⟩
    · exact facts
    · exact consistent.facts found
  · intro j u found op member
    rcases found_cases found with ⟨rfl, rfl⟩ | ⟨-, found⟩
    · cases at_ : u.status with
      | finished g r =>
        simp only [Task.asked, at_] at member
        obtain ⟨e, logged, same⟩ := past op member
        exact ⟨e, System.mem_put_issued.mpr (Or.inl logged), same⟩
      | waiting g op' k =>
        simp only [Task.asked, at_, List.mem_append, List.mem_singleton] at member
        rcases member with old | rfl
        · obtain ⟨e, logged, same⟩ := past op old
          exact ⟨e, System.mem_put_issued.mpr (Or.inl logged), same⟩
        · exact ⟨⟨j, u.call, u.history, op, g, s.durable⟩,
            System.mem_put_issued.mpr (Or.inr (by simp [Task.issues, at_])), rfl, rfl⟩
      | answered g op' k r =>
        simp only [Task.asked, at_, List.mem_append, List.mem_singleton] at member
        obtain ⟨e, logged, same⟩ : ∃ e ∈ s.issued, e.task = j ∧ e.op = op := by
          rcases member with old | rfl
          · exact past op old
          · exact current g op k r at_
        exact ⟨e, System.mem_put_issued.mpr (Or.inl logged), same⟩
    · obtain ⟨e, logged, same⟩ := consistent.asked found op member
      exact ⟨e, System.mem_put_issued.mpr (Or.inl logged), same⟩
  · intro e member
    rcases System.mem_put_issued.mp member with old | new
    · exact consistent.met e old
    · obtain ⟨k, same, waiting⟩ := Task.mem_issues new
      rw [waiting] at status
      rw [same]
      exact status.1
  · intro e member item known
    rcases System.mem_put_issued.mp member with old | new
    · exact consistent.then_ e old item known
    · obtain ⟨k, same, -⟩ := Task.mem_issues new
      rw [same] at known ⊢
      exact facts item (Task.history_subset_known t known)
  · intro e member item known
    rcases System.mem_put_issued.mp member with old | new
    · exact consistent.now e old item known
    · obtain ⟨k, same, -⟩ := Task.mem_issues new
      rw [same] at known
      exact facts item (Task.history_subset_known t known)
  · intro e member
    rw [System.put_tasks]
    rcases System.mem_put_issued.mp member with old | new
    · obtain ⟨u, found, call, asked, prior⟩ := consistent.owner e old
      by_cases same : e.task = i
      · subst same
        obtain ⟨sameCall, more, longer⟩ := further u found
        exact ⟨t, Function.update_self .., sameCall ▸ call, more asked, List.Subset.trans prior longer⟩
      · exact ⟨u, by rw [Function.update_of_ne same]; exact found, call, asked, prior⟩
    · obtain ⟨k, same, waiting⟩ := Task.mem_issues new
      rw [same]
      exact ⟨t, Function.update_self .., rfl, by simp [Task.asked, waiting], List.Subset.refl _⟩
  · change (s.issued ++ t.issues i s.durable).Pairwise _
    rw [List.pairwise_append]
    refine ⟨consistent.ordered, ?_, ?_⟩
    · unfold Task.issues
      split <;> simp
    · intro e old e' added sameTask
      obtain ⟨k, same, -⟩ := Task.mem_issues added
      obtain ⟨u, found, -, asked, -⟩ := consistent.owner e old
      rw [same] at sameTask ⊢
      change e.task = i at sameTask
      rw [sameTask] at found
      exact new e' added u found asked

/-- A suspended task that moves on with an answer, or with an exception in its place. -/
theorem Consistent.move (meets : Meets W spec post) (consistent : Consistent spec post fact s) {i : ℕ} {c : Call}
    {h : List (Done ε Ans)} {g g' : Γ} {op : Op} {k : Except ε (Ans op) → Coroutine Γ ε Ans ρ}
    {st : Status Γ ε Ans ρ} (found : s.tasks i = some ⟨c, h, st⟩) (r : Except ε (Ans op))
    (at_ : st = .waiting g op k ∨ ∃ r', st = .answered g op k r')
    (known : fact ⟨op, r⟩ s.durable) (relied : W.rely op g r g') :
    Consistent spec post fact (s.put i ⟨c, h ++ [⟨op, r⟩], (k r).settle g'⟩) := by
  have asked : Task.asked ⟨c, h, st⟩ = Done.ops (h ++ [⟨op, r⟩]) := by
    rcases at_ with rfl | ⟨r', rfl⟩ <;> simp [Task.asked]
  have waits : (spec c).issue h op g ∧ ∀ r g', (spec c).rely op g r g' →
      Coroutine.Sat (spec c) (post c) (k r) (h ++ [⟨op, r⟩]) g' := by
    have status := consistent.status found
    rcases at_ with rfl | ⟨r', rfl⟩ <;> exact status
  have settled := (waits.2 r g' (meets.rely c op g r g' relied)).settle
  have facts : ∀ item ∈ h ++ [⟨op, r⟩], fact item s.durable := by
    intro item member
    rcases List.mem_append.mp member with old | new
    · exact consistent.facts found item (Task.history_subset_known _ old)
    · rw [List.mem_singleton] at new
      exact new ▸ known
  have unanswered : ∀ a b c' d', (k r).settle g' ≠ .answered a b c' d' := by
    intro a b c' d'
    exact settle_ne_answered (k r) g'
  apply consistent.put settled
  · intro item member
    apply facts
    unfold Task.known at member
    split at member
    next a b c' d' answered => exact absurd answered (unanswered a b c' d')
    · exact member
  · intro old present
    rw [found] at present
    obtain rfl := Option.some.inj present
    rw [asked]
    exact ⟨rfl, Task.history_subset_asked ⟨c, h ++ [⟨op, r⟩], (k r).settle g'⟩,
      List.subset_append_left _ _⟩
  · intro op' member
    exact consistent.asked found op' (asked ▸ member)
  · intro e _ old present
    rw [found] at present
    obtain rfl := Option.some.inj present
    exact asked ▸ List.Subset.refl _
  · intro a b c' d' answered
    exact absurd answered (unanswered a b c' d')

theorem Step.consistent (meets : Meets W spec post) (persistent : Persistent W fact)
    (step : Step W s s') (consistent : Consistent spec post fact s) : Consistent spec post fact s' := by
  cases step with
  | start i c fresh =>
    have absent : ∀ old, s.tasks i ≠ some old := by simp [fresh]
    have unanswered : ∀ a b c' d', (W.body c).settle (W.origin c) ≠ .answered a b c' d' := by
      intro a b c' d'
      exact settle_ne_answered (W.body c) (W.origin c)
    apply consistent.put (meets.body c).settle
    · intro item member
      unfold Task.known at member
      split at member
      next a b c' d' answered => exact absurd answered (unanswered a b c' d')
      · cases member
    · exact fun old present => absurd present (absent old)
    · simp
    · exact fun _ _ old present => absurd present (absent old)
    · exact fun a b c' d' answered => absurd answered (unanswered a b c' d')
  | perform found performed =>
    have moved := consistent.effect persistent performed
    have status := consistent.status found
    apply moved.put
    · exact status
    · intro item member
      rcases List.mem_append.mp member with old | new
      · exact moved.facts found item old
      · rw [List.mem_singleton] at new
        exact new ▸ persistent.made performed
    · intro old present
      rw [found] at present
      obtain rfl := Option.some.inj present
      exact ⟨rfl, List.Subset.refl _, List.Subset.refl _⟩
    · intro op member
      exact consistent.asked found op (Task.history_subset_asked _ member)
    · intro e member
      cases member
    · intro a b c' d' answered
      cases answered
      exact consistent.asked found _ (by simp [Task.asked])
  | resume found moved =>
    exact consistent.move meets found _ (Or.inr ⟨_, rfl⟩)
      (consistent.facts found _ (by simp [Task.known])) moved
  | interrupt e found moved =>
    rcases found with found | ⟨r, found⟩
    · exact consistent.move meets found (.error e) (Or.inl rfl) persistent.failed moved
    · exact consistent.move meets found (.error e) (Or.inr ⟨r, rfl⟩) persistent.failed moved
  | late issue member r performed => exact consistent.effect persistent performed

theorem consistent_idle (d : D) : Consistent spec post fact (System.idle d) := by
  constructor <;> simp [System.idle]

/-- Along every run each task meets its specification, and what it was told still holds. -/
theorem Reachable.consistent (meets : Meets W spec post) (persistent : Persistent W fact)
    (run : Reachable W d s) : Consistent spec post fact s := by
  induction run with
  | refl => exact consistent_idle d
  | tail _ step ih => exact step.consistent meets persistent ih

/-- Of two things that one task has asked for, one was asked for before the other. -/
theorem Consistent.before_or_after (consistent : Consistent spec post fact s)
    {e e' : Issue Γ ε Ans Call D} (member : e ∈ s.issued) (member' : e' ∈ s.issued)
    (task : e.task = e'.task) (other : e.op ≠ e'.op) :
    e.op ∈ Done.ops e'.history ∨ e'.op ∈ Done.ops e.history := by
  let either (e e' : Issue Γ ε Ans Call D) : Prop := e.task = e'.task →
    e.op ∈ Done.ops e'.history ∨ e'.op ∈ Done.ops e.history
  have symm : Std.Symm either := ⟨fun _ _ related same => (related same.symm).symm⟩
  have pairwise : s.issued.Pairwise either :=
    consistent.ordered.imp fun earlier same => Or.inl (earlier same)
  exact pairwise.forall member member' (fun same => other (same ▸ rfl)) task

/-- What the operations asked for so far keep of the durable state holds along every run. -/
theorem Reachable.durable_invariant (meets : Meets W spec post) (persistent : Persistent W fact)
    {J : (Op → Prop) → D → Prop} (initially : ∀ A, J A d)
    (more : ∀ {A B d}, (∀ op, A op → B op) → J A d → J B d)
    (kept : ∀ {A op d r d'}, A op → W.performs op d r d' → J A d → J A d')
    (run : Reachable W d s) : J (fun op => ∃ e ∈ s.issued, e.op = op) s.durable := by
  induction run with
  | refl => exact initially _
  | @tail s s' before step ih =>
    have consistent := Reachable.consistent meets persistent before
    have grown : ∀ i t (s : System Γ ε Ans ρ Call D) (op : Op),
        (∃ e ∈ s.issued, e.op = op) → ∃ e ∈ (s.put i t).issued, e.op = op := by
      rintro i t s op ⟨e, member, same⟩
      exact ⟨e, System.mem_put_issued.mpr (Or.inl member), same⟩
    cases step with
    | start i c fresh => exact more (grown _ _ _) ih
    | perform found performed =>
      obtain ⟨e, member, -, same⟩ :=
        consistent.asked found _ (List.mem_append_right _ (List.mem_singleton_self _))
      exact more (grown _ _ _) (kept ⟨e, member, same⟩ performed ih)
    | resume found moved => exact more (grown _ _ _) ih
    | interrupt e found moved => exact more (grown _ _ _) ih
    | late issue member r performed => exact kept ⟨issue, member, rfl⟩ performed ih

end Runs

/-! ### Scheduling one task -/

/-- Let a task's awaited operation be answered by `handler`, and wake the task in
surroundings that have moved on by `wake`. -/
def System.turn (handler : (op : Op) → D → Except ε (Ans op) × D) (wake : Γ → Γ) (i : ℕ)
    (s : System Γ ε Ans ρ Call D) : System Γ ε Ans ρ Call D :=
  match s.tasks i with
  | some ⟨c, h, .waiting g op k⟩ =>
    let answer := handler op s.durable
    (System.put { s with durable := answer.2 } i ⟨c, h, .answered g op k answer.1⟩).put i
      ⟨c, h ++ [⟨op, answer.1⟩], (k answer.1).settle (wake g)⟩
  | _ => s

/-- A turn does not change which calls are running. -/
theorem System.callOf_turn (handler : (op : Op) → D → Except ε (Ans op) × D) (wake : Γ → Γ) (i j : ℕ)
    (s : System Γ ε Ans ρ Call D) : (s.turn handler wake i).callOf j = s.callOf j := by
  unfold System.turn
  split
  next c h g op k found =>
    rw [callOf_put, callOf_put]
    split
    next same =>
      subst same
      exact (congrArg (Option.map Task.call) found).symm
    · rfl
  · rfl

theorem System.callOf_turns (handler : (op : Op) → D → Except ε (Ans op) × D) (wake : Γ → Γ) (i j n : ℕ)
    (s : System Γ ε Ans ρ Call D) :
    ((System.turn handler wake i)^[n] s).callOf j = s.callOf j := by
  induction n with
  | zero => rfl
  | succ n ih => rw [Function.iterate_succ_apply', callOf_turn, ih]

theorem Reachable.start {W : World Γ ε Ans ρ Call D} {d : D} {s : System Γ ε Ans ρ Call D}
    (run : Reachable W d s) (i : ℕ) (c : Call) (fresh : s.tasks i = none) :
    Reachable W d (s.put i ⟨c, [], (W.body c).settle (W.origin c)⟩) :=
  run.tail (.start i c fresh)

theorem Reachable.turn {W : World Γ ε Ans ρ Call D} {d : D} {s : System Γ ε Ans ρ Call D}
    (run : Reachable W d s) {handler : (op : Op) → D → Except ε (Ans op) × D} {wake : Γ → Γ}
    (conforms : ∀ op d, W.performs op d (handler op d).1 (handler op d).2)
    (relied : ∀ op g r, W.rely op g r (wake g)) (i : ℕ) : Reachable W d (s.turn handler wake i) := by
  unfold System.turn
  split
  next c h g op k found =>
    have performed := run.tail (.perform found (conforms op s.durable))
    exact performed.tail (.resume (Function.update_self ..) (relied ..))
  · exact run

/-- Any number of turns. -/
theorem Reachable.turns {W : World Γ ε Ans ρ Call D} {d : D} {s : System Γ ε Ans ρ Call D}
    (run : Reachable W d s) {handler : (op : Op) → D → Except ε (Ans op) × D} {wake : Γ → Γ}
    (conforms : ∀ op d, W.performs op d (handler op d).1 (handler op d).2)
    (relied : ∀ op g r, W.rely op g r (wake g)) (i n : ℕ) :
    Reachable W d ((System.turn handler wake i)^[n] s) := by
  induction n with
  | zero => exact run
  | succ n ih =>
    rw [Function.iterate_succ_apply']
    exact ih.turn conforms relied i

end Support
