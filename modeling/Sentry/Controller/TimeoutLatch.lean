import Mathlib.Data.List.Nodup
import Sentry.Controller.Master
import Sentry.Support.Interleaving
import Sentry.Support.Triples

/-!
# A missed deadline is never forgotten

Once a callback has missed its deadline the controller stays out of service: whatever runs,
finishes late, reconciles, checks health or resumes entries afterwards, in any order, the view is
not reconciled and the safety controller is halted whenever no callback is at large. The list of
what was late only grows; between two suspension points a call may leave the latch open, and closes
it before it suspends.
-/
namespace Sentry

open Support Coroutine Relation

/-- Evidence that does not permit normal running never ends a halt. -/
theorem SafetyController.observe_halted (now : Float) (cleared : Bool) {evidence : SafetyEvidence}
    (unfit : evidence.permitsNormal = false) {c : SafetyController} (halted : c.state = .halted) :
    (c.observe now evidence cleared).state = .halted := by
  unfold observe
  split
  · rfl
  split
  · rfl
  split
  · exact degrade_halted _ _ halted
  split
  · exact degrade_halted _ _ halted
  split
  · exact degrade_halted _ _ halted
  next fit => simp [unfit] at fit

namespace MasterController

open ControllerState

variable {controller : MasterController} {g g' : ControllerState}

/-! ### The latch -/

/-- Out of service until the next start. -/
structure Latched (g : ControllerState) : Prop where
  reconciled : g.view.reconciled = false
  execution : g.view.executionServiceHealthy = false
  evidence : ∀ evidence, g.view.lastSafetyEvidence = some evidence → evidence.permitsNormal = false
  halted : g.safety.state = .halted

/-- Whatever else changes. -/
theorem Latched.same (latched : Latched g) (reconciled : g'.view.reconciled = g.view.reconciled)
    (execution : g'.view.executionServiceHealthy = g.view.executionServiceHealthy)
    (evidence : g'.view.lastSafetyEvidence = g.view.lastSafetyEvidence)
    (halted : g'.safety.state = g.safety.state) : Latched g' where
  reconciled := reconciled.trans latched.reconciled
  execution := execution.trans latched.execution
  evidence := by
    rw [evidence]
    exact latched.evidence
  halted := halted.trans latched.halted

structure LatchInv (g : ControllerState) : Prop where
  latched : g.timedOut ≠ [] → g.active = [] → g.ending = [] → Latched g
  single : (g.active.map Prod.fst).Nodup
  released : ∀ running ∈ g.released, running = []

theorem enforce_others (controller : MasterController) (g : ControllerState) :
    (controller.enforce g).timedOut = g.timedOut ∧ (controller.enforce g).active = g.active ∧
      (controller.enforce g).released = g.released := by
  unfold enforce
  split
  · exact ⟨rfl, rfl, rfl⟩
  · exact ⟨rfl, rfl, rfl⟩

theorem latched_enforce (late : g.timedOut ≠ []) : Latched (controller.enforce g) := by
  unfold enforce
  rw [if_neg late]
  refine ⟨rfl, rfl, ?_, rfl⟩
  rintro evidence ⟨⟩
  simp [SafetyEvidence.permitsNormal, safetyEvidence]

theorem inv_enforce (single : (g.active.map Prod.fst).Nodup)
    (released : ∀ running ∈ g.released, running = []) : LatchInv (controller.enforce g) := by
  obtain ⟨timedOut, active, lock⟩ := enforce_others controller g
  refine ⟨fun late _ _ => ?_, ?_, ?_⟩
  · rw [timedOut] at late
    exact latched_enforce late
  · rwa [active]
  · rwa [lock]

namespace LatchInv

variable (inv : LatchInv g)

include inv

/-- Only the view and the safety controller change. -/
theorem within (timedOut : g'.timedOut = g.timedOut) (active : g'.active = g.active)
    (ending : g'.ending = g.ending) (released : g'.released = g.released)
    (keeps : g.timedOut ≠ [] → Latched g → Latched g') : LatchInv g' := by
  refine ⟨fun late idle done => ?_, ?_, ?_⟩
  · rw [timedOut] at late
    rw [active] at idle
    rw [ending] at done
    exact keeps late (inv.latched late idle done)
  · rw [active]
    exact inv.single
  · rw [released]
    exact inv.released

theorem enforce : LatchInv (controller.enforce g) := inv_enforce inv.single inv.released

theorem latch (key : String) : LatchInv (controller.latch key g) :=
  inv_enforce (g := { g with timedOut := g.timedOut.insert key }) inv.single inv.released

theorem complain (message : String) : LatchInv (g.complain message) :=
  inv.within rfl rfl rfl rfl fun _ latched => latched.same rfl rfl rfl rfl

theorem degrade (target : RuntimeSafetyState) (reason : String) :
    LatchInv { g with safety := (g.safety.degrade target reason).2 } :=
  inv.within rfl rfl rfl rfl fun _ latched => ⟨latched.reconciled, latched.execution,
    latched.evidence, SafetyController.degrade_halted target reason latched.halted⟩

theorem emergencyStop (reason : String) : LatchInv (g.emergencyStop reason) :=
  inv.within rfl rfl rfl rfl fun _ latched =>
    ⟨latched.reconciled, latched.execution, latched.evidence, rfl⟩

/-- Success is written only where nothing was late. -/
theorem setReconciled {result : Bool} (timely : result = true → g.timedOut = []) :
    LatchInv (g.setReconciled result) := by
  refine inv.within rfl rfl rfl rfl fun late latched => ⟨?_, latched.execution, latched.evidence,
    latched.halted⟩
  cases result with
  | false => rfl
  | true => exact absurd (timely rfl) late

theorem spawn {key : String} (idle : g.running key = false) : LatchInv (g.spawn key) := by
  refine ⟨fun _ none_ => ?_, ?_, inv.released⟩
  · exact absurd none_ (by simp [ControllerState.spawn])
  · have fresh : key ∉ g.active.map Prod.fst := by
      intro member
      obtain ⟨callback, active, same⟩ := List.mem_map.mp member
      simp only [running, List.any_eq_false, beq_iff_eq] at idle
      exact idle callback active same
    change ((g.active ++ [(key, g.next)]).map Prod.fst).Nodup
    rw [List.map_append]
    exact inv.single.append (List.nodup_singleton key) (List.disjoint_singleton.mpr fresh)

theorem release (idle : g.active = []) : LatchInv g.release := by
  unfold ControllerState.release
  split
  · refine ⟨fun late none_ done => ?_, inv.single, ?_⟩
    · exact (inv.latched late none_ done).same rfl rfl rfl rfl
    · intro running member
      rcases List.mem_append.mp member with old | new
      · exact inv.released running old
      · rw [List.mem_singleton.mp new, idle]
  · exact inv

theorem record (database broker execution : Bool) :
    LatchInv (controller.record database broker execution g) := by
  have before : LatchInv (controller.enforce g) := inv.enforce
  exact inv_enforce before.single before.released

end LatchInv

/-! ### What happens beside the calls -/

theorem Event.inv (moved : controller.Event g g') (inv : LatchInv g) : LatchInv g' := by
  cases moved with
  | mutate busy view safety =>
    -- while a callback runs nothing is promised of the view
    exact ⟨fun _ idle => absurd idle busy, inv.single, inv.released⟩
  | finish callback active =>
    -- what it did is overruled when its `completed` runs
    refine ⟨fun _ _ done => absurd done (List.cons_ne_nil _ _), ?_, inv.released⟩
    exact inv.single.sublist (List.erase_sublist.map _)
  | completed callback ending => exact inv_enforce inv.single inv.released
  | emergencyStop reason => exact inv.emergencyStop reason
  | pauseEntries reason =>
    exact inv.within rfl rfl rfl rfl fun _ latched => ⟨latched.reconciled, latched.execution,
      latched.evidence, SafetyController.degrade_halted .entryDisabled reason latched.halted⟩
  | degrade target reason => exact inv.degrade target reason
  | resumeEntries cleared known =>
    -- the evidence that is known does not permit it, even if the operator clears the halt
    exact inv.within rfl rfl rfl rfl fun _ latched => ⟨latched.reconciled, latched.execution,
      latched.evidence,
      SafetyController.observe_halted _ cleared (latched.evidence _ known) latched.halted⟩
  | report clear fresh unresolved elapsed =>
    exact inv.within rfl rfl rfl rfl fun _ latched => latched.same rfl rfl rfl rfl
  | loopEnds name =>
    exact inv.within rfl rfl rfl rfl fun _ latched => latched.same rfl rfl rfl rfl

theorem Event.grows (moved : controller.Event g g') : g.timedOut ⊆ g'.timedOut := by
  cases moved with
  | completed callback ending =>
    rw [(enforce_others _ _).1]
    exact List.Subset.refl _
  | _ => exact List.Subset.refl _

/-- Calls rely on nothing but that what was late stays late. -/
def latching : Protocol ControllerState Exc ControllerAns Unit Call where
  I := LatchInv
  R := fun _ g g' => g.timedOut ⊆ g'.timedOut
  issue := fun _ _ _ _ _ => True

/-! ### What every call keeps -/

section Calls

variable {c : Call} {since : ControllerState} {α : Type} {P : ControllerState → Prop}

/-- However it ends, the program leaves the latch as it has to be. -/
abbrev Steady (controller : MasterController) (c : Call) (since : ControllerState)
    (P : ControllerState → Prop) (p : ControllerProgram α) (Q : α → ControllerState → Prop) :
    Prop :=
  Triple (latching.spec controller.world c since) (fun _ => LatchInv) P p Q

theorem request_steady (op : ControllerOp) :
    controller.Steady c since LatchInv (request op) fun _ => LatchInv := by
  refine Triple.call (fun _ _ inv => ⟨inv, trivial⟩) ?_ ?_
  · intro g e g' _ relied
    cases relied with
    | performed _ _ _ _ then_ => exact then_
    | interrupted _ _ then_ => exact then_
    | cutOff _ _ _ _ _ then_ => exact then_
  · intro g a g' _ relied
    cases relied with
    | performed _ _ _ _ then_ => exact then_

/-- An update under a condition, where the latch is as it has to be without it. -/
theorem changeIf_steady {condition : Bool} {f : ControllerState → ControllerState}
    {Q : ControllerState → Prop} (now : ∀ g, P g → Q (f g)) (other : ∀ g, P g → Q g) :
    controller.Steady c since P (changeIf condition f) fun _ => Q := by
  cases condition with
  | true => exact Triple.change now
  | false => exact Triple.pure other

theorem runBounded_steady (key : String) (seconds : ℚ) :
    controller.Steady c since LatchInv (controller.runBounded key seconds) fun _ => LatchInv := by
  unfold runBounded
  refine Triple.peek fun stopping => ?_
  refine Triple.raiseIf (fun _ _ now => now.1) fun _ => ?_
  refine Triple.peek fun busy => ?_
  refine Triple.raiseIf (fun _ _ now => now.1.1) fun idle => ?_
  refine Triple.peek fun number => ?_
  -- nothing runs under the key when the callback is started
  refine Triple.seq (Triple.change fun g now => now.1.1.1.spawn (now.1.2.trans idle)) fun _ => ?_
  refine Triple.bind (request_steady _) fun answer => ?_
  cases answer with
  | none =>
    exact Triple.seq (Triple.change fun g inv => inv.latch key) fun _ => Triple.raise fun _ => id
  | some result => exact Triple.lift (fun _ _ _ => id) fun _ _ _ => id

theorem checkFailed_steady (key name reason : String) (e : Exc) :
    controller.Steady c since LatchInv (controller.checkFailed key name reason e)
      fun _ => LatchInv := by
  unfold checkFailed
  split
  · refine Triple.seq (changeIf_steady (fun g inv => inv.latch key) fun _ => id) fun _ => ?_
    refine Triple.seq (Triple.change fun g inv => inv.complain _) fun _ => ?_
    refine Triple.seq (Triple.change fun g inv => inv.degrade _ _) fun _ => ?_
    exact Triple.pure fun _ => id
  · exact Triple.raise fun _ => id

theorem checked_steady (key name mistyped reason : String) :
    controller.Steady c since LatchInv (controller.checked key name mistyped reason)
      fun _ => LatchInv := by
  refine Triple.attempt ?_ (checkFailed_steady key name reason)
  refine Triple.bind (runBounded_steady key _) fun result => ?_
  cases result with
  | none => exact Triple.raise fun _ => id
  | some result => exact Triple.pure fun _ => id

theorem timely_of_isEmpty (timely : (!g.timedOut.isEmpty) = false) : g.timedOut = [] := by
  simpa using timely

/-- Success is reported only where nothing was late, and nothing happens in between. -/
theorem reconcile_steady : controller.Steady c since LatchInv controller.reconcile
    fun result g => LatchInv g ∧ (result = true → g.timedOut = []) := by
  have refused : controller.Steady c since LatchInv
      (do change controller.enforce; pure false : ControllerProgram Bool)
      fun result g => LatchInv g ∧ (result = true → g.timedOut = []) :=
    Triple.seq (Triple.change fun g inv => inv.enforce) fun _ =>
      Triple.pure fun g inv => ⟨inv, nofun⟩
  unfold reconcile
  refine Triple.seq (Triple.change fun g inv => inv.setReconciled nofun) fun _ => ?_
  refine Triple.peek fun late => ?_
  cases late with
  | true => exact refused.strengthen fun g now => now.1
  | false =>
    refine Triple.bind ((checked_steady _ _ _ _).strengthen fun g now => now.1) fun result => ?_
    cases result with
    | none => exact Triple.pure fun g inv => ⟨inv, nofun⟩
    | some result =>
      refine Triple.peek fun late => ?_
      cases late with
      | true => exact refused.strengthen fun g now => now.1
      | false =>
        -- the callback was not late, and neither was another one meanwhile
        refine Triple.seq (I := fun g => LatchInv g ∧ g.timedOut = [])
          (Triple.change fun g now => ?_) fun _ => ?_
        · have timely := timely_of_isEmpty now.2
          exact ⟨now.1.setReconciled fun _ => timely, timely⟩
        · refine Triple.seq (I := fun g => LatchInv g ∧ g.timedOut = [])
            (changeIf_steady (fun g now => ⟨now.1.degrade _ _, now.2⟩) fun _ => id) fun _ => ?_
          exact Triple.pure fun g now => ⟨now.1, fun _ => now.2⟩

theorem healthCheck_steady (component : String) :
    controller.Steady c since LatchInv (controller.healthCheck component) fun _ => LatchInv := by
  unfold healthCheck
  refine Triple.peek fun late => ?_
  cases late with
  | true =>
    exact Triple.seq (Triple.change fun g now => now.1.enforce) fun _ => Triple.pure fun _ => id
  | false =>
    refine Triple.bind ((checked_steady _ _ _ _).strengthen fun g now => now.1) fun _ => ?_
    exact Triple.pure fun _ => id

theorem healthOnce_steady :
    controller.Steady c since LatchInv controller.healthOnce fun _ => LatchInv := by
  unfold healthOnce
  refine Triple.peek fun clear => ?_
  refine Triple.seq (changeIf_steady (fun g now => now.1.emergencyStop _) fun g now => now.1)
    fun _ => ?_
  refine Triple.bind (request_steady .gather) fun answers => ?_
  refine Triple.bind (R := fun _ => LatchInv) ?_ fun execution => ?_
  · split
    · exact healthCheck_steady "execution"
    · exact fun _ _ => id
  refine Triple.seq (Triple.change fun g inv => inv.record _ _ _) fun _ => ?_
  exact request_steady .gauge

theorem jobFailed_steady (job : PeriodicJob) (e : Exc) :
    controller.Steady c since LatchInv (controller.jobFailed job e) fun _ => LatchInv := by
  unfold jobFailed
  split
  · refine Triple.seq (Triple.change fun g inv => inv.complain _) fun _ => ?_
    refine Triple.seq (Triple.change fun g inv => inv.degrade _ _) fun _ => ?_
    refine Triple.bind (request_steady _) fun _ => ?_
    split
    · exact Triple.seq (Triple.change fun g inv => inv.latch _) fun _ => Triple.pure fun _ => id
    · exact Triple.pure fun _ => id
  · exact Triple.raise fun _ => id

theorem jobLoop_steady (job : PeriodicJob) (turns : ℕ) :
    controller.Steady c since LatchInv (controller.jobLoop job turns) fun _ => LatchInv := by
  induction turns with
  | zero => exact Triple.pure fun _ => id
  | succ turns ih =>
    unfold jobLoop
    refine Triple.peek fun stopping => ?_
    split
    · exact Triple.pure fun g now => now.1
    · refine Triple.bind (R := fun _ => LatchInv) ?_ fun again => ?_
      · refine Triple.attempt ?_ (jobFailed_steady job)
        refine Triple.bind ((runBounded_steady _ _).strengthen fun g now => now.1) fun _ => ?_
        exact Triple.bind (request_steady _) fun _ => Triple.pure fun _ => id
      · split
        · exact Triple.bind (request_steady _) fun _ => ih
        · exact Triple.pure fun _ => id

theorem startFailed_steady (e : Exc) :
    controller.Steady c since LatchInv (startFailed e) fun _ => LatchInv := by
  unfold startFailed
  refine Triple.peek fun idle => ?_
  cases idle with
  | true =>
    refine Triple.seq (I := LatchInv) (Triple.change fun g now => ?_) fun _ =>
      Triple.raise fun _ inv => inv
    exact now.1.release (by simpa using now.2)
  | false =>
    refine Triple.seq (I := LatchInv) (Triple.change fun g now => ?_) fun _ =>
      Triple.raise fun _ inv => inv
    exact now.1.emergencyStop _

theorem start_steady :
    controller.Steady c since LatchInv controller.start fun _ => LatchInv := by
  unfold start
  refine Triple.peek fun begun => ?_
  refine Triple.raiseIf (fun _ _ now => now.1) fun _ => ?_
  refine Triple.bind ((request_steady .acquire).strengthen fun g now => now.1) fun _ => ?_
  refine Triple.seq (I := LatchInv) (Triple.change fun g inv => ?_) fun _ => ?_
  · exact inv.within rfl rfl rfl rfl fun _ latched => latched.same rfl rfl rfl rfl
  refine Triple.attempt ?_ startFailed_steady
  refine Triple.bind reconcile_steady fun success => ?_
  -- the result is written before anything else can run
  refine Triple.seq (Triple.change fun g now => now.1.setReconciled now.2) fun _ => ?_
  refine Triple.bind healthOnce_steady fun _ => ?_
  exact Triple.change fun g inv => inv.within rfl rfl rfl rfl fun _ latched => latched.same rfl rfl rfl rfl

theorem stop_steady : controller.Steady c since LatchInv controller.stop fun _ => LatchInv := by
  unfold stop
  refine Triple.seq (I := LatchInv) (Triple.change fun g inv => ?_) fun _ => ?_
  · exact inv.within rfl rfl rfl rfl fun _ latched => latched.same rfl rfl rfl rfl
  refine Triple.seq (Triple.change fun g inv => inv.emergencyStop _) fun _ => ?_
  refine Triple.peek fun pending => ?_
  refine Triple.seq (I := LatchInv) ?_ fun _ => ?_
  · split
    · exact (request_steady _).strengthen fun g now => now.1
    · exact Triple.pure fun g now => now.1
  -- callbacks that began during the wait are seen here
  refine Triple.peek fun pending => ?_
  split
  · refine Triple.seq (Triple.change fun g now => now.1.emergencyStop _) fun _ => ?_
    exact Triple.raise fun _ => id
  next idle =>
    refine Triple.change fun g now => now.1.release ?_
    have quiet := now.2.trans (Bool.eq_false_of_not_eq_true idle)
    simp only [Bool.or_eq_false_iff, Bool.not_eq_false', List.isEmpty_iff] at quiet
    exact quiet.1

theorem forceReconcile_steady :
    controller.Steady c since LatchInv controller.forceReconcile fun _ => LatchInv := by
  unfold forceReconcile
  refine Triple.bind (request_steady .audit) fun _ => ?_
  refine Triple.bind reconcile_steady fun success => ?_
  refine Triple.seq (Triple.change fun g now => now.1.setReconciled now.2) fun _ => ?_
  refine Triple.seq (changeIf_steady (fun g inv => inv.degrade _ _) fun _ => id) fun _ => ?_
  exact request_steady .audit

theorem body_steady (call : Call) :
    controller.Steady c since LatchInv (controller.body call) fun _ => LatchInv := by
  cases call with
  | reconcile => exact Triple.bind reconcile_steady fun _ => Triple.pure fun g now => now.1
  | forceReconcile => exact forceReconcile_steady
  | healthOnce => exact healthOnce_steady
  | healthCheck component =>
    exact Triple.bind (healthCheck_steady component) fun _ => Triple.pure fun _ => id
  | jobLoop job turns => exact jobLoop_steady job turns
  | start => exact start_steady
  | stop => exact stop_steady

end Calls

/-! ### What was late stays late -/

/-- At least these were late. -/
def Late (keys : List String) (g : ControllerState) : Prop := keys ⊆ g.timedOut

section Growth

variable {keys : List String}

theorem Late.enforce (late : Late keys g) : Late keys (controller.enforce g) := by
  unfold Late
  rw [(enforce_others _ g).1]
  exact late

theorem Late.latch (key : String) (late : Late keys g) : Late keys (controller.latch key g) :=
  Late.enforce fun _ member => List.mem_insert_of_mem (late member)

theorem changeIf_keeps (condition : Bool) {f : ControllerState → ControllerState}
    {I : ControllerState → Prop} (kept : ∀ g, I g → I (f g)) : Keeps I (changeIf condition f) := by
  cases condition with
  | true => exact keeps_change kept
  | false => trivial

theorem runBounded_keeps (key : String) (seconds : ℚ) :
    Keeps (Late keys) (controller.runBounded key seconds) := by
  refine (keeps_peek _).bind fun stopping => (keeps_raiseIf _ _).bind fun _ => ?_
  refine (keeps_peek _).bind fun busy => (keeps_raiseIf _ _).bind fun _ => ?_
  refine (keeps_peek _).bind fun number => ?_
  refine (keeps_change fun g late => late).bind fun _ => ?_
  refine (keeps_call _).bind fun answer => ?_
  cases answer with
  | none => exact (keeps_change fun g => Late.latch key).bind fun _ => keeps_raise _
  | some result => exact keeps_lift result

theorem checked_keeps (key name mistyped reason : String) :
    Keeps (Late keys) (controller.checked key name mistyped reason) := by
  refine Keeps.attempt ?_ fun e => ?_
  · refine (runBounded_keeps key _).bind fun result => ?_
    cases result <;> trivial
  · unfold checkFailed
    split
    · refine (changeIf_keeps _ fun g => Late.latch key).bind fun _ => ?_
      exact (keeps_change fun g late => late).bind fun _ =>
        (keeps_change fun g late => late).bind fun _ => keeps_pure _
    · exact keeps_raise e

theorem reconcile_keeps : Keeps (Late keys) controller.reconcile := by
  refine (keeps_change fun g late => late).bind fun _ => (keeps_peek _).bind fun late => ?_
  split
  · exact (keeps_change fun g => Late.enforce).bind fun _ => keeps_pure _
  · refine (checked_keeps _ _ _ _).bind fun result => ?_
    cases result with
    | none => exact keeps_pure _
    | some result =>
      refine (keeps_peek _).bind fun late => ?_
      split
      · exact (keeps_change fun g => Late.enforce).bind fun _ => keeps_pure _
      · refine (keeps_change fun g late => late).bind fun _ => ?_
        exact Keeps.bind (changeIf_keeps _ fun g late => late) fun _ => keeps_pure _

theorem healthCheck_keeps (component : String) :
    Keeps (Late keys) (controller.healthCheck component) := by
  refine (keeps_peek _).bind fun late => ?_
  split
  · exact (keeps_change fun g => Late.enforce).bind fun _ => keeps_pure _
  · exact (checked_keeps _ _ _ _).bind fun _ => keeps_pure _

theorem healthOnce_keeps : Keeps (Late keys) controller.healthOnce := by
  refine (keeps_peek _).bind fun clear => ?_
  refine Keeps.bind (changeIf_keeps _ fun g late => late) fun _ => ?_
  refine (keeps_call _).bind fun answers => Keeps.bind ?_ fun execution => ?_
  · split
    · exact healthCheck_keeps "execution"
    · exact keeps_peek _
  · refine (keeps_change fun g late => ?_).bind fun _ => keeps_call _
    exact Late.enforce (Late.enforce late)

theorem jobLoop_keeps (job : PeriodicJob) (turns : ℕ) :
    Keeps (Late keys) (controller.jobLoop job turns) := by
  induction turns with
  | zero => exact keeps_pure _
  | succ turns ih =>
    refine (keeps_peek _).bind fun stopping => ?_
    split
    · exact keeps_pure _
    · refine Keeps.bind (Keeps.attempt ?_ fun e => ?_) fun again => ?_
      · exact (runBounded_keeps _ _).bind fun _ => (keeps_call _).bind fun _ => keeps_pure _
      · unfold jobFailed
        split
        · refine (keeps_change fun g late => late).bind fun _ => ?_
          refine (keeps_change fun g late => late).bind fun _ => (keeps_call _).bind fun _ => ?_
          split
          · exact (keeps_change fun g => Late.latch _).bind fun _ => keeps_pure _
          · exact keeps_pure _
        · exact keeps_raise e
      · split
        · exact (keeps_call _).bind fun _ => ih
        · exact keeps_pure _

theorem Late.release (late : Late keys g) : Late keys g.release := by
  unfold ControllerState.release
  split
  · exact late
  · exact late

theorem start_keeps : Keeps (Late keys) controller.start := by
  refine (keeps_peek _).bind fun begun => (keeps_raiseIf _ _).bind fun _ => ?_
  refine (keeps_call _).bind fun _ => (keeps_change fun g late => late).bind fun _ => ?_
  refine Keeps.attempt ?_ fun e => ?_
  · refine reconcile_keeps.bind fun success => (keeps_change fun g late => late).bind fun _ => ?_
    exact healthOnce_keeps.bind fun _ => keeps_change fun g late => late
  · refine (keeps_peek _).bind fun idle => ?_
    split
    · exact (keeps_change fun g => Late.release).bind fun _ => keeps_raise e
    · exact (keeps_change fun g late => late).bind fun _ => keeps_raise e

theorem stop_keeps : Keeps (Late keys) controller.stop := by
  refine (keeps_change fun g late => late).bind fun _ => ?_
  refine (keeps_change fun g late => late).bind fun _ => (keeps_peek _).bind fun pending => ?_
  refine Keeps.bind ?_ fun _ => (keeps_peek _).bind fun pending => ?_
  · split
    · exact keeps_call _
    · exact keeps_pure _
  · split
    · exact (keeps_change fun g late => late).bind fun _ => keeps_raise _
    · exact keeps_change fun g => Late.release

theorem body_keeps (call : Call) : Keeps (Late keys) (controller.body call) := by
  cases call with
  | reconcile => exact reconcile_keeps.bind fun _ => keeps_pure _
  | forceReconcile =>
    refine (keeps_call _).bind fun _ => reconcile_keeps.bind fun success => ?_
    refine (keeps_change fun g late => late).bind fun _ => ?_
    exact Keeps.bind (changeIf_keeps _ fun g late => late) fun _ => keeps_call _
  | healthOnce => exact healthOnce_keeps
  | healthCheck component => exact (healthCheck_keeps component).bind fun _ => keeps_pure _
  | jobLoop job turns => exact jobLoop_keeps job turns
  | start => exact start_keeps
  | stop => exact stop_keeps

end Growth

/-! ### All runs -/

theorem latching_sound (controller : MasterController) : latching.Sound controller.world where
  R_refl _ g := List.Subset.refl g.timedOut
  R_trans := List.Subset.trans
  event moved inv := ⟨moved.inv inv, fun _ => moved.grows⟩
  perform := by
    intro c since h op g₀ g r g' _ _ inv performed
    obtain ⟨rfl, -⟩ := performed
    exact ⟨inv, fun _ _ => List.Subset.refl _⟩
  spares c _ _ g := body_keeps c
  admitted _ := ⟨fun _ _ _ => ⟨trivial, trivial⟩, fun _ _ => trivial⟩
  post_stable _ _ := trivial
  sat := by
    intro c s _ inv
    refine Sat.mono ?_ (body_steady c [] s.state inv)
    intro h g r ended
    cases r with
    | ok _ => exact ⟨ended, trivial⟩
    | error _ => exact ⟨ended, trivial⟩

/-- No callback has run yet. -/
structure ControllerState.Fresh (g : ControllerState) : Prop where
  timedOut : g.timedOut = []
  active : g.active = []
  released : g.released = []

/-- In every run, once a callback was late, it is late in every later state; and whenever nothing
runs from then on, the controller is out of service. No two callbacks run under one key, and the
instance lock is released only while none runs. -/
theorem timeout_latch {g : ControllerState} (fresh : ControllerState.Fresh g)
    {s s' : Crew ControllerState Exc ControllerAns Unit Call}
    (run : controller.world.Reachable g s)
    (later : ReflTransGen controller.world.Step s s') :
    s.state.timedOut ⊆ s'.state.timedOut ∧
      (s.state.timedOut ≠ [] → s'.state.active = [] → s'.state.ending = [] →
        Latched s'.state ∧ s'.state.safety.permitsNewEntry = false ∧
          s'.state.safety.permitsRiskReducingExit = false) ∧
      (s'.state.active.map Prod.fst).Nodup ∧ ∀ running ∈ s'.state.released, running = [] := by
  have sound := latching_sound controller
  have initially : LatchInv g := by
    refine ⟨fun late => absurd fresh.timedOut late, ?_, ?_⟩
    · simp [fresh.active]
    · simp [fresh.released]
  obtain ⟨⟨inv, -, -, -⟩, grown⟩ :=
    (sound.consistent initially run).onward sound (c := .reconcile) (fun _ => trivial) later
  refine ⟨grown, fun late idle done => ?_, inv.single, inv.released⟩
  have remains : s'.state.timedOut ≠ [] := by
    intro none_
    exact late (List.subset_nil.mp (none_ ▸ grown))
  have latched := inv.latched remains idle done
  refine ⟨latched, ?_, ?_⟩
  · simp [SafetyController.permitsNewEntry, latched.halted]
  · simp [SafetyController.permitsRiskReducingExit, latched.halted]

end MasterController

/-! ### A reconciliation that is late -/

namespace LateSample

open MasterController

def supervisor : MasterController where
  environmentMatches := true
  checksExecution := false
  jobs := []

def begun : ControllerState := { safety := { window := 60000000 } }

/-- The reconciliation waits for its callback. -/
def asked : Crew ControllerState Exc ControllerAns Unit Call :=
  (Crew.idle begun).start 0 .reconcile (supervisor.body .reconcile)

/-- The deadline comes first. -/
def onTime (op : ControllerOp) (g : ControllerState) :
    Except Exc (ControllerAns op) × ControllerState :=
  match op with
  | .wait _ _ _ => (.ok none, g)
  | _ => (.error .timeout, g)

def missed : Crew ControllerState Exc ControllerAns Unit Call := asked.turn onTime 0

/-- The callback goes on: it calls everything well and lets entries in. -/
def meddled : ControllerState :=
  { missed.state with
    view := { reconciled := true, executionServiceHealthy := true }
    safety := { window := 60000000, state := .normal } }

def finished : ControllerState :=
  { meddled with active := meddled.active.erase ("reconciliation", 0),
                 ending := ("reconciliation", 0) :: meddled.ending }

def completed : ControllerState :=
  supervisor.enforce { finished with ending := finished.ending.erase ("reconciliation", 0) }

theorem waits : asked.state.active = [("reconciliation", 0)] ∧
    ∃ m, asked.members 0 = some m ∧ m.op = .wait "reconciliation" 0 10 :=
  ⟨rfl, _, rfl, rfl⟩

theorem missed_late : missed.state.timedOut = ["reconciliation"] ∧
    missed.state.active = [("reconciliation", 0)] ∧ missed.state.ending = [] := by
  decide +kernel

theorem asked_reachable : supervisor.world.Reachable begun asked :=
  Concurrent.Reachable.start (W := supervisor.world) .refl 0 .reconcile trivial

theorem missed_reachable : supervisor.world.Reachable begun missed := by
  refine asked_reachable.turn_of fun m found => ?_
  obtain ⟨active, m', there, waits⟩ := waits
  obtain rfl : m' = m := Option.some.inj (there.symm.trans found)
  obtain ⟨call, since, op, resume, answer⟩ := m'
  obtain rfl : op = .wait "reconciliation" 0 10 := waits
  exact ⟨rfl, by rw [active]; exact List.mem_singleton.mpr rfl⟩

theorem settled : completed.active = [] ∧ completed.ending = [] := by
  decide +kernel

/-- Then it ends after all. -/
theorem completed_later :
    ReflTransGen supervisor.world.Step missed { missed with state := completed } := by
  obtain ⟨late, active, ending⟩ := missed_late
  have busy : missed.state.active ≠ [] := by simp [active]
  have meddle : supervisor.world.Step missed { missed with state := meddled } :=
    .event (.mutate busy _ _)
  have finish : supervisor.world.Step { missed with state := meddled }
      { missed with state := finished } := by
    refine .event (.finish ("reconciliation", 0) ?_)
    change _ ∈ missed.state.active
    simp [active]
  have complete : supervisor.world.Step { missed with state := finished }
      { missed with state := completed } :=
    .event (.completed ("reconciliation", 0) List.mem_cons_self)
  exact ((ReflTransGen.refl.tail meddle).tail finish).tail complete

end LateSample

open LateSample in
/-- The late callback has called everything well and let entries in, and is overruled. -/
theorem late_reconciliation : meddled.view.reconciled = true ∧
    meddled.safety.permitsNewEntry = true ∧ MasterController.Latched completed := by
  refine ⟨rfl, rfl, ?_⟩
  obtain ⟨-, out_of_service, -⟩ := MasterController.timeout_latch ⟨rfl, rfl, rfl⟩
    missed_reachable completed_later
  refine (out_of_service ?_ settled.1 settled.2).1
  simp [missed_late.1]

end Sentry
