import Mathlib.Data.List.Induction
import Sentry.Domain.Models
import Sentry.Support.Binary64

/-!
# The runtime safety controller

`app/safety/runtime_state.py`: the fail-closed state machine that gates entries
and exits, and its behaviour over whole histories of calls. The elapsed clock is
read once per observation, so a reading is an argument of the call. Readings are doubles: they
may go backward, be no number, and their differences are rounded.
-/
namespace Sentry

open Support

structure SafetyEvidence where
  databaseWritable : Bool
  brokerStateKnown : Bool
  reconciled : Bool
  marketDataFresh : Bool
  accountDataFresh : Bool
  executionServiceHealthy : Bool
  killSwitchClear : Bool
  environmentMatches : Bool
  unresolvedSubmission : Bool := false
  deriving DecidableEq, Repr

def SafetyEvidence.permitsNormal (e : SafetyEvidence) : Bool :=
  e.databaseWritable && e.brokerStateKnown && e.reconciled && e.marketDataFresh &&
    e.accountDataFresh && e.executionServiceHealthy && e.killSwitchClear && e.environmentMatches &&
    !e.unresolvedSubmission

def RuntimeSafetyState.rank : RuntimeSafetyState → Nat
  | .normal => 0
  | .entryDisabled => 1
  | .exitOnly => 2
  | .halted => 3

/-- `timedelta.total_seconds`: the double nearest to the number of seconds. -/
def totalSeconds (microseconds : ℤ) : Float :=
  let seconds := Float.ofModel (Float.Model.ofScientific microseconds.natAbs (-6))
  if microseconds < 0 then -seconds else seconds

/-- The startup health window is in microseconds. -/
structure SafetyController where
  window : ℤ
  state : RuntimeSafetyState := .entryDisabled
  reason : String := "startup reconciliation and health window required"
  healthySince : Option Float := none
  entriesPaused : Bool := false
  deriving DecidableEq

namespace SafetyController

def degrade (target : RuntimeSafetyState) (reason : String) (c : SafetyController) :
    Except Exc Unit × SafetyController :=
  if target = .normal then (.error (.valueError "degrade cannot request NORMAL"), c)
  else if c.state.rank ≤ target.rank then
    (.ok (), { c with state := target, reason := reason, healthySince := none })
  else (.ok (), c)

def emergencyStop (reason : String) (c : SafetyController) : SafetyController :=
  { c with state := .halted, reason := reason, healthySince := none }

def pauseEntries (reason : String) (c : SafetyController) : SafetyController :=
  (degrade .entryDisabled reason { c with entriesPaused := true }).2

def observe (now : Float) (evidence : SafetyEvidence) (manualHaltCleared : Bool)
    (c : SafetyController) : SafetyController :=
  if !evidence.killSwitchClear then c.emergencyStop "kill switch active"
  else if evidence.unresolvedSubmission || !evidence.databaseWritable then
    c.emergencyStop "unresolved submission or database unavailable"
  else if !evidence.brokerStateKnown || !evidence.environmentMatches then
    (c.degrade .entryDisabled "broker/environment state unknown").2
  else if c.entriesPaused then (c.degrade .entryDisabled "entries paused by operator").2
  else if !evidence.permitsNormal then (c.degrade .entryDisabled "health evidence incomplete").2
  else if c.state = .halted ∧ !manualHaltCleared then c
  else match c.healthySince with
    | none =>
      { c with
        healthySince := some now
        state := .entryDisabled
        reason := "health window accumulating" }
    | some since =>
      if now < since then (c.degrade .entryDisabled "elapsed clock moved backward").2
      else if totalSeconds c.window ≤ now - since then
        { c with state := .normal, reason := "all deterministic health gates passed" }
      else c

def resumeEntries (now : Float) (evidence : SafetyEvidence) (manualHaltCleared : Bool)
    (c : SafetyController) : SafetyController :=
  observe now evidence manualHaltCleared { c with entriesPaused := false }

def permitsNewEntry (c : SafetyController) : Bool := c.state == .normal

def permitsRiskReducingExit (c : SafetyController) : Bool :=
  c.state == .normal || c.state == .entryDisabled || c.state == .exitOnly

/-- A call on the controller, with the elapsed reading it takes if it takes one. -/
inductive Call where
  | observe (now : Float) (evidence : SafetyEvidence) (manualHaltCleared : Bool)
  | degrade (target : RuntimeSafetyState) (reason : String)
  | emergencyStop (reason : String)
  | pauseEntries (reason : String)
  | resumeEntries (now : Float) (evidence : SafetyEvidence) (manualHaltCleared : Bool)

def step (c : SafetyController) : Call → SafetyController
  | .observe now evidence cleared => c.observe now evidence cleared
  | .degrade target reason => (c.degrade target reason).2
  | .emergencyStop reason => c.emergencyStop reason
  | .pauseEntries reason => c.pauseEntries reason
  | .resumeEntries now evidence cleared => c.resumeEntries now evidence cleared

/-- A new controller after a history of calls. -/
def run (window : ℤ) (calls : List Call) : SafetyController := calls.foldl step { window }

theorem run_append (window : ℤ) (calls later : List Call) :
    run window (calls ++ later) = later.foldl step (run window calls) := by
  simp only [run, List.foldl_append]

/-! ### Reading a call -/

/-- An observation: its elapsed reading, its evidence, whether it clears a halt, and
whether entries are paused while it is judged. Resuming lifts the pause first. -/
def Call.observation? (c : SafetyController) : Call → Option (Float × SafetyEvidence × Bool × Bool)
  | .observe now evidence cleared => some (now, evidence, cleared, c.entriesPaused)
  | .resumeEntries now evidence cleared => some (now, evidence, cleared, false)
  | _ => none

/-- A degradation, pause or stop that takes effect on the controller. -/
def Call.isEffective (c : SafetyController) : Call → Bool
  | .degrade target _ => target != .normal && decide (c.state.rank ≤ target.rank)
  | .emergencyStop _ | .pauseEntries _ => true
  | _ => false

/-- When a reading is not before the start of a health window, and when it is past the end of
one. -/
structure Reckoning where
  notBefore : Float → Float → Prop
  past : Float → Float → Prop

/-- As the source compares doubles. -/
def computed (window : ℤ) : Reckoning where
  notBefore start now := ¬ now < start
  past start now := totalSeconds window ≤ now - start

/-- As the numbers of seconds compare. -/
def inSeconds (window : ℤ) : Reckoning where
  notBefore start now :=
    ∃ s n, Binary64.value? start = some s ∧ Binary64.value? now = some n ∧ s ≤ n
  past start now :=
    ∃ s n, Binary64.value? start = some s ∧ Binary64.value? now = some n ∧
      s + (window : ℚ) / 1000000 ≤ n

/-- A call that does not disturb a health window begun at `start`: an unpaused
observation of good health not before the start, or a degradation without effect. -/
def Call.HealthyFrom (r : Reckoning) (start : Float) (c : SafetyController) (call : Call) : Prop :=
  match call.observation? c with
  | some (now, evidence, _, paused) =>
    evidence.permitsNormal = true ∧ paused = false ∧ r.notBefore start now
  | none => call.isEffective c = false

/-! ### One step -/

/-- The observation that ends a health window begun at `start`. -/
def Call.Completes (start : Float) (c : SafetyController) (call : Call) : Prop :=
  ∃ now evidence cleared, call.observation? c = some (now, evidence, cleared, false) ∧
    (computed c.window).past start now

/-- The window is closed, and the controller is not NORMAL. -/
def Closed (c : SafetyController) : Prop := c.healthySince = none ∧ c.state ≠ .normal

theorem degrade_halted (target : RuntimeSafetyState) (reason : String) {c : SafetyController}
    (halted : c.state = .halted) : (c.degrade target reason).2.state = .halted := by
  unfold degrade
  split
  · exact halted
  · split
    next above =>
      rw [halted] at above
      cases target <;> simp_all [RuntimeSafetyState.rank]
    · exact halted

/-- What the judgement of an observation can do to a controller: close its health
window (and never lift a halt), open one, or let one run on, possibly to its end. -/
inductive Judged (now : Float) (evidence : SafetyEvidence) (cleared : Bool)
    (c c' : SafetyController) : Prop where
  | closed (shut : Closed c') (halted : c.state = .halted → c'.state = .halted)
  | opened (healthy : evidence.permitsNormal = true) (unpaused : c.entriesPaused = false)
      (release : c.state = .halted → cleared = true)
      (since : c'.healthySince = some now) (state : c'.state = .entryDisabled)
  | continued (start : Float) (healthy : evidence.permitsNormal = true)
      (unpaused : c.entriesPaused = false) (before : c.healthySince = some start)
      (later : (computed c.window).notBefore start now) (since : c'.healthySince = some start)
      (state : c'.state = c.state ∨ ((computed c.window).past start now ∧ c'.state = .normal))

/-- What one call can do to the health window. -/
inductive Stepped (call : Call) (c c' : SafetyController) : Prop where
  | closed (shut : Closed c')
  | opened (start : Float) (observed : ∃ evidence cleared,
        call.observation? c = some (start, evidence, cleared, false))
      (healthy : call.HealthyFrom (computed c.window) start c) (since : c'.healthySince = some start)
      (state : c'.state = .entryDisabled)
  | continued (start : Float) (before : c.healthySince = some start)
      (healthy : call.HealthyFrom (computed c.window) start c) (since : c'.healthySince = some start)
      (state : c'.state = c.state ∨ (call.Completes start c ∧ c'.state = .normal))

/-- Lift a judgement to the call that asked for it; `judge` is the controller as the
observation finds it. -/
theorem Judged.stepped {now : Float} {evidence : SafetyEvidence} {cleared : Bool} {call : Call}
    {c judge c' : SafetyController} (judged : Judged now evidence cleared judge c')
    (observed : call.observation? c = some (now, evidence, cleared, judge.entriesPaused))
    (since_eq : judge.healthySince = c.healthySince) (state_eq : judge.state = c.state)
    (window_eq : judge.window = c.window) : Stepped call c c' := by
  cases judged with
  | closed shut _ => exact .closed shut
  | opened healthy unpaused _ since state =>
    rw [unpaused] at observed
    refine .opened now ⟨evidence, cleared, observed⟩ ?_ since state
    simp only [Call.HealthyFrom, observed]
    exact ⟨healthy, trivial, Binary64.lt_irrefl now⟩
  | continued start healthy unpaused before later since state =>
    rw [unpaused] at observed
    refine .continued start (since_eq ▸ before) ?_ since ?_
    · simp only [Call.HealthyFrom, observed]
      exact ⟨healthy, trivial, window_eq ▸ later⟩
    · rcases state with same | ⟨complete, normal⟩
      · exact Or.inl (same.trans state_eq)
      · exact Or.inr ⟨⟨now, evidence, cleared, observed, window_eq ▸ complete⟩, normal⟩

/-- The calls from `first` on never disturbed a health window that `first` began. -/
structure HealthySince (r : Reckoning) (window : ℤ) (start : Float) (before : List Call)
    (first : Call) (after : List Call) : Prop where
  opens : ∃ evidence cleared,
    first.observation? (run window before) = some (start, evidence, cleared, false)
  undisturbed : ∀ pre call post, first :: after = pre ++ call :: post →
    call.HealthyFrom r start (run window (before ++ pre))

/-- One of the calls `after` a history set NORMAL, at a reading past the window, and the
state has been NORMAL since. -/
def SetNormal (r : Reckoning) (window : ℤ) (start : Float) (history after : List Call) : Prop :=
  ∃ pre call post, after = pre ++ call :: post ∧
    (run window (history ++ pre)).state ≠ .normal ∧
    (∃ now evidence cleared, call.observation? (run window (history ++ pre)) =
      some (now, evidence, cleared, false) ∧ r.past start now) ∧
    ∀ more, more <+: post → (run window (history ++ pre ++ call :: more)).state = .normal

theorem HealthySince.snoc {r : Reckoning} {window : ℤ} {start : Float} {before after : List Call}
    {first call : Call} (healthy : HealthySince r window start before first after)
    (last : call.HealthyFrom r start (run window (before ++ first :: after))) :
    HealthySince r window start before first (after ++ [call]) := by
  refine ⟨healthy.opens, ?_⟩
  intro pre c post split_
  -- the split falls on the new call or inside the old stretch
  rcases List.eq_nil_or_concat post with rfl | ⟨post', c', rfl⟩
  · have ends : (first :: after) ++ [call] = pre ++ [c] := split_
    obtain ⟨rfl, equal⟩ := List.append_inj' ends rfl
    cases equal
    exact last
  · have ends : (first :: after) ++ [call] = (pre ++ c :: post') ++ [c'] := by
      simpa [List.concat_eq_append] using split_
    obtain ⟨old, _⟩ := List.append_inj' ends rfl
    exact healthy.undisturbed pre c post' old

theorem SetNormal.snoc {r : Reckoning} {window : ℤ} {start : Float} {history after : List Call}
    {call : Call} (set_ : SetNormal r window start history after)
    (still : (run window (history ++ after ++ [call])).state = .normal) :
    SetNormal r window start history (after ++ [call]) := by
  obtain ⟨pre, c, post, rfl, unset, completes, since⟩ := set_
  refine ⟨pre, c, post ++ [call], by simp, unset, completes, ?_⟩
  intro more within
  rcases List.prefix_concat_iff.mp within with rfl | shorter
  · simpa [List.append_assoc] using still
  · exact since more shorter

/-- The elapsed reading a call takes. -/
def Call.reading? : Call → Option Float
  | .observe now _ _ | .resumeEntries now _ _ => some now
  | _ => none

def readings (calls : List Call) : List Float := calls.filterMap Call.reading?

/-- The window and the readings of a history are numbers of seconds, and the differences of
readings need no rounding. -/
structure Exact (window : ℤ) (calls : List Call) : Prop where
  window : Binary64.value? (totalSeconds window) = some ((window : ℚ) / 1000000)
  finite : ∀ x ∈ readings calls, ∃ q, Binary64.value? x = some q
  differences : ∀ x ∈ readings calls, ∀ y ∈ readings calls, ∀ p q,
    Binary64.value? x = some p → Binary64.value? y = some q →
      Binary64.value? (y - x) = some (q - p)

theorem reading_of_observation {c : SafetyController} {call : Call} {now : Float}
    {evidence : SafetyEvidence} {cleared paused : Bool}
    (observed : call.observation? c = some (now, evidence, cleared, paused)) :
    call.reading? = some now := by
  cases call with
  | observe | resumeEntries =>
    cases observed
    rfl
  | _ => cases observed

theorem mem_readings {calls : List Call} {call : Call} {now : Float} (member : call ∈ calls)
    (reads : call.reading? = some now) : now ∈ readings calls :=
  List.mem_filterMap.mpr ⟨call, member, reads⟩

section Reckonings

variable {r r' : Reckoning} {window : ℤ} {start : Float} {before after : List Call} {first : Call}

theorem HealthySince.reads (healthy : HealthySince r window start before first after) :
    first.reading? = some start := by
  obtain ⟨evidence, cleared, observed⟩ := healthy.opens
  exact reading_of_observation observed

/-- A window keeps its reading under a reckoning that agrees on the readings from its start. -/
theorem HealthySince.imp (healthy : HealthySince r window start before first after)
    (agrees : ∀ now ∈ readings (first :: after), r.notBefore start now → r'.notBefore start now) :
    HealthySince r' window start before first after := by
  refine ⟨healthy.opens, fun pre call post split_ => ?_⟩
  have undisturbed := healthy.undisturbed pre call post split_
  have member : call ∈ first :: after := by simp [split_]
  unfold Call.HealthyFrom at undisturbed ⊢
  split
  next now evidence cleared paused observed =>
    simp only [observed] at undisturbed
    exact ⟨undisturbed.1, undisturbed.2.1,
      agrees now (mem_readings member (reading_of_observation observed)) undisturbed.2.2⟩
  next unobserved => simpa only [unobserved] using undisturbed

theorem SetNormal.imp {history : List Call} (set_ : SetNormal r window start history after)
    (agrees : ∀ now ∈ readings after, r.past start now → r'.past start now) :
    SetNormal r' window start history after := by
  obtain ⟨pre, call, post, rfl, unset, ⟨now, evidence, cleared, observed, past⟩, since⟩ := set_
  have reads : now ∈ readings (pre ++ call :: post) :=
    mem_readings (List.mem_append_right pre List.mem_cons_self) (reading_of_observation observed)
  exact ⟨pre, call, post, rfl, unset, ⟨now, evidence, cleared, observed, agrees now reads past⟩,
    since⟩

/-- In exact readings the comparisons of the source are those of the seconds. -/
theorem Exact.notBefore {calls : List Call} {now : Float} (precise : Exact window calls)
    (earlier : start ∈ readings calls) (later : now ∈ readings calls)
    (above : (computed window).notBefore start now) : (inSeconds window).notBefore start now := by
  obtain ⟨s, starts⟩ := precise.finite start earlier
  obtain ⟨n, reads⟩ := precise.finite now later
  exact ⟨s, n, starts, reads, not_lt.mp (mt (Binary64.lt_iff reads starts).mpr above)⟩

theorem Exact.past {calls : List Call} {now : Float} (precise : Exact window calls)
    (earlier : start ∈ readings calls) (later : now ∈ readings calls)
    (above : (computed window).past start now) : (inSeconds window).past start now := by
  obtain ⟨s, starts⟩ := precise.finite start earlier
  obtain ⟨n, reads⟩ := precise.finite now later
  have difference := precise.differences start earlier now later s n starts reads
  have lasted := (Binary64.le_iff precise.window difference).mp above
  exact ⟨s, n, starts, reads, le_sub_iff_add_le'.mp lasted⟩

end Reckonings

/-- The history that set a controller NORMAL, as a reckoning tells it. -/
def Earned (r : Reckoning) (window : ℤ) (calls : List Call) : Prop :=
  ∃ start before first after, calls = before ++ first :: after ∧
    HealthySince r window start before first after ∧
    SetNormal r window start (before ++ [first]) after

theorem Earned.inSeconds {window : ℤ} {calls : List Call} (precise : Exact window calls)
    (earned : Earned (computed window) window calls) : Earned (inSeconds window) window calls := by
  obtain ⟨start, before, first, after, rfl, stretch, set_⟩ := earned
  have within : ∀ now ∈ readings (first :: after), now ∈ readings (before ++ first :: after) := by
    intro now reads
    rw [readings, List.filterMap_append]
    exact List.mem_append_right _ reads
  have starts := within start (mem_readings List.mem_cons_self stretch.reads)
  refine ⟨start, before, first, after, rfl, stretch.imp fun now reads => ?_,
    set_.imp fun now reads => ?_⟩
  · exact precise.notBefore starts (within now reads)
  · obtain ⟨call, member, here⟩ := List.mem_filterMap.mp reads
    exact precise.past starts (within now (mem_readings (List.mem_cons_of_mem first member) here))

section Samples

def healthy : SafetyEvidence := ⟨true, true, true, true, true, true, true, true, false⟩

/-- Half a place of the last reading, which is three hundred seconds and one place. -/
def early : Float := .ofBits 0x3D38000000000000

def late : Float := .ofBits 0x4072C00000000001

def notANumber : Float := .ofBits 0x7FF8000000000000

end Samples

/-- What sets a controller NORMAL reads a time past the end of the window. -/
theorem Earned.past {r : Reckoning} {window : ℤ} {calls : List Call}
    (earned : Earned r window calls) :
    ∃ start before first after, calls = before ++ first :: after ∧ first.reading? = some start ∧
      ∃ now ∈ readings after, r.past start now := by
  obtain ⟨start, before, first, after, rfl, stretch, pre, call, post, rfl, -,
    ⟨now, evidence, cleared, observed, past⟩, -⟩ := earned
  exact ⟨start, before, first, _, rfl, stretch.reads, now,
    mem_readings (by simp) (reading_of_observation observed), past⟩

/-- The last reading is not before the start of the window. -/
theorem Earned.last {r : Reckoning} {window : ℤ} {calls : List Call} {now : Float}
    {evidence : SafetyEvidence} {cleared : Bool}
    (earned : Earned r window (calls ++ [.observe now evidence cleared])) :
    ∃ start, r.notBefore start now := by
  obtain ⟨start, before, first, after, split_, stretch, -⟩ := earned
  obtain ⟨pre, ends⟩ : ∃ pre, first :: after = pre ++ [.observe now evidence cleared] := by
    have last : (first :: after).getLast (by simp) = .observe now evidence cleared := by
      have same := congrArg List.getLast? split_
      simpa [List.getLast?_append, List.getLast?_eq_some_getLast] using same.symm
    exact ⟨_, (last ▸ List.dropLast_append_getLast (by simp)).symm⟩
  have undisturbed := stretch.undisturbed pre _ [] ends
  exact ⟨start, undisturbed.2.2⟩

end SafetyController

end Sentry
