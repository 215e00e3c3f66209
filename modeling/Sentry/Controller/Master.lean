import Sentry.Domain.Exceptions
import Sentry.Safety.RuntimeState
import Sentry.Support.Concurrent

/-!
# The supervisor

`MasterController` of `app/controller/master.py`: it runs callbacks under deadlines, and remembers
for good which of them missed theirs. A callback that is cancelled may go on, may change the shared
view and the safety controller, and may end at any later time; what the controller does about its
end comes after that.

The calls of the controller interleave at their awaits with each other, with running callbacks and
with the operator. Its locks are left out, so that even more calls overlap than do.
-/
namespace Sentry

open Support Coroutine

/-! ### State -/

/-- The fields of `RuntimeView` that the controller reads or writes. -/
structure ControllerView where
  brokerConnected : Bool := false
  databaseHealthy : Bool := false
  marketDataFresh : Bool := false
  reconciled : Bool := false
  executionServiceHealthy : Bool := false
  unresolvedSubmission : Bool := true
  recentErrors : List String := []
  lastSafetyEvidence : Option SafetyEvidence := none

structure ControllerState where
  view : ControllerView := {}
  safety : SafetyController
  /-- Neither the setting nor the file that disables execution is there. -/
  killSwitchClear : Bool := true
  elapsed : Float := .ofBits 0
  stop : Bool := false
  started : Bool := false
  /-- The instance lock is held. -/
  owned : Bool := false
  /-- The callbacks that run, each under its key and with a number of its own. -/
  active : List (String × ℕ) := []
  /-- Those that are done, and whose `completed` is still to run. -/
  ending : List (String × ℕ) := []
  next : ℕ := 0
  timedOut : List String := []
  /-- The job loops that are not done. -/
  loops : List String := []
  /-- What ran whenever the lock was released; nothing reads it. -/
  released : List (List (String × ℕ)) := []

structure PeriodicJob where
  name : String
  intervalSeconds : ℕ
  timeoutSeconds : ℚ := 300
  intervalSeconds_pos : 0 < intervalSeconds
  timeoutSeconds_bounds : 0 < timeoutSeconds ∧ timeoutSeconds ≤ 3600

/-- The arguments of the constructor, and what was added to them. -/
structure MasterController where
  /-- The configured environment and backend are those of the view. -/
  environmentMatches : Bool
  /-- An `execution_health` was given. -/
  checksExecution : Bool
  healthTimeoutSeconds : ℚ := 10
  jobs : List PeriodicJob

inductive ControllerOp where
  | acquire
  | wait (key : String) (id : ℕ) (seconds : ℚ)
  /-- The checks of the database and the broker, side by side. -/
  | gather
  | waitAll (seconds : ℚ)
  | gauge
  | increment (counter : String)
  | sleep (seconds : ℕ)
  | audit

/-- What a callback gives: a Boolean or something else. -/
abbrev CallbackResult := Option Bool

abbrev ControllerAns : ControllerOp → Type
  -- nothing, where the deadline came first
  | .wait _ _ _ => Option (Except Exc CallbackResult)
  | .gather => Bool × Bool
  | _ => Unit

abbrev ControllerProgram (α : Type) := Coroutine ControllerState Exc ControllerAns α

namespace ControllerState

def request (op : ControllerOp) : ControllerProgram (ControllerAns op) := call op

def changeIf (c : Bool) (f : ControllerState → ControllerState) : ControllerProgram Unit :=
  if c then change f else pure ()

variable (g : ControllerState)

/-- A callback runs under the key. -/
def running (key : String) : Bool := g.active.any fun callback => callback.1 == key

/-- `recent_errors.append`, of a queue of a hundred. -/
def complain (message : String) : ControllerState :=
  let errors := g.view.recentErrors ++ [message]
  { g with view := { g.view with recentErrors := errors.drop (errors.length - 100) } }

def degrade (reason : String) : ControllerState :=
  { g with safety := (g.safety.degrade .entryDisabled reason).2 }

def emergencyStop (reason : String) : ControllerState :=
  { g with safety := g.safety.emergencyStop reason }

def setReconciled (reconciled : Bool) : ControllerState :=
  { g with view := { g.view with reconciled } }

/-- `create_task`, and the entry in `_active_callbacks`. -/
def spawn (key : String) : ControllerState :=
  { g with active := g.active ++ [(key, g.next)], next := g.next + 1 }

/-- `InstanceLock.release`. -/
def release : ControllerState :=
  if g.owned then { g with owned := false, released := g.released ++ [g.active] } else g

end ControllerState

namespace MasterController

open ControllerState

variable (controller : MasterController)

/-! ### The latch -/

/-- `_safety_evidence`. -/
def safetyEvidence (database broker execution : Bool) (g : ControllerState) : SafetyEvidence where
  databaseWritable := database
  brokerStateKnown := broker
  reconciled := g.view.reconciled
  marketDataFresh := g.view.marketDataFresh
  accountDataFresh := broker
  executionServiceHealthy := execution
  killSwitchClear := g.killSwitchClear
  environmentMatches := controller.environmentMatches
  unresolvedSubmission := g.view.unresolvedSubmission

/-- The fields of the view that a missed deadline clears. -/
def cleared (timedOut : List String) (view : ControllerView) : ControllerView :=
  { view with
    reconciled := false
    executionServiceHealthy := false
    databaseHealthy := view.databaseHealthy && !timedOut.contains "database-health"
    brokerConnected := view.brokerConnected && !timedOut.contains "broker-health" }

/-- `_enforce_timeout_latch`. -/
def enforce (g : ControllerState) : ControllerState :=
  if g.timedOut = [] then g
  else
    let g := { g with view := cleared g.timedOut g.view }
    let evidence :=
      controller.safetyEvidence g.view.databaseHealthy g.view.brokerConnected false g
    { g with
      view := { g.view with lastSafetyEvidence := some evidence }
      safety :=
        g.safety.emergencyStop "callback deadline exceeded; restart and reconciliation required" }

/-- `_latch_timeout`. -/
def latch (key : String) (g : ControllerState) : ControllerState :=
  controller.enforce { g with timedOut := g.timedOut.insert key }

/-! ### Callbacks -/

/-- `_run_bounded`. Cancelling a callback asks it to end and waits for nothing. -/
def runBounded (key : String) (seconds : ℚ) : ControllerProgram CallbackResult := do
  let stopping ← peek ControllerState.stop
  raiseIf stopping .cancelled
  let busy ← peek fun g => g.running key
  raiseIf busy (.unlisted "RuntimeError")
  let id ← peek ControllerState.next
  change fun g => g.spawn key
  match ← request (.wait key id seconds) with
  | none => do
    -- it is asked to end, but stays among the active callbacks until it does
    change (controller.latch key)
    raise .timeout
  | some result => lift result

/-- What an exception of a check or of the reconciliation leads to. -/
def checkFailed (key name reason : String) (e : Exc) : ControllerProgram (Option Bool) :=
  if e.isException then do
    changeIf (e == .timeout) (controller.latch key)
    change fun g => g.complain (name ++ ": " ++ e.typeName)
    change fun g => g.degrade reason
    pure none
  else raise e

/-- A callback that has to give a Boolean; nothing, where it failed. -/
def checked (key name mistyped reason : String) : ControllerProgram (Option Bool) :=
  attempt
    (do
      match ← controller.runBounded key controller.healthTimeoutSeconds with
      | none => raise (.typeError mistyped)
      | some result => pure (some result))
    (controller.checkFailed key name reason)

/-- `_reconcile_once`. -/
def reconcile : ControllerProgram Bool := do
  change fun g => g.setReconciled false
  let latched ← peek fun g => !g.timedOut.isEmpty
  if latched then do
    change controller.enforce
    pure false
  else
    match ← controller.checked "reconciliation" "reconciliation"
      "reconciliation callback must return an actual boolean"
      "reconciliation raised an exception" with
    | none => pure false
    | some result => do
      -- another callback may have missed its deadline while this one was awaited
      let latched ← peek fun g => !g.timedOut.isEmpty
      if latched then do
        change controller.enforce
        pure false
      else do
        change fun g => g.setReconciled result
        changeIf (!result) fun g => g.degrade "reconciliation failed"
        pure result

/-- `_safe_health_check`. -/
def healthCheck (component : String) : ControllerProgram Bool := do
  let key := component ++ "-health"
  let late ← peek fun g => g.timedOut.contains key
  -- a check that was late once is not run again
  if late then do
    change controller.enforce
    pure false
  else do
    let result ← controller.checked key key "health callback must return an actual boolean"
      (component ++ " health check raised an exception")
    pure (result.getD false)

/-- What a round of checks leaves in the view and tells the safety controller. -/
def record (database broker execution : Bool) (g : ControllerState) : ControllerState :=
  let execution := execution && g.timedOut.isEmpty
  let g := controller.enforce g
  let g := { g with view := { g.view with executionServiceHealthy := execution } }
  let evidence := controller.safetyEvidence database broker execution g
  -- enforced again, over what this round has just recorded
  controller.enforce { g with
    view := { g.view with
      databaseHealthy := database
      brokerConnected := broker
      lastSafetyEvidence := some evidence }
    safety := g.safety.observe g.elapsed evidence false }

/-- `_health_once`. -/
def healthOnce : ControllerProgram Unit := do
  -- the kill file is honoured before any check is awaited
  let clear ← peek ControllerState.killSwitchClear
  changeIf (!clear) fun g => g.emergencyStop "kill switch active"
  let (database, broker) ← request .gather
  let execution ← (if controller.checksExecution then controller.healthCheck "execution"
    else peek fun g => g.view.executionServiceHealthy)
  change (controller.record database broker execution)
  request .gauge

/-! ### Jobs -/

/-- What an exception of a job leads to, and whether the loop goes on. -/
def jobFailed (job : PeriodicJob) (e : Exc) : ControllerProgram Bool :=
  if e.isException then do
    change fun g => g.complain (job.name ++ ": " ++ e.typeName)
    change fun g => g.degrade ("job failed: " ++ job.name)
    request (.increment ("job_" ++ job.name ++ "_failure_total"))
    if e == .timeout then do
      change (controller.latch ("job:" ++ job.name))
      -- the callback may have written; it is not run again
      pure false
    else pure true
  else raise e

/-- So many turns of `_job_loop`. -/
def jobLoop (job : PeriodicJob) : ℕ → ControllerProgram Unit
  | 0 => pure ()
  | turns + 1 => do
    let stopping ← peek ControllerState.stop
    if stopping then pure ()
    else do
      let again ← attempt
        (do
          let _ ← controller.runBounded ("job:" ++ job.name) job.timeoutSeconds
          request (.increment ("job_" ++ job.name ++ "_success_total"))
          pure true)
        (controller.jobFailed job)
      if again then do
        request (.sleep job.intervalSeconds)
        jobLoop job turns
      else pure ()

/-! ### Start and stop -/

/-- What an exception of the start leads to. -/
def startFailed (e : Exc) : ControllerProgram Unit := do
  let idle ← peek fun g => g.active.isEmpty
  -- the lock is kept while a callback may still write
  if idle then change ControllerState.release
  else change fun g => g.emergencyStop "startup interrupted with callbacks still running"
  raise e

def start : ControllerProgram Unit := do
  let begun ← peek fun g => g.started || g.stop
  raiseIf begun (.unlisted "RuntimeError")
  request .acquire
  change fun g => { g with owned := true, started := true }
  attempt
    (do
      let success ← controller.reconcile
      change fun g => g.setReconciled success
      controller.healthOnce
      change fun g => { g with loops := "health" :: controller.jobs.map PeriodicJob.name })
    startFailed

def stop : ControllerProgram Unit := do
  change fun g => { g with stop := true }
  change fun g => g.emergencyStop "controller shutdown"
  let pending ← peek fun g => !g.active.isEmpty || !g.loops.isEmpty
  (if pending then request (.waitAll controller.healthTimeoutSeconds) else pure ())
  -- callbacks that began meanwhile count as well
  let pending ← peek fun g => !g.active.isEmpty || !g.loops.isEmpty
  if pending then do
    change fun g => g.emergencyStop
      "callback cancellation incomplete; instance lock retained until process exit"
    raise (.unlisted "RuntimeError")
  else change ControllerState.release

/-- `force_reconcile` of the dashboard. -/
def forceReconcile : ControllerProgram Unit := do
  request .audit
  let success ← controller.reconcile
  change fun g => g.setReconciled success
  changeIf (!success) fun g => g.degrade "manual reconciliation failed"
  request .audit

/-! ### All at once -/

inductive Call where
  | reconcile
  | forceReconcile
  | healthOnce
  | healthCheck (component : String)
  | jobLoop (job : PeriodicJob) (turns : ℕ)
  | start
  | stop

def body : Call → ControllerProgram Unit
  | .reconcile => do
    let _ ← controller.reconcile
    pure ()
  | .forceReconcile => controller.forceReconcile
  | .healthOnce => controller.healthOnce
  | .healthCheck component => do
    let _ ← controller.healthCheck component
    pure ()
  | .jobLoop job turns => controller.jobLoop job turns
  | .start => controller.start
  | .stop => controller.stop

/-- A wait ends when its callback has, or before that with nothing. -/
def Performs (op : ControllerOp) (g : ControllerState) (r : Except Exc (ControllerAns op))
    (g' : ControllerState) : Prop :=
  g' = g ∧ match op, r with
    | .wait key id _, .ok none => (key, id) ∈ g.active
    | .wait key id _, .ok (some _) => (key, id) ∉ g.active
    | _, _ => True

/-- What happens beside the calls of the controller. -/
inductive Event : ControllerState → ControllerState → Prop where
  /-- A callback that runs changes the view and the safety controller at will. -/
  | mutate {g : ControllerState} (busy : g.active ≠ []) (view : ControllerView)
      (safety : SafetyController) : Event g { g with view, safety }
  | finish {g : ControllerState} (callback : String × ℕ) (active : callback ∈ g.active) :
      Event g { g with active := g.active.erase callback, ending := callback :: g.ending }
  | completed {g : ControllerState} (callback : String × ℕ) (ending : callback ∈ g.ending) :
      Event g (controller.enforce { g with ending := g.ending.erase callback })
  | emergencyStop {g : ControllerState} (reason : String) : Event g (g.emergencyStop reason)
  | pauseEntries {g : ControllerState} (reason : String) :
      Event g { g with safety := g.safety.pauseEntries reason }
  | degrade {g : ControllerState} (target : RuntimeSafetyState) (reason : String) :
      Event g { g with safety := (g.safety.degrade target reason).2 }
  /-- The operator resumes on the last evidence, with or without clearing a halt. -/
  | resumeEntries {g : ControllerState} {evidence : SafetyEvidence} (manualHaltCleared : Bool)
      (known : g.view.lastSafetyEvidence = some evidence) :
      Event g { g with safety := g.safety.resumeEntries g.elapsed evidence manualHaltCleared }
  /-- Time passes, the kill file comes and goes, and others report on data and submissions. -/
  | report {g : ControllerState} (killSwitchClear marketDataFresh unresolvedSubmission : Bool)
      (elapsed : Float) :
      Event g { g with
        killSwitchClear
        elapsed
        view := { g.view with marketDataFresh, unresolvedSubmission } }
  | loopEnds {g : ControllerState} (name : String) : Event g { g with loops := g.loops.erase name }

/-- Calls of all kinds at any time; a job loop only while it is not done. -/
def world : Concurrent ControllerState Exc ControllerAns Unit Call where
  body := controller.body
  performs := Performs
  event := controller.Event
  admits
    | .jobLoop job _, s => job.name ∈ s.state.loops
    | _, _ => True

end MasterController
end Sentry
