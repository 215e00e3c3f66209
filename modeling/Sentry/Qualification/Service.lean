import Sentry.Db.Repository
import Sentry.Qualification.Qualified

/-!
# The qualification service

`record_session`, `status` and `_load_sessions` of `app/qualification/service.py` over the
tables of its binding. A session is appended when nothing is wrong with what is stored, when
its identity and its date are new, and when it fails none of the gates that a session can fail
by itself.
-/
namespace Sentry

open Support

/-- The rows of the binding in `qualification_session_summaries` and `qualification_runs`. -/
structure QualificationRepository (Row : Type) where
  writable : Bool := true
  sessionSummaries : List (AuditRow Row) := []
  runs : List (AuditRow QualificationReport) := []

/-- The service. Validation and serialisation of a row are those of its schema library. -/
structure QualificationService (Row : Type) where
  namespace_ : String
  evaluator : QualificationEvaluator
  modelValidate : Row → Option (SessionEvidence evaluator.calendar.timezone)
  modelDump : SessionEvidence evaluator.calendar.timezone → Row
  /-- `_audit`, which reads the other tables. -/
  audit : List (SessionEvidence evaluator.calendar.timezone) → Except Exc AuditCompleteness

namespace QualificationService

open QualificationEvaluator

variable {Row : Type} (svc : QualificationService Row)

/-- Sessions that are loaded. -/
abbrev Session : Type := SessionEvidence svc.evaluator.calendar.timezone

/-- One row of `_load_sessions`. -/
def loadRow (loaded : List svc.Session × List String) (row : AuditRow Row) :
    List svc.Session × List String :=
  match svc.modelValidate row.payload with
  | none =>
    (loaded.1, loaded.2 ++ ["stored qualification session failed schema validation"])
  | some session =>
    if session.namespace_ ≠ svc.namespace_ then
      (loaded.1, loaded.2 ++ ["stored qualification session has a foreign namespace"])
    else if loaded.1.any fun other => other.sessionId == session.sessionId then
      (loaded.1, loaded.2 ++ ["stored qualification session identity is duplicated"])
    else (loaded.1 ++ [session], loaded.2)

/-- `_load_sessions`. -/
def loadSessions (repo : QualificationRepository Row) : List svc.Session × List String :=
  let rows := AuditRow.listPayloads (fun _ => true) 1000 none repo.sessionSummaries
  let bound := if rows.length = 1000 then
    ["qualification session scan reached its safety bound"] else []
  rows.foldl svc.loadRow ([], bound)

def status (repo : QualificationRepository Row) (now : Time) (qualificationId : UUID) :
    Except Exc QualificationReport := do
  let (sessions, invalid) := svc.loadSessions repo
  let audit ← if sessions.isEmpty then pure none else some <$> svc.audit sessions
  return svc.evaluator.evaluate sessions now audit invalid qualificationId

/-- The gates that a purported finalized session must not fail. -/
def fatal : List String :=
  ["session_record_integrity", "full_regular_sessions", "authenticated_mcp_capabilities",
    "continuous_health_coverage", "real_account_unfunded", "real_shadow_account_separation",
    "reconciliation_and_incidents"]

/-- What a call of `record_session` reads of clock and generator, in the order of its reads. -/
structure Readings where
  validatedAt : Time
  validationId : UUID
  evaluatedAt : Time
  reportId : UUID

/-- `record_session`. A failure after the session is appended leaves it there. -/
def recordSession (evidence : svc.Session) (readings : Readings)
    (repo : QualificationRepository Row) :
    Except Exc QualificationReport × QualificationRepository Row :=
  if evidence.namespace_ ≠ svc.namespace_ then
    (.error (.safetyCritical "qualification session targets another namespace"), repo)
  else
    let (existing, invalid) := svc.loadSessions repo
    if invalid ≠ [] then
      (.error (.safetyCritical "stored qualification evidence is invalid"), repo)
    else if existing.any fun item => item.sessionId == evidence.sessionId ||
        item.regularSessionDate == evidence.regularSessionDate then
      (.error (.safetyCritical "qualification session identity/date is already finalized"), repo)
    else
      let validation := svc.evaluator.evaluate [evidence] readings.validatedAt none []
        readings.validationId
      if fatal.any validation.failedGates.contains then
        (.error (.safetyCritical "session cannot be finalized with failed evidence gates"), repo)
      else if repo.writable = false then
        (.error (.safetyCritical "repository is not writable"), repo)
      else
        let repo := { repo with
          sessionSummaries := AuditRow.append (svc.modelDump evidence) repo.sessionSummaries }
        match svc.status repo readings.evaluatedAt readings.reportId with
        | .error e => (.error e, repo)
        | .ok report => (.ok report, { repo with runs := AuditRow.append report repo.runs })

/-! ### What is stored -/

theorem failedGates_fatal_iff {report : QualificationReport} :
    fatal.any report.failedGates.contains = false ↔
      ∀ gate ∈ report.gates, gate.status = .fail → gate.code ∉ fatal := by
  simp only [QualificationReport.failedGates, List.any_eq_false, List.contains_iff_mem,
    List.mem_map, List.mem_filter, beq_iff_eq, not_exists, not_and]
  constructor
  · intro spared gate member failed named
    exact spared gate.code named gate ⟨member, failed⟩ rfl
  · rintro spared code named gate ⟨member, failed⟩ rfl
    exact spared gate member failed named

theorem fatal_codes : "full_regular_sessions" ∈ fatal ∧ "authenticated_mcp_capabilities" ∈ fatal ∧
    "continuous_health_coverage" ∈ fatal ∧ "real_account_unfunded" ∈ fatal ∧
    "real_shadow_account_separation" ∈ fatal ∧ "reconciliation_and_incidents" ∈ fatal := by
  decide

/-- The gates over the whole period are not fatal. -/
theorem spared_codes : "same_account_continuity" ∉ fatal ∧ "live_policy_counterfactuals" ∉ fatal ∧
    "restart_reconciliation" ∉ fatal ∧ "transient_failure_recovery" ∉ fatal ∧
    "authenticated_mcp_reconnect" ∉ fatal := by
  decide

/-- A session fails a fatal gate unless it is finalizable. -/
theorem fatal_spared_iff (ev : QualificationEvaluator)
    (evidence : SessionEvidence ev.calendar.timezone) (at_ : Time) (qualificationId : UUID) :
    fatal.any (ev.evaluate [evidence] at_ none [] qualificationId).failedGates.contains = false ↔
      Finalizable ev.calendar evidence.toSessionRecord := by
  have alone : inOrder [evidence.toSessionRecord] = [evidence.toSessionRecord] :=
    List.mergeSort_singleton _
  rw [failedGates_fatal_iff]
  change (∀ gate ∈ ev.gates (inOrder [evidence.toSessionRecord]) none [], _) ↔ _
  rw [alone, finalizable_iff]
  generalize evidence.toSessionRecord = s
  have some_ : [s] ≠ [] := List.cons_ne_nil _ _
  simp only [gates, List.forall_mem_cons, List.not_mem_nil, false_imp_iff, implies_true, and_true,
    sameAccountContinuity, authenticatedCapabilities, continuousCoverage, realAccountUnfunded,
    accountSeparation, exactCommandAudit, shadowWriteFirewall, reconciliationAndIncidents,
    checkedGate_fail_iff some_, checkedGate_code, commandGate_none, fullRegularSessions_fail_iff,
    fullRegularSessions_code]
  obtain ⟨sameAccount, counterfactuals, restart, transient, reconnect⟩ := spared_codes
  have counterfactuals' : (policyCounterfactuals [s]).code ∉ fatal := counterfactuals
  have restart' : (restartReconciliation [s]).code ∉ fatal := restart
  have transient' : (transientFailureRecovery [s]).code ∉ fatal := transient
  have reconnect' : (authenticatedReconnect [s]).code ∉ fatal := reconnect
  have intact : (recordIntegrity [s] []).status = .pass := (recordIntegrity_pass_iff some_).mpr rfl
  simp [sameAccount, counterfactuals', restart', transient', reconnect', intact, fatal_codes,
    calendarIssues_eq_nil_iff, coverageFailures, incidents, driftUnreviewed]

/-- What is asked of a session that is recorded. -/
structure Admissible (repo : QualificationRepository Row) (evidence : svc.Session) : Prop where
  sameNamespace : evidence.namespace_ = svc.namespace_
  intact : (svc.loadSessions repo).2 = []
  fresh : ∀ item ∈ (svc.loadSessions repo).1, item.sessionId ≠ evidence.sessionId ∧
    item.regularSessionDate ≠ evidence.regularSessionDate
  finalizable : Finalizable svc.evaluator.calendar evidence.toSessionRecord
  writable : repo.writable = true

/-- The call appends the session to those that are stored. -/
def Stores (evidence : svc.Session) (readings : Readings) (repo : QualificationRepository Row) :
    Prop :=
  (svc.recordSession evidence readings repo).2.sessionSummaries =
    AuditRow.append (svc.modelDump evidence) repo.sessionSummaries

variable {svc} {repo : QualificationRepository Row} {evidence : svc.Session}
  {readings : Readings}

theorem not_known_iff : ((svc.loadSessions repo).1.any fun item =>
      item.sessionId == evidence.sessionId ||
        item.regularSessionDate == evidence.regularSessionDate) = false ↔
    ∀ item ∈ (svc.loadSessions repo).1, item.sessionId ≠ evidence.sessionId ∧
      item.regularSessionDate ≠ evidence.regularSessionDate := by
  simp

theorem recordSession_stored (admissible : svc.Admissible repo evidence) :
    svc.Stores evidence readings repo := by
  have known := not_known_iff.mpr admissible.fresh
  have spared := (fatal_spared_iff svc.evaluator evidence readings.validatedAt
    readings.validationId).mpr admissible.finalizable
  unfold Stores recordSession
  rw [if_neg (not_not.mpr admissible.sameNamespace)]
  dsimp only
  rw [if_neg (not_not.mpr admissible.intact), if_neg (by simp [known]), if_neg (by simp [spared]),
    if_neg (by simp [admissible.writable])]
  split <;> rfl

/-- A session that is not admissible leaves the tables alone. -/
theorem recordSession_refused (refused : ¬ svc.Admissible repo evidence) :
    (svc.recordSession evidence readings repo).2 = repo := by
  unfold recordSession
  split
  · rfl
  next sameNamespace =>
  dsimp only
  split
  · rfl
  next intact =>
  split
  · rfl
  next known =>
  split
  · rfl
  next spared =>
  split
  · rfl
  next writable =>
  rw [Bool.not_eq_true] at known spared
  exact absurd ⟨not_not.mp sameNamespace, not_not.mp intact, not_known_iff.mp known,
    (fatal_spared_iff _ _ _ _).mp spared, by simpa using writable⟩ refused

theorem stores_iff : svc.Stores evidence readings repo ↔ svc.Admissible repo evidence := by
  refine ⟨fun stores => ?_, recordSession_stored⟩
  by_contra refused
  rw [Stores, recordSession_refused refused] at stores
  have lengths := congrArg List.length stores
  simp [AuditRow.append] at lengths

end QualificationService
end Sentry
