import Sentry.Qualification.Evaluator

/-!
# What passing asks for

Each gate passes on a condition of the sessions, of the audit or of both, and the report is
passed when they all hold. None of them speaks of the time of the evaluation.
-/
namespace Sentry

open Support

namespace QualificationEvaluator

/-! ### One session -/

/-- A session on a scheduled day whose observations span it from the open to the close. -/
structure Spans (calendar : UsEquityCalendar) (s : SessionRecord) (closed : Time) : Prop where
  close : calendar.regularSessionClose s.regularSessionDate = .ok (some closed)
  version : s.calendarVersion = UsEquityCalendar.scheduleVersion
  premarket : s.premarketObservedAt < openedAt calendar s
  fromOpen : s.regularMarketOpenObservedAt ≤ openedAt calendar s
  toClose : closed ≤ s.regularMarketCloseObservedAt
  endOfDay : closed ≤ s.eodCompletedAt
  covered : ∀ coverage ∈ s.coverages,
    coverage.firstCheckAt ≤ openedAt calendar s ∧ closed ≤ coverage.lastCheckAt

/-- A session that fails no gate by itself. -/
structure Finalizable (calendar : UsEquityCalendar) (s : SessionRecord) : Prop where
  spans : ∃ closed, Spans calendar s closed
  capability : missingCapability s = false
  unfunded : fundingBreach s = false
  accounts : missingAccounts s = false
  reconciled : unreconciled s = false
  noIncidents : s.unresolvedSafetyIncidents = []

variable {calendar : UsEquityCalendar} {s : SessionRecord}

theorem sessionIssues_eq_nil_iff : sessionIssues calendar s = [] ↔ ∃ closed,
    calendar.regularSessionClose s.regularSessionDate = .ok (some closed) ∧
      s.calendarVersion = UsEquityCalendar.scheduleVersion ∧
      s.premarketObservedAt < openedAt calendar s ∧
      s.regularMarketOpenObservedAt ≤ openedAt calendar s ∧
      closed ≤ s.regularMarketCloseObservedAt ∧ closed ≤ s.eodCompletedAt := by
  have single (p : Prop) [Decidable p] (text : String) :
      (if p then [text] else []) = [] ↔ ¬ p := by
    split <;> simp [*]
  unfold sessionIssues
  cases calendar.regularSessionClose s.regularSessionDate with
  | error text => simp
  | ok close =>
    cases close with
    | none => simp
    | some closed =>
      simp only [List.append_eq_nil_iff, single, not_not, not_le, not_lt, Except.ok.injEq,
        Option.some.injEq, exists_eq_left', and_assoc]

theorem calendarIssues_eq_nil_iff {sessions : List SessionRecord} {seen : List Date} :
    calendarIssues calendar seen sessions = [] ↔
      (∀ s ∈ sessions, s.regularSessionDate ∉ seen) ∧
        (sessions.map SessionRecord.regularSessionDate).Nodup ∧
        ∀ s ∈ sessions, sessionIssues calendar s = [] := by
  induction sessions generalizing seen with
  | nil => simp [calendarIssues]
  | cons s rest ih =>
    by_cases again : seen.contains s.regularSessionDate = true
    · -- the day has been seen
      rw [calendarIssues, if_pos again]
      simp only [List.contains_iff_mem] at again
      simp [again]
    · rw [calendarIssues, if_neg again, List.append_eq_nil_iff, ih, List.forall_mem_cons,
        List.forall_mem_cons, List.map_cons, List.nodup_cons]
      simp only [List.contains_iff_mem] at again
      simp only [List.mem_cons, not_or, List.mem_map, not_exists, not_and]
      constructor
      · rintro ⟨sound, fresh, distinct, others⟩
        exact ⟨⟨again, fun x member => (fresh x member).2⟩,
          ⟨fun x member => (fresh x member).1, distinct⟩, sound, others⟩
      · rintro ⟨⟨-, fresh⟩, ⟨apart, distinct⟩, sound, others⟩
        exact ⟨sound, fun x member => ⟨apart x member, fresh x member⟩, distinct, others⟩

theorem sessionCoverageFailures_eq_nil_iff {closed : Time}
    (close : calendar.regularSessionClose s.regularSessionDate = .ok (some closed)) :
    sessionCoverageFailures calendar s = [] ↔ ∀ coverage ∈ s.coverages,
      coverage.firstCheckAt ≤ openedAt calendar s ∧ closed ≤ coverage.lastCheckAt := by
  unfold sessionCoverageFailures
  simp only [close, List.map_eq_nil_iff, List.filter_eq_nil_iff, Bool.not_eq_true',
    Bool.not_eq_false, HealthCoverage.covers_iff, SessionRecord.coverages, List.forall_mem_cons,
    List.not_mem_nil, false_imp_iff, implies_true]

theorem spans_iff : (∃ closed, Spans calendar s closed) ↔
    sessionIssues calendar s = [] ∧ sessionCoverageFailures calendar s = [] := by
  rw [sessionIssues_eq_nil_iff]
  constructor
  · rintro ⟨closed, spans⟩
    exact ⟨⟨closed, spans.close, spans.version, spans.premarket, spans.fromOpen, spans.toClose,
      spans.endOfDay⟩, (sessionCoverageFailures_eq_nil_iff spans.close).mpr spans.covered⟩
  · rintro ⟨⟨closed, close, version, premarket, fromOpen, toClose, endOfDay⟩, covered⟩
    exact ⟨closed, close, version, premarket, fromOpen, toClose, endOfDay,
      (sessionCoverageFailures_eq_nil_iff close).mp covered⟩

/-! ### The gates -/

/-- An audit that finds every declared command linked and denied, and no other. -/
structure Audited (a : AuditCompleteness) : Prop where
  noIssues : a.issues = []
  complete : a.completeCommandIntents = a.declaredCommandIntents
  noneUndeclared : a.undeclaredCommandIntents = 0
  noneTransmitted : a.transmittedExternalWrites = 0
  denied : a.firewallDenials = a.declaredCommandIntents
  noBreaches : a.realAccountBreaches = 0
  separated : a.accountSeparationIssues = 0

/-- What the sessions of a passed report, in the order of their dates, and its audit are. -/
structure Qualified (ev : QualificationEvaluator) (sessions : List SessionRecord)
    (audit : Option AuditCompleteness) (invalidRecords : List String) : Prop where
  intact : invalidRecords = []
  finalizable : ∀ s ∈ sessions, Finalizable ev.calendar s
  distinct : (sessions.map SessionRecord.regularSessionDate).Nodup
  enough : ev.requiredRegularSessions ≤ sessions.length
  oneAccount : ∀ s ∈ sessions, ∀ s' ∈ sessions, s.accountFingerprint = s'.accountFingerprint
  reviewed : driftUnreviewed sessions = false
  audited : ∃ a, audit = some a ∧ Audited a
  declared : ∃ s ∈ sessions, s.commandIntentIds ≠ []
  counterfactuals : recordedCounterfactuals sessions = requiredCounterfactuals sessions
  restarted : ∃ s ∈ sessions, s.restartEventIds ≠ [] ∧ s.restartReconciled = true
  recovered : ∃ s ∈ sessions,
    s.transientFailureEventIds ≠ [] ∧ s.transientFailureRecoveredSafely = true
  reconnected : ∃ s ∈ sessions, s.reconnectExercised = true

variable {ev : QualificationEvaluator} {ordered : List SessionRecord}
  {audit : Option AuditCompleteness} {invalidRecords : List String}

theorem status_passed_iff {gates : List QualificationGate} :
    status ordered gates = .passed ↔ ordered ≠ [] ∧ ∀ gate ∈ gates, gate.status = .pass := by
  have passes : (∀ gate ∈ gates, gate.status = .pass) ↔
      (gates.any fun gate => gate.status == .fail) = false ∧
        (gates.any fun gate => gate.status == .pending) = false := by
    simp only [List.any_eq_false, beq_iff_eq, ← forall_and]
    refine forall_congr' fun gate => ?_
    cases gate.status <;> simp
  rw [passes]
  unfold status
  by_cases none_ : ordered = []
  · cases gates.any fun gate => gate.status == .fail <;> simp [none_]
  · cases gates.any fun gate => gate.status == .fail <;>
      cases gates.any fun gate => gate.status == .pending <;> simp [none_]

theorem recordIntegrity_pass_iff (some_ : ordered ≠ []) :
    (recordIntegrity ordered invalidRecords).status = .pass ↔ invalidRecords = [] := by
  unfold recordIntegrity
  by_cases intact : invalidRecords = [] <;> simp [intact, some_]

theorem fullRegularSessions_pass_iff (some_ : ordered ≠ []) :
    (ev.fullRegularSessions ordered).status = .pass ↔
      calendarIssues ev.calendar [] ordered = [] ∧
        ev.requiredRegularSessions ≤ (uniqueDates ordered).length := by
  unfold fullRegularSessions
  dsimp only
  by_cases clean : calendarIssues ev.calendar [] ordered = []
  · by_cases short : (uniqueDates ordered).length < ev.requiredRegularSessions
    · simp [clean, some_, short]
    · simp [clean, some_, short, not_lt.mp short]
  · simp [clean]

theorem fullRegularSessions_fail_iff : (ev.fullRegularSessions ordered).status = .fail ↔
    calendarIssues ev.calendar [] ordered ≠ [] := by
  unfold fullRegularSessions
  dsimp only
  by_cases clean : calendarIssues ev.calendar [] ordered = []
  · simp only [clean, ne_eq, not_true_eq_false, if_false, iff_false]
    split
    · simp
    · split <;> simp
  · simp [clean]

theorem fullRegularSessions_code :
    (ev.fullRegularSessions ordered).code = "full_regular_sessions" := by
  unfold fullRegularSessions
  dsimp only
  split
  · rfl
  · split
    · rfl
    · split <;> rfl

theorem length_uniqueDates (distinct : (ordered.map SessionRecord.regularSessionDate).Nodup) :
    (uniqueDates ordered).length = ordered.length := by
  rw [uniqueDates, List.length_insertionSort, distinct.dedup, List.length_map]

theorem fingerprints_length_iff (some_ : ordered ≠ []) : (fingerprints ordered).length = 1 ↔
    ∀ s ∈ ordered, ∀ s' ∈ ordered, s.accountFingerprint = s'.accountFingerprint := by
  constructor
  · intro single s member s' member'
    obtain ⟨f, only⟩ := List.length_eq_one_iff.mp single
    have there (s : SessionRecord) (member : s ∈ ordered) : s.accountFingerprint = f := by
      have listed : s.accountFingerprint ∈ fingerprints ordered :=
        List.mem_dedup.mpr (List.mem_map_of_mem member)
      rwa [only, List.mem_singleton] at listed
    rw [there s member, there s' member']
  · intro same
    obtain ⟨s, member⟩ := List.exists_mem_of_ne_nil _ some_
    have all : ordered.map SessionRecord.accountFingerprint =
        List.replicate ordered.length s.accountFingerprint := by
      rw [List.eq_replicate_iff, List.length_map]
      refine ⟨rfl, fun f listed => ?_⟩
      obtain ⟨s', member', rfl⟩ := List.mem_map.mp listed
      exact same s' member' s member
    rw [fingerprints, all, List.replicate_dedup (by simpa using some_), List.length_singleton]

/-! ### Gates that fail or pass -/

section Checked

variable {code pending fail pass : String} {failed : Bool}

theorem checkedGate_pass_iff (some_ : ordered ≠ []) :
    (checkedGate ordered code failed pending fail pass).status = .pass ↔ failed = false := by
  unfold checkedGate
  rw [if_neg some_]
  cases failed <;> simp

theorem checkedGate_fail_iff (some_ : ordered ≠ []) :
    (checkedGate ordered code failed pending fail pass).status = .fail ↔ failed = true := by
  unfold checkedGate
  rw [if_neg some_]
  cases failed <;> simp

theorem commandGate_pass_iff {ok : AuditCompleteness → Bool}
    {detail : AuditCompleteness → String} :
    (commandGate ordered audit code ok pending detail).status = .pass ↔
      totalDeclared ordered ≠ 0 ∧ ∃ a, audit = some a ∧ ok a = true := by
  unfold commandGate
  cases audit with
  | none => simp
  | some a =>
    by_cases nothing : totalDeclared ordered = 0
    · simp [nothing]
    · cases verdict : ok a <;> simp [nothing, verdict]

theorem checkedGate_code : (checkedGate ordered code failed pending fail pass).code = code := by
  unfold checkedGate
  split
  · rfl
  · split <;> rfl

theorem commandGate_none {ok : AuditCompleteness → Bool} {detail : AuditCompleteness → String} :
    (commandGate ordered none code ok pending detail).status = .pending := rfl

theorem periodGate_pass_iff {completed : Bool} :
    (periodGate code completed pass).status = .pass ↔ completed = true := by
  unfold periodGate
  cases completed <;> simp

theorem policyCounterfactuals_pass_iff (some_ : ordered ≠ []) :
    (policyCounterfactuals ordered).status = .pass ↔ totalDeclared ordered ≠ 0 ∧
      recordedCounterfactuals ordered = requiredCounterfactuals ordered := by
  unfold policyCounterfactuals
  by_cases nothing : totalDeclared ordered = 0
  · simp [nothing]
  · by_cases equal : recordedCounterfactuals ordered = requiredCounterfactuals ordered
    · simp [nothing, some_, equal]
    · simp [nothing, some_, equal]

end Checked

/-! ### All of them -/

theorem coverageFailures_isEmpty : (!(coverageFailures calendar ordered).isEmpty) = false ↔
    ∀ s ∈ ordered, sessionCoverageFailures calendar s = [] := by
  simp [coverageFailures]

theorem totalDeclared_ne_zero : totalDeclared ordered ≠ 0 ↔
    ∃ s ∈ ordered, s.commandIntentIds ≠ [] := by
  simp [totalDeclared, List.sum_eq_zero_iff]

theorem any_eq_false_iff {p : SessionRecord → Bool} :
    ordered.any p = false ↔ ∀ s ∈ ordered, p s = false := by
  simp

/-- What the gates ask of every session by itself. -/
theorem finalizable_iff : Finalizable calendar s ↔
    sessionIssues calendar s = [] ∧ missingCapability s = false ∧
      sessionCoverageFailures calendar s = [] ∧ fundingBreach s = false ∧
      missingAccounts s = false ∧ unreconciled s = false ∧ s.unresolvedSafetyIncidents = [] := by
  constructor
  · rintro ⟨spans, capability, unfunded, accounts, reconciled, noIncidents⟩
    obtain ⟨scheduled, covered⟩ := spans_iff.mp spans
    exact ⟨scheduled, capability, covered, unfunded, accounts, reconciled, noIncidents⟩
  · rintro ⟨scheduled, capability, covered, unfunded, accounts, reconciled, noIncidents⟩
    exact ⟨spans_iff.mpr ⟨scheduled, covered⟩, capability, unfunded, accounts, reconciled,
      noIncidents⟩

theorem filter_unreconciled_isEmpty : (!(ordered.filter unreconciled).isEmpty) = false ↔
    ∀ s ∈ ordered, unreconciled s = false := by
  simp

theorem incidents_isEmpty : (!(incidents ordered).isEmpty) = false ↔
    ∀ s ∈ ordered, s.unresolvedSafetyIncidents = [] := by
  simp [incidents]

theorem gates_pass_iff (some_ : ordered ≠ []) :
    (∀ gate ∈ ev.gates ordered audit invalidRecords, gate.status = .pass) ↔
      Qualified ev ordered audit invalidRecords := by
  simp only [gates, List.forall_mem_cons, List.not_mem_nil, false_imp_iff, implies_true, and_true,
    recordIntegrity_pass_iff some_, fullRegularSessions_pass_iff some_, sameAccountContinuity,
    authenticatedCapabilities, continuousCoverage, realAccountUnfunded, accountSeparation,
    exactCommandAudit, shadowWriteFirewall, restartReconciliation, transientFailureRecovery,
    authenticatedReconnect, reconciliationAndIncidents, checkedGate_pass_iff some_,
    commandGate_pass_iff, periodGate_pass_iff, policyCounterfactuals_pass_iff some_,
    coverageFailures_isEmpty, calendarIssues_eq_nil_iff, bne_eq_false_iff_eq,
    fingerprints_length_iff some_, Bool.or_eq_false_iff, any_eq_false_iff, totalDeclared_ne_zero,
    filter_unreconciled_isEmpty, incidents_isEmpty]
  constructor
  · rintro ⟨intact, ⟨⟨-, distinct, scheduled⟩, enough⟩, oneAccount, ⟨capable, reviewed⟩, covered,
      ⟨unfunded, breaches⟩, ⟨accounts, separated⟩, ⟨declared, a, rfl, linked⟩,
      ⟨-, b, same, denied⟩, ⟨-, counterfactuals⟩, restarted, recovered, reconnected,
      reconciled, noIncidents⟩
    cases same
    simp only [Option.any_some, bne_eq_false_iff_eq] at breaches separated
    simp only [Bool.and_eq_true, beq_iff_eq, List.isEmpty_iff] at linked denied
    rw [length_uniqueDates distinct] at enough
    exact {
      intact := intact
      finalizable := fun s member => finalizable_iff.mpr ⟨scheduled s member, capable s member,
        covered s member, unfunded s member, accounts s member, reconciled s member,
        noIncidents s member⟩
      distinct := distinct
      enough := enough
      oneAccount := oneAccount
      reviewed := reviewed
      audited := ⟨a, rfl, linked.1.1, linked.1.2, linked.2, denied.1, denied.2, breaches,
        separated⟩
      declared := declared
      counterfactuals := counterfactuals
      restarted := by simpa using restarted
      recovered := by simpa using recovered
      reconnected := by simpa using reconnected }
  · intro qualified
    obtain ⟨a, rfl, audited⟩ := qualified.audited
    have each (s : SessionRecord) (member : s ∈ ordered) :=
      finalizable_iff.mp (qualified.finalizable s member)
    refine ⟨qualified.intact, ⟨⟨by simp, qualified.distinct, fun s member => (each s member).1⟩,
      by rw [length_uniqueDates qualified.distinct]; exact qualified.enough⟩,
      qualified.oneAccount, ⟨fun s member => (each s member).2.1, qualified.reviewed⟩,
      fun s member => (each s member).2.2.1,
      ⟨fun s member => (each s member).2.2.2.1, by simp [audited.noBreaches]⟩,
      ⟨fun s member => (each s member).2.2.2.2.1, by simp [audited.separated]⟩,
      ⟨qualified.declared, a, rfl,
        by simp [audited.noIssues, audited.complete, audited.noneUndeclared]⟩,
      ⟨qualified.declared, a, rfl, by simp [audited.noneTransmitted, audited.denied]⟩,
      ⟨qualified.declared, qualified.counterfactuals⟩, by simpa using qualified.restarted,
      by simpa using qualified.recovered, by simpa using qualified.reconnected,
      fun s member => (each s member).2.2.2.2.2.1, fun s member => (each s member).2.2.2.2.2.2⟩

/-- A report is passed when its sessions and its audit qualify. -/
theorem evaluate_passed_iff (sessions : List (SessionEvidence ev.calendar.timezone)) (at_ : Time)
    (audit : Option AuditCompleteness) (invalidRecords : List String) (qualificationId : UUID) :
    (ev.evaluate sessions at_ audit invalidRecords qualificationId).status = .passed ↔
      Qualified ev (inOrder (sessions.map SessionEvidence.toSessionRecord)) audit
        invalidRecords := by
  change status (inOrder (sessions.map SessionEvidence.toSessionRecord)) (ev.gates _ audit
    invalidRecords) = .passed ↔ _
  rw [status_passed_iff]
  constructor
  · rintro ⟨some_, pass⟩
    exact (gates_pass_iff some_).mp pass
  · intro qualified
    -- five sessions are asked for at least
    have some_ : inOrder (sessions.map SessionEvidence.toSessionRecord) ≠ [] := by
      intro none_
      have enough := qualified.enough
      rw [none_, List.length_nil] at enough
      have := ev.atLeastFive
      omega
    exact ⟨some_, (gates_pass_iff some_).mpr qualified⟩

end QualificationEvaluator
end Sentry
