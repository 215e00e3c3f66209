import Sentry.Qualification.Service

/-!
# Completed sessions

A session is completed by a time when its record was made after the end of its day, and no
later than that time, and when its health was not watched any longer. No gate asks for this:
the evaluation time is copied into the report and not compared with any time of a session.
-/
namespace Sentry

open Support

/-- The session has ended by the time, and was recorded after its end. -/
structure SessionRecord.Completed (at_ : Time) (s : SessionRecord) : Prop where
  recordedAfter : s.eodCompletedAt ≤ s.createdAt
  recordedBy : s.createdAt ≤ at_
  watched : ∀ coverage ∈ s.coverages, coverage.lastCheckAt ≤ at_

open QualificationEvaluator

/-- Passing, and being stored, is for completed sessions only exactly where what is asked of
sessions happens to be met by completed ones only. -/
theorem completed_iff (ev : QualificationEvaluator)
    (sessions : List (SessionEvidence ev.calendar.timezone)) (at_ : Time)
    (audit : Option AuditCompleteness) (invalidRecords : List String) (qualificationId : UUID)
    {Row : Type} (svc : QualificationService Row) (repo : QualificationRepository Row)
    (evidence : svc.Session) (readings : QualificationService.Readings) :
    (((ev.evaluate sessions at_ audit invalidRecords qualificationId).status = .passed →
        ∀ s ∈ sessions, s.Completed at_) ↔
      (Qualified ev (inOrder (sessions.map SessionEvidence.toSessionRecord)) audit
        invalidRecords → ∀ s ∈ sessions, s.Completed at_)) ∧
    ((svc.Stores evidence readings repo → evidence.Completed readings.validatedAt) ↔
      (svc.Admissible repo evidence → evidence.Completed readings.validatedAt)) := by
  rw [evaluate_passed_iff, QualificationService.stores_iff]
  exact ⟨Iff.rfl, Iff.rfl⟩

/-! ### Sessions that are still to come -/

theorem SessionRecord.Completed.after_close {at_ closed : Time} {s : SessionRecord}
    {calendar : UsEquityCalendar} (completed : s.Completed at_) (spans : Spans calendar s closed) :
    closed ≤ at_ :=
  calc closed
    _ ≤ s.eodCompletedAt := spans.endOfDay
    _ ≤ s.createdAt := completed.recordedAfter
    _ ≤ at_ := completed.recordedBy

/-- Sessions that qualify pass before the close of any of them as well. -/
theorem passed_early {ev : QualificationEvaluator}
    {sessions : List (SessionEvidence ev.calendar.timezone)} {audit : Option AuditCompleteness}
    {invalidRecords : List String}
    (qualified : Qualified ev (inOrder (sessions.map SessionEvidence.toSessionRecord)) audit
      invalidRecords)
    {s : SessionEvidence ev.calendar.timezone} (member : s ∈ sessions) {at_ closed : Time}
    (spans : Spans ev.calendar s.toSessionRecord closed) (early : at_ < closed)
    (qualificationId : UUID) :
    (ev.evaluate sessions at_ audit invalidRecords qualificationId).status = .passed ∧
      ¬ ∀ s ∈ sessions, s.Completed at_ := by
  refine ⟨(evaluate_passed_iff _ _ _ _ _).mpr qualified, fun completed => ?_⟩
  exact absurd ((completed s member).after_close spans) (not_le.mpr early)

namespace QualificationSample

/-- Noon of the first of October 2026, a Thursday. -/
def thursday : Time := date 2026 10 1 * hours 24 + hours 16

/-- A time of a day of October 2026. -/
def onDay (k time : ℤ) : Time := date 2026 10 k * hours 24 + time

theorem onDay_mono (k : ℤ) {first last : ℤ} (ordered : first ≤ last) :
    onDay k first ≤ onDay k last :=
  Int.add_le_add_left ordered _

theorem one_le_ten : 0 < 10 := by decide

theorem thirteen_le : hours 13 ≤ hours 21 := by decide

def coverage (k : ℤ) : HealthCoverage where
  firstCheckAt := onDay k (hours 13)
  lastCheckAt := onDay k (hours 21)
  checks := 10
  healthyChecks := 10
  checks_pos := one_le_ten
  ordered := onDay_mono k thirteen_le
  counted := rfl

def digest : String := "0123456789abcdef0123456789abcdef0123456789abcdef0123456789abcdef"

/-- A session of the week from the fifth to the ninth of October, recorded before it. -/
def recordOf (k : ℤ) : SessionRecord where
  createdAt := thursday
  sessionId := ⟨k.toNat⟩
  namespace_ := "shadow"
  regularSessionDate := date 2026 10 k
  calendarVersion := UsEquityCalendar.scheduleVersion
  premarketObservedAt := onDay k (hours 12)
  regularMarketOpenObservedAt := onDay k (hours 13)
  regularMarketCloseObservedAt := onDay k (hours 20)
  eodCompletedAt := onDay k (hours 21)
  accountFingerprint := "masked-fingerprint"
  authenticated := true
  capabilitySnapshotId := some ⟨10⟩
  mcpProtocolVersion := some "2025-06-18"
  capabilityCatalogVersion := some "v1"
  capabilityCatalogHash := some digest
  commandSchemaHashes := Dict.empty.set "place_option_order" digest
  publicSourceHealth := coverage k
  marketDataHealth := coverage k
  brokerReadHealth := coverage k
  realBrokerAccountSnapshotIds := [⟨11⟩]
  realCash := ⟨0, 0⟩
  realBuyingPower := ⟨0, 0⟩
  realOpenPositions := 0
  realOpenOrders := 0
  shadowAccountSnapshotIds := [⟨12⟩]
  shadowCash := ⟨500, 0⟩
  shadowBuyingPower := ⟨500, 0⟩
  plumbingCommandIntentIds := [⟨13⟩]
  reconciliationEventIds := [⟨14⟩]
  eodReconciled := true
  restartEventIds := [⟨15⟩]
  restartReconciled := true
  transientFailureEventIds := [⟨16⟩]
  transientFailureRecoveredSafely := true
  reconnectExercised := true

def days : List ℤ := [5, 6, 7, 8, 9]

theorem digest_isSha256 : IsSha256 digest := by
  constructor
  · rw [← String.length_toList]
    simp [digest]
  · simp [digest]

theorem recordOf_valid : ∀ k ∈ days, (recordOf k).FieldsValid := by
  intro k member
  constructor
  case catalog_hash =>
    rintro _ ⟨⟩
    exact digest_isSha256
  case schema_hashes =>
    intro entry listed
    obtain rfl := List.mem_singleton.mp listed
    exact digest_isSha256
  all_goals
    revert k
    decide +kernel

theorem recordOf_consistent : ∀ k ∈ days, (recordOf k).Consistent .newYork := by
  intro k member
  constructor
  all_goals
    revert k
    decide +kernel

def evaluator : QualificationEvaluator where
  calendar := ⟨.newYork⟩
  atLeastFive := le_rfl

def sessionOf (k : ℤ) (member : k ∈ days) : SessionEvidence evaluator.calendar.timezone :=
  ⟨recordOf k, recordOf_valid k member, recordOf_consistent k member⟩

theorem attached_listed (k : { k // k ∈ days }) : k.1 ∈ days := k.2

/-- The five sessions of the week. -/
def week : List (SessionEvidence evaluator.calendar.timezone) :=
  days.attach.map fun k => sessionOf k.1 k.2

/-- The audit of one denied command for each session. -/
def audited : AuditCompleteness where
  declaredCommandIntents := 5
  naturalCommandIntents := 0
  plumbingCommandIntents := 5
  completeCommandIntents := 5
  sideEffectFreeReviews := 5
  firewallDenials := 5
  transmittedExternalWrites := 0
  undeclaredCommandIntents := 0

theorem inOrder_week : inOrder (week.map SessionEvidence.toSessionRecord) = days.map recordOf := by
  have records : week.map SessionEvidence.toSessionRecord = days.map recordOf := rfl
  rw [records]
  apply List.mergeSort_of_pairwise
  decide

theorem spans_recordOf : ∀ k ∈ days,
    Spans evaluator.calendar (recordOf k) (onDay k (hours 20)) := by
  intro k member
  constructor
  all_goals
    revert k
    decide +kernel

theorem unfunded_recordOf : ∀ k ∈ days, fundingBreach (recordOf k) = false := by
  decide +kernel

theorem monday_listed : 5 ∈ days := by decide

theorem first_listed : recordOf 5 ∈ days.map recordOf := List.mem_map_of_mem monday_listed

theorem qualified_week : Qualified evaluator (days.map recordOf) (some audited) [] where
  intact := rfl
  finalizable := by
    intro s listed
    obtain ⟨k, member, rfl⟩ := List.mem_map.mp listed
    exact ⟨⟨_, spans_recordOf k member⟩, rfl, unfunded_recordOf k member, rfl, rfl, rfl⟩
  distinct := by decide
  enough := by decide
  oneAccount := by
    intro s listed s' listed'
    obtain ⟨k, -, rfl⟩ := List.mem_map.mp listed
    obtain ⟨k', -, rfl⟩ := List.mem_map.mp listed'
    rfl
  reviewed := by decide
  audited := ⟨audited, rfl, rfl, rfl, rfl, rfl, rfl, rfl, rfl⟩
  declared := ⟨recordOf 5, first_listed, by decide⟩
  counterfactuals := rfl
  restarted := ⟨recordOf 5, first_listed, by decide⟩
  recovered := ⟨recordOf 5, first_listed, by decide⟩
  reconnected := ⟨recordOf 5, first_listed, by decide⟩

/-- A service whose rows are the sessions themselves. -/
def service : QualificationService (SessionEvidence evaluator.calendar.timezone) where
  namespace_ := "shadow"
  evaluator := evaluator
  modelValidate := some
  modelDump := id
  audit := fun _ => .ok audited

theorem loadSessions_none : service.loadSessions {} = ([], []) := by
  simp [QualificationService.loadSessions, AuditRow.listPayloads]

theorem admissible_monday : service.Admissible {} (sessionOf 5 monday_listed) where
  sameNamespace := rfl
  intact := by rw [loadSessions_none]
  fresh := by
    rw [loadSessions_none]
    exact fun item none_ => absurd none_ List.not_mem_nil
  finalizable := qualified_week.finalizable _ first_listed
  writable := rfl

end QualificationSample

open QualificationSample in
/-- Before the week has begun its five sessions pass, and its Monday is stored. -/
theorem coming_week_passed :
    ((evaluator.evaluate week thursday (some audited) [] ⟨1⟩).status = .passed ∧
      ¬ ∀ s ∈ week, s.Completed thursday) ∧
    service.Stores (sessionOf 5 monday_listed) ⟨thursday, ⟨2⟩, thursday, ⟨3⟩⟩ {} ∧
      ¬ (sessionOf 5 monday_listed).Completed thursday := by
  have qualified : Qualified evaluator (inOrder (week.map SessionEvidence.toSessionRecord))
      (some audited) [] := by
    rw [inOrder_week]
    exact qualified_week
  have listed : sessionOf 5 monday_listed ∈ week :=
    List.mem_map_of_mem (List.mem_attach days ⟨5, monday_listed⟩)
  have spans := spans_recordOf 5 monday_listed
  have early : thursday < onDay 5 (hours 20) := by decide
  refine ⟨passed_early qualified listed spans early ⟨1⟩,
    QualificationService.stores_iff.mpr admissible_monday, fun completed => ?_⟩
  exact absurd (completed.after_close spans) (not_le.mpr early)

end Sentry
