import Sentry.Clock.MarketCalendar
import Sentry.Market.Replay
import Sentry.Support.Decimal
import Sentry.Support.Dict

/-!
# Session evidence

`HealthCoverage`, `SessionEvidence` and `AuditCompleteness` of
`app/qualification/evaluator.py`: what a broker-shadow session has recorded of itself, with
what its constructors check. Its environment, backend and origin can have one value only and
are left out.
-/
namespace Sentry

open Support

structure HealthCoverage where
  firstCheckAt : Time
  lastCheckAt : Time
  checks : ℕ
  healthyChecks : ℕ
  recoveredFailures : ℕ := 0
  checks_pos : 0 < checks
  ordered : firstCheckAt ≤ lastCheckAt
  counted : healthyChecks + recoveredFailures = checks

namespace HealthCoverage

variable (coverage : HealthCoverage) (openedAt closedAt : Time)

def covers : Bool :=
  decide (coverage.firstCheckAt ≤ openedAt) && decide (closedAt ≤ coverage.lastCheckAt)

theorem covers_iff : coverage.covers openedAt closedAt = true ↔
    coverage.firstCheckAt ≤ openedAt ∧ closedAt ≤ coverage.lastCheckAt := by
  simp [covers]

end HealthCoverage

/-- The fields of a session's evidence. -/
structure SessionRecord where
  createdAt : Time
  sessionId : UUID
  namespace_ : String
  regularSessionDate : Date
  calendarVersion : String
  premarketObservedAt : Time
  regularMarketOpenObservedAt : Time
  regularMarketCloseObservedAt : Time
  eodCompletedAt : Time
  accountFingerprint : String
  authenticated : Bool
  capabilitySnapshotId : Option UUID
  mcpProtocolVersion : Option String := none
  capabilityCatalogVersion : Option String := none
  capabilityCatalogHash : Option String := none
  commandSchemaHashes : Dict String String := .empty
  capabilityDriftReviewed : Bool := false
  publicSourceHealth : HealthCoverage
  marketDataHealth : HealthCoverage
  brokerReadHealth : HealthCoverage
  realBrokerAccountSnapshotIds : List UUID
  realCash : Decimal
  realBuyingPower : Decimal
  realOpenPositions : ℕ
  realOpenOrders : ℕ
  unexpectedRealDeposit : Bool := false
  shadowAccountSnapshotIds : List UUID
  shadowCash : Decimal
  shadowBuyingPower : Decimal
  shadowRealizedPnl : Decimal := ⟨0, 0⟩
  shadowUnrealizedPnl : Decimal := ⟨0, 0⟩
  naturalCommandIntentIds : List UUID := []
  plumbingCommandIntentIds : List UUID := []
  policyCounterfactualsRequired : ℕ := 0
  policyCounterfactualIds : List UUID := []
  reconciliationEventIds : List UUID
  eodReconciled : Bool
  restartEventIds : List UUID := []
  restartReconciled : Bool := false
  transientFailureEventIds : List UUID := []
  transientFailureRecoveredSafely : Bool := false
  reconnectExercised : Bool := false
  unresolvedSafetyIncidents : List String := []

namespace SessionRecord

variable (s : SessionRecord)

def commandIntentIds : List UUID := s.naturalCommandIntentIds ++ s.plumbingCommandIntentIds

def identityGroups : List (List UUID) :=
  [s.realBrokerAccountSnapshotIds, s.shadowAccountSnapshotIds, s.naturalCommandIntentIds,
    s.plumbingCommandIntentIds, s.policyCounterfactualIds, s.reconciliationEventIds,
    s.restartEventIds, s.transientFailureEventIds]

def localTimes : List Time :=
  [s.premarketObservedAt, s.regularMarketOpenObservedAt, s.regularMarketCloseObservedAt,
    s.eodCompletedAt]

def coverages : List HealthCoverage :=
  [s.publicSourceHealth, s.marketDataHealth, s.brokerReadHealth]

end SessionRecord

/-- The pattern of a digest. -/
def IsSha256 (digest : String) : Prop :=
  digest.length = 64 ∧ ∀ ch ∈ digest.toList, ch ∈ "0123456789abcdef".toList

instance (digest : String) : Decidable (IsSha256 digest) := inferInstanceAs (Decidable (_ ∧ _))

/-- What the fields are checked for one by one. -/
structure SessionRecord.FieldsValid (s : SessionRecord) : Prop where
  namespace_length : 1 ≤ s.namespace_.length ∧ s.namespace_.length ≤ 128
  fingerprint_length : 8 ≤ s.accountFingerprint.length ∧ s.accountFingerprint.length ≤ 256
  protocol_length : ∀ version ∈ s.mcpProtocolVersion, version.length ≤ 80
  catalog_length : ∀ version ∈ s.capabilityCatalogVersion, version.length ≤ 120
  catalog_hash : ∀ digest ∈ s.capabilityCatalogHash, IsSha256 digest
  schema_names : ∀ entry ∈ s.commandSchemaHashes.entries, strip entry.1 ≠ ""
  schema_hashes : ∀ entry ∈ s.commandSchemaHashes.entries, IsSha256 entry.2
  amounts_nonneg : ∀ amount ∈ [s.realCash, s.realBuyingPower, s.shadowCash, s.shadowBuyingPower],
    0 ≤ amount.val

/-- `identifiers_and_times_are_consistent`. -/
structure SessionRecord.Consistent (newYork : ZoneInfo) (s : SessionRecord) : Prop where
  unique : ∀ ids ∈ s.identityGroups, ids.Nodup
  disjoint : ∀ id ∈ s.naturalCommandIntentIds, id ∉ s.plumbingCommandIntentIds
  sameDate : ∀ at_ ∈ s.localTimes, newYork.date at_ = s.regularSessionDate
  ordered : s.localTimes.IsChain (· ≤ ·)

/-- Evidence that its constructor has accepted. -/
structure SessionEvidence (newYork : ZoneInfo) extends SessionRecord where
  valid : toSessionRecord.FieldsValid
  consistent : toSessionRecord.Consistent newYork

structure AuditCompleteness where
  declaredCommandIntents : ℕ
  naturalCommandIntents : ℕ
  plumbingCommandIntents : ℕ
  completeCommandIntents : ℕ
  sideEffectFreeReviews : ℕ
  firewallDenials : ℕ
  transmittedExternalWrites : ℕ
  undeclaredCommandIntents : ℕ
  realAccountBreaches : ℕ := 0
  accountSeparationIssues : ℕ := 0
  issues : List String := []
  deriving DecidableEq

end Sentry
