import Sentry.Execution.Guarantees

/-!
# Equal proposals and their fingerprints

Two proposals are equal as model values when they agree in every field, the limit price by
its value. The fingerprint hashes the text of the price, so equal proposals share it exactly
when their prices are written alike, and only then is the second one known as a duplicate.
-/
namespace Sentry

open Support Coroutine

variable {B : Type}

namespace TradeProposal

/-- Equality of two model values: prices are compared as numbers. -/
def Same (p q : TradeProposal) : Prop :=
  { p with limitPrice := q.limitPrice, limitPrice_pos := q.limitPrice_pos } = q ∧
    p.limitPrice.val = q.limitPrice.val

instance (p q : TradeProposal) : Decidable (p.Same q) := inferInstanceAs (Decidable (_ ∧ _))

/-- The two prices are written with the same digits. -/
def WrittenAlike (p q : TradeProposal) : Prop := p.limitPrice.str = q.limitPrice.str

instance (p q : TradeProposal) : Decidable (p.WrittenAlike q) :=
  inferInstanceAs (Decidable (_ = _))

theorem Same.fields {p q : TradeProposal} (same : p.Same q) :
    p.environment = q.environment ∧ p.namespace_ = q.namespace_ ∧ p.contract = q.contract ∧
      p.side = q.side ∧ p.quantity = q.quantity ∧ p.proposalId = q.proposalId := by
  obtain ⟨same, -⟩ := same
  rw [← same]
  exact ⟨rfl, rfl, rfl, rfl, rfl, rfl⟩

/-- Of the hashed document, equal proposals can only differ in the text of the price. -/
theorem Same.fingerprintFields_eq_iff {p q : TradeProposal} (same : p.Same q) :
    p.fingerprintFields = q.fingerprintFields ↔ p.WrittenAlike q := by
  obtain ⟨environment, namespace_, contract, side, quantity, proposalId⟩ := same.fields
  simp [fingerprintFields, WrittenAlike, environment, namespace_, contract, side, quantity,
    proposalId]

end TradeProposal

/-- Two documents that a digest does not tell apart. -/
def Hashing.Collide (H : Hashing) (a b : Json) : Prop := a ≠ b ∧ H.sha256Json a = H.sha256Json b

theorem TradeProposal.Same.orderFingerprint_eq_iff {p q : TradeProposal} (same : p.Same q)
    {H : Hashing} (apart : ¬ H.Collide p.fingerprintFields q.fingerprintFields) :
    p.orderFingerprint H = q.orderFingerprint H ↔ p.WrittenAlike q := by
  rw [← same.fingerprintFields_eq_iff]
  constructor
  · intro digest
    by_contra other
    exact apart ⟨other, digest⟩
  · intro document
    rw [orderFingerprint, orderFingerprint, document]

/-! ### Placements of equal proposals -/

/-- The proposal an execution asks the broker to place, if it asks for that. -/
def placedProposal (e : ServiceIssue B) : Option TradeProposal :=
  match e.call, e.op with
  | .execute x, .placeOptionOrder _ _ => some x.proposal
  | _, _ => none

theorem placedProposal_some {e : ServiceIssue B} {p : TradeProposal}
    (placed : placedProposal e = some p) :
    ∃ x, e.call = .execute x ∧ x.proposal = p ∧
      placedFingerprint e = some (p.orderFingerprint x.svc.hashing) := by
  unfold placedProposal at placed
  split at placed
  next x command contract call op =>
    obtain rfl := Option.some.inj placed
    exact ⟨x, call, rfl, by rw [placedFingerprint, call, op]⟩
  · cases placed

/-- All services compute the same digest. -/
def OneDigest (H : Hashing) (s : ServiceSystem B) : Prop :=
  ∀ i x, s.callOf i = some (.execute x) → x.svc.hashing = H

/-- Whenever two executions of a run are of equal proposals, the prices are written alike. -/
def EqualsWrittenAlike (s : ServiceSystem B) : Prop :=
  ∀ i j x y, s.callOf i = some (.execute x) → s.callOf j = some (.execute y) →
    x.proposal.Same y.proposal → x.proposal.WrittenAlike y.proposal

theorem callOf_issue {d : Rows} {s : ServiceSystem B} (run : Reachable (services B) d s)
    {e : ServiceIssue B} (member : e ∈ s.issued) : s.callOf e.task = some e.call := by
  obtain ⟨t, found, owner, -, -⟩ := (run_consistent run).owner e member
  rw [System.callOf, found, Option.map_some, owner]

/-- No two placements of the run are of equal proposals. -/
theorem placed_unequal {H : Hashing} {d : Rows} {s : ServiceSystem B} (unique : d.Keyed)
    (run : Reachable (services B) d s) (drawn : DistinctDraws s) (digest : OneDigest H s)
    (alike : EqualsWrittenAlike s) :
    (s.issued.filterMap placedProposal).Pairwise fun p q => ¬ p.Same q := by
  apply List.pairwise_filterMap.mpr
  apply (run_consistent run).ordered.imp_of_mem
  intro e e' member member' ordered p first q second same
  obtain ⟨x, call, rfl, fingerprint⟩ := placedProposal_some first
  obtain ⟨x', call', rfl, fingerprint'⟩ := placedProposal_some second
  have started : s.callOf e.task = some (.execute x) := call ▸ callOf_issue run member
  have started' : s.callOf e'.task = some (.execute x') := call' ▸ callOf_issue run member'
  have document := same.fingerprintFields_eq_iff.mpr (alike _ _ x x' started started' same)
  -- one fingerprint for both, which is placed at most once
  refine placed_apart unique run drawn member member' ordered fingerprint ?_
  rw [fingerprint', digest _ x started, digest _ x' started', TradeProposal.orderFingerprint,
    TradeProposal.orderFingerprint, document]

/-- Equal proposals share their fingerprint exactly when their prices are written alike; and
over a store with unique fingerprints, whatever the calls, the instances and the schedule,
equal proposals whose prices are written alike are placed at most once between them. -/
theorem equal_proposals_share_iff (H : Hashing) :
    (∀ p q : TradeProposal, p.Same q →
      ¬ H.Collide p.fingerprintFields q.fingerprintFields →
      (p.orderFingerprint H = q.orderFingerprint H ↔ p.WrittenAlike q)) ∧
    ∀ (d : Rows) (s : ServiceSystem B), d.Keyed → Reachable (services B) d s →
      DistinctDraws s → OneDigest H s → EqualsWrittenAlike s →
      (s.issued.filterMap placedProposal).Pairwise fun p q => ¬ p.Same q :=
  ⟨fun _ _ same apart => same.orderFingerprint_eq_iff apart,
    fun _ _ unique run drawn digest alike => placed_unequal unique run drawn digest alike⟩

namespace Sample

/-- The proposal with its price written with one digit less. -/
def reprinted : TradeProposal :=
  { proposal 3 with limitPrice := ⟨15, -1⟩, limitPrice_pos := Decimal.val_pos (nat_lit 15) (nat_lit 1) }

theorem same_reprinted : (proposal 3).Same reprinted :=
  ⟨rfl, by norm_num [proposal, reprinted, Decimal.val]⟩

theorem reprinted_fingerprint :
    (proposal 3).orderFingerprint hashing ≠ reprinted.orderFingerprint hashing := by decide +kernel

theorem proposals_run {i : ℕ} {x : Execution Unit} (started_ : run.callOf i = some (.execute x)) :
    x.proposal = proposal 3 ∧ x.svc = service := by
  rw [callOf_run, started, System.callOf_put, System.callOf_put] at started_
  split at started_
  · cases started_
    exact ⟨rfl, rfl⟩
  split at started_
  · cases started_
    exact ⟨rfl, rfl⟩
  · cases started_

theorem oneDigest_run : OneDigest hashing run := by
  intro i x called
  rw [(proposals_run called).2]
  rfl

theorem equalsWrittenAlike_run : EqualsWrittenAlike run := by
  intro i j x y called called' _
  rw [TradeProposal.WrittenAlike, (proposals_run called).1, (proposals_run called').1]

/-- The proposal is executed, then its equal. -/
def reprintedRun : ServiceSystem Unit :=
  turn 1 30 (turn 0 30 (((System.idle {}).put 0
    ⟨execution 3 100, [], (execution 3 100).body.settle surroundings⟩).put 1
      ⟨.execute ⟨service, reprinted, none, ⟨⟨200⟩, ⟨201⟩, ⟨202⟩⟩, surroundings⟩, [],
        (ServiceCall.execute ⟨service, reprinted, none, ⟨⟨200⟩, ⟨201⟩, ⟨202⟩⟩,
          surroundings⟩).body.settle surroundings⟩))

theorem reachable_reprintedRun : Reachable (services Unit) {} reprintedRun :=
  reachable_turn (reachable_turn
    ((Reachable.start Relation.ReflTransGen.refl 0 (execution 3 100) rfl).start 1 _ rfl) 0 30) 1 30

theorem placed_reprintedRun :
    reprintedRun.issued.filterMap placedProposal = [proposal 3, reprinted] := by decide +kernel

end Sample

theorem equal_proposals_share_sample :
    ((Sample.proposal 3).orderFingerprint Sample.hashing =
        Sample.reprinted.orderFingerprint Sample.hashing ↔
      (Sample.proposal 3).WrittenAlike Sample.reprinted) ∧
    Sample.run.issued.filterMap placedFingerprint =
        [(Sample.proposal 3).orderFingerprint Sample.hashing] ∧
      (Sample.run.issued.filterMap placedProposal).Pairwise fun p q => ¬ p.Same q :=
  ⟨(equal_proposals_share_iff (B := Unit) Sample.hashing).1 _ _ Sample.same_reprinted
      fun collide => Sample.reprinted_fingerprint collide.2,
    Sample.fingerprints_run,
    (equal_proposals_share_iff Sample.hashing).2 {} Sample.run List.Pairwise.nil
      Sample.reachable_run Sample.distinctDraws_run Sample.oneDigest_run
      Sample.equalsWrittenAlike_run⟩

/-- The prices 1.50 and 1.5 make two equal proposals with two fingerprints, and a service that
executes one after the other places both. -/
theorem equal_proposals_placed_twice :
    (Sample.proposal 3).Same Sample.reprinted ∧
      (Sample.proposal 3).orderFingerprint Sample.hashing ≠
        Sample.reprinted.orderFingerprint Sample.hashing ∧
      Reachable (services Unit) {} Sample.reprintedRun ∧
      Sample.reprintedRun.issued.filterMap placedProposal =
        [Sample.proposal 3, Sample.reprinted] :=
  ⟨Sample.same_reprinted, Sample.reprinted_fingerprint, Sample.reachable_reprintedRun,
    Sample.placed_reprintedRun⟩

end Sentry
