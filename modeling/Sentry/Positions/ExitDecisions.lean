import Sentry.Clock.MarketCalendar
import Sentry.Positions.Exits
import Sentry.Support.Rounding

/-!
# Exit decisions

`evaluate_exit` with the exchange's calendar. The triggers of a decision are those whose
conditions hold, and a decision is returned unless an operation overflows or an end-of-day exit
asks for a session the calendar does not cover.
-/
namespace Sentry

open Support

/-- What the manager reads of clock and calendar: the days are those of the policy's zone, the
sessions those of the exchange. -/
def UsEquityCalendar.marketZone (calendar : UsEquityCalendar) (policyZone : ZoneInfo) :
    MarketZone where
  localDate := policyZone.date
  combine := policyZone.combine
  sessionDay := calendar.timezone.date
  regularSessionClose := calendar.regularSessionClose

section Decisions

variable {D : Decimal.Context} {policy : ExitPolicy} {zone : MarketZone} {now : Time}
  {signals : ExitSignals} {position : Position}

/-! ### Triggers -/

variable (D policy zone now signals position) in
/-- The condition of each trigger. -/
def ExitTrigger.Holds (quote : OptionQuote) : ExitTrigger → Prop
  | .profitTarget =>
    policy.profitTargetFraction ≤ PositionManager.returnFraction D position quote
  | .lossThreshold =>
    PositionManager.returnFraction D position quote ≤ D.round (-policy.lossThresholdFraction)
  | .thesisInvalidated =>
    ∃ condition ∈ signals.invalidatedConditions, condition ∈ position.invalidationConditions
  | .catalystFailed => signals.catalystFailed = true
  | .dteCutoff =>
    position.contract.expiration - zone.localDate now ≤ policy.sellToCloseDaysBeforeExpiration
  | .endOfDay => policy.endOfDayExit = true ∧ ∃ close,
    zone.regularSessionClose (zone.sessionDay now) = .ok (some close) ∧
      (zone.combine (zone.localDate now) policy.endOfDayCutoff ≤ now ∨ close - minutes 15 ≤ now)
  | .liquidityDeterioration => quote.bid ≤ 0 ∨ quote.ask ≤ 0 ∨
    policy.maximumBidAskPercent < D.mul (D.div (D.sub quote.ask quote.bid) quote.ask) 100
  | .hardPortfolioEmergency => signals.hardPortfolioEmergency = true

variable (policy now) in
/-- The quote was observed not too long ago, and not before it took effect. -/
structure OptionQuote.Fresh (quote : OptionQuote) : Prop where
  effective : quote.metadata.effectiveAt ≤ quote.metadata.observedAt
  observed : quote.metadata.observedAt ≤ now
  young : now - quote.metadata.observedAt ≤ policy.maximumQuoteAge

namespace PositionManager

theorem endOfDayReached_ok_iff :
    (∃ reached, endOfDayReached policy zone now = .ok reached) ↔
      policy.endOfDayExit = false ∨
        ∃ close, zone.regularSessionClose (zone.sessionDay now) = .ok close := by
  unfold endOfDayReached
  by_cases off : policy.endOfDayExit = false
  · simp [off]
  · rw [if_neg off]
    cases known : zone.regularSessionClose (zone.sessionDay now) with
    | error text => simp [off]
    | ok close => cases close <;> simp

theorem endOfDay_holds_iff {reached : Bool}
    (known : endOfDayReached policy zone now = .ok reached) {quote : OptionQuote} :
    ExitTrigger.Holds D policy zone now signals position quote .endOfDay ↔ reached = true := by
  unfold endOfDayReached at known
  simp only [ExitTrigger.Holds]
  split at known
  next off =>
    cases known
    simp [off]
  next on =>
    have enabled : policy.endOfDayExit = true := by simpa using on
    cases closes : zone.regularSessionClose (zone.sessionDay now) with
    | error text =>
      rw [closes] at known
      cases known
    | ok close =>
      rw [closes] at known
      cases close with
      | none =>
        cases known
        simp
      | some close =>
        cases known
        simp [enabled, minutes]

theorem deteriorated_iff {quote : OptionQuote} :
    deteriorated D policy quote = true ↔ quote.bid ≤ 0 ∨ quote.ask ≤ 0 ∨
      policy.maximumBidAskPercent <
        D.mul (D.div (D.sub quote.ask quote.bid) quote.ask) 100 := by
  simp only [deteriorated, Bool.or_eq_true, decide_eq_true_eq]
  by_cases offered : 0 < quote.ask
  · simp [offered, not_le.mpr offered]
  · simp [offered, not_lt.mp offered]

/-- The triggers are those whose condition holds. -/
theorem mem_exitTriggers {quote : OptionQuote} {reached : Bool}
    (known : endOfDayReached policy zone now = .ok reached) (trigger : ExitTrigger) :
    trigger ∈ exitTriggers D policy zone now signals position quote reached ↔
      trigger.Holds D policy zone now signals position quote := by
  have single (p : Prop) [Decidable p] (t : ExitTrigger) :
      trigger ∈ (if p then [t] else []) ↔ p ∧ trigger = t := by
    split <;> simp [*]
  simp only [exitTriggers, List.mem_append, single]
  cases trigger with
  | endOfDay => simp [endOfDay_holds_iff known]
  | liquidityDeterioration => simp [deteriorated_iff, ExitTrigger.Holds]
  | _ => simp [ExitTrigger.Holds]

theorem quoteFresh_iff {quote : OptionQuote} :
    quoteFresh policy now quote = true ↔ quote.Fresh policy now := by
  simp only [quoteFresh, Bool.and_eq_true, decide_eq_true_eq]
  constructor
  · rintro ⟨⟨⟨-, young⟩, effective⟩, observed⟩
    exact ⟨effective, observed, young⟩
  · rintro ⟨effective, observed, young⟩
    exact ⟨⟨⟨sub_nonneg.mpr observed, young⟩, effective⟩, observed⟩

/-! ### Decisions -/

/-- What a decision says of the triggers and of the quote. -/
structure Decides (D : Decimal.Context) (policy : ExitPolicy) (zone : MarketZone) (now : Time)
    (signals : ExitSignals) (position : Position) (written : WrittenQuote)
    (decision : ExitDecision) : Prop where
  triggers : ∀ trigger, trigger ∈ decision.triggers ↔
    trigger.Holds D policy zone now signals position written.quote
  shouldExit : decision.shouldExit = true ↔
    ∃ trigger, ExitTrigger.Holds D policy zone now signals position written.quote trigger
  executable : decision.executable = true ↔
    decision.shouldExit = true ∧ written.quote.Fresh policy now ∧ 0 < written.quote.bid
  limitPrice : decision.limitPrice = if decision.executable then some written.bid else none

theorem evaluateExit_decides {written : WrittenQuote} {decision : ExitDecision}
    (evaluated : evaluateExit D policy zone now signals position written = .ok decision) :
    Decides D policy zone now signals position written decision := by
  unfold evaluateExit at evaluated
  dsimp only at evaluated
  split at evaluated
  · cases evaluated
  obtain ⟨-, evaluated⟩ := trap_bind_ok_iff.mp evaluated
  obtain ⟨reached, known, evaluated⟩ := bind_ok evaluated
  obtain ⟨-, evaluated⟩ := trap_bind_ok_iff.mp evaluated
  cases evaluated
  refine ⟨mem_exitTriggers known, ?_, ?_, rfl⟩
  · simp only [Bool.not_eq_true', List.isEmpty_eq_false_iff_exists_mem]
    exact exists_congr (mem_exitTriggers known)
  · simp only [Bool.and_eq_true, decide_eq_true_eq, quoteFresh_iff, and_assoc]

variable (D policy position) in
/-- No operation on these prices overflows. -/
def InRange (quote : OptionQuote) : Prop :=
  D.Fits (returnResults D policy position quote ++ spreadResults D quote)

instance (quote : OptionQuote) : Decidable (InRange D policy position quote) :=
  inferInstanceAs (Decidable (D.Fits _))

theorem evaluateExit_ok_iff {written : WrittenQuote} :
    (∃ decision, evaluateExit D policy zone now signals position written = .ok decision) ↔
      position.contract = written.quote.contract ∧ InRange D policy position written.quote ∧
        (policy.endOfDayExit = false ∨
          ∃ close, zone.regularSessionClose (zone.sessionDay now) = .ok close) := by
  rw [← endOfDayReached_ok_iff, InRange, D.fits_append]
  unfold evaluateExit
  by_cases same : position.contract = written.quote.contract
  · rw [if_neg (not_not.mpr same)]
    constructor
    · rintro ⟨decision, evaluated⟩
      obtain ⟨returns, evaluated⟩ := trap_bind_ok_iff.mp evaluated
      obtain ⟨reached, known, evaluated⟩ := bind_ok evaluated
      exact ⟨same, ⟨returns, (trap_bind_ok_iff.mp evaluated).1⟩, reached, known⟩
    · rintro ⟨-, ⟨returns, spread⟩, reached, known⟩
      exact ⟨_, trap_bind_ok_iff.mpr ⟨returns, by
        rw [known]
        exact trap_bind_ok_iff.mpr ⟨spread, rfl⟩⟩⟩
  · rw [if_pos same]
    simp [same]

end PositionManager

end Decisions

/-- On a day that the calendar covers, or where no end-of-day exit is asked for, there is a
decision, unless an operation overflows. -/
theorem exit_decided (calendar : UsEquityCalendar) (policyZone : ZoneInfo) (D : Decimal.Context)
    (policy : ExitPolicy) (now : Time) (signals : ExitSignals) (position : Position)
    (written : WrittenQuote) (same : position.contract = written.quote.contract)
    (inRange : PositionManager.InRange D policy position written.quote)
    (covered : policy.endOfDayExit = false ∨
      UsEquityCalendar.Covered (calendar.timezone.date now)) :
    ∃ decision,
      PositionManager.evaluateExit D policy (calendar.marketZone policyZone) now signals position
        written = .ok decision ∧
      (signals.hardPortfolioEmergency = true ∨ (∃ trigger, ExitTrigger.Holds D policy
        (calendar.marketZone policyZone) now signals position written.quote trigger) →
          decision.shouldExit = true) ∧
      (decision.executable = true ↔
        decision.shouldExit = true ∧ written.quote.Fresh policy now ∧ 0 < written.quote.bid) ∧
      (decision.executable = true →
        decision.limitPrice = some written.bid ∧ 0 < written.bid.val) := by
  obtain ⟨decision, evaluated⟩ : ∃ decision, PositionManager.evaluateExit D policy
      (calendar.marketZone policyZone) now signals position written = .ok decision := by
    rw [PositionManager.evaluateExit_ok_iff]
    refine ⟨same, inRange, covered.imp_right fun inside => ?_⟩
    exact (calendar.regularSessionClose_ok_iff _).mpr inside
  have decides := PositionManager.evaluateExit_decides evaluated
  refine ⟨decision, evaluated, ?_, decides.executable, fun executable => ⟨?_, ?_⟩⟩
  · rintro (emergency | triggered)
    · exact decides.shouldExit.mpr ⟨.hardPortfolioEmergency, emergency⟩
    · exact decides.shouldExit.mpr triggered
  · rw [decides.limitPrice, if_pos executable]
  · rw [written.bid_val]
    exact (decides.executable.mp executable).2.2

namespace ExitSample

open ShadowLedger

/-- The policy of the runtimes, with end-of-day exits. -/
def endOfDayPolicy : ExitPolicy := { exitPolicyV1 with endOfDayExit := true }

/-- The exchange's calendar, and a policy in its zone. -/
def exchange : MarketZone := UsEquityCalendar.marketZone ⟨.newYork⟩ .newYork

/-- A quote that was observed just now, at half of what the position had cost. -/
def halvedAt (now : Time) : WrittenQuote := ⟨sampleQuote 5 now now 1 (5 / 4), ⟨1, 0⟩, one_val⟩

/-- Four o'clock in New York, on a day in winter. -/
def atClose (year : ℤ) (month : ℕ) (day : ℤ) : Time := date year month day * hours 24 + hours 21

theorem halved_loss (now : Time) : ExitTrigger.Holds (.halfEven 28) endOfDayPolicy exchange now {}
    held (halvedAt now).quote .lossThreshold := by
  change PositionManager.returnFraction (.halfEven 28) held (sampleQuote 5 0 0 1 (5 / 4)) ≤
    (Decimal.Context.halfEven 28).round (-(7 / 20))
  decide +kernel

theorem halved_inRange (now : Time) :
    PositionManager.InRange (.halfEven 28) endOfDayPolicy held (halvedAt now).quote := by
  change PositionManager.InRange (.halfEven 28) endOfDayPolicy held (sampleQuote 5 0 0 1 (5 / 4))
  decide +kernel

/-- A position bought at a price whose cost is beyond the exponents of the context. -/
def dear : Position := { held with averageEntryPrice := 10 ^ (999999 : ℤ) }

theorem dear_overflows (now : Time) :
    ¬ PositionManager.InRange (.halfEven 28) endOfDayPolicy dear (halvedAt now).quote := by
  intro inRange
  have outside : (Decimal.Context.halfEven 28).fits (PositionManager.entryCost (.halfEven 28) dear) =
      false :=
    Decimal.Context.halfEven_cost_overflows (by norm_num) (le_refl _)
      (by norm_num [dear, held, sampleContract])
  have fits := inRange (PositionManager.entryCost (.halfEven 28) dear)
    (List.mem_append_left _ (by simp [PositionManager.returnResults]))
  exact absurd (outside.symm.trans fits) (by simp)

end ExitSample

open ExitSample in
theorem exit_decided_2026 :
    ∃ decision,
      PositionManager.evaluateExit (.halfEven 28) endOfDayPolicy exchange (atClose 2026 12 1) {}
        held (halvedAt (atClose 2026 12 1)) = .ok decision ∧ decision.shouldExit = true := by
  obtain ⟨decision, evaluated, triggered, -⟩ := exit_decided ⟨.newYork⟩ .newYork (.halfEven 28)
    endOfDayPolicy (atClose 2026 12 1) {} held (halvedAt (atClose 2026 12 1)) rfl
    (halved_inRange _) (Or.inr (by decide))
  exact ⟨decision, evaluated, triggered (Or.inr ⟨.lossThreshold, halved_loss _⟩)⟩

open ExitSample in
/-- On the second of January 2029 half of the position's value is lost, and there is no
decision; nor is there one on a position of too high a cost, whatever the emergency. -/
theorem exit_undecided_2029 :
    (held.contract = (halvedAt (atClose 2029 1 2)).quote.contract ∧
      ExitTrigger.Holds (.halfEven 28) endOfDayPolicy exchange (atClose 2029 1 2) {} held
        (halvedAt (atClose 2029 1 2)).quote .lossThreshold ∧
      PositionManager.evaluateExit (.halfEven 28) endOfDayPolicy exchange (atClose 2029 1 2) {} held
        (halvedAt (atClose 2029 1 2)) = .error (.valueError ("NYSE session schedule is " ++
          "unverified for 2029; refresh the official holiday and early-close calendar"))) ∧
    dear.contract = (halvedAt (atClose 2026 12 1)).quote.contract ∧
    ¬ ∃ decision, PositionManager.evaluateExit (.halfEven 28) endOfDayPolicy exchange
      (atClose 2026 12 1) { hardPortfolioEmergency := true } dear (halvedAt (atClose 2026 12 1)) =
        .ok decision := by
  refine ⟨⟨rfl, halved_loss _, ?_⟩, rfl, fun decided => ?_⟩
  · have fits : (Decimal.Context.halfEven 28).Fits (PositionManager.returnResults (.halfEven 28)
        endOfDayPolicy held (halvedAt (atClose 2029 1 2)).quote) :=
      ((Decimal.Context.halfEven 28).fits_append.mp (halved_inRange _)).1
    unfold PositionManager.evaluateExit
    dsimp only
    have same : held.contract = (halvedAt (atClose 2029 1 2)).quote.contract := rfl
    rw [if_neg (not_not.mpr same), trap_fits fits]
    rfl
  · exact dear_overflows _ (PositionManager.evaluateExit_ok_iff.mp decided).2.1

end Sentry
