import TransitGuard.Fare.ClosedForm
import TransitGuard.Fare.Offline

/-!
Which errors an evaluation can raise. Every amount after the first sum is
bounded by one before it, so only that sum and the zone surcharge overflow; the
errors the later stages declare for it are never raised, and the additions and
subtractions written without a check never wrap around.
-/

namespace TransitGuard.Fare

open Fallible

variable {policy : FarePolicy} {input : FareEvaluationInput}

/-- The errors no evaluation raises. -/
def FareEvaluationError.isUnreachable : FareEvaluationError → Bool
  | .transfer .arithmeticFailure | .fareCap .arithmeticFailure | .product _
  | .arithmeticOverflow .eligibilityDiscount | .arithmeticOverflow .discountedFare => true
  | _ => false

theorem calculateZoneSurcharge_error {surcharge : Money} {count : Nat} {e : FareEvaluationError}
    (h : calculateZoneSurcharge surcharge count = .error e) :
    e = .arithmeticOverflow .zoneSurcharge := by
  simp only [calculateZoneSurcharge, bind_eq_error, orFail_eq_error, reduceCtorEq, and_false,
    exists_false, or_false] at h
  exact h.2.symm

/-- On a fare of the policy the transfer rule refuses only a history from the
future. -/
theorem applyTransfer_error {time : EventTime} {history : TransferHistory} {fare : Money}
    (hfare : fare.Owed policy.currency) {e : TransferEvaluationError}
    (h : applyTransfer policy time history fare = .error e) : e ≠ .arithmeticFailure := by
  cases heligible : transferIsEligible policy time history with
  | ok eligible =>
    obtain ⟨rest, -, -, happlied⟩ := applyTransfer_of_eligible hfare heligible
    rw [happlied] at h
    cases h
  | error e' =>
    simp only [applyTransfer, validateMoney_of_owed hfare, ok_bind, heligible] at h
    cases h
    rintro rfl
    unfold transferIsEligible at heligible
    split at heligible
    · cases heligible
    · split at heligible <;> cases heligible

theorem applyFareCaps_error {history : FareCapHistory} {fare : Money}
    (hfare : fare.Owed policy.currency) {e : FareCapEvaluationError}
    (h : applyFareCaps policy history fare = .error e) : e ≠ .arithmeticFailure := by
  rintro rfl
  have hinvalid : ¬history.Valid policy.currency := by
    intro hhistory
    obtain ⟨application, happlied, -⟩ := applyFareCaps_spec hhistory hfare
    rw [happlied] at h
    cases h
  unfold applyFareCaps at h
  rcases bind_eq_error.mp h with h | ⟨_, hdaily, h⟩
  · rcases validateMoney_error h with h | h <;> cases h
  rcases bind_eq_error.mp h with h | ⟨_, hweekly, h⟩
  · rcases validateMoney_error h with h | h <;> cases h
  rcases bind_eq_error.mp h with h | ⟨_, -, h⟩
  · rcases validateMoney_error h with h | h <;> cases h
  rcases guard_eq_error.mp h with ⟨-, h⟩ | ⟨hle, -⟩
  · cases h
  · exact hinvalid ⟨validateMoney_ok.mp hdaily, validateMoney_ok.mp hweekly,
      Int64.le_iff_toInt_le.mp (Int64.not_lt.mp hle)⟩

theorem fullFare_owed {surcharge full : Money}
    (hsurcharge : calculateZoneSurcharge policy.zoneSurcharge
      (additionalZones input.originZone input.destinationZone) = .ok surcharge)
    (hfull : policy.baseFare.checkedAdd surcharge = .ok full) : full.Owed policy.currency := by
  rw [additionalZones_eq, calculateZoneSurcharge_ok (zoneDistance_lt input)] at hsurcharge
  obtain ⟨-, hcurrency, hunits⟩ := Money.checkedAdd_ok.mp hfull
  refine ⟨hcurrency.trans policy.sound.baseFare.currency_eq, ?_⟩
  rw [hunits, hsurcharge.2]
  exact (input.terms_sound policy).fullFare

/-- What an evaluation raises is never one of those errors. -/
theorem evaluateFare_error {e : FareEvaluationError} (h : evaluateFare policy input = .error e) :
    e.isUnreachable = false := by
  unfold evaluateFare at h
  rcases bind_eq_error.mp h with h | ⟨_, hbalance, h⟩
  · rcases validateMoney_error h with rfl | rfl <;> rfl
  have hbalanceOwed : input.availableBalance.Owed policy.currency := validateMoney_ok.mp hbalance
  -- base and zones
  rcases bind_eq_error.mp h with h | ⟨surcharge, hsurcharge, h⟩
  · rw [calculateZoneSurcharge_error h]
    rfl
  rcases bind_eq_error.mp h with h | ⟨full, hfull, h⟩
  · obtain ⟨_, -, rfl⟩ := mapError_eq_error.mp h
    rfl
  have hfullOwed : full.Owed policy.currency := fullFare_owed hsurcharge (mapError_eq_ok.mp hfull)
  -- the eligibility discount is a share of the fare, so neither of its steps fails
  obtain ⟨share, hshare, hshareOwed, hshareUnits⟩ :=
    calculatePercentage_spec hfullOwed (policy.eligibilityDiscounts.rateFor input.eligibility)
  have hshareLe : share.units ≤ full.units := by
    rw [hshareUnits]
    exact Discount.part_le hfullOwed.nonneg
      (Int.ofNat_le.mpr (policy.eligibilityDiscounts.rateFor input.eligibility).le) (by decide)
  obtain ⟨fare, hfare, hfareOwed, -⟩ := hfullOwed.checkedSubtract hshareOwed hshareLe
  simp only [hshare, hfare, ok_bind, Except.mapError] at h
  -- the rules
  cases htransfer : applyTransfer policy input.eventTime input.transferHistory fare with
  | error e' =>
    have hraised := applyTransfer_error hfareOwed htransfer
    simp only [htransfer] at h
    cases h
    cases e' with
    | arithmeticFailure => exact absurd rfl hraised
    | currencyMismatch | negativeFare | previousFareOccursAfterCurrent => rfl
  | ok transfer =>
  have htransferOwed := applyTransfer_ok htransfer
  cases hcaps : applyFareCaps policy input.fareCapHistory transfer.fareAfterTransfer with
  | error e' =>
    have hraised := applyFareCaps_error htransferOwed hcaps
    simp only [htransfer, ok_bind, hcaps] at h
    cases h
    cases e' with
    | arithmeticFailure => exact absurd rfl hraised
    | currencyMismatch | negativeAmount | dailyChargedExceedsWeeklyCharged => rfl
  | ok caps =>
  -- neither a product nor the decision fails on what the caps leave
  obtain ⟨hhistory, -⟩ := applyFareCaps_ok hcaps
  obtain ⟨caps', hcaps', hcapsOwed, -⟩ := applyFareCaps_spec hhistory htransferOwed
  rw [hcaps] at hcaps'
  cases hcaps'
  obtain ⟨product, hproduct, hproductOwed, -⟩ := applyTransitProduct_spec hcapsOwed
    input.transitProduct input.eventTime input.originZone input.destinationZone
  simp only [htransfer, hcaps, hproduct, decideOutcome_eq hbalanceOwed hproductOwed, ok_bind,
    reduceCtorEq] at h

/-- An evaluation succeeds exactly on what the policy accepts. -/
theorem evaluateFare_fails_iff :
    (∃ e, evaluateFare policy input = .error e) ↔ ¬policy.Accepts input := by
  constructor
  · rintro ⟨e, he⟩ haccepts
    obtain ⟨evaluation, heval, -⟩ := evaluateFare_of_accepts haccepts
    rw [he] at heval
    cases heval
  · intro hrefused
    cases heval : evaluateFare policy input with
    | error e => exact ⟨e, rfl⟩
    | ok evaluation => exact absurd (accepts_of_ok heval) hrefused

theorem FareCapHistory.not_valid {currency : Currency} {history : FareCapHistory} :
    ¬history.Valid currency ↔
      history.dailyCharged.currency ≠ currency ∨ history.dailyCharged.units < 0 ∨
        history.weeklyCharged.currency ≠ currency ∨ history.weeklyCharged.units < 0 ∨
        history.weeklyCharged.units < history.dailyCharged.units := by
  have hvalid : history.Valid currency ↔ history.dailyCharged.Owed currency ∧
      history.weeklyCharged.Owed currency ∧
      history.dailyCharged.units ≤ history.weeklyCharged.units :=
    ⟨fun h => ⟨h.daily, h.weekly, h.daily_le_weekly⟩, fun h => ⟨h.1, h.2.1, h.2.2⟩⟩
  rw [hvalid, not_and_or, not_and_or, Money.not_owed, Money.not_owed, Int.not_le]
  simp only [or_assoc]

/-- What makes an evaluation fail, read off its input. -/
theorem not_accepts :
    ¬policy.Accepts input ↔
      (input.availableBalance.currency ≠ policy.currency ∨ input.availableBalance.units < 0) ∨
      2 ^ 63 ≤ (input.terms policy).fullFare ∨
      (∃ previous, input.transferHistory.previousPaidFareEventTime = some previous ∧
        input.eventTime.unixMilliseconds < previous.unixMilliseconds) ∨
      ¬input.fareCapHistory.Valid policy.currency := by
  have haccepts : policy.Accepts input ↔ input.availableBalance.Owed policy.currency ∧
      (input.terms policy).fullFare < 2 ^ 63 ∧
      (∀ previous, input.transferHistory.previousPaidFareEventTime = some previous →
        previous.unixMilliseconds ≤ input.eventTime.unixMilliseconds) ∧
      input.fareCapHistory.Valid policy.currency :=
    ⟨fun h => ⟨h.balance, h.fullFare_lt, h.previous, h.history⟩,
      fun h => ⟨h.1, h.2.1, h.2.2.1, h.2.2.2⟩⟩
  rw [haccepts, not_and_or, not_and_or, not_and_or, Money.not_owed, Int.not_lt]
  simp only [not_forall, Int64.not_le, exists_prop]

/-- Arithmetic safety: an evaluation fails for the listed reasons only, the
declared overflow errors of the later stages are never raised, and the unchecked
operations are exact wherever they run. -/
theorem evaluateFare_arithmetic_safe (policy : FarePolicy) :
    (∀ input : FareEvaluationInput,
      (∃ e, evaluateFare policy input = .error e) ↔
        (input.availableBalance.currency ≠ policy.currency ∨ input.availableBalance.units < 0) ∨
        (2 ^ 63 ≤ input.zoneDistance * policy.zoneSurcharge.units ∨
          2 ^ 63 ≤ policy.baseFare.units + input.zoneDistance * policy.zoneSurcharge.units) ∨
        (∃ previous, input.transferHistory.previousPaidFareEventTime = some previous ∧
          input.eventTime.unixMilliseconds < previous.unixMilliseconds) ∨
        (input.fareCapHistory.dailyCharged.currency ≠ policy.currency ∨
          input.fareCapHistory.dailyCharged.units < 0 ∨
          input.fareCapHistory.weeklyCharged.currency ≠ policy.currency ∨
          input.fareCapHistory.weeklyCharged.units < 0 ∨
          input.fareCapHistory.weeklyCharged.units < input.fareCapHistory.dailyCharged.units)) ∧
    (∀ (input : FareEvaluationInput) (e : FareEvaluationError),
      evaluateFare policy input = .error e → e.isUnreachable = false) ∧
    (∀ (history : FareCapHistory) (fare : Money) (application : FareCapApplication),
      applyFareCaps policy history fare = .ok application →
        (history.dailyCharged.minorUnits + application.fareAfterCaps.minorUnits).toInt =
            history.dailyCharged.units + application.fareAfterCaps.units ∧
          (history.weeklyCharged.minorUnits + application.fareAfterCaps.minorUnits).toInt =
            history.weeklyCharged.units + application.fareAfterCaps.units) ∧
    (∀ earlier later : EventTime, earlier.unixMilliseconds ≤ later.unixMilliseconds →
      (later.unixMilliseconds - earlier.unixMilliseconds).toInt =
        later.unixMilliseconds.toInt - earlier.unixMilliseconds.toInt) := by
  refine ⟨fun input => ?_, fun input e => evaluateFare_error,
    fun history fare application => applyFareCaps_sums,
    fun earlier later => Checked.toInt_sub earlier.nonneg⟩
  have hfull : (input.terms policy).fullFare =
    policy.baseFare.units + input.zoneDistance * policy.zoneSurcharge.units := rfl
  have hbase := policy.sound.baseFare.nonneg
  have hoverflow : (2 ^ 63 ≤ input.zoneDistance * policy.zoneSurcharge.units ∨
      2 ^ 63 ≤ policy.baseFare.units + input.zoneDistance * policy.zoneSurcharge.units) ↔
      2 ^ 63 ≤ (input.terms policy).fullFare := by
    rw [hfull]
    omega
  rw [evaluateFare_fails_iff, not_accepts, FareCapHistory.not_valid, hoverflow]

end TransitGuard.Fare
