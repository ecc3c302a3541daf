import TransitGuard.Fare.Rules

/-!
The deterministic evaluation of one fare. It fails before any rule on a balance
the policy does not accept, then on an overflow of the zone fare, then where a
rule fails; after that it approves or rejects.
-/

namespace TransitGuard.Fare

open Fallible

inductive FareCalculationStage
  | zoneSurcharge
  | baseAndZoneFare
  | eligibilityDiscount
  | discountedFare
  deriving DecidableEq, Repr

inductive FareEvaluationError
  | balanceCurrencyMismatch (expected actual : Currency)
  | negativeAvailableBalance (balance : Money)
  | transfer (error : TransferEvaluationError)
  | fareCap (error : FareCapEvaluationError)
  | product (error : ProductEvaluationError)
  | arithmeticOverflow (stage : FareCalculationStage)
  deriving DecidableEq

structure FareEvaluationInput where
  eventTime : EventTime
  originZone : ZoneId
  destinationZone : ZoneId
  eligibility : EligibilityClassification
  transferHistory : TransferHistory
  fareCapHistory : FareCapHistory
  transitProduct : Option TransitProduct
  availableBalance : Money
  deriving DecidableEq

/-- `FareEvaluationOutcome`. -/
inductive FareEvaluationOutcome
  | approved (chargedAmount : Money) (reason : FareApprovalReason)
  | rejected (reason : FareRejectionReason)
  deriving DecidableEq, Repr

structure FareDecisionEvidence where
  baseFare : Money
  additionalZoneCount : Nat
  zoneSurcharge : Money
  fareBeforeDiscount : Money
  eligibility : EligibilityClassification
  discountBasisPoints : DiscountBasisPoints
  eligibilityDiscount : Money
  fareAfterEligibility : Money
  transferEligible : Bool
  transferDiscount : Money
  fareAfterTransfer : Money
  fareCapDiscount : Money
  fareAfterCaps : Money
  dailyCapReached : Bool
  weeklyCapReached : Bool
  productOutcome : ProductApplicationOutcome
  productDiscount : Money
  fareAfterProduct : Money
  finalFare : Money
  deriving DecidableEq

structure FareEvaluation where
  policyId : FarePolicyId
  policyVersion : FarePolicyVersion
  eventTime : EventTime
  outcome : FareEvaluationOutcome
  evidence : FareDecisionEvidence
  deriving DecidableEq

/-- `validate_balance`. -/
def validateBalance (policy : FarePolicy) (balance : Money) : Except FareEvaluationError Unit :=
  validateMoney policy.currency balance
    (.balanceCurrencyMismatch policy.currency balance.currency) (.negativeAvailableBalance balance)

/-- `abs_diff` of the two zones. -/
def additionalZones (originZone destinationZone : ZoneId) : Nat :=
  max originZone.value destinationZone.value - min originZone.value destinationZone.value

/-- `calculate_zone_surcharge`. -/
def calculateZoneSurcharge (surchargePerZone : Money) (additionalZoneCount : Nat) :
    Except FareEvaluationError Money := do
  let minorUnits ← orFail (.arithmeticOverflow .zoneSurcharge)
    (Checked.mul surchargePerZone.minorUnits (.ofNat additionalZoneCount))
  .ok (.fromMinorUnits minorUnits surchargePerZone.currency)

/-- `calculate_percentage`. The product is formed in 128 bits, where it always
fits, and the division rounds toward zero. -/
def calculatePercentage (amount : Money) (rate : DiscountBasisPoints) :
    Except FareEvaluationError Money := do
  let minorUnits ← orFail (.arithmeticOverflow .eligibilityDiscount)
    (Checked.ofInt ((amount.units * rate.value).tdiv 10000))
  .ok (.fromMinorUnits minorUnits amount.currency)

/-- `determine_stored_value_reason`. -/
def determineStoredValueReason (transferDiscount fareCapDiscount : Money) : FareApprovalReason :=
  if fareCapDiscount.minorUnits > 0 then .fareCap
  else if transferDiscount.minorUnits > 0 then .transfer
  else .standardFare

/-- `evaluate_stored_value`. -/
def evaluateStoredValue (availableBalance finalFare : Money)
    (approvalReason : FareApprovalReason) :
    Except FareEvaluationError FareEvaluationOutcome := do
  let comparison ← (availableBalance.checkedCmp finalFare).mapError fun _ =>
    .balanceCurrencyMismatch finalFare.currency availableBalance.currency
  match comparison with
  | .lt => .ok (.rejected .insufficientStoredValue)
  | .eq | .gt => .ok (.approved finalFare approvalReason)

/-- The `match` of `evaluate_fare` on the product: stored value is looked at
only when none was presented. -/
def decideOutcome (policy : FarePolicy) (productOutcome : ProductApplicationOutcome)
    (availableBalance finalFare : Money) (storedValueReason : FareApprovalReason) :
    Except FareEvaluationError FareEvaluationOutcome :=
  match productOutcome with
  | .covered => .ok (.approved (.zero policy.currency) .transitProduct)
  | .invalid _ => .ok (.rejected .productInvalid)
  | .notPresented => evaluateStoredValue availableBalance finalFare storedValueReason

/-- `evaluate_fare`. -/
def evaluateFare (policy : FarePolicy) (input : FareEvaluationInput) :
    Except FareEvaluationError FareEvaluation := do
  validateBalance policy input.availableBalance
  let additionalZoneCount := additionalZones input.originZone input.destinationZone
  let zoneSurcharge ← calculateZoneSurcharge policy.zoneSurcharge additionalZoneCount
  let fareBeforeDiscount ← (policy.baseFare.checkedAdd zoneSurcharge).mapError
    fun _ => .arithmeticOverflow .baseAndZoneFare
  let discountBasisPoints := policy.eligibilityDiscounts.rateFor input.eligibility
  let eligibilityDiscount ← calculatePercentage fareBeforeDiscount discountBasisPoints
  let fareAfterEligibility ← (fareBeforeDiscount.checkedSubtract eligibilityDiscount).mapError
    fun _ => .arithmeticOverflow .discountedFare
  let transferApplication ← (applyTransfer policy input.eventTime input.transferHistory
    fareAfterEligibility).mapError .transfer
  let fareCapApplication ← (applyFareCaps policy input.fareCapHistory
    transferApplication.fareAfterTransfer).mapError .fareCap
  let productApplication ← (applyTransitProduct policy input.transitProduct input.eventTime
    input.originZone input.destinationZone fareCapApplication.fareAfterCaps).mapError .product
  let finalFare := productApplication.fareAfterProduct
  let storedValueReason := determineStoredValueReason transferApplication.discountApplied
    fareCapApplication.discountApplied
  let outcome ← decideOutcome policy productApplication.outcome input.availableBalance finalFare
    storedValueReason
  .ok { policyId := policy.id
        policyVersion := policy.version
        eventTime := input.eventTime
        outcome
        evidence :=
          { baseFare := policy.baseFare
            additionalZoneCount, zoneSurcharge, fareBeforeDiscount
            eligibility := input.eligibility
            discountBasisPoints, eligibilityDiscount, fareAfterEligibility
            transferEligible := transferApplication.eligible
            transferDiscount := transferApplication.discountApplied
            fareAfterTransfer := transferApplication.fareAfterTransfer
            fareCapDiscount := fareCapApplication.discountApplied
            fareAfterCaps := fareCapApplication.fareAfterCaps
            dailyCapReached := fareCapApplication.dailyCapReached
            weeklyCapReached := fareCapApplication.weeklyCapReached
            productOutcome := productApplication.outcome
            productDiscount := productApplication.discountApplied
            fareAfterProduct := productApplication.fareAfterProduct
            finalFare } }

/-! ## What an evaluation does -/

variable {policy : FarePolicy} {input : FareEvaluationInput} {evaluation : FareEvaluation}

/-- The stages up to the transfer rule. They read neither the charges so far
nor the balance. -/
def fareBeforeCaps (policy : FarePolicy) (input : FareEvaluationInput) :
    Except FareEvaluationError TransferApplication := do
  let zoneSurcharge ← calculateZoneSurcharge policy.zoneSurcharge
    (additionalZones input.originZone input.destinationZone)
  let fareBeforeDiscount ← (policy.baseFare.checkedAdd zoneSurcharge).mapError
    fun _ => .arithmeticOverflow .baseAndZoneFare
  let eligibilityDiscount ← calculatePercentage fareBeforeDiscount
    (policy.eligibilityDiscounts.rateFor input.eligibility)
  let fareAfterEligibility ← (fareBeforeDiscount.checkedSubtract eligibilityDiscount).mapError
    fun _ => .arithmeticOverflow .discountedFare
  (applyTransfer policy input.eventTime input.transferHistory fareAfterEligibility).mapError
    .transfer

/-- Stored value pays the fare it covers. -/
theorem evaluateStoredValue_eq {currency : Currency} {balance fare : Money}
    (hbalance : balance.Owed currency) (hfare : fare.Owed currency)
    (approvalReason : FareApprovalReason) :
    evaluateStoredValue balance fare approvalReason =
      .ok (if fare.units ≤ balance.units then .approved fare approvalReason
        else .rejected .insufficientStoredValue) := by
  obtain ⟨ordering, hordering, hlt, -⟩ := hbalance.checkedCmp hfare
  simp only [evaluateStoredValue, hordering, Except.mapError, ok_bind]
  cases ordering with
  | lt =>
    have hshort := hlt.mp rfl
    rw [if_neg (by omega)]
  | eq | gt =>
    have henough : ¬balance.units < fare.units := fun hshort => nomatch hlt.mpr hshort
    rw [if_pos (by omega)]

/-- The decision on a fare of the policy. -/
def fareOutcome (policy : FarePolicy) (productOutcome : ProductApplicationOutcome)
    (availableBalance finalFare : Money) (storedValueReason : FareApprovalReason) :
    FareEvaluationOutcome :=
  match productOutcome with
  | .covered => .approved (.zero policy.currency) .transitProduct
  | .invalid _ => .rejected .productInvalid
  | .notPresented =>
    if finalFare.units ≤ availableBalance.units then .approved finalFare storedValueReason
    else .rejected .insufficientStoredValue

/-- A decision is always reached. -/
theorem decideOutcome_eq {balance fare : Money} (hbalance : balance.Owed policy.currency)
    (hfare : fare.Owed policy.currency) (productOutcome : ProductApplicationOutcome)
    (storedValueReason : FareApprovalReason) :
    decideOutcome policy productOutcome balance fare storedValueReason =
      .ok (fareOutcome policy productOutcome balance fare storedValueReason) := by
  cases productOutcome with
  | covered | invalid => rfl
  | notPresented => exact evaluateStoredValue_eq hbalance hfare storedValueReason

/-- What a decision charges is covered by the balance and part of the fare. -/
theorem fareOutcome_charged {balance fare amount : Money} (hbalance : balance.Owed policy.currency)
    (hfare : fare.Owed policy.currency) {productOutcome : ProductApplicationOutcome}
    {storedValueReason reason : FareApprovalReason}
    (h : fareOutcome policy productOutcome balance fare storedValueReason =
      .approved amount reason) :
    amount.Owed policy.currency ∧ amount.units ≤ balance.units ∧ amount.units ≤ fare.units := by
  cases productOutcome with
  | covered =>
    cases h
    have hzero := Money.units_zero policy.currency
    exact ⟨.zero _, hzero.trans_le hbalance.nonneg, hzero.trans_le hfare.nonneg⟩
  | invalid => cases h
  | notPresented =>
    simp only [fareOutcome] at h
    split at h
    · next hle =>
      cases h
      exact ⟨hfare, hle, le_refl _⟩
    · cases h

/-- With a balance and charges the policy accepts, an evaluation fails only in
the stages that read neither. -/
theorem evaluateFare_eq_error_iff (hbalance : input.availableBalance.Owed policy.currency)
    (hhistory : input.fareCapHistory.Valid policy.currency) {e : FareEvaluationError} :
    evaluateFare policy input = .error e ↔ fareBeforeCaps policy input = .error e := by
  simp only [evaluateFare, fareBeforeCaps, validateBalance, validateMoney_of_owed hbalance,
    ok_bind]
  refine bind_error_congr fun zoneSurcharge _ => bind_error_congr fun fareBeforeDiscount _ => ?_
  refine bind_error_congr fun eligibilityDiscount _ => bind_error_congr fun fare _ => ?_
  cases htransfer : applyTransfer policy input.eventTime input.transferHistory fare with
  | error e' => simp [bind_eq_error, Except.mapError]
  | ok transfer =>
  -- from here on nothing fails
  obtain ⟨caps, hcaps, hcapsOwed, -⟩ := applyFareCaps_spec hhistory (applyTransfer_ok htransfer)
  obtain ⟨product, hproduct, hproductOwed, -⟩ := applyTransitProduct_spec hcapsOwed
    input.transitProduct input.eventTime input.originZone input.destinationZone
  simp only [hcaps, hproduct, decideOutcome_eq hbalance hproductOwed, ok_bind, Except.mapError,
    reduceCtorEq]

/-- What an approved evaluation charges: at most the balance, and at most what
each cap has left. -/
theorem evaluateFare_approved (h : evaluateFare policy input = .ok evaluation) {amount : Money}
    {reason : FareApprovalReason} (happroved : evaluation.outcome = .approved amount reason) :
    amount.Owed policy.currency ∧ amount.units ≤ input.availableBalance.units ∧
      amount.units ≤ max 0 (policy.dailyCap.units - input.fareCapHistory.dailyCharged.units) ∧
      amount.units ≤ max 0 (policy.weeklyCap.units - input.fareCapHistory.weeklyCharged.units) := by
  simp only [evaluateFare, bind_eq_ok, validateBalance, validateMoney_ok, mapError_eq_ok] at h
  obtain ⟨-, hbalance, zone, -, before, -, discount, -, fare, -, transfer, htransfer, caps, hcaps,
    product, hproduct, outcome, houtcome, h⟩ := h
  cases h
  obtain ⟨hhistory, hfare⟩ := applyFareCaps_ok hcaps
  obtain ⟨caps', hcaps', hcapsOwed, hcapsUnits, -⟩ := applyFareCaps_spec hhistory hfare
  rw [hcaps] at hcaps'
  cases hcaps'
  obtain ⟨product', hproduct', hproductOwed, -, hbenefit, hproductUnits⟩ :=
    applyTransitProduct_spec hcapsOwed input.transitProduct input.eventTime input.originZone
      input.destinationZone
  rw [hproduct] at hproduct'
  cases hproduct'
  have hbenefitNonneg := (productBenefit_spec hcapsOwed product.outcome).1.nonneg
  rw [← hbenefit] at hbenefitNonneg
  rw [decideOutcome_eq hbalance hproductOwed, Except.ok.injEq] at houtcome
  obtain ⟨howed, hle, hlefare⟩ :=
    fareOutcome_charged hbalance hproductOwed (houtcome.trans happroved)
  exact ⟨howed, hle, by omega, by omega⟩

end TransitGuard.Fare
