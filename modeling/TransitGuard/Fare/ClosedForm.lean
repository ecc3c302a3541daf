import TransitGuard.Library.Discount
import TransitGuard.Fare.Journeys

/-!
What an evaluation amounts to. The stages are computed here in exact integers
from the terms a policy and an input give; the checked arithmetic of
`evaluateFare` computes the same amounts whenever it succeeds, and it succeeds
on every input the policy accepts.
-/

namespace TransitGuard.Fare

open Fallible

/-! ## Terms -/

/-- The integers a fare is computed from. The transfer discount is zero outside
the transfer window. -/
structure FareTerms where
  baseFare : Int
  zoneSurcharge : Int
  zones : Int
  rate : Int
  transferDiscount : Int
  dailyRemaining : Int
  weeklyRemaining : Int

namespace FareTerms

def fullFare (t : FareTerms) : Int := t.baseFare + t.zones * t.zoneSurcharge

def afterEligibility (t : FareTerms) : Int := Discount.rest t.fullFare t.rate 10000

def afterTransfer (t : FareTerms) : Int :=
  t.afterEligibility - min t.transferDiscount t.afterEligibility

def afterCaps (t : FareTerms) : Int :=
  min (min t.afterTransfer t.dailyRemaining) t.weeklyRemaining

/-- The terms of a policy with nothing negative. -/
structure Sound (t : FareTerms) : Prop where
  baseFare : 0 ≤ t.baseFare
  zoneSurcharge : 0 ≤ t.zoneSurcharge
  zones : 0 ≤ t.zones
  rate : 0 ≤ t.rate
  rate_le : t.rate ≤ 10000
  transferDiscount : 0 ≤ t.transferDiscount
  dailyRemaining : 0 ≤ t.dailyRemaining
  weeklyRemaining : 0 ≤ t.weeklyRemaining

variable {t t' : FareTerms}

theorem Sound.fullFare (h : t.Sound) : 0 ≤ t.fullFare := by
  have hbase := h.baseFare
  have hsurcharge := Int.mul_nonneg h.zones h.zoneSurcharge
  unfold FareTerms.fullFare
  omega

theorem Sound.afterEligibility (h : t.Sound) :
    0 ≤ t.afterEligibility ∧ t.afterEligibility ≤ t.fullFare :=
  ⟨Discount.rest_nonneg h.fullFare h.rate_le (by decide),
    Discount.rest_le h.fullFare h.rate (by decide)⟩

theorem Sound.afterTransfer (h : t.Sound) :
    0 ≤ t.afterTransfer ∧ t.afterTransfer ≤ t.afterEligibility := by
  have hbefore := h.afterEligibility.1
  have hdiscount := h.transferDiscount
  unfold FareTerms.afterTransfer
  omega

theorem Sound.afterCaps (h : t.Sound) : 0 ≤ t.afterCaps ∧ t.afterCaps ≤ t.afterTransfer := by
  have hbefore := h.afterTransfer.1
  have hdaily := h.dailyRemaining
  have hweekly := h.weeklyRemaining
  unfold FareTerms.afterCaps
  omega

/-- Terms that are better for the rider: less to start from, more taken off. -/
structure Le (t t' : FareTerms) : Prop where
  fullFare : t.fullFare ≤ t'.fullFare
  rate : t'.rate ≤ t.rate
  transferDiscount : t'.transferDiscount ≤ t.transferDiscount
  dailyRemaining : t.dailyRemaining ≤ t'.dailyRemaining
  weeklyRemaining : t.weeklyRemaining ≤ t'.weeklyRemaining

/-- Better terms never make the fare dearer. -/
theorem Le.afterCaps (hle : t.Le t') (h : t.Sound) (h' : t'.Sound) :
    t.afterCaps ≤ t'.afterCaps := by
  have heligibility : t.afterEligibility ≤ t'.afterEligibility :=
    calc Discount.rest t.fullFare t.rate 10000
        ≤ Discount.rest t.fullFare t'.rate 10000 :=
          Discount.rest_antitone h.fullFare hle.rate (by decide)
      _ ≤ Discount.rest t'.fullFare t'.rate 10000 :=
          Discount.rest_mono hle.fullFare h'.rate_le (by decide)
  have htransfer : t.afterTransfer ≤ t'.afterTransfer := by
    have hdiscount := hle.transferDiscount
    unfold FareTerms.afterTransfer
    omega
  exact min_le_min (min_le_min htransfer hle.dailyRemaining) hle.weeklyRemaining

end FareTerms

/-! ## The terms of an input -/

/-- A previous paid fare lies within the transfer window, bounds included. -/
def FareEvaluationInput.withinWindow (input : FareEvaluationInput) (policy : FarePolicy) : Bool :=
  input.transferHistory.previousPaidFareEventTime.any fun previous =>
    input.eventTime.unixMilliseconds.toInt - previous.unixMilliseconds.toInt ≤
      policy.transferWindow.milliseconds

/-- The distance of the journey. -/
def FareEvaluationInput.zoneDistance (input : FareEvaluationInput) : Nat :=
  ((input.originZone.value : Int) - input.destinationZone.value).natAbs

def FareEvaluationInput.terms (input : FareEvaluationInput) (policy : FarePolicy) :
    FareTerms where
  baseFare := policy.baseFare.units
  zoneSurcharge := policy.zoneSurcharge.units
  zones := input.zoneDistance
  rate := (policy.eligibilityDiscounts.rateFor input.eligibility).value
  transferDiscount := if input.withinWindow policy then policy.transferDiscount.units else 0
  dailyRemaining := max 0 (policy.dailyCap.units - input.fareCapHistory.dailyCharged.units)
  weeklyRemaining := max 0 (policy.weeklyCap.units - input.fareCapHistory.weeklyCharged.units)

/-- What an evaluation needs of its input. -/
structure FarePolicy.Accepts (policy : FarePolicy) (input : FareEvaluationInput) : Prop where
  balance : input.availableBalance.Owed policy.currency
  fullFare_lt : (input.terms policy).fullFare < 2 ^ 63
  previous : ∀ previous, input.transferHistory.previousPaidFareEventTime = some previous →
    previous.unixMilliseconds ≤ input.eventTime.unixMilliseconds
  history : input.fareCapHistory.Valid policy.currency

variable {policy : FarePolicy} {input : FareEvaluationInput} {evaluation : FareEvaluation}

theorem FareEvaluationInput.terms_sound (input : FareEvaluationInput) (policy : FarePolicy) :
    (input.terms policy).Sound where
  baseFare := policy.sound.baseFare.nonneg
  zoneSurcharge := policy.sound.zoneSurcharge.nonneg
  zones := Int.natCast_nonneg _
  rate := Int.natCast_nonneg _
  rate_le := Int.ofNat_le.mpr (policy.eligibilityDiscounts.rateFor input.eligibility).le
  transferDiscount := by
    show 0 ≤ if input.withinWindow policy then policy.transferDiscount.units else 0
    split
    · exact policy.sound.transferDiscount.nonneg
    · exact le_refl 0
  dailyRemaining := le_max_left _ _
  weeklyRemaining := le_max_left _ _

theorem additionalZones_eq (input : FareEvaluationInput) :
    additionalZones input.originZone input.destinationZone = input.zoneDistance := by
  unfold additionalZones FareEvaluationInput.zoneDistance
  omega

theorem zoneDistance_lt (input : FareEvaluationInput) : input.zoneDistance < 2 ^ 16 := by
  have horigin := input.originZone.lt
  have hdestination := input.destinationZone.lt
  unfold FareEvaluationInput.zoneDistance
  omega

/-! ## The stages -/

theorem calculateZoneSurcharge_ok {surcharge total : Money} {count : Nat}
    (hcount : count < 2 ^ 16) :
    calculateZoneSurcharge surcharge count = .ok total ↔
      total.currency = surcharge.currency ∧ total.units = count * surcharge.units := by
  have hexact : (Int64.ofNat count).toInt = count := Int64.toInt_ofNat_of_lt (by omega)
  simp only [calculateZoneSurcharge, bind_eq_ok, orFail_eq_ok, Checked.mul, Checked.ofInt_eq_some,
    hexact, Except.ok.injEq]
  constructor
  · rintro ⟨units, hunits, rfl⟩
    exact ⟨rfl, hunits.trans (Int.mul_comm _ _)⟩
  · rintro ⟨hcurrency, hunits⟩
    exact ⟨total.minorUnits, hunits.trans (Int.mul_comm _ _), Money.ext rfl hcurrency.symm⟩

/-- The share of a rate always fits. -/
theorem calculatePercentage_spec {currency : Currency} {amount : Money}
    (hamount : amount.Owed currency) (rate : DiscountBasisPoints) :
    ∃ share, calculatePercentage amount rate = .ok share ∧ share.Owed currency ∧
      share.units = Discount.part amount.units rate.value 10000 := by
  have hrate : (rate.value : Int) ≤ 10000 := Int.ofNat_le.mpr rate.le
  have hexact : (amount.units * rate.value).tdiv 10000 =
      Discount.part amount.units rate.value 10000 :=
    Int.tdiv_eq_ediv_of_nonneg (Int.mul_nonneg hamount.nonneg (Int.natCast_nonneg _))
  have hnonneg : 0 ≤ Discount.part amount.units rate.value 10000 :=
    Discount.part_nonneg hamount.nonneg (Int.natCast_nonneg _) (by decide)
  obtain ⟨units, hunits, hvalue⟩ : ∃ units,
      Checked.ofInt (Discount.part amount.units rate.value 10000) = some units ∧
        units.toInt = Discount.part amount.units rate.value 10000 :=
    Checked.exists_ofInt (a := 0) (by rwa [Int64.toInt_zero])
      (Discount.part_le hamount.nonneg hrate (by decide))
  refine ⟨.fromMinorUnits units amount.currency, ?_, ⟨hamount.currency_eq, ?_⟩, hvalue⟩
  · rw [calculatePercentage, hexact, hunits]
    rfl
  · exact hnonneg.trans_eq hvalue.symm

theorem transferIsEligible_ok {current : EventTime} {history : TransferHistory} {eligible : Bool} :
    transferIsEligible policy current history = .ok eligible ↔
      (∀ previous, history.previousPaidFareEventTime = some previous →
        previous.unixMilliseconds ≤ current.unixMilliseconds) ∧
      eligible = history.previousPaidFareEventTime.any fun previous =>
        current.unixMilliseconds.toInt - previous.unixMilliseconds.toInt ≤
          policy.transferWindow.milliseconds := by
  unfold transferIsEligible
  cases history.previousPaidFareEventTime with
  | none => simp [eq_comm]
  | some previous =>
    simp only [ite_error_eq_ok, gt_iff_lt, Int64.not_lt, Option.some.injEq, forall_eq',
      Option.any_some, Except.ok.injEq]
    refine and_congr_right fun hle => ?_
    have hexact := Checked.unsignedAbs_sub previous.nonneg hle
    rw [eq_comm]
    simp only [← hexact, Int.ofNat_le]

theorem transferBenefit_units {fare : Money} (eligible : Bool) :
    (transferBenefit policy eligible fare).units =
      if eligible then min policy.transferDiscount.units fare.units else 0 := by
  cases eligible with
  | true => exact Checked.toInt_min _ _
  | false => exact Money.units_zero _

/-! ## The whole evaluation -/

/-- What the stages of an evaluation hold. -/
structure FareEvaluation.Follows (policy : FarePolicy) (input : FareEvaluationInput)
    (evaluation : FareEvaluation) : Prop where
  baseFare : evaluation.evidence.baseFare = policy.baseFare
  zoneSurcharge : evaluation.evidence.zoneSurcharge.units =
    input.zoneDistance * policy.zoneSurcharge.units
  fullFare : evaluation.evidence.fareBeforeDiscount.units = (input.terms policy).fullFare
  eligibilityDiscount : evaluation.evidence.eligibilityDiscount.units =
    (input.terms policy).fullFare - (input.terms policy).afterEligibility
  afterEligibility :
    evaluation.evidence.fareAfterEligibility.units = (input.terms policy).afterEligibility
  transferDiscount : evaluation.evidence.transferDiscount.units =
    (input.terms policy).afterEligibility - (input.terms policy).afterTransfer
  afterTransfer : evaluation.evidence.fareAfterTransfer.units = (input.terms policy).afterTransfer
  fareCapDiscount : evaluation.evidence.fareCapDiscount.units =
    (input.terms policy).afterTransfer - (input.terms policy).afterCaps
  afterCaps : evaluation.evidence.fareAfterCaps.units = (input.terms policy).afterCaps
  afterCaps_owed : evaluation.evidence.fareAfterCaps.Owed policy.currency
  productDiscount : evaluation.evidence.productDiscount =
    productBenefit policy (productOutcome input.transitProduct input.eventTime input.originZone
      input.destinationZone) evaluation.evidence.fareAfterCaps
  finalFare : evaluation.evidence.finalFare.units =
    (input.terms policy).afterCaps - evaluation.evidence.productDiscount.units
  finalFare_owed : evaluation.evidence.finalFare.Owed policy.currency
  outcome : evaluation.outcome = fareOutcome policy
    (productOutcome input.transitProduct input.eventTime input.originZone input.destinationZone)
    input.availableBalance evaluation.evidence.finalFare
    (determineStoredValueReason evaluation.evidence.transferDiscount
      evaluation.evidence.fareCapDiscount)

theorem afterTransfer_terms (input : FareEvaluationInput) :
    (input.terms policy).afterTransfer =
      if input.withinWindow policy then (input.terms policy).afterEligibility -
        min policy.transferDiscount.units (input.terms policy).afterEligibility
      else (input.terms policy).afterEligibility := by
  have hnonneg := (input.terms_sound policy).afterEligibility.1
  rw [FareTerms.afterTransfer]
  show _ - min (if input.withinWindow policy then policy.transferDiscount.units else 0) _ = _
  split
  · rfl
  · rw [min_eq_left hnonneg, Int.sub_zero]

theorem afterTransfer_eq (input : FareEvaluationInput) {fare : Money}
    (hfare : fare.units = (input.terms policy).afterEligibility) :
    fare.units - (transferBenefit policy (input.withinWindow policy) fare).units =
      (input.terms policy).afterTransfer := by
  rw [transferBenefit_units, hfare, afterTransfer_terms]
  split
  · rfl
  · rw [Int.sub_zero]

/-- An input the policy accepts is evaluated, and every stage is exact. -/
theorem evaluateFare_of_accepts (h : policy.Accepts input) :
    ∃ evaluation, evaluateFare policy input = .ok evaluation ∧
      evaluation.Follows policy input := by
  have hsound := input.terms_sound policy
  have hbaseNonneg := policy.sound.baseFare.nonneg
  have hsurchargeNonneg : 0 ≤ input.zoneDistance * policy.zoneSurcharge.units :=
    Int.mul_nonneg (Int.natCast_nonneg _) policy.sound.zoneSurcharge.nonneg
  have hfullFare : (input.terms policy).fullFare =
    policy.baseFare.units + input.zoneDistance * policy.zoneSurcharge.units := rfl
  have hfullFareLt := h.fullFare_lt
  -- base and zones
  obtain ⟨surcharge, hsurchargeOwed, hsurchargeUnits⟩ :=
    Money.exists_owed policy.currency hsurchargeNonneg (by omega)
  have hsurcharge : calculateZoneSurcharge policy.zoneSurcharge input.zoneDistance =
      .ok surcharge := (calculateZoneSurcharge_ok (zoneDistance_lt input)).mpr
    ⟨hsurchargeOwed.currency_eq.trans policy.sound.zoneSurcharge.currency_eq.symm, hsurchargeUnits⟩
  obtain ⟨full, hfullOwed, hfullUnits⟩ :=
    Money.exists_owed policy.currency hsound.fullFare h.fullFare_lt
  have hfull : policy.baseFare.checkedAdd surcharge = .ok full := Money.checkedAdd_ok.mpr
    ⟨policy.sound.baseFare.currency_eq.trans hsurchargeOwed.currency_eq.symm,
      hfullOwed.currency_eq.trans policy.sound.baseFare.currency_eq.symm,
      by rw [hfullUnits, hfullFare, hsurchargeUnits]⟩
  -- eligibility
  obtain ⟨share, hshare, hshareOwed, hshareUnits⟩ :=
    calculatePercentage_spec hfullOwed (policy.eligibilityDiscounts.rateFor input.eligibility)
  have hafterEligibility : full.units - share.units = (input.terms policy).afterEligibility := by
    rw [hshareUnits, hfullUnits]
    rfl
  have heligibilityBounds := hsound.afterEligibility
  obtain ⟨discounted, hdiscounted, hdiscountedOwed, hdiscountedUnits⟩ :=
    hfullOwed.checkedSubtract hshareOwed (by omega)
  -- transfer
  have heligible : transferIsEligible policy input.eventTime input.transferHistory =
      .ok (input.withinWindow policy) := transferIsEligible_ok.mpr ⟨h.previous, rfl⟩
  obtain ⟨transferred, htransferredOwed, htransferredUnits, htransferred⟩ :=
    applyTransfer_of_eligible hdiscountedOwed heligible
  have hafterTransfer := afterTransfer_eq input (hdiscountedUnits.trans hafterEligibility)
  -- caps and product
  obtain ⟨caps, hcaps, hcapsOwed, hcapsUnits, hcapDiscountOwed, hcapDiscountUnits⟩ :=
    applyFareCaps_spec h.history htransferredOwed
  have hafterCaps : caps.fareAfterCaps.units = (input.terms policy).afterCaps := by
    rw [hcapsUnits, htransferredUnits, hafterTransfer]
    rfl
  obtain ⟨product, hproduct, hproductOwed, hproductOutcome, hproductDiscount, hproductUnits⟩ :=
    applyTransitProduct_spec hcapsOwed input.transitProduct input.eventTime input.originZone
      input.destinationZone
  have hshareLeft : share.units =
      (input.terms policy).fullFare - (input.terms policy).afterEligibility := by omega
  have hbenefit : (transferBenefit policy (input.withinWindow policy) discounted).units =
      (input.terms policy).afterEligibility - (input.terms policy).afterTransfer := by omega
  have hcapDiscount : caps.discountApplied.units =
      (input.terms policy).afterTransfer - (input.terms policy).afterCaps := by
    rw [hcapDiscountUnits, htransferredUnits, hafterTransfer, hafterCaps]
  simp only [evaluateFare, validateBalance, validateMoney_of_owed h.balance, ok_bind,
    additionalZones_eq, hsurcharge, hfull, hshare, hdiscounted, htransferred, hcaps, hproduct,
    decideOutcome_eq h.balance hproductOwed, Except.mapError, Except.ok.injEq, exists_eq_left']
  rw [hproductOutcome] at hproductDiscount ⊢
  exact {
    baseFare := rfl
    zoneSurcharge := hsurchargeUnits
    fullFare := hfullUnits
    eligibilityDiscount := hshareLeft
    afterEligibility := hdiscountedUnits.trans hafterEligibility
    transferDiscount := hbenefit
    afterTransfer := htransferredUnits.trans hafterTransfer
    fareCapDiscount := hcapDiscount
    afterCaps := hafterCaps
    afterCaps_owed := hcapsOwed
    productDiscount := hproductDiscount
    finalFare := by rw [hproductUnits, hafterCaps]
    finalFare_owed := hproductOwed
    outcome := rfl }

/-- Only inputs the policy accepts are evaluated. -/
theorem accepts_of_ok (h : evaluateFare policy input = .ok evaluation) : policy.Accepts input := by
  simp only [evaluateFare, bind_eq_ok, validateBalance, validateMoney_ok, mapError_eq_ok,
    additionalZones_eq, calculateZoneSurcharge_ok (zoneDistance_lt input), Money.checkedAdd_ok] at h
  obtain ⟨-, hbalance, surcharge, ⟨-, hsurcharge⟩, full, ⟨-, -, hfull⟩, share, -, fare, -, transfer,
    htransfer, caps, hcaps, -⟩ := h
  simp only [applyTransfer, bind_eq_ok, transferIsEligible_ok] at htransfer
  obtain ⟨-, -, eligible, ⟨hprevious, -⟩, -⟩ := htransfer
  refine ⟨hbalance, ?_, hprevious, (applyFareCaps_ok hcaps).1⟩
  calc (input.terms policy).fullFare = full.units := by rw [hfull, hsurcharge]; rfl
    _ < 2 ^ 63 := full.units_lt

theorem follows_of_ok (h : evaluateFare policy input = .ok evaluation) :
    evaluation.Follows policy input := by
  obtain ⟨evaluation', heval, hfollows⟩ := evaluateFare_of_accepts (accepts_of_ok h)
  rw [h] at heval
  cases heval
  exact hfollows

/-- A product covers a journey within its interval and its zones. -/
def TransitProduct.coversJourney (product : TransitProduct) (input : FareEvaluationInput) : Prop :=
  product.validFrom.unixMilliseconds ≤ input.eventTime.unixMilliseconds ∧
    input.eventTime.unixMilliseconds ≤ product.validUntil.unixMilliseconds ∧
    product.coverage.covers input.originZone = true ∧
    product.coverage.covers input.destinationZone = true

theorem determineOutcome_covered {product : TransitProduct}
    (h : product.coversJourney input) :
    determineOutcome product input.eventTime input.originZone input.destinationZone =
      .covered := by
  obtain ⟨hfrom, huntil, horigin, hdestination⟩ := h
  rw [determineOutcome, if_neg (Int64.not_lt.mpr hfrom),
    if_neg (Int64.not_lt.mpr huntil : ¬input.eventTime.unixMilliseconds > _), horigin, hdestination]
  rfl

theorem determineOutcome_invalid {product : TransitProduct}
    (h : ¬product.coversJourney input) :
    ∃ reason, determineOutcome product input.eventTime input.originZone input.destinationZone =
      .invalid reason := by
  unfold determineOutcome
  split
  · exact ⟨_, rfl⟩
  · next hfrom =>
    split
    · exact ⟨_, rfl⟩
    · next huntil =>
      split
      · exact ⟨_, rfl⟩
      · next hzones =>
        simp only [Bool.or_eq_true, Bool.not_eq_true', not_or, Bool.not_eq_false] at hzones
        exact absurd ⟨Int64.not_lt.mp hfrom, Int64.not_lt.mp huntil, hzones⟩ h

theorem FareEvaluation.Follows.outcome_product (h : evaluation.Follows policy input)
    {product : TransitProduct} (hproduct : input.transitProduct = some product) :
    (product.coversJourney input →
      evaluation.outcome = .approved (.zero policy.currency) .transitProduct) ∧
    (¬product.coversJourney input → evaluation.outcome = .rejected .productInvalid) := by
  rw [h.outcome, hproduct, productOutcome]
  constructor
  · intro hcovers
    rw [determineOutcome_covered hcovers]
    rfl
  · intro hnot
    obtain ⟨reason, hreason⟩ := determineOutcome_invalid hnot
    rw [hreason]
    rfl

/-- Without a product the fare after the caps is the fare. -/
theorem FareEvaluation.Follows.finalFare_of_none (h : evaluation.Follows policy input)
    (hproduct : input.transitProduct = none) :
    evaluation.evidence.finalFare.units = (input.terms policy).afterCaps := by
  have hdiscount := h.productDiscount
  rw [hproduct] at hdiscount
  rw [h.finalFare, hdiscount]
  show _ - (Money.zero policy.currency).units = _
  rw [Money.units_zero, Int.sub_zero]

theorem FareEvaluation.Follows.outcome_storedValue (h : evaluation.Follows policy input)
    (hproduct : input.transitProduct = none) :
    evaluation.outcome =
      if (input.terms policy).afterCaps ≤ input.availableBalance.units then
        .approved evaluation.evidence.finalFare
          (if 0 < evaluation.evidence.fareCapDiscount.units then .fareCap
            else if 0 < evaluation.evidence.transferDiscount.units then .transfer
            else .standardFare)
      else .rejected .insufficientStoredValue := by
  rw [h.outcome, hproduct, ← h.finalFare_of_none hproduct]
  simp only [productOutcome, fareOutcome, determineStoredValueReason, gt_iff_lt,
    Int64.lt_iff_toInt_lt, Int64.toInt_zero]

/-- The final fare takes at most the product's benefit off. -/
theorem FareEvaluation.Follows.finalFare_bounds (h : evaluation.Follows policy input) :
    0 ≤ evaluation.evidence.finalFare.units ∧
      evaluation.evidence.finalFare.units ≤ (input.terms policy).afterCaps := by
  refine ⟨h.finalFare_owed.nonneg, ?_⟩
  have hbenefit := (productBenefit_spec h.afterCaps_owed (productOutcome input.transitProduct
    input.eventTime input.originZone input.destinationZone)).1.nonneg
  rw [← h.productDiscount] at hbenefit
  rw [h.finalFare]
  omega

/-- What the rider does not pay is in some discount. -/
theorem FareEvaluation.Follows.conserved (h : evaluation.Follows policy input) :
    evaluation.evidence.baseFare.units + evaluation.evidence.zoneSurcharge.units =
      evaluation.evidence.eligibilityDiscount.units + evaluation.evidence.transferDiscount.units +
        evaluation.evidence.fareCapDiscount.units + evaluation.evidence.productDiscount.units +
        evaluation.evidence.finalFare.units := by
  have hfull : (input.terms policy).fullFare =
    policy.baseFare.units + input.zoneDistance * policy.zoneSurcharge.units := rfl
  rw [h.baseFare, h.zoneSurcharge, ← hfull, h.eligibilityDiscount, h.transferDiscount,
    h.fareCapDiscount, h.finalFare]
  omega

/-- `evaluate_fare` in closed form. -/
theorem evaluateFare_closedForm (h : evaluateFare policy input = .ok evaluation) :
    let distance := ((input.originZone.value : Int) - input.destinationZone.value).natAbs
    let rate := (policy.eligibilityDiscounts.rateFor input.eligibility).value
    let full := policy.baseFare.units + distance * policy.zoneSurcharge.units
    let discounted := full - full * rate / 10000
    let transferred :=
      if input.withinWindow policy then discounted - min policy.transferDiscount.units discounted
      else discounted
    let capped := min transferred
      (min (max 0 (policy.dailyCap.units - input.fareCapHistory.dailyCharged.units))
        (max 0 (policy.weeklyCap.units - input.fareCapHistory.weeklyCharged.units)))
    let evidence := evaluation.evidence
    (evidence.fareBeforeDiscount.units = full ∧
      evidence.fareAfterEligibility.units = discounted ∧
      evidence.fareAfterTransfer.units = transferred ∧
      evidence.fareAfterCaps.units = capped) ∧
    (0 ≤ evidence.finalFare.units ∧ evidence.finalFare.units ≤ capped ∧ capped ≤ transferred ∧
      transferred ≤ discounted ∧ discounted ≤ full) ∧
    evidence.baseFare.units + evidence.zoneSurcharge.units =
      evidence.eligibilityDiscount.units + evidence.transferDiscount.units +
        evidence.fareCapDiscount.units + evidence.productDiscount.units +
        evidence.finalFare.units ∧
    (∀ product, input.transitProduct = some product →
      (product.coversJourney input →
        evaluation.outcome = .approved (.zero policy.currency) .transitProduct) ∧
      (¬product.coversJourney input → evaluation.outcome = .rejected .productInvalid)) ∧
    (input.transitProduct = none →
      evidence.finalFare.currency = policy.currency ∧ evidence.finalFare.units = capped ∧
      evaluation.outcome =
        if capped ≤ input.availableBalance.units then
          .approved evidence.finalFare
            (if 0 < evidence.fareCapDiscount.units then .fareCap
              else if 0 < evidence.transferDiscount.units then .transfer
              else .standardFare)
        else .rejected .insufficientStoredValue) := by
  have hfollows := follows_of_ok h
  have hsound := input.terms_sound policy
  intro distance rate full discounted transferred capped evidence
  have hfull : (input.terms policy).fullFare = full := rfl
  have hdiscounted : (input.terms policy).afterEligibility = discounted := rfl
  have htransferred : (input.terms policy).afterTransfer = transferred := afterTransfer_terms input
  have hcapped : (input.terms policy).afterCaps = capped := by
    rw [FareTerms.afterCaps, min_assoc, htransferred]
    rfl
  rw [← hfull, ← hdiscounted, ← htransferred, ← hcapped]
  obtain ⟨hfinal, hfinalLe⟩ := hfollows.finalFare_bounds
  refine ⟨⟨hfollows.fullFare, hfollows.afterEligibility, hfollows.afterTransfer,
    hfollows.afterCaps⟩, ⟨hfinal, hfinalLe, hsound.afterCaps.2, hsound.afterTransfer.2,
    hsound.afterEligibility.2⟩, hfollows.conserved, fun product => hfollows.outcome_product, ?_⟩
  intro hnone
  exact ⟨hfollows.finalFare_owed.currency_eq, hfollows.finalFare_of_none hnone,
    hfollows.outcome_storedValue hnone⟩

/-- A journey of two additional zones, within the transfer window. -/
def sampleTransfer : FareEvaluationInput :=
  { sampleJourney.input (.opening samplePolicy (.fromMinorUnits 1000 .usd)) with
    eligibility := .youth
    transferHistory := ⟨some ⟨500, by decide⟩⟩ }

theorem evaluateFare_closedForm_sample :
    ∃ evaluation, evaluateFare samplePolicy sampleTransfer = .ok evaluation ∧
      evaluation.evidence.fareBeforeDiscount.units = 400 ∧
      evaluation.evidence.fareAfterEligibility.units = 200 ∧
      evaluation.evidence.fareAfterTransfer.units = 0 ∧
      evaluation.outcome = .approved evaluation.evidence.finalFare
        (if 0 < evaluation.evidence.fareCapDiscount.units then .fareCap
          else if 0 < evaluation.evidence.transferDiscount.units then .transfer
          else .standardFare) := by
  obtain ⟨evaluation, heval⟩ : ∃ evaluation, evaluateFare samplePolicy sampleTransfer =
      .ok evaluation := isOk_iff.mp (by decide)
  obtain ⟨⟨hfull, hdiscounted, htransferred, -⟩, -, -, -, hstored⟩ := evaluateFare_closedForm heval
  obtain ⟨-, -, houtcome⟩ := hstored rfl
  refine ⟨evaluation, heval, hfull.trans (by decide), hdiscounted.trans (by decide),
    htransferred.trans (by decide), houtcome.trans (if_pos (by decide))⟩

end TransitGuard.Fare
