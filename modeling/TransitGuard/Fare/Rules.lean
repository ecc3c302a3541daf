import TransitGuard.Fare.Policy

/-!
The three rules applied to a fare after the eligibility discount: the transfer
benefit, the daily and weekly caps, and a presented transit product. Each rule
checks the amounts it is given, and none of them raises a fare.
-/

namespace TransitGuard.Fare

open Fallible

/-! ## Transfers -/

/-- `TransferHistory`. -/
structure TransferHistory where
  previousPaidFareEventTime : Option EventTime
  deriving DecidableEq

inductive TransferEvaluationError
  | currencyMismatch (expected actual : Currency)
  | negativeFare (fare : Money)
  | previousFareOccursAfterCurrent (previous current : UnixMilliseconds)
  | arithmeticFailure
  deriving DecidableEq

structure TransferApplication where
  policyId : FarePolicyId
  policyVersion : FarePolicyVersion
  eligible : Bool
  discountApplied : Money
  fareAfterTransfer : Money
  deriving DecidableEq

/-- `transfer_is_eligible`. -/
def transferIsEligible (policy : FarePolicy) (current : EventTime) (history : TransferHistory) :
    Except TransferEvaluationError Bool :=
  match history.previousPaidFareEventTime with
  | none => .ok false
  | some previous =>
    if previous.unixMilliseconds > current.unixMilliseconds then
      .error (.previousFareOccursAfterCurrent previous.unixMilliseconds current.unixMilliseconds)
    else
      .ok (Checked.unsignedAbs (current.unixMilliseconds - previous.unixMilliseconds) ≤
        policy.transferWindow.milliseconds)

/-- The discount of the rule, at most the whole fare. -/
def transferBenefit (policy : FarePolicy) (eligible : Bool) (fare : Money) : Money :=
  if eligible then
    .fromMinorUnits (min policy.transferDiscount.minorUnits fare.minorUnits) policy.currency
  else .zero policy.currency

/-- `apply_transfer`. -/
def applyTransfer (policy : FarePolicy) (currentEventTime : EventTime) (history : TransferHistory)
    (fareAfterEligibility : Money) : Except TransferEvaluationError TransferApplication := do
  validateMoney policy.currency fareAfterEligibility
    (.currencyMismatch policy.currency fareAfterEligibility.currency)
    (.negativeFare fareAfterEligibility)
  let eligible ← transferIsEligible policy currentEventTime history
  let discountApplied := transferBenefit policy eligible fareAfterEligibility
  let fareAfterTransfer ← (fareAfterEligibility.checkedSubtract discountApplied).mapError
    fun _ => .arithmeticFailure
  .ok { policyId := policy.id
        policyVersion := policy.version
        eligible, discountApplied, fareAfterTransfer }

theorem transferBenefit_spec {policy : FarePolicy} {fare : Money}
    (hfare : fare.Owed policy.currency) (eligible : Bool) :
    (transferBenefit policy eligible fare).Owed policy.currency ∧
      (transferBenefit policy eligible fare).units ≤ fare.units := by
  have hnonneg := hfare.nonneg
  unfold transferBenefit
  split
  · refine ⟨⟨rfl, ?_⟩, ?_⟩
    · show 0 ≤ (min policy.transferDiscount.minorUnits fare.minorUnits).toInt
      rw [Checked.toInt_min]
      exact le_min policy.sound.transferDiscount.nonneg hnonneg
    · show (min policy.transferDiscount.minorUnits fare.minorUnits).toInt ≤ fare.units
      rw [Checked.toInt_min]
      exact min_le_right _ _
  · exact ⟨.zero _, by rw [Money.units_zero]; exact hnonneg⟩

/-- On a fare of the policy the rule fails only where the history does. -/
theorem applyTransfer_of_eligible {policy : FarePolicy} {time : EventTime}
    {history : TransferHistory} {fare : Money} (hfare : fare.Owed policy.currency)
    {eligible : Bool} (h : transferIsEligible policy time history = .ok eligible) :
    ∃ rest, rest.Owed policy.currency ∧
      rest.units = fare.units - (transferBenefit policy eligible fare).units ∧
      applyTransfer policy time history fare =
        .ok ⟨policy.id, policy.version, eligible, transferBenefit policy eligible fare, rest⟩ := by
  obtain ⟨howed, hle⟩ := transferBenefit_spec hfare eligible
  obtain ⟨rest, hrest, hrestOwed, hunits⟩ := hfare.checkedSubtract howed hle
  refine ⟨rest, hrestOwed, hunits, ?_⟩
  simp only [applyTransfer, validateMoney_of_owed hfare, h, hrest, ok_bind, Except.mapError]

theorem applyTransfer_ok {policy : FarePolicy} {time : EventTime} {history : TransferHistory}
    {fare : Money} {application : TransferApplication}
    (h : applyTransfer policy time history fare = .ok application) :
    application.fareAfterTransfer.Owed policy.currency := by
  have hparts := h
  simp only [applyTransfer, bind_eq_ok, validateMoney_ok] at hparts
  obtain ⟨-, hfare, eligible, heligible, -⟩ := hparts
  obtain ⟨rest, howed, -, happlied⟩ := applyTransfer_of_eligible hfare heligible
  rw [happlied] at h
  cases h
  exact howed

/-! ## Caps -/

/-- `FareCapHistory`. -/
structure FareCapHistory where
  dailyCharged : Money
  weeklyCharged : Money
  deriving DecidableEq

def FareCapHistory.zero (currency : Currency) : FareCapHistory := ⟨.zero currency, .zero currency⟩

inductive FareCapEvaluationError
  | currencyMismatch (field : String) (expected actual : Currency)
  | negativeAmount (field : String) (amount : Money)
  | dailyChargedExceedsWeeklyCharged (dailyCharged weeklyCharged : Money)
  | arithmeticFailure
  deriving DecidableEq

structure FareCapApplication where
  policyId : FarePolicyId
  policyVersion : FarePolicyVersion
  dailyRemainingBefore : Money
  weeklyRemainingBefore : Money
  discountApplied : Money
  fareAfterCaps : Money
  dailyCapReached : Bool
  weeklyCapReached : Bool
  deriving DecidableEq

/-- `validate_amount`. -/
def validateAmount (policy : FarePolicy) (field : String) (amount : Money) :
    Except FareCapEvaluationError Unit :=
  validateMoney policy.currency amount (.currencyMismatch field policy.currency amount.currency)
    (.negativeAmount field amount)

/-- `remaining_allowance`. -/
def remainingAllowance (cap charged : Money) : Except FareCapEvaluationError Money :=
  if charged.minorUnits ≥ cap.minorUnits then .ok (.zero cap.currency)
  else (cap.checkedSubtract charged).mapError fun _ => .arithmeticFailure

/-- `apply_fare_caps`. The two sums are plain additions: where a cap is not
exceeded they stay below it, and otherwise they add zero. -/
def applyFareCaps (policy : FarePolicy) (history : FareCapHistory) (fareAfterTransfer : Money) :
    Except FareCapEvaluationError FareCapApplication := do
  validateAmount policy "daily_charged" history.dailyCharged
  validateAmount policy "weekly_charged" history.weeklyCharged
  validateAmount policy "fare_after_transfer" fareAfterTransfer
  if history.dailyCharged.minorUnits > history.weeklyCharged.minorUnits then
    .error (.dailyChargedExceedsWeeklyCharged history.dailyCharged history.weeklyCharged)
  let dailyRemainingBefore ← remainingAllowance policy.dailyCap history.dailyCharged
  let weeklyRemainingBefore ← remainingAllowance policy.weeklyCap history.weeklyCharged
  let fareMinorUnits := min (min fareAfterTransfer.minorUnits dailyRemainingBefore.minorUnits)
    weeklyRemainingBefore.minorUnits
  let fareAfterCaps := Money.fromMinorUnits fareMinorUnits policy.currency
  let discountApplied ← (fareAfterTransfer.checkedSubtract fareAfterCaps).mapError
    fun _ => .arithmeticFailure
  .ok { policyId := policy.id
        policyVersion := policy.version
        dailyRemainingBefore, weeklyRemainingBefore, discountApplied, fareAfterCaps
        dailyCapReached :=
          history.dailyCharged.minorUnits + fareAfterCaps.minorUnits ≥ policy.dailyCap.minorUnits
        weeklyCapReached := history.weeklyCharged.minorUnits + fareAfterCaps.minorUnits ≥
          policy.weeklyCap.minorUnits }

/-- The history the caps accept. -/
structure FareCapHistory.Valid (currency : Currency) (history : FareCapHistory) : Prop where
  daily : history.dailyCharged.Owed currency
  weekly : history.weeklyCharged.Owed currency
  daily_le_weekly : history.dailyCharged.units ≤ history.weeklyCharged.units

/-- The rest of a cap, never below zero. -/
theorem remainingAllowance_spec {currency : Currency} {cap charged : Money}
    (hcap : cap.Owed currency) (hcharged : charged.Owed currency) :
    ∃ rest, remainingAllowance cap charged = .ok rest ∧ rest.Owed currency ∧
      rest.units = max 0 (cap.units - charged.units) := by
  unfold remainingAllowance
  by_cases h : charged.minorUnits ≥ cap.minorUnits
  · have hle : cap.units ≤ charged.units := Int64.le_iff_toInt_le.mp h
    refine ⟨.zero cap.currency, if_pos h, ?_, ?_⟩
    · rw [hcap.currency_eq]
      exact .zero currency
    · rw [Money.units_zero]
      omega
  · have hle : charged.units ≤ cap.units := by
      have hlt := Int64.lt_iff_toInt_lt.mp (Int64.not_le.mp h)
      exact hlt.le
    obtain ⟨rest, hrest, howed, hunits⟩ := hcap.checkedSubtract hcharged hle
    refine ⟨rest, ?_, howed, by omega⟩
    rw [if_neg h, hrest]
    rfl

/-- The caps never refuse a fare of the policy on a valid history; they leave
the smallest of the fare and what both caps have left. -/
theorem applyFareCaps_spec {policy : FarePolicy} {history : FareCapHistory} {fare : Money}
    (hhistory : history.Valid policy.currency) (hfare : fare.Owed policy.currency) :
    ∃ application, applyFareCaps policy history fare = .ok application ∧
      application.fareAfterCaps.Owed policy.currency ∧
      application.fareAfterCaps.units =
        min (min fare.units (max 0 (policy.dailyCap.units - history.dailyCharged.units)))
          (max 0 (policy.weeklyCap.units - history.weeklyCharged.units)) ∧
      application.discountApplied.Owed policy.currency ∧
      application.discountApplied.units = fare.units - application.fareAfterCaps.units := by
  obtain ⟨daily, hdaily, hdailyOwed, hdailyUnits⟩ :=
    remainingAllowance_spec policy.sound.dailyCap hhistory.daily
  obtain ⟨weekly, hweekly, hweeklyOwed, hweeklyUnits⟩ :=
    remainingAllowance_spec policy.sound.weeklyCap hhistory.weekly
  obtain ⟨capped, hcapped⟩ : ∃ capped, capped = Money.fromMinorUnits
      (min (min fare.minorUnits daily.minorUnits) weekly.minorUnits) policy.currency := ⟨_, rfl⟩
  have hunits : capped.units = min (min fare.units daily.units) weekly.units := by
    rw [hcapped, Money.units, Money.fromMinorUnits, Checked.toInt_min, Checked.toInt_min]
  have howed : capped.Owed policy.currency := by
    refine ⟨by rw [hcapped]; rfl, ?_⟩
    rw [hunits]
    exact le_min (le_min hfare.nonneg hdailyOwed.nonneg) hweeklyOwed.nonneg
  have hcappedLe : capped.units ≤ fare.units := by
    rw [hunits]
    exact (min_le_left _ _).trans (min_le_left _ _)
  obtain ⟨discount, hdiscount, hdiscountOwed, hdiscountUnits⟩ :=
    hfare.checkedSubtract howed hcappedLe
  have hle : ¬ history.dailyCharged.minorUnits > history.weeklyCharged.minorUnits := by
    rw [gt_iff_lt, Int64.not_lt, Int64.le_iff_toInt_le]
    exact hhistory.daily_le_weekly
  have happlied : applyFareCaps policy history fare = .ok
      { policyId := policy.id
        policyVersion := policy.version
        dailyRemainingBefore := daily
        weeklyRemainingBefore := weekly
        discountApplied := discount
        fareAfterCaps := capped
        dailyCapReached :=
          history.dailyCharged.minorUnits + capped.minorUnits ≥ policy.dailyCap.minorUnits
        weeklyCapReached :=
          history.weeklyCharged.minorUnits + capped.minorUnits ≥ policy.weeklyCap.minorUnits } := by
    simp only [applyFareCaps, validateAmount, validateMoney_of_owed hhistory.daily,
      validateMoney_of_owed hhistory.weekly, validateMoney_of_owed hfare, ok_bind, if_neg hle,
      hdaily, hweekly, ← hcapped, hdiscount, Except.mapError]
  refine ⟨_, happlied, howed, ?_, hdiscountOwed, hdiscountUnits⟩
  rw [hunits, hdailyUnits, hweeklyUnits]

/-- The caps are applied to valid histories and fares only. -/
theorem applyFareCaps_ok {policy : FarePolicy} {history : FareCapHistory} {fare : Money}
    {application : FareCapApplication}
    (h : applyFareCaps policy history fare = .ok application) :
    history.Valid policy.currency ∧ fare.Owed policy.currency := by
  simp only [applyFareCaps, validateAmount, bind_eq_ok, validateMoney_ok, guard_eq_ok,
    gt_iff_lt, Int64.not_lt, Int64.le_iff_toInt_le] at h
  obtain ⟨-, hdaily, -, hweekly, -, hfare, hle, -⟩ := h
  exact ⟨⟨hdaily, hweekly, hle⟩, hfare⟩

/-- The two sums of the rule do not wrap around. -/
theorem applyFareCaps_sums {policy : FarePolicy} {history : FareCapHistory} {fare : Money}
    {application : FareCapApplication}
    (h : applyFareCaps policy history fare = .ok application) :
    (history.dailyCharged.minorUnits + application.fareAfterCaps.minorUnits).toInt =
        history.dailyCharged.units + application.fareAfterCaps.units ∧
      (history.weeklyCharged.minorUnits + application.fareAfterCaps.minorUnits).toInt =
        history.weeklyCharged.units + application.fareAfterCaps.units := by
  obtain ⟨hhistory, hfare⟩ := applyFareCaps_ok h
  obtain ⟨application', happlied, howed, hunits, -⟩ := applyFareCaps_spec hhistory hfare
  rw [happlied] at h
  cases h
  have hdaily := hhistory.daily.nonneg
  have hweekly := hhistory.weekly.nonneg
  have hcharge := howed.nonneg
  have hdailyCap := policy.dailyCap.units_lt
  have hweeklyCap := policy.weeklyCap.units_lt
  have hdailyMax := history.dailyCharged.units_lt
  have hweeklyMax := history.weeklyCharged.units_lt
  have hdailySum : history.dailyCharged.units + application.fareAfterCaps.units < 2 ^ 63 := by
    omega
  have hweeklySum : history.weeklyCharged.units + application.fareAfterCaps.units < 2 ^ 63 := by
    omega
  refine ⟨Checked.toInt_add ?_ hdailySum, Checked.toInt_add ?_ hweeklySum⟩
  · show -2 ^ 63 ≤ history.dailyCharged.units + application.fareAfterCaps.units
    omega
  · show -2 ^ 63 ≤ history.weeklyCharged.units + application.fareAfterCaps.units
    omega

/-! ## Products -/

inductive TransitProductCoverage
  | allZones
  | zoneRange (firstZone lastZone : ZoneId)
  deriving DecidableEq

def TransitProductCoverage.covers : TransitProductCoverage → ZoneId → Bool
  | .allZones, _ => true
  | .zoneRange firstZone lastZone, zone =>
    zone.value ≥ firstZone.value && zone.value ≤ lastZone.value

/-- `TransitProduct`, whose `validate` refuses an interval that ends before it
begins. -/
structure TransitProduct where
  productId : TransitProductId
  instanceId : TransitProductInstanceId
  validFrom : EventTime
  validUntil : EventTime
  coverage : TransitProductCoverage
  interval : validFrom.unixMilliseconds ≤ validUntil.unixMilliseconds
  deriving DecidableEq

inductive ProductInvalidReason
  | notYetValid
  | expired
  | outsideZoneCoverage
  deriving DecidableEq, Repr

inductive ProductApplicationOutcome
  | notPresented
  | covered
  | invalid (reason : ProductInvalidReason)
  deriving DecidableEq, Repr

inductive ProductEvaluationError
  | currencyMismatch (expected actual : Currency)
  | negativeFare (fare : Money)
  | arithmeticFailure
  deriving DecidableEq

structure ProductApplication where
  policyId : FarePolicyId
  policyVersion : FarePolicyVersion
  productId : Option TransitProductId
  instanceId : Option TransitProductInstanceId
  outcome : ProductApplicationOutcome
  discountApplied : Money
  fareAfterProduct : Money
  deriving DecidableEq

/-- `determine_outcome`. -/
def determineOutcome (product : TransitProduct) (eventTime : EventTime)
    (originZone destinationZone : ZoneId) : ProductApplicationOutcome :=
  if eventTime.unixMilliseconds < product.validFrom.unixMilliseconds then .invalid .notYetValid
  else if eventTime.unixMilliseconds > product.validUntil.unixMilliseconds then .invalid .expired
  else if !product.coverage.covers originZone || !product.coverage.covers destinationZone then
    .invalid .outsideZoneCoverage
  else .covered

/-- What a product takes off the fare. -/
def productBenefit (policy : FarePolicy) (outcome : ProductApplicationOutcome) (fare : Money) :
    Money :=
  match outcome with
  | .covered => fare
  | .notPresented | .invalid _ => .zero policy.currency

/-- `apply_transit_product`. -/
def applyTransitProduct (policy : FarePolicy) (product : Option TransitProduct)
    (eventTime : EventTime) (originZone destinationZone : ZoneId) (fareAfterCaps : Money) :
    Except ProductEvaluationError ProductApplication := do
  validateMoney policy.currency fareAfterCaps
    (.currencyMismatch policy.currency fareAfterCaps.currency) (.negativeFare fareAfterCaps)
  match product with
  | none =>
    .ok { policyId := policy.id
          policyVersion := policy.version
          productId := none
          instanceId := none
          outcome := .notPresented
          discountApplied := .zero policy.currency
          fareAfterProduct := fareAfterCaps }
  | some product =>
    let outcome := determineOutcome product eventTime originZone destinationZone
    let discountApplied := productBenefit policy outcome fareAfterCaps
    let fareAfterProduct ← (fareAfterCaps.checkedSubtract discountApplied).mapError
      fun _ => .arithmeticFailure
    .ok { policyId := policy.id
          policyVersion := policy.version
          productId := some product.productId
          instanceId := some product.instanceId
          outcome, discountApplied, fareAfterProduct }

theorem productBenefit_spec {policy : FarePolicy} {fare : Money}
    (hfare : fare.Owed policy.currency) (outcome : ProductApplicationOutcome) :
    (productBenefit policy outcome fare).Owed policy.currency ∧
      (productBenefit policy outcome fare).units ≤ fare.units := by
  cases outcome with
  | covered => exact ⟨hfare, le_refl _⟩
  | notPresented | invalid => exact ⟨.zero _, (Money.units_zero _).trans_le hfare.nonneg⟩

/-- The outcome of the rule, whether or not a product was presented. -/
def productOutcome (product : Option TransitProduct) (eventTime : EventTime)
    (originZone destinationZone : ZoneId) : ProductApplicationOutcome :=
  match product with
  | none => .notPresented
  | some product => determineOutcome product eventTime originZone destinationZone

/-- A product never refuses a fare of the policy; it takes its benefit off. -/
theorem applyTransitProduct_spec {policy : FarePolicy} {fare : Money}
    (hfare : fare.Owed policy.currency) (product : Option TransitProduct) (time : EventTime)
    (origin destination : ZoneId) :
    ∃ application, applyTransitProduct policy product time origin destination fare =
        .ok application ∧ application.fareAfterProduct.Owed policy.currency ∧
      application.outcome = productOutcome product time origin destination ∧
      application.discountApplied = productBenefit policy application.outcome fare ∧
      application.fareAfterProduct.units = fare.units - application.discountApplied.units := by
  cases product with
  | none =>
    refine ⟨⟨policy.id, policy.version, none, none, .notPresented, .zero policy.currency, fare⟩,
      ?_, hfare, rfl, rfl, ?_⟩
    · simp only [applyTransitProduct, validateMoney_of_owed hfare, ok_bind]
    · show fare.units = fare.units - (Money.zero policy.currency).units
      rw [Money.units_zero, Int.sub_zero]
  | some product =>
    obtain ⟨howed, hle⟩ :=
      productBenefit_spec hfare (determineOutcome product time origin destination)
    obtain ⟨rest, hrest, hrestOwed, hunits⟩ := hfare.checkedSubtract howed hle
    refine ⟨⟨policy.id, policy.version, some product.productId, some product.instanceId,
      determineOutcome product time origin destination,
      productBenefit policy (determineOutcome product time origin destination) fare, rest⟩, ?_,
      hrestOwed, rfl, rfl, hunits⟩
    simp only [applyTransitProduct, validateMoney_of_owed hfare, ok_bind, hrest, Except.mapError]

end TransitGuard.Fare
