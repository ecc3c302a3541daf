import TransitGuard.Domain.Decoding
import TransitGuard.Fare.ClosedForm

/-!
Decoding of policy definitions, products and evaluation inputs. A policy itself
cannot be read, only the definition it is validated from. Every other type with a
checked constructor is read as its definition and then validated, except the
coverage of a product: its decoder is derived, so a range of zones is taken as it
stands and `TransitProductCoverage::zone_range` is never asked.
-/

namespace TransitGuard.Fare

open Json Fallible

/-! ## Checked constructors -/

/-- `ZoneId::new`. -/
def ZoneId.new (value : Nat) : Option ZoneId :=
  if h : PositiveU16 value then some ⟨value, h.pos, h.lt⟩ else none

/-- `TransferWindow::from_milliseconds`. -/
def TransferWindow.fromMilliseconds (milliseconds : Nat) : Option TransferWindow :=
  if h : PositiveU64 milliseconds then some ⟨milliseconds, h.pos, h.lt⟩ else none

/-- `DiscountBasisPoints::new`. -/
def DiscountBasisPoints.new (basisPoints : Nat) : Option DiscountBasisPoints :=
  if h : basisPoints ≤ 10000 then some ⟨basisPoints, h⟩ else none

inductive TransitProductError
  | invalidValidityInterval (validFrom validUntil : UnixMilliseconds)
  | invalidZoneRange (firstZone lastZone : Nat)
  deriving DecidableEq

/-- `TransitProductCoverage::zone_range`. -/
def TransitProductCoverage.newZoneRange (firstZone lastZone : ZoneId) :
    Except TransitProductError TransitProductCoverage :=
  if lastZone.value < firstZone.value then
    .error (.invalidZoneRange firstZone.value lastZone.value)
  else .ok (.zoneRange firstZone lastZone)

/-- `TransitProductDefinition`, as it comes in. -/
structure TransitProductDefinition where
  productId : TransitProductId
  instanceId : TransitProductInstanceId
  validFrom : EventTime
  validUntil : EventTime
  coverage : TransitProductCoverage
  deriving DecidableEq

/-- `TransitProduct::validate`. -/
def TransitProduct.validate (definition : TransitProductDefinition) :
    Except TransitProductError TransitProduct :=
  if h : definition.validFrom.unixMilliseconds ≤ definition.validUntil.unixMilliseconds then
    .ok { productId := definition.productId
          instanceId := definition.instanceId
          validFrom := definition.validFrom
          validUntil := definition.validUntil
          coverage := definition.coverage
          interval := h }
  else .error (.invalidValidityInterval definition.validFrom.unixMilliseconds
    definition.validUntil.unixMilliseconds)

/-! ## Decoders -/

def ZoneId.fromJson (v : Value) : Option ZoneId := (v.unsigned (2 ^ 16)).bind ZoneId.new

def TransferWindow.fromJson (v : Value) : Option TransferWindow :=
  (v.unsigned (2 ^ 64)).bind TransferWindow.fromMilliseconds

def DiscountBasisPoints.fromJson (v : Value) : Option DiscountBasisPoints :=
  (v.unsigned (2 ^ 16)).bind DiscountBasisPoints.new

/-- `Deserialize for EligibilityDiscounts`. -/
def EligibilityDiscounts.fromJson (v : Value) : Option EligibilityDiscounts :=
  match v.fields ["youth", "senior", "reduced_fare", "employee_test_account"] with
  | some [youth, senior, reducedFare, employeeTestAccount] => do
    let youth ← youth.bind DiscountBasisPoints.fromJson
    let senior ← senior.bind DiscountBasisPoints.fromJson
    let reducedFare ← reducedFare.bind DiscountBasisPoints.fromJson
    let employeeTestAccount ← employeeTestAccount.bind DiscountBasisPoints.fromJson
    some { youth, senior, reducedFare, employeeTestAccount }
  | _ => none

/-- `Deserialize for FarePolicyDefinition`. -/
def FarePolicyDefinition.fromJson (v : Value) : Option FarePolicyDefinition :=
  match v.fields ["id", "version", "currency", "base_fare", "zone_surcharge", "transfer_window",
    "transfer_discount", "daily_cap", "weekly_cap", "eligibility_discounts"] with
  | some [id, version, currency, baseFare, zoneSurcharge, transferWindow, transferDiscount,
      dailyCap, weeklyCap, eligibilityDiscounts] => do
    let id ← id.bind decodeIdentifier
    let version ← version.bind FarePolicyVersion.fromJson
    let currency ← currency.bind Currency.fromJson
    let baseFare ← baseFare.bind Money.fromJson
    let zoneSurcharge ← zoneSurcharge.bind Money.fromJson
    let transferWindow ← transferWindow.bind TransferWindow.fromJson
    let transferDiscount ← transferDiscount.bind Money.fromJson
    let dailyCap ← dailyCap.bind Money.fromJson
    let weeklyCap ← weeklyCap.bind Money.fromJson
    let eligibilityDiscounts ← eligibilityDiscounts.bind EligibilityDiscounts.fromJson
    some { id := ⟨id⟩
           version, currency, baseFare, zoneSurcharge, transferWindow, transferDiscount
           dailyCap, weeklyCap, eligibilityDiscounts }
  | _ => none

/-- The derived `Deserialize for TransitProductCoverage`. -/
def TransitProductCoverage.fromJson (v : Value) : Option TransitProductCoverage :=
  match v with
  | .object [("ZoneRange", content)] =>
    match content.fields ["first_zone", "last_zone"] with
    | some [firstZone, lastZone] => do
      let firstZone ← firstZone.bind ZoneId.fromJson
      let lastZone ← lastZone.bind ZoneId.fromJson
      some (.zoneRange firstZone lastZone)
    | _ => none
  | v => if v.variant = some "AllZones" then some .allZones else none

/-- The fields of a product. -/
def productFields (v : Value) : Option (List (Option Value)) :=
  v.fields ["product_id", "instance_id", "valid_from", "valid_until", "coverage"]

/-- `Deserialize for TransitProductDefinition`. -/
def TransitProductDefinition.fromJson (v : Value) : Option TransitProductDefinition :=
  match productFields v with
  | some [productId, instanceId, validFrom, validUntil, coverage] => do
    let productId ← productId.bind decodeIdentifier
    let instanceId ← instanceId.bind decodeIdentifier
    let validFrom ← validFrom.bind EventTime.fromJson
    let validUntil ← validUntil.bind EventTime.fromJson
    let coverage ← coverage.bind TransitProductCoverage.fromJson
    some { productId := ⟨productId⟩
           instanceId := ⟨instanceId⟩
           validFrom, validUntil, coverage }
  | _ => none

/-- `Deserialize for TransitProduct`. -/
def TransitProduct.fromJson (v : Value) : Option TransitProduct :=
  (TransitProductDefinition.fromJson v).bind fun definition =>
    (TransitProduct.validate definition).toOption

/-- `Deserialize for TransferHistory`. -/
def TransferHistory.fromJson (v : Value) : Option TransferHistory :=
  match v.fields ["previous_paid_fare_event_time"] with
  | some [previous] => (optionalField EventTime.fromJson previous).map TransferHistory.mk
  | _ => none

/-- `Deserialize for FareCapHistory`. -/
def FareCapHistory.fromJson (v : Value) : Option FareCapHistory :=
  match v.fields ["daily_charged", "weekly_charged"] with
  | some [dailyCharged, weeklyCharged] => do
    let dailyCharged ← dailyCharged.bind Money.fromJson
    let weeklyCharged ← weeklyCharged.bind Money.fromJson
    some { dailyCharged, weeklyCharged }
  | _ => none

/-- The fields of an evaluation input. -/
def inputFields (v : Value) : Option (List (Option Value)) :=
  v.fields ["event_time", "origin_zone", "destination_zone", "eligibility", "transfer_history",
    "fare_cap_history", "transit_product", "available_balance"]

/-- `Deserialize for FareEvaluationInput`. -/
def FareEvaluationInput.fromJson (v : Value) : Option FareEvaluationInput :=
  match inputFields v with
  | some [eventTime, originZone, destinationZone, eligibility, transferHistory, fareCapHistory,
      transitProduct, availableBalance] => do
    let eventTime ← eventTime.bind EventTime.fromJson
    let originZone ← originZone.bind ZoneId.fromJson
    let destinationZone ← destinationZone.bind ZoneId.fromJson
    let eligibility ← eligibility.bind EligibilityClassification.fromJson
    let transferHistory ← transferHistory.bind TransferHistory.fromJson
    let fareCapHistory ← fareCapHistory.bind FareCapHistory.fromJson
    let transitProduct ← optionalField TransitProduct.fromJson transitProduct
    let availableBalance ← availableBalance.bind Money.fromJson
    some { eventTime, originZone, destinationZone, eligibility, transferHistory, fareCapHistory
           transitProduct, availableBalance }
  | _ => none

/-! ## What the constructors enforce -/

/-- What the constructors of the parts of a definition enforce. -/
structure FarePolicyDefinition.Invariant (definition : FarePolicyDefinition) : Prop where
  version : 0 < definition.version.value
  transferWindow : 0 < definition.transferWindow.milliseconds
  rates : ∀ eligibility, (definition.eligibilityDiscounts.rateFor eligibility).value ≤ 10000

/-- A range is one its checked constructor returns. -/
def TransitProductCoverage.Invariant : TransitProductCoverage → Prop
  | .allZones => True
  | .zoneRange firstZone lastZone =>
    0 < firstZone.value ∧ 0 < lastZone.value ∧
      newZoneRange firstZone lastZone = .ok (.zoneRange firstZone lastZone)

structure TransitProduct.Invariant (product : TransitProduct) : Prop where
  validFrom : 0 ≤ product.validFrom.unixMilliseconds
  validUntil : 0 ≤ product.validUntil.unixMilliseconds
  interval : product.validFrom.unixMilliseconds ≤ product.validUntil.unixMilliseconds
  coverage : product.coverage.Invariant

structure FareEvaluationInput.Invariant (input : FareEvaluationInput) : Prop where
  eventTime : 0 ≤ input.eventTime.unixMilliseconds
  originZone : 0 < input.originZone.value
  destinationZone : 0 < input.destinationZone.value
  previous : ∀ previous, input.transferHistory.previousPaidFareEventTime = some previous →
    0 ≤ previous.unixMilliseconds
  transitProduct : ∀ product, input.transitProduct = some product → product.Invariant

/-! ## Documents with an inverted range -/

/-- The two numbers a range of zones is written as. -/
def rangeNumbers (v : Value) : Option (Nat × Nat) :=
  match v with
  | .object [("ZoneRange", content)] =>
    match content.fields ["first_zone", "last_zone"] with
    | some [firstZone, lastZone] => do
      let firstZone ← firstZone.bind fun zone => zone.unsigned (2 ^ 16)
      let lastZone ← lastZone.bind fun zone => zone.unsigned (2 ^ 16)
      some (firstZone, lastZone)
    | _ => none
  | _ => none

def InvertsRange (v : Value) : Prop :=
  ∃ firstZone lastZone, rangeNumbers v = some (firstZone, lastZone) ∧ lastZone < firstZone

/-- The coverage of the product document ends before it begins. -/
def InvertsCoverage (v : Value) : Prop :=
  ∃ productId instanceId validFrom validUntil coverage, productFields v =
    some [productId, instanceId, validFrom, validUntil, some coverage] ∧ InvertsRange coverage

/-- The product document within the input does. -/
def InvertsProduct (v : Value) : Prop :=
  ∃ eventTime origin destination eligibility transfers caps product balance, inputFields v =
    some [eventTime, origin, destination, eligibility, transfers, caps, some product, balance] ∧
    InvertsCoverage product

theorem TransitProductCoverage.newZoneRange_ok {firstZone lastZone : ZoneId}
    {coverage : TransitProductCoverage} : newZoneRange firstZone lastZone = .ok coverage ↔
      firstZone.value ≤ lastZone.value ∧ coverage = .zoneRange firstZone lastZone := by
  rw [newZoneRange, ite_error_eq_ok, Nat.not_lt, Except.ok.injEq, eq_comm (a := coverage)]

theorem ZoneId.fromJson_some {v : Value} {zone : ZoneId} (h : fromJson v = some zone) :
    v.unsigned (2 ^ 16) = some zone.value := by
  obtain ⟨value, hvalue, hnew⟩ := Option.bind_eq_some_iff.mp h
  unfold ZoneId.new at hnew
  split at hnew
  · cases hnew
    exact hvalue
  · cases hnew

/-- A decoded coverage is one the constructors allow unless its document inverts
the range. -/
theorem TransitProductCoverage.invariant_iff {v : Value} {coverage : TransitProductCoverage}
    (h : fromJson v = some coverage) : coverage.Invariant ↔ ¬InvertsRange v := by
  unfold fromJson at h
  split at h
  · next content =>
    split at h
    · next firstZone lastZone hfields =>
      simp only [Option.bind_eq_bind, Option.bind_eq_some_iff, Option.some.injEq] at h
      obtain ⟨first, ⟨firstDoc, rfl, hfirst⟩, last, ⟨lastDoc, rfl, hlast⟩, rfl⟩ := h
      have hnumbers : rangeNumbers (.object [("ZoneRange", content)]) =
          some (first.value, last.value) := by
        simp only [rangeNumbers, hfields, Option.bind_eq_bind, Option.bind_some,
          ZoneId.fromJson_some hfirst, ZoneId.fromJson_some hlast]
      simp only [Invariant, newZoneRange_ok, and_true, first.pos, last.pos, true_and, InvertsRange,
        hnumbers, Option.some.injEq, Prod.mk.injEq]
      constructor
      · rintro hle ⟨_, _, ⟨rfl, rfl⟩, hlt⟩
        exact Nat.not_lt.mpr hle hlt
      · intro hordered
        exact Nat.not_lt.mp fun hlt => hordered ⟨_, _, ⟨rfl, rfl⟩, hlt⟩
    · cases h
  · next hother =>
    split at h
    · cases h
      refine ⟨fun _ => ?_, fun _ => trivial⟩
      rintro ⟨first, last, hnumbers, -⟩
      unfold rangeNumbers at hnumbers
      split at hnumbers
      · exact hother _ rfl
      · cases hnumbers
    · cases h

theorem TransitProduct.validate_ok {definition : TransitProductDefinition}
    {product : TransitProduct} (h : validate definition = .ok product) :
    product.coverage = definition.coverage := by
  unfold validate at h
  split at h
  · cases h
    rfl
  · cases h

/-- Everything but the coverage of a decoded product is checked. -/
theorem TransitProduct.invariant_iff {v : Value} {product : TransitProduct}
    (h : fromJson v = some product) : product.Invariant ↔ ¬InvertsCoverage v := by
  obtain ⟨definition, hdefinition, hvalidate⟩ := Option.bind_eq_some_iff.mp h
  have hcoverage : product.coverage = definition.coverage :=
    validate_ok (toOption_eq_some.mp hvalidate)
  have hinvariant : product.Invariant ↔ definition.coverage.Invariant := by
    rw [← hcoverage]
    exact ⟨Invariant.coverage, fun hc =>
      ⟨product.validFrom.nonneg, product.validUntil.nonneg, product.interval, hc⟩⟩
  rw [hinvariant]
  unfold TransitProductDefinition.fromJson at hdefinition
  split at hdefinition
  · next productId instanceId validFrom validUntil coverage hfields =>
    simp only [Option.bind_eq_bind, Option.bind_eq_some_iff, Option.some.injEq] at hdefinition
    obtain ⟨-, -, -, -, -, -, -, -, decoded, ⟨coverageDoc, rfl, hdecoded⟩, rfl⟩ := hdefinition
    rw [TransitProductCoverage.invariant_iff hdecoded]
    refine not_congr ⟨fun hrange => ⟨_, _, _, _, _, hfields, hrange⟩, ?_⟩
    rintro ⟨_, _, _, _, coverageDoc', hfields', hrange⟩
    rw [hfields] at hfields'
    cases hfields'
    exact hrange
  · cases hdefinition

/-- A product that is missing or `null` inverts nothing. -/
theorem optionalProduct_invariant_iff {doc : Option Value} {product : Option TransitProduct}
    (h : optionalField TransitProduct.fromJson doc = some product) :
    (∀ p, product = some p → p.Invariant) ↔ ∀ v, doc = some v → ¬InvertsCoverage v := by
  unfold optionalField at h
  split at h
  · cases h
    exact ⟨fun _ v hv => (by cases hv), fun _ p hp => (by cases hp)⟩
  · cases h
    refine ⟨fun _ v hv => ?_, fun _ p hp => (by cases hp)⟩
    cases hv
    rintro ⟨_, _, _, _, _, hfields, -⟩
    cases hfields
  · next v hnull =>
    obtain ⟨decoded, hdecoded, rfl⟩ := Option.map_eq_some_iff.mp h
    simp only [Option.some.injEq, forall_eq', TransitProduct.invariant_iff hdecoded]

theorem FareEvaluationInput.invariant_iff {v : Value} {input : FareEvaluationInput}
    (h : fromJson v = some input) : input.Invariant ↔ ¬InvertsProduct v := by
  have hinvariant : input.Invariant ↔
      ∀ product, input.transitProduct = some product → product.Invariant :=
    ⟨Invariant.transitProduct, fun hproduct => ⟨input.eventTime.nonneg, input.originZone.pos,
      input.destinationZone.pos, fun previous _ => previous.nonneg, hproduct⟩⟩
  rw [hinvariant]
  unfold fromJson at h
  split at h
  · next eventTime origin destination eligibility transfers caps product balance hfields =>
    simp only [Option.bind_eq_bind, Option.bind_eq_some_iff, Option.some.injEq] at h
    obtain ⟨-, -, -, -, -, -, -, -, -, -, -, -, decoded, hdecoded, -, -, rfl⟩ := h
    rw [optionalProduct_invariant_iff hdecoded]
    constructor
    · rintro hnone ⟨_, _, _, _, _, _, doc, _, hfields', hinverts⟩
      rw [hfields] at hfields'
      cases hfields'
      exact hnone doc rfl hinverts
    · rintro hnone doc rfl hinverts
      exact hnone ⟨_, _, _, _, _, _, doc, _, hfields, hinverts⟩
  · cases h

theorem FarePolicyDefinition.invariant (definition : FarePolicyDefinition) :
    definition.Invariant where
  version := definition.version.pos
  transferWindow := definition.transferWindow.pos
  rates eligibility := (definition.eligibilityDiscounts.rateFor eligibility).le

/-- What is decoded meets what the checked constructors enforce, unless the
document gives a product a range of zones that ends before it begins. No policy
is decoded: a document gives a definition, and a definition becomes a policy by
its validation alone. -/
theorem decoded_checked_iff (v : Value) :
    (∀ definition, FarePolicyDefinition.fromJson v = some definition →
        definition.Invariant ∧ ∀ policy, FarePolicy.validate definition = .ok policy ↔
          definition.Sound ∧ policy.toFarePolicyDefinition = definition) ∧
      (∀ product, TransitProduct.fromJson v = some product →
        (product.Invariant ↔ ¬InvertsCoverage v)) ∧
      ∀ input, FareEvaluationInput.fromJson v = some input →
        (input.Invariant ↔ ¬InvertsProduct v) :=
  ⟨fun definition _ => ⟨definition.invariant, fun _ => FarePolicy.validate_ok⟩,
    fun _ => TransitProduct.invariant_iff, fun _ => FareEvaluationInput.invariant_iff⟩

/-! ## A range the constructor refuses -/

/-- A product for the zones from 3 to 1. -/
def invertedProduct : Value :=
  .object [("product_id", .string samplePolicy.id.toText),
    ("instance_id", .string samplePolicy.id.toText), ("valid_from", int 0),
    ("valid_until", int 5000), ("coverage", .object [("ZoneRange",
      .object [("first_zone", nat 3), ("last_zone", nat 1)])])]

theorem invertedProduct_decoded :
    ∃ product, TransitProduct.fromJson invertedProduct = some product ∧
      product.coverage = .zoneRange sampleJourney.destinationZone sampleJourney.originZone ∧
      ¬product.Invariant := by
  have hfields : productFields invertedProduct = some [some (.string samplePolicy.id.toText),
      some (.string samplePolicy.id.toText), some (int 0), some (int 5000),
      some (.object [("ZoneRange", .object [("first_zone", nat 3), ("last_zone", nat 1)])])] :=
    fields_object rfl (by decide)
  have hcoverage : TransitProductCoverage.fromJson (.object [("ZoneRange",
      .object [("first_zone", nat 3), ("last_zone", nat 1)])]) =
        some (.zoneRange sampleJourney.destinationZone sampleJourney.originZone) := by
    decide
  have hdecoded : TransitProduct.fromJson invertedProduct = some
      { productId := ⟨samplePolicy.id.toIdentifier⟩
        instanceId := ⟨samplePolicy.id.toIdentifier⟩
        validFrom := ⟨0, by decide⟩
        validUntil := ⟨5000, by decide⟩
        coverage := .zoneRange sampleJourney.destinationZone sampleJourney.originZone
        interval := by decide } := by
    simp only [TransitProduct.fromJson, TransitProductDefinition.fromJson, hfields,
      Option.bind_eq_bind, Option.bind_some, decodeIdentifier_toText, hcoverage]
    rfl
  refine ⟨_, hdecoded, rfl, fun hinvariant => ?_⟩
  obtain ⟨-, -, hrange⟩ := hinvariant.coverage
  exact absurd hrange (by decide)

theorem decoded_not_checked :
    ¬((∀ v definition, FarePolicyDefinition.fromJson v = some definition →
        definition.Invariant ∧ ∀ policy, FarePolicy.validate definition = .ok policy →
          definition.Sound) ∧
      (∀ v product, TransitProduct.fromJson v = some product → product.Invariant) ∧
      ∀ v input, FareEvaluationInput.fromJson v = some input → input.Invariant) := by
  rintro ⟨-, hproduct, -⟩
  obtain ⟨product, hdecoded, -, hbroken⟩ := invertedProduct_decoded
  exact hbroken (hproduct _ _ hdecoded)

/-- A range that ends before it begins covers no zone, so a journey with such a
product is rejected whatever was paid for it. -/
theorem inverted_range_rejects {policy : FarePolicy} {input : FareEvaluationInput}
    {evaluation : FareEvaluation} {product : TransitProduct} {firstZone lastZone : ZoneId}
    (h : evaluateFare policy input = .ok evaluation)
    (hproduct : input.transitProduct = some product)
    (hcoverage : product.coverage = .zoneRange firstZone lastZone)
    (hinverted : lastZone.value < firstZone.value) :
    evaluation.outcome = .rejected .productInvalid := by
  refine ((follows_of_ok h).outcome_product hproduct).2 ?_
  rintro ⟨-, -, hcovers, -⟩
  rw [hcoverage, TransitProductCoverage.covers, Bool.and_eq_true, decide_eq_true_eq,
    decide_eq_true_eq] at hcovers
  omega

end TransitGuard.Fare
