import TransitGuard.Domain.Account

/-!
Fare policies. `FarePolicy.validate` checks a whole definition; a policy is a
definition that passed, so every rule below may use what was checked.
-/

namespace TransitGuard

namespace Fare

open Fallible

/-- A fare zone, a positive `u16`. -/
@[ext] structure ZoneId where
  value : Nat
  pos : 0 < value
  lt : value < 2 ^ 16

instance : DecidableEq ZoneId := fun a b =>
  decidable_of_iff (a.value = b.value) ZoneId.ext_iff.symm

/-- A positive `u64`. -/
@[ext] structure TransferWindow where
  milliseconds : Nat
  pos : 0 < milliseconds
  lt : milliseconds < 2 ^ 64

instance : DecidableEq TransferWindow := fun a b =>
  decidable_of_iff (a.milliseconds = b.milliseconds) TransferWindow.ext_iff.symm

/-- Hundredths of a percent, at most the full fare. -/
structure DiscountBasisPoints where
  value : Nat
  le : value ≤ 10000
  deriving DecidableEq

def DiscountBasisPoints.zero : DiscountBasisPoints := ⟨0, by decide⟩

structure EligibilityDiscounts where
  youth : DiscountBasisPoints
  senior : DiscountBasisPoints
  reducedFare : DiscountBasisPoints
  employeeTestAccount : DiscountBasisPoints
  deriving DecidableEq

def EligibilityDiscounts.rateFor (discounts : EligibilityDiscounts) :
    EligibilityClassification → DiscountBasisPoints
  | .standard => .zero
  | .youth => discounts.youth
  | .senior => discounts.senior
  | .reducedFare => discounts.reducedFare
  | .employeeTestAccount => discounts.employeeTestAccount

/-- `FarePolicyDefinition`, as it comes in. -/
structure FarePolicyDefinition where
  id : FarePolicyId
  version : FarePolicyVersion
  currency : Currency
  baseFare : Money
  zoneSurcharge : Money
  transferWindow : TransferWindow
  transferDiscount : Money
  dailyCap : Money
  weeklyCap : Money
  eligibilityDiscounts : EligibilityDiscounts
  deriving DecidableEq

inductive FarePolicyError
  | currencyMismatch (field : String) (expected actual : Currency)
  | negativeAmount (field : String) (amount : Money)
  | dailyCapBelowBaseFare (baseFare dailyCap : Money)
  | weeklyCapBelowDailyCap (dailyCap weeklyCap : Money)
  | transferDiscountExceedsBaseFare (baseFare transferDiscount : Money)
  deriving DecidableEq

/-- The array `monetary_fields`. -/
def FarePolicyDefinition.monetaryFields (definition : FarePolicyDefinition) :
    List (String × Money) :=
  [("base_fare", definition.baseFare), ("zone_surcharge", definition.zoneSurcharge),
    ("transfer_discount", definition.transferDiscount), ("daily_cap", definition.dailyCap),
    ("weekly_cap", definition.weeklyCap)]

/-- The statements of `FarePolicy::validate`. -/
def FarePolicyDefinition.check (definition : FarePolicyDefinition) :
    Except FarePolicyError Unit := do
  definition.monetaryFields.forM fun (field, amount) =>
    validateMoney definition.currency amount
      (.currencyMismatch field definition.currency amount.currency) (.negativeAmount field amount)
  if definition.dailyCap.minorUnits < definition.baseFare.minorUnits then
    .error (.dailyCapBelowBaseFare definition.baseFare definition.dailyCap)
  if definition.weeklyCap.minorUnits < definition.dailyCap.minorUnits then
    .error (.weeklyCapBelowDailyCap definition.dailyCap definition.weeklyCap)
  if definition.transferDiscount.minorUnits > definition.baseFare.minorUnits then
    .error (.transferDiscountExceedsBaseFare definition.baseFare definition.transferDiscount)
  .ok ()

/-- `FarePolicy`: a definition that passed. -/
structure FarePolicy extends FarePolicyDefinition where
  checked : toFarePolicyDefinition.check = .ok ()

/-- `FarePolicy::validate`. -/
def FarePolicy.validate (definition : FarePolicyDefinition) : Except FarePolicyError FarePolicy :=
  match h : definition.check with
  | .ok () => .ok ⟨definition, h⟩
  | .error e => .error e

/-- What a definition has to meet. -/
structure FarePolicyDefinition.Sound (definition : FarePolicyDefinition) : Prop where
  baseFare : definition.baseFare.Owed definition.currency
  zoneSurcharge : definition.zoneSurcharge.Owed definition.currency
  transferDiscount : definition.transferDiscount.Owed definition.currency
  dailyCap : definition.dailyCap.Owed definition.currency
  weeklyCap : definition.weeklyCap.Owed definition.currency
  base_le_daily : definition.baseFare.units ≤ definition.dailyCap.units
  daily_le_weekly : definition.dailyCap.units ≤ definition.weeklyCap.units
  transfer_le_base : definition.transferDiscount.units ≤ definition.baseFare.units

theorem FarePolicyDefinition.check_ok {definition : FarePolicyDefinition} :
    definition.check = .ok () ↔ definition.Sound := by
  simp only [FarePolicyDefinition.check, bind_eq_ok, guard_eq_ok, Int64.not_lt,
    Int64.le_iff_toInt_le, and_true]
  constructor
  · rintro ⟨⟨⟩, hfields, hdaily, hweekly, htransfer⟩
    have howed := forM_eq_ok.mp hfields
    simp only [monetaryFields, List.forall_mem_cons, validateMoney_ok] at howed
    obtain ⟨hbase, hzone, hdiscount, hdailyCap, hweeklyCap, -⟩ := howed
    exact ⟨hbase, hzone, hdiscount, hdailyCap, hweeklyCap, hdaily, hweekly, htransfer⟩
  · intro h
    refine ⟨(), forM_eq_ok.mpr ?_, h.base_le_daily, h.daily_le_weekly, h.transfer_le_base⟩
    simp only [monetaryFields, List.forall_mem_cons, validateMoney_ok]
    exact ⟨h.baseFare, h.zoneSurcharge, h.transferDiscount, h.dailyCap, h.weeklyCap,
      fun _ hnil => absurd hnil List.not_mem_nil⟩

theorem FarePolicy.sound (policy : FarePolicy) : policy.toFarePolicyDefinition.Sound :=
  FarePolicyDefinition.check_ok.mp policy.checked

/-- Validation accepts exactly the sound definitions, and changes nothing. -/
theorem FarePolicy.validate_ok {definition : FarePolicyDefinition} {policy : FarePolicy} :
    FarePolicy.validate definition = .ok policy ↔
      definition.Sound ∧ policy.toFarePolicyDefinition = definition := by
  unfold FarePolicy.validate
  split
  · next h =>
    rw [Except.ok.injEq]
    constructor
    · rintro rfl
      exact ⟨FarePolicyDefinition.check_ok.mp h, rfl⟩
    · rintro ⟨-, rfl⟩
      rfl
  · next e h =>
    refine ⟨fun heq => (by cases heq), fun hsound => ?_⟩
    rw [FarePolicyDefinition.check_ok.mpr hsound.1] at h
    cases h

end Fare

end TransitGuard
