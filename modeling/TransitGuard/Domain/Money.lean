import TransitGuard.Library.Checked
import TransitGuard.Library.Fallible
import TransitGuard.Domain.Transaction

/-!
Operations on money. Amounts of different currencies never meet, and no
operation wraps around: each returns the exact amount or an error.
-/

namespace TransitGuard

open Fallible

inductive MoneyOperation
  | addition
  | subtraction
  deriving DecidableEq, Repr

inductive MoneyError
  | currencyMismatch (left right : Currency)
  | arithmeticOverflow (operation : MoneyOperation)
  deriving DecidableEq, Repr

namespace Money

def fromMinorUnits (minorUnits : Int64) (currency : Currency) : Money := ⟨minorUnits, currency⟩

def zero (currency : Currency) : Money := fromMinorUnits 0 currency

def isPositive (m : Money) : Bool := m.minorUnits > 0

def isNegative (m : Money) : Bool := m.minorUnits < 0

def ensureSameCurrency (a b : Money) : Except MoneyError Unit :=
  if a.currency ≠ b.currency then .error (.currencyMismatch a.currency b.currency) else .ok ()

def checkedCmp (a b : Money) : Except MoneyError Ordering := do
  a.ensureSameCurrency b
  .ok (compare a.minorUnits b.minorUnits)

def checkedAdd (a b : Money) : Except MoneyError Money := do
  a.ensureSameCurrency b
  let minorUnits ← orFail (.arithmeticOverflow .addition)
    (Checked.add a.minorUnits b.minorUnits)
  .ok (fromMinorUnits minorUnits a.currency)

def checkedSubtract (a b : Money) : Except MoneyError Money := do
  a.ensureSameCurrency b
  let minorUnits ← orFail (.arithmeticOverflow .subtraction)
    (Checked.sub a.minorUnits b.minorUnits)
  .ok (fromMinorUnits minorUnits a.currency)

/-! ## Amounts -/

/-- The amount as an integer. -/
abbrev units (m : Money) : Int := m.minorUnits.toInt

theorem units_lt (m : Money) : m.units < 2 ^ 63 := m.minorUnits.toInt_lt

@[simp] theorem units_zero (currency : Currency) : (zero currency).units = 0 := Int64.toInt_zero

@[simp] theorem currency_zero (currency : Currency) : (zero currency).currency = currency := rfl

theorem ext {a b : Money} (hunits : a.units = b.units) (hcurrency : a.currency = b.currency) :
    a = b := by
  cases a
  cases b
  rw [mk.injEq]
  exact ⟨Int64.toInt_inj.mp hunits, hcurrency⟩

theorem isPositive_eq_true {m : Money} : m.isPositive = true ↔ 0 < m.units := by
  rw [isPositive, decide_eq_true_eq, gt_iff_lt, Int64.lt_iff_toInt_lt, Int64.toInt_zero]

theorem isNegative_eq_false {m : Money} : m.isNegative = false ↔ 0 ≤ m.units := by
  rw [isNegative, decide_eq_false_iff_not, Int64.not_lt, Int64.le_iff_toInt_le,
    Int64.toInt_zero]

theorem ensureSameCurrency_ok {a b : Money} {u : Unit} :
    a.ensureSameCurrency b = .ok u ↔ a.currency = b.currency := by
  simp [ensureSameCurrency]

theorem checkedAdd_ok {a b c : Money} :
    a.checkedAdd b = .ok c ↔
      a.currency = b.currency ∧ c.currency = a.currency ∧ c.units = a.units + b.units := by
  simp only [checkedAdd, bind_eq_ok, ensureSameCurrency_ok, orFail_eq_ok, Checked.add,
    Checked.ofInt_eq_some, Except.ok.injEq]
  constructor
  · rintro ⟨-, hcurrency, units, hunits, rfl⟩
    exact ⟨hcurrency, rfl, hunits⟩
  · rintro ⟨hcurrency, hc, hunits⟩
    exact ⟨(), hcurrency, c.minorUnits, hunits, ext rfl hc.symm⟩

theorem checkedSubtract_ok {a b c : Money} :
    a.checkedSubtract b = .ok c ↔
      a.currency = b.currency ∧ c.currency = a.currency ∧ c.units = a.units - b.units := by
  simp only [checkedSubtract, bind_eq_ok, ensureSameCurrency_ok, orFail_eq_ok, Checked.sub,
    Checked.ofInt_eq_some, Except.ok.injEq]
  constructor
  · rintro ⟨-, hcurrency, units, hunits, rfl⟩
    exact ⟨hcurrency, rfl, hunits⟩
  · rintro ⟨hcurrency, hc, hunits⟩
    exact ⟨(), hcurrency, c.minorUnits, hunits, ext rfl hc.symm⟩

/-- An amount of the currency that is not negative. -/
structure Owed (currency : Currency) (m : Money) : Prop where
  currency_eq : m.currency = currency
  nonneg : 0 ≤ m.units

variable {currency : Currency} {a b : Money}

theorem Owed.zero (currency : Currency) : (zero currency).Owed currency :=
  ⟨rfl, (units_zero currency).ge⟩

theorem not_owed : ¬ a.Owed currency ↔ a.currency ≠ currency ∨ a.units < 0 := by
  rw [← Int.not_le, ← not_and_or]
  exact not_congr ⟨fun h => ⟨h.currency_eq, h.nonneg⟩, fun h => ⟨h.1, h.2⟩⟩

/-- Every amount that fits is some amount of the currency. -/
theorem exists_owed (currency : Currency) {n : Int} (hnonneg : 0 ≤ n) (hlt : n < 2 ^ 63) :
    ∃ m : Money, m.Owed currency ∧ m.units = n := by
  have hunits : (Int64.ofInt n).toInt = n := Int64.toInt_ofInt_of_le (by omega) hlt
  exact ⟨⟨.ofInt n, currency⟩, ⟨rfl, hnonneg.trans_eq hunits.symm⟩, hunits⟩

/-- Taking a part away never fails. -/
theorem Owed.checkedSubtract (ha : a.Owed currency) (hb : b.Owed currency)
    (h : b.units ≤ a.units) :
    ∃ c, a.checkedSubtract b = .ok c ∧ c.Owed currency ∧ c.units = a.units - b.units := by
  have hnonneg := ha.nonneg
  obtain ⟨units, -, hunits⟩ : ∃ units, Checked.ofInt (a.units - b.units) = some units ∧
      units.toInt = a.units - b.units := by
    have hbnonneg := hb.nonneg
    refine Checked.exists_ofInt (a := 0) (b := a.minorUnits) ?_ ?_
    · rw [Int64.toInt_zero]
      omega
    · show a.units - b.units ≤ a.units
      omega
  refine ⟨⟨units, currency⟩, checkedSubtract_ok.mpr ⟨?_, ha.currency_eq.symm, hunits⟩,
    ⟨rfl, ?_⟩, hunits⟩
  · rw [ha.currency_eq, hb.currency_eq]
  · show 0 ≤ units.toInt
    omega

/-- A sum below some amount never fails. -/
theorem Owed.checkedAdd (ha : a.Owed currency) (hb : b.Owed currency) {bound : Money}
    (h : a.units + b.units ≤ bound.units) :
    ∃ c, a.checkedAdd b = .ok c ∧ c.Owed currency ∧ c.units = a.units + b.units := by
  have hanonneg := ha.nonneg
  have hbnonneg := hb.nonneg
  obtain ⟨units, -, hunits⟩ : ∃ units, Checked.ofInt (a.units + b.units) = some units ∧
      units.toInt = a.units + b.units := by
    refine Checked.exists_ofInt (a := 0) ?_ h
    rw [Int64.toInt_zero]
    omega
  refine ⟨⟨units, currency⟩, checkedAdd_ok.mpr ⟨?_, ha.currency_eq.symm, hunits⟩,
    ⟨rfl, ?_⟩, hunits⟩
  · rw [ha.currency_eq, hb.currency_eq]
  · show 0 ≤ units.toInt
    omega

theorem Owed.checkedCmp (ha : a.Owed currency) (hb : b.Owed currency) :
    ∃ ordering, a.checkedCmp b = .ok ordering ∧ (ordering = .lt ↔ a.units < b.units) ∧
      (ordering = .gt ↔ b.units < a.units) := by
  have hsame : a.ensureSameCurrency b = .ok () :=
    ensureSameCurrency_ok.mpr (ha.currency_eq.trans hb.currency_eq.symm)
  refine ⟨compare a.minorUnits b.minorUnits, ?_, ?_, ?_⟩
  · rw [Money.checkedCmp, hsame]
    rfl
  · rw [Std.compare_eq_lt, Int64.lt_iff_toInt_lt]
  · rw [Std.compare_eq_gt, Int64.lt_iff_toInt_lt]

end Money

/-! ## The shared check -/

/-- The check every amount passes before it is used: the expected currency,
then not negative. Each caller has its own two errors. -/
def validateMoney {ε : Type} (expected : Currency) (amount : Money) (mismatch negative : ε) :
    Except ε Unit :=
  if amount.currency ≠ expected then .error mismatch
  else if amount.isNegative then .error negative
  else .ok ()

@[simp] theorem validateMoney_ok {ε : Type} {expected : Currency} {amount : Money}
    {mismatch negative : ε} {u : Unit} :
    validateMoney expected amount mismatch negative = .ok u ↔ amount.Owed expected := by
  simp only [validateMoney, ite_error_eq_ok, ne_eq, not_not, Bool.not_eq_true,
    Money.isNegative_eq_false, and_true]
  exact ⟨fun h => ⟨h.1, h.2⟩, fun h => ⟨h.1, h.2⟩⟩

theorem validateMoney_of_owed {ε : Type} {expected : Currency} {amount : Money}
    {mismatch negative : ε} (h : amount.Owed expected) :
    validateMoney expected amount mismatch negative = .ok () :=
  validateMoney_ok.mpr h

theorem validateMoney_error {ε : Type} {expected : Currency} {amount : Money}
    {mismatch negative e : ε} (h : validateMoney expected amount mismatch negative = .error e) :
    e = mismatch ∨ e = negative := by
  unfold validateMoney at h
  split at h
  · cases h
    exact .inl rfl
  · split at h
    · cases h
      exact .inr rfl
    · cases h

end TransitGuard
