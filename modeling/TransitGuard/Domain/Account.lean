import TransitGuard.Library.Runs
import TransitGuard.Domain.Money

/-!
Transit accounts and the value stored on them. A balance is never negative, so
a balance is a value that has passed that check. The calls that move money work
on their account in place: each returns its result and what it leaves behind.
-/

namespace TransitGuard

open Fallible

inductive TransitAccountStatus
  | active
  | suspended
  | closed
  deriving DecidableEq, Repr

inductive EligibilityClassification
  | standard
  | youth
  | senior
  | reducedFare
  | employeeTestAccount
  deriving DecidableEq, Repr

/-! ## Stored value -/

inductive StoredValueError
  | negativeBalance (balance : Money)
  | nonPositiveCredit (amount : Money)
  | nonPositiveDebit (amount : Money)
  | insufficientStoredValue (available requested : Money)
  | money (error : MoneyError)
  deriving DecidableEq, Repr

structure StoredValueBalance where
  amount : Money
  nonneg : amount.isNegative = false
  deriving DecidableEq

namespace StoredValueBalance

def new (amount : Money) : Except StoredValueError StoredValueBalance :=
  if h : amount.isNegative = true then .error (.negativeBalance amount)
  else .ok ⟨amount, by simpa using h⟩

def currency (balance : StoredValueBalance) : Currency := balance.amount.currency

theorem credit_nonneg {balance : StoredValueBalance} {amount updated : Money}
    (hpositive : amount.isPositive = true) (h : balance.amount.checkedAdd amount = .ok updated) :
    updated.isNegative = false := by
  have hbalance := Money.isNegative_eq_false.mp balance.nonneg
  have hamount := Money.isPositive_eq_true.mp hpositive
  rw [Money.isNegative_eq_false, (Money.checkedAdd_ok.mp h).2.2]
  omega

/-- Adds a positive amount. -/
def credit (balance : StoredValueBalance) (amount : Money) :
    Except StoredValueError Unit × StoredValueBalance :=
  if hpositive : amount.isPositive = true then
    match h : balance.amount.checkedAdd amount with
    | .ok updated => (.ok (), ⟨updated, credit_nonneg hpositive h⟩)
    | .error error => (.error (.money error), balance)
  else (.error (.nonPositiveCredit amount), balance)

/-- Removes a positive amount. -/
def debit (balance : StoredValueBalance) (amount : Money) :
    Except StoredValueError Unit × StoredValueBalance :=
  if amount.isPositive then
    match balance.amount.checkedSubtract amount with
    | .ok updated =>
      if hnegative : updated.isNegative = true then
        (.error (.insufficientStoredValue balance.amount amount), balance)
      else (.ok (), ⟨updated, Bool.eq_false_iff.mpr hnegative⟩)
    | .error error => (.error (.money error), balance)
  else (.error (.nonPositiveDebit amount), balance)

/-- A credit succeeds with the exact sum, or leaves the balance alone. -/
theorem credit_cases (balance : StoredValueBalance) (amount : Money) :
    (balance.credit amount).1 = .ok () ∧ (balance.credit amount).2.currency = balance.currency ∧
        (balance.credit amount).2.amount.units = balance.amount.units + amount.units ∨
      (∃ e, (balance.credit amount).1 = .error e) ∧ (balance.credit amount).2 = balance := by
  unfold credit
  split
  · split
    · next updated h =>
      obtain ⟨-, hcurrency, hunits⟩ := Money.checkedAdd_ok.mp h
      exact .inl ⟨rfl, hcurrency, hunits⟩
    · exact .inr ⟨⟨_, rfl⟩, rfl⟩
  · exact .inr ⟨⟨_, rfl⟩, rfl⟩

theorem debit_cases (balance : StoredValueBalance) (amount : Money) :
    (balance.debit amount).1 = .ok () ∧ (balance.debit amount).2.currency = balance.currency ∧
        (balance.debit amount).2.amount.units = balance.amount.units - amount.units ∨
      (∃ e, (balance.debit amount).1 = .error e) ∧ (balance.debit amount).2 = balance := by
  unfold debit
  split
  · split
    · next updated h =>
      obtain ⟨-, hcurrency, hunits⟩ := Money.checkedSubtract_ok.mp h
      split
      · exact .inr ⟨⟨_, rfl⟩, rfl⟩
      · exact .inl ⟨rfl, hcurrency, hunits⟩
    · exact .inr ⟨⟨_, rfl⟩, rfl⟩
  · exact .inr ⟨⟨_, rfl⟩, rfl⟩

end StoredValueBalance

/-! ## Accounts -/

inductive TransitAccountError
  | accountNotActive (status : TransitAccountStatus)
  | accountClosed
  | invalidStatusTransition (source target : TransitAccountStatus)
  | storedValue (error : StoredValueError)
  deriving DecidableEq, Repr

structure TransitAccount where
  id : TransitAccountId
  riderId : RiderId
  status : TransitAccountStatus
  eligibility : EligibilityClassification
  storedValue : StoredValueBalance
  deriving DecidableEq

namespace TransitAccount

def new (id : TransitAccountId) (riderId : RiderId) (eligibility : EligibilityClassification)
    (initialBalance : Money) : Except TransitAccountError TransitAccount := do
  let storedValue ← (StoredValueBalance.new initialBalance).mapError .storedValue
  .ok { id, riderId, status := .active, eligibility, storedValue }

def isActive (account : TransitAccount) : Bool := account.status == .active

/-- Suspending a suspended account is idempotent. -/
def suspend (account : TransitAccount) : Except TransitAccountError TransitAccount :=
  match account.status with
  | .active => .ok { account with status := .suspended }
  | .suspended => .ok account
  | .closed => .error (.invalidStatusTransition .closed .suspended)

/-- Reactivating an active account is idempotent. -/
def reactivate (account : TransitAccount) : Except TransitAccountError TransitAccount :=
  match account.status with
  | .active => .ok account
  | .suspended => .ok { account with status := .active }
  | .closed => .error (.invalidStatusTransition .closed .active)

def close (account : TransitAccount) : TransitAccount := { account with status := .closed }

/-- Suspended accounts may receive funds, closed accounts cannot. -/
def creditStoredValue (account : TransitAccount) (amount : Money) :
    Except TransitAccountError Unit × TransitAccount :=
  if account.status = .closed then (.error .accountClosed, account)
  else
    let (result, storedValue) := account.storedValue.credit amount
    (result.mapError .storedValue, { account with storedValue })

def ensureActive (account : TransitAccount) : Except TransitAccountError Unit :=
  if account.status ≠ .active then .error (.accountNotActive account.status) else .ok ()

def debitStoredValue (account : TransitAccount) (amount : Money) :
    Except TransitAccountError Unit × TransitAccount :=
  match account.ensureActive with
  | .error error => (.error error, account)
  | .ok () =>
    let (result, storedValue) := account.storedValue.debit amount
    (result.mapError .storedValue, { account with storedValue })

def changeEligibility (account : TransitAccount) (eligibility : EligibilityClassification) :
    Except TransitAccountError TransitAccount :=
  if account.status = .closed then .error .accountClosed else .ok { account with eligibility }

/-- A call on an account. -/
inductive Operation
  | credit (amount : Money)
  | debit (amount : Money)
  | suspend
  | reactivate
  | close
  | changeEligibility (eligibility : EligibilityClassification)
  deriving DecidableEq

/-- What the call returns, and the account it leaves. -/
def perform (account : TransitAccount) :
    Operation → Except TransitAccountError Unit × TransitAccount
  | .credit amount => account.creditStoredValue amount
  | .debit amount => account.debitStoredValue amount
  | .suspend => inPlace account account.suspend
  | .reactivate => inPlace account account.reactivate
  | .close => (.ok (), account.close)
  | .changeEligibility eligibility => inPlace account (account.changeEligibility eligibility)

def step (account : TransitAccount) (operation : Operation) : TransitAccount :=
  (account.perform operation).2

/-! ## The ledger -/

/-- The amount that a successful credit adds. -/
def credited (account : TransitAccount) (operation : Operation) : Option Int :=
  match operation, (account.perform operation).1 with
  | .credit amount, .ok () => some amount.units
  | _, _ => none

/-- The amount that a successful debit removes. -/
def debited (account : TransitAccount) (operation : Operation) : Option Int :=
  match operation, (account.perform operation).1 with
  | .debit amount, .ok () => some amount.units
  | _, _ => none

/-- A credit moves the balance, or fails and leaves the account alone. -/
theorem creditStoredValue_cases (account : TransitAccount) (amount : Money) :
    ((account.creditStoredValue amount).1 = .ok () ∧ account.status ≠ .closed ∧
        (account.creditStoredValue amount).2.storedValue.currency =
          account.storedValue.currency ∧
        (account.creditStoredValue amount).2.storedValue.amount.units =
          account.storedValue.amount.units + amount.units) ∨
      (∃ e, (account.creditStoredValue amount).1 = .error e) ∧
        (account.creditStoredValue amount).2 = account := by
  unfold creditStoredValue
  by_cases hclosed : account.status = .closed
  · rw [if_pos hclosed]
    exact .inr ⟨⟨_, rfl⟩, rfl⟩
  · rw [if_neg hclosed]
    rcases account.storedValue.credit_cases amount with ⟨hok, hcurrency, hunits⟩ | ⟨⟨e, he⟩, hsame⟩
    · exact .inl ⟨by simp only [hok, Except.mapError], hclosed, hcurrency, hunits⟩
    · refine .inr ⟨⟨.storedValue e, by simp only [he, Except.mapError]⟩, ?_⟩
      simp only [hsame]

theorem debitStoredValue_cases (account : TransitAccount) (amount : Money) :
    ((account.debitStoredValue amount).1 = .ok () ∧ account.status = .active ∧
        (account.debitStoredValue amount).2.storedValue.currency =
          account.storedValue.currency ∧
        (account.debitStoredValue amount).2.storedValue.amount.units =
          account.storedValue.amount.units - amount.units) ∨
      (∃ e, (account.debitStoredValue amount).1 = .error e) ∧
        (account.debitStoredValue amount).2 = account := by
  unfold debitStoredValue ensureActive
  by_cases hactive : account.status = .active
  · rw [if_neg (not_not.mpr hactive)]
    rcases account.storedValue.debit_cases amount with ⟨hok, hcurrency, hunits⟩ | ⟨⟨e, he⟩, hsame⟩
    · exact .inl ⟨by simp only [hok, Except.mapError], hactive, hcurrency, hunits⟩
    · refine .inr ⟨⟨.storedValue e, by simp only [he, Except.mapError]⟩, ?_⟩
      simp only [hsame]
  · rw [if_pos hactive]
    exact .inr ⟨⟨_, rfl⟩, rfl⟩

/-- A call that fails has changed nothing. -/
theorem perform_error {account : TransitAccount} {operation : Operation} {e : TransitAccountError}
    (h : (account.perform operation).1 = .error e) :
    (account.perform operation).2 = account := by
  cases operation with
  | credit amount =>
    rcases account.creditStoredValue_cases amount with ⟨hok, -⟩ | ⟨-, hsame⟩
    · cases hok.symm.trans h
    · exact hsame
  | debit amount =>
    rcases account.debitStoredValue_cases amount with ⟨hok, -⟩ | ⟨-, hsame⟩
    · cases hok.symm.trans h
    · exact hsame
  | suspend => exact inPlace_error h
  | reactivate => exact inPlace_error h
  | close => cases h
  | changeEligibility eligibility => exact inPlace_error h

theorem suspend_storedValue {account changed : TransitAccount} (h : account.suspend = .ok changed) :
    changed.storedValue = account.storedValue := by
  unfold suspend at h
  split at h <;> cases h <;> rfl

theorem reactivate_storedValue {account changed : TransitAccount}
    (h : account.reactivate = .ok changed) : changed.storedValue = account.storedValue := by
  unfold reactivate at h
  split at h <;> cases h <;> rfl

theorem changeEligibility_storedValue {account changed : TransitAccount}
    {eligibility : EligibilityClassification}
    (h : account.changeEligibility eligibility = .ok changed) :
    changed.storedValue = account.storedValue := by
  unfold changeEligibility at h
  split at h
  · cases h
  · cases h
    rfl

theorem inPlace_storedValue {account : TransitAccount}
    {result : Except TransitAccountError TransitAccount}
    (h : ∀ changed, result = .ok changed → changed.storedValue = account.storedValue) :
    (inPlace account result).2.storedValue = account.storedValue := by
  cases result with
  | ok changed => exact h changed rfl
  | error e => rfl

/-- One call moves the balance by what it credits and debits, and keeps its
currency. -/
theorem step_ledger (account : TransitAccount) (operation : Operation) :
    (account.step operation).storedValue.currency = account.storedValue.currency ∧
      (account.step operation).storedValue.amount.units = account.storedValue.amount.units +
        (account.credited operation).toList.sum - (account.debited operation).toList.sum := by
  -- a call that leaves the balance alone and emits nothing
  have hkept : ∀ {changed : StoredValueBalance}, changed = account.storedValue →
      changed.currency = account.storedValue.currency ∧
        changed.amount.units = account.storedValue.amount.units + 0 - 0 := by
    rintro changed rfl
    exact ⟨rfl, by omega⟩
  cases operation with
  | credit amount =>
    simp only [step, credited, debited, perform]
    rcases account.creditStoredValue_cases amount with
      ⟨hok, -, hcurrency, hunits⟩ | ⟨⟨e, he⟩, hsame⟩
    · rw [hok]
      refine ⟨hcurrency, ?_⟩
      simp only [Option.toList_some, Option.toList_none, List.sum_singleton, List.sum_nil]
      omega
    · rw [he]
      exact hkept (congrArg storedValue hsame)
  | debit amount =>
    simp only [step, credited, debited, perform]
    rcases account.debitStoredValue_cases amount with
      ⟨hok, -, hcurrency, hunits⟩ | ⟨⟨e, he⟩, hsame⟩
    · rw [hok]
      refine ⟨hcurrency, ?_⟩
      simp only [Option.toList_some, Option.toList_none, List.sum_singleton, List.sum_nil]
      omega
    · rw [he]
      exact hkept (congrArg storedValue hsame)
  | suspend => exact hkept (inPlace_storedValue fun _ => suspend_storedValue)
  | reactivate => exact hkept (inPlace_storedValue fun _ => reactivate_storedValue)
  | close => exact hkept rfl
  | changeEligibility eligibility =>
    exact hkept (inPlace_storedValue fun _ => changeEligibility_storedValue)

/-- Nothing changes a closed account. -/
theorem step_closed {account : TransitAccount} (h : account.status = .closed)
    (operation : Operation) : account.step operation = account := by
  cases operation with
  | credit amount =>
    rcases account.creditStoredValue_cases amount with ⟨-, hopen, -⟩ | ⟨-, hsame⟩
    · exact absurd h hopen
    · exact hsame
  | debit amount =>
    rcases account.debitStoredValue_cases amount with ⟨-, hactive, -⟩ | ⟨-, hsame⟩
    · rw [h] at hactive
      cases hactive
    · exact hsame
  | suspend => simp only [step, perform, suspend, h, inPlace]
  | reactivate => simp only [step, perform, reactivate, h, inPlace]
  | close =>
    show { account with status := .closed } = account
    rw [← h]
  | changeEligibility eligibility =>
    simp only [step, perform, changeEligibility, h, if_true, inPlace]

theorem run_closed {account : TransitAccount} (h : account.status = .closed)
    (operations : List Operation) : Runs.run step account operations = account :=
  Runs.invariant (P := (· = account))
    (fun _ operation hsame => by rw [hsame]; exact step_closed h operation) rfl operations

/-- A whole run moves the balance by all its credits and debits. -/
theorem run_ledger (account : TransitAccount) (operations : List Operation) :
    (Runs.run step account operations).storedValue.currency = account.storedValue.currency ∧
      (Runs.run step account operations).storedValue.amount.units =
        account.storedValue.amount.units + (Runs.trace step credited account operations).sum -
          (Runs.trace step debited account operations).sum := by
  induction operations generalizing account with
  | nil =>
    refine ⟨rfl, ?_⟩
    simp only [Runs.run_nil, Runs.trace_nil, List.sum_nil]
    omega
  | cons operation rest ih =>
    obtain ⟨hcurrency, hunits⟩ := ih (account.step operation)
    obtain ⟨hstepCurrency, hstepUnits⟩ := account.step_ledger operation
    refine ⟨hcurrency.trans hstepCurrency, ?_⟩
    rw [Runs.run_cons, hunits, hstepUnits, Runs.trace, Runs.trace, List.sum_append, List.sum_append]
    omega

/-! ## Calls that all have to succeed -/

/-- The calls in turn, up to the first that fails. -/
def performAll (account : TransitAccount) :
    List Operation → Except TransitAccountError TransitAccount
  | [] => .ok account
  | operation :: rest =>
    match account.perform operation with
    | (.ok _, changed) => changed.performAll rest
    | (.error error, _) => .error error

/-- The amounts to credit. -/
def credits (operations : List Operation) : List Int :=
  operations.filterMap fun
    | .credit amount => some amount.units
    | _ => none

/-- The amounts to debit. -/
def debits (operations : List Operation) : List Int :=
  operations.filterMap fun
    | .debit amount => some amount.units
    | _ => none

theorem performAll_cons {account changed : TransitAccount} {operation : Operation}
    {rest : List Operation} (h : account.performAll (operation :: rest) = .ok changed) :
    (account.perform operation).1 = .ok () ∧
      (account.step operation).performAll rest = .ok changed := by
  rw [performAll] at h
  split at h
  · next u next hperform =>
    rw [step, hperform]
    exact ⟨rfl, h⟩
  · cases h

theorem performAll_append {account changed : TransitAccount} {operations more : List Operation} :
    account.performAll (operations ++ more) = .ok changed ↔
      ∃ reached, account.performAll operations = .ok reached ∧
        reached.performAll more = .ok changed := by
  induction operations generalizing account with
  | nil => simp only [List.nil_append, performAll, Except.ok.injEq, exists_eq_left']
  | cons operation rest ih =>
    simp only [List.cons_append, performAll]
    split
    · exact ih
    · simp only [reduceCtorEq, false_and, exists_false]

/-- Where all calls succeed, the account moves as in the run of the calls, and
every amount counts. -/
theorem performAll_ok {account changed : TransitAccount} {operations : List Operation}
    (h : account.performAll operations = .ok changed) :
    changed = Runs.run step account operations ∧
      Runs.trace step credited account operations = credits operations ∧
      Runs.trace step debited account operations = debits operations := by
  induction operations generalizing account with
  | nil =>
    cases h
    exact ⟨rfl, rfl, rfl⟩
  | cons operation rest ih =>
    obtain ⟨hok, hrest⟩ := performAll_cons h
    obtain ⟨hrun, hcredits, hdebits⟩ := ih hrest
    refine ⟨hrun, ?_, ?_⟩
    · rw [Runs.trace, hcredits]
      cases operation <;> simp only [credited, hok] <;> rfl
    · rw [Runs.trace, hdebits]
      cases operation <;> simp only [debited, hok] <;> rfl

/-- The balance after calls that all succeeded. -/
theorem performAll_units {account changed : TransitAccount} {operations : List Operation}
    (h : account.performAll operations = .ok changed) :
    changed.storedValue.amount.units =
      account.storedValue.amount.units + (credits operations).sum - (debits operations).sum := by
  obtain ⟨rfl, hcredits, hdebits⟩ := performAll_ok h
  rw [(run_ledger account operations).2, hcredits, hdebits]

/-- No call changes whose account it is. -/
theorem step_identity (account : TransitAccount) (operation : Operation) :
    (account.step operation).id = account.id ∧
      (account.step operation).riderId = account.riderId := by
  have hinPlace : ∀ {result : Except TransitAccountError TransitAccount},
      (∀ changed, result = .ok changed →
        changed.id = account.id ∧ changed.riderId = account.riderId) →
      (inPlace account result).2.id = account.id ∧
        (inPlace account result).2.riderId = account.riderId := by
    intro result h
    cases result with
    | ok changed => exact h changed rfl
    | error e => exact ⟨rfl, rfl⟩
  cases operation with
  | credit amount =>
    simp only [step, perform, creditStoredValue]
    split <;> exact ⟨rfl, rfl⟩
  | debit amount =>
    simp only [step, perform, debitStoredValue]
    split <;> exact ⟨rfl, rfl⟩
  | suspend =>
    refine hinPlace fun changed h => ?_
    unfold suspend at h
    split at h <;> cases h <;> exact ⟨rfl, rfl⟩
  | reactivate =>
    refine hinPlace fun changed h => ?_
    unfold reactivate at h
    split at h <;> cases h <;> exact ⟨rfl, rfl⟩
  | close => exact ⟨rfl, rfl⟩
  | changeEligibility eligibility =>
    refine hinPlace fun changed h => ?_
    unfold changeEligibility at h
    split at h <;> cases h
    exact ⟨rfl, rfl⟩

theorem run_identity (account : TransitAccount) (operations : List Operation) :
    (Runs.run step account operations).id = account.id ∧
      (Runs.run step account operations).riderId = account.riderId :=
  Runs.invariant
    (P := fun reached : TransitAccount =>
      reached.id = account.id ∧ reached.riderId = account.riderId)
    (fun reached operation h =>
      have hstep := reached.step_identity operation
      ⟨hstep.1.trans h.1, hstep.2.trans h.2⟩)
    ⟨rfl, rfl⟩ operations

theorem new_ok {id : TransitAccountId} {riderId : RiderId} {eligibility : EligibilityClassification}
    {initialBalance : Money} {account : TransitAccount}
    (h : new id riderId eligibility initialBalance = .ok account) :
    account.storedValue.amount = initialBalance := by
  simp only [new, bind_eq_ok, mapError_eq_ok, StoredValueBalance.new] at h
  obtain ⟨storedValue, hbalance, h⟩ := h
  split at hbalance
  · cases hbalance
  · cases hbalance
    cases h
    rfl

/-- The ledger of an account. After any calls the balance is not negative, of
the first currency, and exactly what was there plus the successful credits less
the successful debits. -/
theorem account_ledger {id : TransitAccountId} {riderId : RiderId}
    {eligibility : EligibilityClassification} {initialBalance : Money} {account : TransitAccount}
    (h : new id riderId eligibility initialBalance = .ok account) (operations : List Operation) :
    let reached := Runs.run step account operations
    0 ≤ reached.storedValue.amount.units ∧
      reached.storedValue.currency = initialBalance.currency ∧
      reached.storedValue.amount.units = initialBalance.units +
        (Runs.trace step credited account operations).sum -
          (Runs.trace step debited account operations).sum ∧
      (∀ amount, (reached.perform (.debit amount)).1 = .ok () → reached.status = .active) ∧
      (reached.status = .closed → ∀ later, Runs.run step reached later = reached) ∧
      ∀ operation e, (reached.perform operation).1 = .error e →
        (reached.perform operation).2 = reached := by
  intro reached
  obtain ⟨hcurrency, hunits⟩ := run_ledger account operations
  have hinitial := new_ok h
  refine ⟨Money.isNegative_eq_false.mp reached.storedValue.nonneg, ?_, ?_, ?_, run_closed,
    fun _ _ => perform_error⟩
  · rw [hcurrency, StoredValueBalance.currency, hinitial]
  · rw [hunits, hinitial]
  · intro amount hok
    rcases reached.debitStoredValue_cases amount with ⟨-, hactive, -⟩ | ⟨⟨e, he⟩, -⟩
    · exact hactive
    · cases hok.symm.trans he

/-- An account opened with 5.00. -/
def sampleOpened : TransitAccount where
  id := ⟨⟨0x70008000000000000051#128, by decide⟩⟩
  riderId := ⟨⟨0x70008000000000000052#128, by decide⟩⟩
  status := .active
  eligibility := .standard
  storedValue := ⟨⟨500, .usd⟩, rfl⟩

/-- A credit of 3.00, a debit it does not cover, and one that it does. -/
theorem account_ledger_sample :
    (Runs.run step sampleOpened
      [.credit ⟨300, .usd⟩, .debit ⟨900, .usd⟩, .debit ⟨200, .usd⟩]).storedValue.amount.units =
        500 + (Runs.trace step credited sampleOpened
          [.credit ⟨300, .usd⟩, .debit ⟨900, .usd⟩, .debit ⟨200, .usd⟩]).sum -
        (Runs.trace step debited sampleOpened
          [.credit ⟨300, .usd⟩, .debit ⟨900, .usd⟩, .debit ⟨200, .usd⟩]).sum :=
  (account_ledger (show new sampleOpened.id sampleOpened.riderId .standard ⟨500, .usd⟩ =
    .ok sampleOpened from rfl) _).2.2.1

end TransitAccount

end TransitGuard
