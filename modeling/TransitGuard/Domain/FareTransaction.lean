import TransitGuard.Library.Runs
import TransitGuard.Library.Fallible
import TransitGuard.Domain.Transaction

/-!
Fare transactions, the records of simulated taps. A transaction waits for its
decision, is decided once, and is reconciled only after that. Which of the calls
made on it succeed, and where they leave it, is read off the calls alone.
-/

namespace TransitGuard

open Fallible Runs

def FareDecision.chargedAmount : FareDecision → Option Money
  | .approved chargedAmount _ => some chargedAmount
  | .rejected _ => none

inductive FareTransactionStatus
  | pendingDecision
  | decided
  | reconciled
  deriving DecidableEq, Repr

inductive FareTransactionError
  | decisionConflict (existing requested : FareDecision)
  | cannotReconcileUndecided (status : FareTransactionStatus)
  deriving DecidableEq, Repr

/-- The fields are private to the source's module, and no constructor or call
leaves a decided transaction without its decision. -/
structure FareTransaction where
  id : FareTransactionId
  transitAccountId : TransitAccountId
  fareCredentialId : FareCredentialId
  readerId : ReaderId
  localSequenceNumber : LocalSequenceNumber
  farePolicyVersion : FarePolicyVersion
  eventTime : EventTime
  processingMode : FareProcessingMode
  status : FareTransactionStatus
  decision : Option FareDecision
  pending_iff : status = .pendingDecision ↔ decision = none
  deriving DecidableEq

namespace FareTransaction

def newPending (id : FareTransactionId) (transitAccountId : TransitAccountId)
    (fareCredentialId : FareCredentialId) (readerId : ReaderId)
    (localSequenceNumber : LocalSequenceNumber) (farePolicyVersion : FarePolicyVersion)
    (eventTime : EventTime) (processingMode : FareProcessingMode) : FareTransaction where
  id := id
  transitAccountId := transitAccountId
  fareCredentialId := fareCredentialId
  readerId := readerId
  localSequenceNumber := localSequenceNumber
  farePolicyVersion := farePolicyVersion
  eventTime := eventTime
  processingMode := processingMode
  status := .pendingDecision
  decision := none
  pending_iff := by simp

def chargedAmount (transaction : FareTransaction) : Option Money :=
  match transaction.decision with
  | some decision => decision.chargedAmount
  | none => none

/-- Repeating the same decision is idempotent, a different one is rejected. -/
def recordDecision (transaction : FareTransaction) (decision : FareDecision) :
    Except FareTransactionError FareTransaction :=
  match transaction.decision with
  | some existing =>
    if existing = decision then .ok transaction
    else .error (.decisionConflict existing decision)
  | none =>
    .ok { transaction with
      decision := some decision
      status := .decided
      pending_iff := by simp }

theorem decision_ne_none {transaction : FareTransaction} (h : transaction.status = .decided) :
    transaction.decision ≠ none := by
  rw [Ne, ← transaction.pending_iff, h]
  decide

/-- Repeating reconciliation is idempotent. -/
def markReconciled (transaction : FareTransaction) :
    Except FareTransactionError FareTransaction :=
  match h : transaction.status with
  | .pendingDecision => .error (.cannotReconcileUndecided transaction.status)
  | .decided =>
    .ok { transaction with
      status := .reconciled
      pending_iff := by simp [decision_ne_none h] }
  | .reconciled => .ok transaction

/-- A call on a transaction. -/
inductive Operation
  | recordDecision (decision : FareDecision)
  | markReconciled
  deriving DecidableEq

/-- What the call returns, and the transaction it leaves. -/
def perform (transaction : FareTransaction) :
    Operation → Except FareTransactionError Unit × FareTransaction
  | .recordDecision decision => inPlace transaction (transaction.recordDecision decision)
  | .markReconciled => inPlace transaction transaction.markReconciled

def step (transaction : FareTransaction) (operation : Operation) : FareTransaction :=
  (transaction.perform operation).2

/-! ## One call -/

/-- The decision that a call brings. -/
def Operation.decision : Operation → Option FareDecision
  | .recordDecision decision => some decision
  | .markReconciled => none

/-- The first decision stays. -/
theorem decision_step (transaction : FareTransaction) (operation : Operation) :
    (transaction.step operation).decision = transaction.decision.or operation.decision := by
  cases operation with
  | recordDecision decision =>
    simp only [step, perform, recordDecision, Operation.decision]
    cases h : transaction.decision with
    | none => rfl
    | some existing =>
      by_cases heq : existing = decision
      · simp [heq, inPlace, h]
      · simp [heq, inPlace, h]
  | markReconciled =>
    simp only [step, perform, markReconciled, Operation.decision, Option.or_none]
    split <;> rfl

/-- Reconciliation reaches decided transactions, and nothing leaves it. -/
theorem reconciled_step (transaction : FareTransaction) (operation : Operation) :
    (transaction.step operation).status = .reconciled ↔
      transaction.status = .reconciled ∨
        operation = .markReconciled ∧ transaction.decision ≠ none := by
  cases operation with
  | recordDecision decision =>
    simp only [step, perform, recordDecision, reduceCtorEq, false_and, or_false]
    cases h : transaction.decision with
    | none =>
      have hpending := transaction.pending_iff.mpr h
      simp [inPlace, hpending]
    | some existing => by_cases heq : existing = decision <;> simp [heq, inPlace]
  | markReconciled =>
    simp only [step, perform, markReconciled, true_and, Ne, ← transaction.pending_iff]
    split <;> next h => simp [inPlace, h]

/-- A recording succeeds on an undecided transaction, or with its decision. -/
theorem recordDecision_ok (transaction : FareTransaction) (decision : FareDecision) :
    (transaction.perform (.recordDecision decision)).1 = .ok () ↔
      transaction.decision.or (some decision) = some decision := by
  simp only [perform, recordDecision]
  cases transaction.decision with
  | none => simp [inPlace]
  | some existing => by_cases heq : existing = decision <;> simp [heq, inPlace]

theorem markReconciled_ok (transaction : FareTransaction) :
    (transaction.perform .markReconciled).1 = .ok () ↔ transaction.decision ≠ none := by
  simp only [perform, markReconciled, Ne, ← transaction.pending_iff]
  split <;> next h => simp [inPlace, h]

/-! ## Runs -/

/-- The first decision that the calls bring. -/
def firstDecision (operations : List Operation) : Option FareDecision :=
  operations.findSome? Operation.decision

theorem decision_run (transaction : FareTransaction) (operations : List Operation) :
    (run step transaction operations).decision =
      transaction.decision.or (firstDecision operations) := by
  induction operations generalizing transaction with
  | nil => simp [firstDecision]
  | cons operation operations ih =>
    rw [run_cons, ih, decision_step, Option.or_assoc]
    cases h : operation.decision with
    | none => simp [firstDecision, h]
    | some decision => simp [firstDecision, h]

theorem reconciled_run (transaction : FareTransaction) (operations : List Operation) :
    (run step transaction operations).status = .reconciled ↔
      transaction.status = .reconciled ∨
        ∃ earlier later, operations = earlier ++ .markReconciled :: later ∧
          (run step transaction earlier).decision ≠ none := by
  -- from the end of the list: the last call is the one that reconciles, or it changes nothing
  induction operations using List.reverseRecOn with
  | nil => simp
  | append_singleton operations operation ih =>
    rw [run_append, run_cons, run_nil, reconciled_step, ih, or_assoc]
    refine or_congr_right ⟨?_, ?_⟩
    · rintro (⟨earlier, later, rfl, hdecided⟩ | ⟨rfl, hdecided⟩)
      · exact ⟨earlier, later ++ [operation], by simp, hdecided⟩
      · exact ⟨operations, [], rfl, hdecided⟩
    · rintro ⟨earlier, later, heq, hdecided⟩
      rcases List.eq_nil_or_concat' later with rfl | ⟨later, last, rfl⟩
      · obtain ⟨rfl, hlast⟩ := List.append_inj' heq rfl
        exact .inr ⟨(List.cons.inj hlast).1, hdecided⟩
      · rw [← List.cons_append, ← List.append_assoc] at heq
        exact .inl ⟨earlier, later, (List.append_inj' heq rfl).1, hdecided⟩

/-- The tap that a transaction is the record of. -/
def tap (transaction : FareTransaction) : FareTransactionId × TransitAccountId ×
    FareCredentialId × ReaderId × LocalSequenceNumber × FarePolicyVersion × EventTime ×
    FareProcessingMode :=
  (transaction.id, transaction.transitAccountId, transaction.fareCredentialId,
    transaction.readerId, transaction.localSequenceNumber, transaction.farePolicyVersion,
    transaction.eventTime, transaction.processingMode)

theorem tap_step (transaction : FareTransaction) (operation : Operation) :
    (transaction.step operation).tap = transaction.tap := by
  cases operation with
  | recordDecision decision =>
    simp only [step, perform, recordDecision]
    cases transaction.decision with
    | none => rfl
    | some existing => by_cases heq : existing = decision <;> simp [heq, inPlace]
  | markReconciled =>
    simp only [step, perform, markReconciled]
    split <;> rfl

theorem tap_run (transaction : FareTransaction) (operations : List Operation) :
    (run step transaction operations).tap = transaction.tap :=
  invariant (P := fun reached : FareTransaction => reached.tap = transaction.tap)
    (fun reached operation h => (reached.tap_step operation).trans h) rfl operations

/-- Where the calls made on an undecided transaction have left it, read off the
calls: it keeps the first decision they brought and charges what that decision
charges, takes that decision again and no other, and is reconciled when one of
them came after the decision. -/
structure Settled (undecided transaction : FareTransaction) (operations : List Operation) :
    Prop where
  tap : transaction.tap = undecided.tap
  decision : transaction.decision = firstDecision operations
  charged : transaction.chargedAmount = (firstDecision operations).bind FareDecision.chargedAmount
  records : ∀ decision, (transaction.perform (.recordDecision decision)).1 = .ok () ↔
    firstDecision (operations ++ [.recordDecision decision]) = some decision
  reconciles : (transaction.perform .markReconciled).1 = .ok () ↔ firstDecision operations ≠ none
  reconciled : transaction.status = .reconciled ↔
    ∃ earlier later, operations = earlier ++ .markReconciled :: later ∧
      firstDecision earlier ≠ none

theorem firstDecision_append (earlier later : List Operation) :
    firstDecision (earlier ++ later) = (firstDecision earlier).or (firstDecision later) :=
  List.findSome?_append

theorem chargedAmount_eq (transaction : FareTransaction) :
    transaction.chargedAmount = transaction.decision.bind FareDecision.chargedAmount := by
  unfold chargedAmount
  cases transaction.decision with
  | none => rfl
  | some decision => rfl

theorem settled_run {undecided : FareTransaction} (h : undecided.status = .pendingDecision)
    (operations : List Operation) :
    Settled undecided (run step undecided operations) operations := by
  have hnone : undecided.decision = none := undecided.pending_iff.mp h
  have hdecision : ∀ earlier : List Operation,
      (run step undecided earlier).decision = firstDecision earlier := by
    intro earlier
    rw [decision_run, hnone, Option.none_or]
  refine ⟨tap_run undecided operations, hdecision operations, ?_, ?_, ?_, ?_⟩
  · rw [chargedAmount_eq, hdecision]
  · intro decision
    rw [recordDecision_ok, hdecision, firstDecision_append]
    rfl
  · rw [markReconciled_ok, hdecision]
  · simp only [reconciled_run, h, reduceCtorEq, false_or, hdecision]

/-- Every run of calls on a new transaction. -/
theorem fareTransaction_settled (id : FareTransactionId) (transitAccountId : TransitAccountId)
    (fareCredentialId : FareCredentialId) (readerId : ReaderId)
    (localSequenceNumber : LocalSequenceNumber) (farePolicyVersion : FarePolicyVersion)
    (eventTime : EventTime) (processingMode : FareProcessingMode) (operations : List Operation) :
    Settled
      (newPending id transitAccountId fareCredentialId readerId localSequenceNumber
        farePolicyVersion eventTime processingMode)
      (run step
        (newPending id transitAccountId fareCredentialId readerId localSequenceNumber
          farePolicyVersion eventTime processingMode)
        operations)
      operations :=
  settled_run rfl operations

end FareTransaction

end TransitGuard
