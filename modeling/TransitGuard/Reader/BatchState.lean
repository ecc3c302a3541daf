import TransitGuard.Reader.Batch

/-!
Transitions of whole batches: submission, retryable failure, restart recovery
and the two final failures. The submission and the final failures also move
the transactions of the batch, and insist that none of them is left out.
-/

namespace TransitGuard.Reader

open Fallible

/-- `ReaderSynchronizationStateError`. The final failures report through
`ReaderSynchronizationFailureError`, which has these variants less
`RetryBeforeUpdate`. -/
inductive ReaderSynchronizationStateError
  | negativeOperationTime (unixMilliseconds : UnixMilliseconds)
  | emptyFailureCategory
  | retryBeforeUpdate (retryAt updatedAt : UnixMilliseconds)
  | invalidTransition (batchId : SynchronizationBatchId) (transition : String)
  | batchEntryConflict (batchId : SynchronizationBatchId) (expected updated : Nat)
  | invalidStoredValue (field : String)
  | synchronization (error : ReaderSynchronizationError)
  | database (operation : String)
  deriving DecidableEq

/-! ## Conditions and assignments -/

/-- `WHERE batch_id = ? AND reader_id = ?`. -/
def SynchronizationBatchRow.named (row : SynchronizationBatchRow) (readerId : ReaderId)
    (batchId : SynchronizationBatchId) : Bool :=
  row.batchId == batchId && row.readerId == readerId

/-- Prepared, or retryable with its retry time reached. -/
def SynchronizationBatchRow.readyAt (row : SynchronizationBatchRow) (t : UnixMilliseconds) :
    Bool :=
  match row.batchState with
  | .prepared => true
  | .retryableFailure => row.nextRetryAt.all (· ≤ t)
  | _ => false

/-- `AND batch_state = 'in_flight' AND updated_at_unix_milliseconds <= ?`. -/
def SynchronizationBatchRow.inFlightBy (row : SynchronizationBatchRow) (t : UnixMilliseconds) :
    Bool :=
  row.batchState == .inFlight && row.updatedAt ≤ t

/-- The assignments of the submission. `COALESCE` keeps the first submission
time. -/
def SynchronizationBatchRow.submit (t : UnixMilliseconds) (row : SynchronizationBatchRow) :
    SynchronizationBatchRow :=
  { row with
    batchState := .inFlight
    attemptCount := row.attemptCount + 1
    submittedAt := some (row.submittedAt.getD t)
    nextRetryAt := none
    lastFailureCategory := none
    updatedAt := t }

/-- The assignments of every other transition out of the in-flight state. -/
def SynchronizationBatchRow.leave (state : SynchronizationBatchState)
    (retryAt : Option UnixMilliseconds) (category : Option String) (t : UnixMilliseconds)
    (row : SynchronizationBatchRow) : SynchronizationBatchRow :=
  { row with
    batchState := state
    nextRetryAt := retryAt
    lastFailureCategory := category
    updatedAt := t }

/-- `attempt_count = attempt_count + 1` on a transaction of the batch. -/
def OfflineTransactionRow.countAttempt (t : UnixMilliseconds) (row : OfflineTransactionRow) :
    OfflineTransactionRow :=
  { row with attemptCount := row.attemptCount + 1, updatedAt := t }

/-- `fare_transaction_id IN (SELECT .. WHERE batch_id = ? AND reader_id = ?)`. -/
def ReaderDatabase.inBatch (db : ReaderDatabase) (readerId : ReaderId)
    (batchId : SynchronizationBatchId) (row : OfflineTransactionRow) : Bool :=
  (db.batchEntries readerId batchId).any (·.fareTransactionId == row.fareTransactionId)

/-- The transactions a batch transition reaches: in flight, not updated later,
and an entry of the batch. -/
def ReaderDatabase.inFlightEntry (db : ReaderDatabase) (readerId : ReaderId)
    (batchId : SynchronizationBatchId) (t : UnixMilliseconds) (row : OfflineTransactionRow) :
    Bool :=
  row.readerId == readerId && row.inFlightBy t && db.inBatch readerId batchId row

/-! ## Statements -/

/-- An UPDATE of the batches, with the number of rows it changed. -/
def updateBatches (db : ReaderDatabase) (operation : String)
    (p : SynchronizationBatchRow → Bool)
    (f : SynchronizationBatchRow → SynchronizationBatchRow) :
    Except ReaderSynchronizationStateError (Nat × ReaderDatabase) := do
  let (batches, affected) ← orFail (.database operation)
    (Table.update SynchronizationBatchRow.check p f db.synchronizationBatches)
  .ok (affected, { db with synchronizationBatches := batches })

/-- `if result.rows_affected() != 1`. -/
def requireChangedBatch (batchId : SynchronizationBatchId) (transition : String)
    (affected : Nat) : Except ReaderSynchronizationStateError Unit :=
  if affected = 1 then .ok () else .error (.invalidTransition batchId transition)

/-- An UPDATE that has to change exactly one batch. -/
def updateOneBatch (db : ReaderDatabase) (operation transition : String)
    (batchId : SynchronizationBatchId) (p : SynchronizationBatchRow → Bool)
    (f : SynchronizationBatchRow → SynchronizationBatchRow) :
    Except ReaderSynchronizationStateError (List SynchronizationBatchRow) := do
  let (batches, affected) ← orFail (.database operation)
    (Table.update SynchronizationBatchRow.check p f db.synchronizationBatches)
  if affected ≠ 1 then .error (.invalidTransition batchId transition)
  .ok batches

/-- An UPDATE that has to reach the transaction of every entry of the batch. -/
def updateEntryTransactions (db : ReaderDatabase) (operation : String) (readerId : ReaderId)
    (batchId : SynchronizationBatchId) (t : UnixMilliseconds)
    (f : OfflineTransactionRow → OfflineTransactionRow) :
    Except ReaderSynchronizationStateError (List OfflineTransactionRow) := do
  let expected := (db.batchEntries readerId batchId).length
  if expected = 0 then .error (.invalidStoredValue "batch_entry_count")
  let (transactions, updated) ← orFail (.database operation)
    (Table.update OfflineTransactionRow.check (db.inFlightEntry readerId batchId t) f
      db.offlineTransactions)
  if updated ≠ expected then .error (.batchEntryConflict batchId expected updated)
  .ok transactions

/-- The batch is read again after the commit, so a row that cannot be decoded
turns a committed transition into an error. -/
def thenLoad (readerId : ReaderId) (batchId : SynchronizationBatchId)
    (committed : Outcome ReaderSynchronizationStateError Unit) :
    Outcome ReaderSynchronizationStateError SynchronizationBatch where
  database := committed.database
  result := do
    committed.result
    (loadSynchronizationBatch committed.database readerId batchId).mapError .synchronization

@[simp] theorem thenLoad_database {readerId : ReaderId} {batchId : SynchronizationBatchId}
    {committed : Outcome ReaderSynchronizationStateError Unit} :
    (thenLoad readerId batchId committed).database = committed.database := rfl

/-! ## Operations -/

/-- `mark_synchronization_batch_in_flight`. -/
def markSynchronizationBatchInFlight (db : ReaderDatabase) (readerId : ReaderId)
    (batchId : SynchronizationBatchId) (attemptedAt : UnixMilliseconds) :
    Outcome ReaderSynchronizationStateError SynchronizationBatch :=
  thenLoad readerId batchId <| transact db do
    validateTime .negativeOperationTime attemptedAt
    let batches ← updateOneBatch db "mark batch in flight" "mark_in_flight" batchId
      (fun row => row.named readerId batchId && row.updatedAt ≤ attemptedAt &&
        row.readyAt attemptedAt)
      (·.submit attemptedAt)
    let transactions ← updateEntryTransactions db "increment batch entry attempts" readerId
      batchId attemptedAt (·.countAttempt attemptedAt)
    .ok ((), { db with
      synchronizationBatches := batches, offlineTransactions := transactions })

/-- `record_synchronization_retryable_failure`. Its UPDATE runs outside any
transaction. -/
def recordSynchronizationRetryableFailure (db : ReaderDatabase) (readerId : ReaderId)
    (batchId : SynchronizationBatchId) (failureCategory : String)
    (updatedAt retryAt : UnixMilliseconds) :
    Outcome ReaderSynchronizationStateError SynchronizationBatch :=
  thenLoad readerId batchId <| Outcome.andThen
    (transact db do
      validateTime .negativeOperationTime updatedAt
      validateTime .negativeOperationTime retryAt
      if retryAt < updatedAt then .error (.retryBeforeUpdate retryAt updatedAt)
      let category ← validateCategory .emptyFailureCategory failureCategory
      updateBatches db "record retryable batch failure"
        (fun row => row.named readerId batchId && row.inFlightBy updatedAt)
        (·.leave .retryableFailure (some retryAt) (some category) updatedAt))
    (requireChangedBatch batchId "record_retryable_failure")

/-- `recover_interrupted_synchronization_batches`. -/
def recoverInterruptedSynchronizationBatches (db : ReaderDatabase) (readerId : ReaderId)
    (recoveredAt : UnixMilliseconds) : Outcome ReaderSynchronizationStateError Nat :=
  transact db do
    validateTime .negativeOperationTime recoveredAt
    updateBatches db "recover interrupted batches"
      (fun row => row.readerId == readerId && row.inFlightBy recoveredAt)
      (·.leave .retryableFailure (some recoveredAt) (some restartFailureCategory) recoveredAt)

/-- `record_final_synchronization_failure`. -/
def recordFinalSynchronizationFailure (db : ReaderDatabase) (readerId : ReaderId)
    (batchId : SynchronizationBatchId) (failureCategory : String) (updatedAt : UnixMilliseconds)
    (target : FinalState) (transition : String) :
    Outcome ReaderSynchronizationStateError SynchronizationBatch :=
  thenLoad readerId batchId <| transact db do
    validateTime .negativeOperationTime updatedAt
    let category ← validateCategory .emptyFailureCategory failureCategory
    let batches ← updateOneBatch db "record final batch failure" transition batchId
      (fun row => row.named readerId batchId && row.inFlightBy updatedAt)
      (·.leave target.batchState none (some category) updatedAt)
    let transactions ← updateEntryTransactions db "record final queue failures" readerId batchId
      updatedAt (·.resolve target.queueState none (some category) updatedAt)
    .ok ((), { db with
      synchronizationBatches := batches, offlineTransactions := transactions })

/-- `record_synchronization_permanent_failure`. -/
def recordSynchronizationPermanentFailure (db : ReaderDatabase) (readerId : ReaderId)
    (batchId : SynchronizationBatchId) (failureCategory : String)
    (updatedAt : UnixMilliseconds) :
    Outcome ReaderSynchronizationStateError SynchronizationBatch :=
  recordFinalSynchronizationFailure db readerId batchId failureCategory updatedAt
    .permanentFailure "record_permanent_failure"

/-- `record_synchronization_manual_review`. -/
def recordSynchronizationManualReview (db : ReaderDatabase) (readerId : ReaderId)
    (batchId : SynchronizationBatchId) (failureCategory : String)
    (updatedAt : UnixMilliseconds) :
    Outcome ReaderSynchronizationStateError SynchronizationBatch :=
  recordFinalSynchronizationFailure db readerId batchId failureCategory updatedAt
    .manualReview "record_manual_review"

end TransitGuard.Reader
