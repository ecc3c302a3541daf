import TransitGuard.Reader.Queue

/-!
Transitions of single queue rows. Each is one conditional UPDATE outside any
transaction, so it is committed before its number of rows is looked at. None of
the transitions on a named transaction looks at the batches it belongs to, only
the restart recovery does.
-/

namespace TransitGuard.Reader

open Fallible

/-- `ReaderQueueStateError`. -/
inductive ReaderQueueStateError
  | negativeOperationTime (unixMilliseconds : UnixMilliseconds)
  | emptyFailureCategory
  | retryBeforeUpdate (retryAt updatedAt : UnixMilliseconds)
  | zeroReadLimit
  | invalidTransition (transactionId : FareTransactionId) (transition : String)
  | queue (error : ReaderQueueError)
  | database (operation : String)
  deriving DecidableEq

/-- `RESTART_FAILURE_CATEGORY`. -/
def restartFailureCategory : String := "reader_restart"

/-- Pending, or retryable with its retry time reached: the condition shared by
the in-flight transition, the batch candidates and their reservation. -/
def OfflineTransactionRow.eligibleAt (row : OfflineTransactionRow) (t : UnixMilliseconds) :
    Bool :=
  match row.queueState with
  | .pending => true
  | .retryableFailure => row.nextRetryAt.all (· ≤ t)
  | _ => false

/-- `WHERE fare_transaction_id = ? AND reader_id = ?`. -/
def OfflineTransactionRow.named (row : OfflineTransactionRow) (readerId : ReaderId)
    (transactionId : FareTransactionId) : Bool :=
  row.fareTransactionId == transactionId && row.readerId == readerId

/-- `AND queue_state = 'in_flight' AND updated_at_unix_milliseconds <= ?`. -/
def OfflineTransactionRow.inFlightBy (row : OfflineTransactionRow) (t : UnixMilliseconds) :
    Bool :=
  row.queueState == .inFlight && row.updatedAt ≤ t

def OfflineTransactionRow.markInFlight (t : UnixMilliseconds) (row : OfflineTransactionRow) :
    OfflineTransactionRow :=
  { row with
    queueState := .inFlight
    attemptCount := row.attemptCount + 1
    nextRetryAt := none
    lastFailureCategory := none
    updatedAt := t }

/-- The three columns a failure or a resolution sets, with the update time. -/
def OfflineTransactionRow.resolve (state : OfflineQueueState) (retryAt : Option UnixMilliseconds)
    (category : Option String) (t : UnixMilliseconds) (row : OfflineTransactionRow) :
    OfflineTransactionRow :=
  { row with
    queueState := state
    nextRetryAt := retryAt
    lastFailureCategory := category
    updatedAt := t }

/-- An UPDATE of the queue, with the number of rows it changed. -/
def updateTransactions (db : ReaderDatabase) (operation : String)
    (p : OfflineTransactionRow → Bool) (f : OfflineTransactionRow → OfflineTransactionRow) :
    Except ReaderQueueStateError (Nat × ReaderDatabase) := do
  let (rows, affected) ← orFail (.database operation)
    (Table.update OfflineTransactionRow.check p f db.offlineTransactions)
  .ok (affected, { db with offlineTransactions := rows })

/-- `require_changed_row`. The UPDATE it judges is committed by then. -/
def requireChangedRow (transactionId : FareTransactionId) (transition : String)
    (affected : Nat) : Except ReaderQueueStateError Unit :=
  if affected = 1 then .ok () else .error (.invalidTransition transactionId transition)

/-- `mark_offline_transaction_in_flight`. -/
def markOfflineTransactionInFlight (db : ReaderDatabase) (readerId : ReaderId)
    (transactionId : FareTransactionId) (attemptedAt : UnixMilliseconds) :
    Outcome ReaderQueueStateError Unit :=
  Outcome.andThen
    (transact db do
      validateTime .negativeOperationTime attemptedAt
      updateTransactions db "mark transaction in flight"
        (fun row => row.named readerId transactionId && row.updatedAt ≤ attemptedAt &&
          row.eligibleAt attemptedAt)
        (·.markInFlight attemptedAt))
    (requireChangedRow transactionId "mark_in_flight")

/-- `record_retryable_queue_failure`. -/
def recordRetryableQueueFailure (db : ReaderDatabase) (readerId : ReaderId)
    (transactionId : FareTransactionId) (failureCategory : String)
    (updatedAt retryAt : UnixMilliseconds) : Outcome ReaderQueueStateError Unit :=
  Outcome.andThen
    (transact db do
      validateTime .negativeOperationTime updatedAt
      validateTime .negativeOperationTime retryAt
      if retryAt < updatedAt then .error (.retryBeforeUpdate retryAt updatedAt)
      let category ← validateCategory .emptyFailureCategory failureCategory
      updateTransactions db "record retryable failure"
        (fun row => row.named readerId transactionId && row.inFlightBy updatedAt)
        (·.resolve .retryableFailure (some retryAt) (some category) updatedAt))
    (requireChangedRow transactionId "record_retryable_failure")

/-- The two targets `record_final_failure` accepts. -/
inductive FinalState
  | permanentFailure
  | manualReview
  deriving DecidableEq, Repr

def FinalState.queueState : FinalState → OfflineQueueState
  | .permanentFailure => .permanentFailure
  | .manualReview => .manualReview

def FinalState.batchState : FinalState → SynchronizationBatchState
  | .permanentFailure => .permanentFailure
  | .manualReview => .manualReview

def FinalState.asStr : FinalState → String
  | .permanentFailure => "permanent_failure"
  | .manualReview => "manual_review"

/-- `record_final_failure`. -/
def recordFinalFailure (db : ReaderDatabase) (readerId : ReaderId)
    (transactionId : FareTransactionId) (failureCategory : String)
    (updatedAt : UnixMilliseconds) (target : FinalState) : Outcome ReaderQueueStateError Unit :=
  Outcome.andThen
    (transact db do
      validateTime .negativeOperationTime updatedAt
      let category ← validateCategory .emptyFailureCategory failureCategory
      updateTransactions db "record final queue failure"
        (fun row => row.named readerId transactionId && row.inFlightBy updatedAt)
        (·.resolve target.queueState none (some category) updatedAt))
    (requireChangedRow transactionId target.asStr)

/-- `record_permanent_queue_failure`. -/
def recordPermanentQueueFailure (db : ReaderDatabase) (readerId : ReaderId)
    (transactionId : FareTransactionId) (failureCategory : String)
    (updatedAt : UnixMilliseconds) : Outcome ReaderQueueStateError Unit :=
  recordFinalFailure db readerId transactionId failureCategory updatedAt .permanentFailure

/-- `record_manual_review_required`. -/
def recordManualReviewRequired (db : ReaderDatabase) (readerId : ReaderId)
    (transactionId : FareTransactionId) (failureCategory : String)
    (updatedAt : UnixMilliseconds) : Outcome ReaderQueueStateError Unit :=
  recordFinalFailure db readerId transactionId failureCategory updatedAt .manualReview

/-- `recover_interrupted_offline_queue`. -/
def recoverInterruptedOfflineQueue (db : ReaderDatabase) (readerId : ReaderId)
    (recoveredAt : UnixMilliseconds) : Outcome ReaderQueueStateError Nat :=
  transact db do
    validateTime .negativeOperationTime recoveredAt
    updateTransactions db "recover interrupted queue"
      (fun row => row.readerId == readerId && row.inFlightBy recoveredAt && !db.inOpenBatch row)
      (·.resolve .retryableFailure (some recoveredAt) (some restartFailureCategory) recoveredAt)

end TransitGuard.Reader
