import TransitGuard.Library.Runs
import TransitGuard.Reader.Storage
import TransitGuard.Reader.Queue
import TransitGuard.Reader.Application
import TransitGuard.Reader.Request

/-!
The public operations that write a reader database, as the inputs of one
transition system. An operation is a call with all its arguments; whether it
succeeds or fails, its step leads to the database the call leaves behind.
-/

namespace TransitGuard.Reader

inductive Operation
  | bind (identity : ReaderDatabaseIdentity)
  | enqueue (readerId : ReaderId) (draft : OfflineTransactionDraft)
  | markTransaction (readerId : ReaderId) (transactionId : FareTransactionId)
      (attemptedAt : UnixMilliseconds)
  | retryTransaction (readerId : ReaderId) (transactionId : FareTransactionId)
      (failureCategory : String) (updatedAt retryAt : UnixMilliseconds)
  | failTransaction (readerId : ReaderId) (transactionId : FareTransactionId)
      (failureCategory : String) (updatedAt : UnixMilliseconds) (target : FinalState)
  | recoverQueue (readerId : ReaderId) (recoveredAt : UnixMilliseconds)
  | createBatch (readerId : ReaderId) (protocolVersion : DeviceProtocolVersion)
      (createdAt : UnixMilliseconds) (limit : Nat) (generated : SynchronizationBatchId)
  | markBatch (readerId : ReaderId) (batchId : SynchronizationBatchId)
      (attemptedAt : UnixMilliseconds)
  | retryBatch (readerId : ReaderId) (batchId : SynchronizationBatchId)
      (failureCategory : String) (updatedAt retryAt : UnixMilliseconds)
  | failBatch (readerId : ReaderId) (batchId : SynchronizationBatchId)
      (failureCategory : String) (updatedAt : UnixMilliseconds) (target : FinalState)
  | recoverBatches (readerId : ReaderId) (recoveredAt : UnixMilliseconds)
  | storeAcknowledgement (acknowledgement : SynchronizationAcknowledgement)
  | applyAcknowledgement (readerId : ReaderId) (batchId : SynchronizationBatchId)
      (appliedAt : UnixMilliseconds)

variable (codec : Json.Codec)

/-- The database a call leaves behind. -/
def perform (db : ReaderDatabase) : Operation → ReaderDatabase
  | .bind identity => (bindReaderDatabase db identity).database
  | .enqueue readerId draft => (enqueueOfflineTransaction codec db readerId draft).database
  | .markTransaction readerId transactionId attemptedAt =>
    (markOfflineTransactionInFlight db readerId transactionId attemptedAt).database
  | .retryTransaction readerId transactionId failureCategory updatedAt retryAt =>
    (recordRetryableQueueFailure db readerId transactionId failureCategory updatedAt
      retryAt).database
  | .failTransaction readerId transactionId failureCategory updatedAt .permanentFailure =>
    (recordPermanentQueueFailure db readerId transactionId failureCategory updatedAt).database
  | .failTransaction readerId transactionId failureCategory updatedAt .manualReview =>
    (recordManualReviewRequired db readerId transactionId failureCategory updatedAt).database
  | .recoverQueue readerId recoveredAt =>
    (recoverInterruptedOfflineQueue db readerId recoveredAt).database
  | .createBatch readerId protocolVersion createdAt limit generated =>
    (createSynchronizationBatch db readerId protocolVersion createdAt limit generated).database
  | .markBatch readerId batchId attemptedAt =>
    (markSynchronizationBatchInFlight db readerId batchId attemptedAt).database
  | .retryBatch readerId batchId failureCategory updatedAt retryAt =>
    (recordSynchronizationRetryableFailure db readerId batchId failureCategory updatedAt
      retryAt).database
  | .failBatch readerId batchId failureCategory updatedAt .permanentFailure =>
    (recordSynchronizationPermanentFailure db readerId batchId failureCategory
      updatedAt).database
  | .failBatch readerId batchId failureCategory updatedAt .manualReview =>
    (recordSynchronizationManualReview db readerId batchId failureCategory updatedAt).database
  | .recoverBatches readerId recoveredAt =>
    (recoverInterruptedSynchronizationBatches db readerId recoveredAt).database
  | .storeAcknowledgement acknowledgement =>
    (storeSynchronizationAcknowledgement codec db acknowledgement).database
  | .applyAcknowledgement readerId batchId appliedAt =>
    (applySynchronizationAcknowledgement db readerId batchId appliedAt).database

/-- The operations on single queue rows. Everything else works on whole
batches or only adds to the queue. -/
def Operation.onTransaction : Operation → Bool
  | .markTransaction .. | .retryTransaction .. | .failTransaction .. => true
  | _ => false

end TransitGuard.Reader
