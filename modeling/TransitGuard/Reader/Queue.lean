import TransitGuard.Reader.Schema

/-!
The durable offline queue: the insertion that assigns the next local sequence
number in the same transaction, and the decoding of stored rows.
-/

namespace TransitGuard.Reader

open Fallible

/-- `OfflineTransactionDraft`; `new` refuses a negative creation time. -/
structure OfflineTransactionDraft where
  transactionId : FareTransactionId
  fareCredentialId : FareCredentialId
  eventTime : EventTime
  farePolicyVersion : FarePolicyVersion
  provisionalDecision : FareDecision
  transactionEnvelope : Json.Value
  createdAt : UnixMilliseconds
  createdAt_nonneg : 0 ≤ createdAt

structure QueuedOfflineTransaction where
  transactionId : FareTransactionId
  readerId : ReaderId
  localSequenceNumber : LocalSequenceNumber
  fareCredentialId : FareCredentialId
  eventTime : EventTime
  farePolicyVersion : FarePolicyVersion
  provisionalDecision : FareDecision
  transactionEnvelope : Json.Value
  queueState : OfflineQueueState
  attemptCount : Nat
  nextRetryAt : Option UnixMilliseconds
  lastFailureCategory : Option String
  createdAt : UnixMilliseconds
  updatedAt : UnixMilliseconds

/-- `ReaderQueueError`. Printing a JSON value cannot fail, so the variant
`Serialization` is left to the decoding side. -/
inductive ReaderQueueError
  | negativePersistenceTime (unixMilliseconds : UnixMilliseconds)
  | sequenceUnavailable (readerId : ReaderId)
  | writeConflict
  | serialization (field : String)
  | invalidStoredValue (field : String)
  | database (operation : String)
  deriving DecidableEq

def OfflineTransactionDraft.new (transactionId : FareTransactionId)
    (fareCredentialId : FareCredentialId) (eventTime : EventTime)
    (farePolicyVersion : FarePolicyVersion) (provisionalDecision : FareDecision)
    (transactionEnvelope : Json.Value) (createdAt : UnixMilliseconds) :
    Except ReaderQueueError OfflineTransactionDraft :=
  if h : 0 ≤ createdAt then
    .ok ⟨transactionId, fareCredentialId, eventTime, farePolicyVersion, provisionalDecision,
      transactionEnvelope, createdAt, h⟩
  else .error (.negativePersistenceTime createdAt)

/-- `ReaderQueueError::database` on a refused insertion. -/
def ReaderQueueError.ofViolation (operation : String) : Table.Violation → ReaderQueueError
  | .unique => .writeConflict
  | _ => .database operation

variable (codec : Json.Codec)

/-- The row inserted for a draft under an assigned sequence. -/
def OfflineTransactionDraft.toRow (draft : OfflineTransactionDraft) (readerId : ReaderId)
    (sequence : Nat) : OfflineTransactionRow where
  fareTransactionId := draft.transactionId
  readerId := readerId
  localSequenceNumber := sequence
  fareCredentialId := draft.fareCredentialId
  eventTime := draft.eventTime.unixMilliseconds
  farePolicyVersion := draft.farePolicyVersion.value
  provisionalDecisionJson := draft.provisionalDecision.toJson.render codec
  transactionEnvelopeJson := draft.transactionEnvelope.render codec
  queueState := .pending
  attemptCount := 0
  nextRetryAt := none
  lastFailureCategory := none
  createdAt := draft.createdAt
  updatedAt := draft.createdAt

/-- `UPDATE reader_state SET next_local_sequence = next_local_sequence + 1,
updated_at_unix_milliseconds = ?`. -/
def ReaderStateRow.assignSequence (row : ReaderStateRow) (t : UnixMilliseconds) :
    ReaderStateRow :=
  { row with nextLocalSequence := row.nextLocalSequence + 1, updatedAt := t }

/-- The statements of `enqueue_offline_transaction`. -/
def enqueueStatements (db : ReaderDatabase) (readerId : ReaderId)
    (draft : OfflineTransactionDraft) :
    Except ReaderQueueError (QueuedOfflineTransaction × ReaderDatabase) := do
  let row ← orFail (.sequenceUnavailable readerId)
    (db.readerState.filter fun row => row.readerId == readerId && row.nextLocalSequence < i64Max)
  let updated := row.assignSequence draft.createdAt
  if !updated.check then .error (.database "assign local sequence")
  let sequence ← decodeSequence (.invalidStoredValue "local_sequence_number")
    row.nextLocalSequence
  if i64Max < draft.farePolicyVersion.value then
    .error (.invalidStoredValue "fare_policy_version")
  let transactions ← (Table.insert OfflineTransactionRow.check OfflineTransactionRow.conflicts
    (updated.readerId == readerId) (draft.toRow codec readerId row.nextLocalSequence)
    db.offlineTransactions).mapError (.ofViolation "insert offline transaction")
  .ok ({ transactionId := draft.transactionId
         readerId := readerId
         localSequenceNumber := sequence
         fareCredentialId := draft.fareCredentialId
         eventTime := draft.eventTime
         farePolicyVersion := draft.farePolicyVersion
         provisionalDecision := draft.provisionalDecision
         transactionEnvelope := draft.transactionEnvelope
         queueState := .pending
         attemptCount := 0
         nextRetryAt := none
         lastFailureCategory := none
         createdAt := draft.createdAt
         updatedAt := draft.createdAt },
    { db with readerState := some updated, offlineTransactions := transactions })

/-- `enqueue_offline_transaction`. -/
def enqueueOfflineTransaction (db : ReaderDatabase) (readerId : ReaderId)
    (draft : OfflineTransactionDraft) : Outcome ReaderQueueError QueuedOfflineTransaction :=
  transact db (enqueueStatements codec db readerId draft)

end TransitGuard.Reader
