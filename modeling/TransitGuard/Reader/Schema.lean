import TransitGuard.Library.Table
import TransitGuard.Library.Fallible
import TransitGuard.Protocol.Synchronization

/-!
The reader-local SQLite database after all migrations: one row type for each
table with the CHECK constraints of its columns, and the outcome of a public
operation. Columns that hold an enumeration by name hold the enumeration here;
`processing_mode` has a single legal value and is left out.

Counters are natural numbers. SQLite turns an integer column into a float when
it overflows 64 bits, which only an attempt counter could ever do; such a value
is refused by the same decoding step that refuses every count from `2 ^ 32` on.
-/

namespace TransitGuard.Reader

/-- `OfflineQueueState`. -/
inductive OfflineQueueState
  | pending
  | inFlight
  | acknowledged
  | retryableFailure
  | permanentFailure
  | manualReview
  deriving DecidableEq, Repr

/-- `SynchronizationBatchState`. -/
inductive SynchronizationBatchState
  | prepared
  | inFlight
  | retryableFailure
  | acknowledged
  | permanentFailure
  | manualReview
  deriving DecidableEq, Repr

/-- The states of the subquery `batch_state IN ('prepared', 'in_flight',
'retryable_failure')`. -/
def SynchronizationBatchState.isOpen : SynchronizationBatchState → Bool
  | .prepared | .inFlight | .retryableFailure => true
  | .acknowledged | .permanentFailure | .manualReview => false

/-- `is_resolved_queue_state`. -/
def OfflineQueueState.isResolved : OfflineQueueState → Bool
  | .acknowledged | .permanentFailure => true
  | _ => false

/-! ## Rows -/

structure ReaderStateRow where
  readerId : ReaderId
  environmentId : String
  softwareVersion : String
  protocolVersion : Nat
  nextLocalSequence : Nat
  lastAcknowledgedSequence : Nat
  createdAt : UnixMilliseconds
  updatedAt : UnixMilliseconds
  deriving DecidableEq

def ReaderStateRow.check (row : ReaderStateRow) : Bool :=
  Text.sqliteNonBlank row.environmentId && Text.sqliteNonBlank row.softwareVersion &&
    0 < row.protocolVersion && row.protocolVersion ≤ 65535 &&
    0 < row.nextLocalSequence && row.lastAcknowledgedSequence < row.nextLocalSequence &&
    0 ≤ row.createdAt && row.createdAt ≤ row.updatedAt

structure OfflineTransactionRow where
  fareTransactionId : FareTransactionId
  readerId : ReaderId
  localSequenceNumber : Nat
  fareCredentialId : FareCredentialId
  eventTime : UnixMilliseconds
  farePolicyVersion : Nat
  provisionalDecisionJson : String
  transactionEnvelopeJson : String
  queueState : OfflineQueueState
  attemptCount : Nat
  nextRetryAt : Option UnixMilliseconds
  lastFailureCategory : Option String
  createdAt : UnixMilliseconds
  updatedAt : UnixMilliseconds
  deriving DecidableEq

def OfflineTransactionRow.check (row : OfflineTransactionRow) : Bool :=
  0 < row.localSequenceNumber && 0 ≤ row.eventTime && 0 < row.farePolicyVersion &&
    Text.sqliteNonBlank row.provisionalDecisionJson &&
    Text.sqliteNonBlank row.transactionEnvelopeJson &&
    row.nextRetryAt.all (0 ≤ ·) && 0 ≤ row.createdAt && row.createdAt ≤ row.updatedAt

/-- The columns a transaction shares with its entries in batches and
acknowledgements. -/
def OfflineTransactionRow.key (row : OfflineTransactionRow) : FareTransactionId × Nat :=
  (row.fareTransactionId, row.localSequenceNumber)

/-- The primary key, and `UNIQUE (reader_id, local_sequence_number)`. -/
def OfflineTransactionRow.conflicts (a b : OfflineTransactionRow) : Bool :=
  a.fareTransactionId == b.fareTransactionId ||
    (a.readerId == b.readerId && a.localSequenceNumber == b.localSequenceNumber)

structure SynchronizationBatchRow where
  batchId : SynchronizationBatchId
  readerId : ReaderId
  protocolVersion : Nat
  firstLocalSequenceNumber : Nat
  lastLocalSequenceNumber : Nat
  batchState : SynchronizationBatchState
  attemptCount : Nat
  submittedAt : Option UnixMilliseconds
  nextRetryAt : Option UnixMilliseconds
  lastFailureCategory : Option String
  createdAt : UnixMilliseconds
  updatedAt : UnixMilliseconds
  deriving DecidableEq

def SynchronizationBatchRow.check (row : SynchronizationBatchRow) : Bool :=
  0 < row.protocolVersion && row.protocolVersion ≤ 65535 &&
    0 < row.firstLocalSequenceNumber &&
    row.firstLocalSequenceNumber ≤ row.lastLocalSequenceNumber &&
    row.submittedAt.all (0 ≤ ·) && row.nextRetryAt.all (0 ≤ ·) &&
    0 ≤ row.createdAt && row.createdAt ≤ row.updatedAt

def SynchronizationBatchRow.conflicts (a b : SynchronizationBatchRow) : Bool :=
  a.batchId == b.batchId

structure SynchronizationEntryRow where
  batchId : SynchronizationBatchId
  readerId : ReaderId
  fareTransactionId : FareTransactionId
  localSequenceNumber : Nat
  entryPosition : Nat
  deriving DecidableEq

def SynchronizationEntryRow.key (row : SynchronizationEntryRow) : FareTransactionId × Nat :=
  (row.fareTransactionId, row.localSequenceNumber)

def SynchronizationEntryRow.check (row : SynchronizationEntryRow) : Bool :=
  0 < row.localSequenceNumber

/-- Within one batch the transaction, the sequence and the position are
unique; since the fifth migration none of them is unique across batches. -/
def SynchronizationEntryRow.conflicts (a b : SynchronizationEntryRow) : Bool :=
  a.batchId == b.batchId &&
    (a.fareTransactionId == b.fareTransactionId ||
      a.localSequenceNumber == b.localSequenceNumber || a.entryPosition == b.entryPosition)

structure SynchronizationAcknowledgementRow where
  batchId : SynchronizationBatchId
  readerId : ReaderId
  protocolVersion : Nat
  firstLocalSequenceNumber : Nat
  lastLocalSequenceNumber : Nat
  receivedAt : UnixMilliseconds
  payloadJson : String
  appliedAt : Option UnixMilliseconds
  deriving DecidableEq

def SynchronizationAcknowledgementRow.check (row : SynchronizationAcknowledgementRow) : Bool :=
  0 < row.protocolVersion && row.protocolVersion ≤ 65535 &&
    0 < row.firstLocalSequenceNumber &&
    row.firstLocalSequenceNumber ≤ row.lastLocalSequenceNumber &&
    0 ≤ row.receivedAt && Text.sqliteNonBlank row.payloadJson &&
    row.appliedAt.all (row.receivedAt ≤ ·)

def SynchronizationAcknowledgementRow.conflicts (a b : SynchronizationAcknowledgementRow) :
    Bool :=
  a.batchId == b.batchId

structure SynchronizationAcknowledgementEntryRow where
  batchId : SynchronizationBatchId
  readerId : ReaderId
  fareTransactionId : FareTransactionId
  localSequenceNumber : Nat
  entryPosition : Nat
  outcome : Protocol.EntryOutcome
  failureCategory : Option String
  retryAt : Option UnixMilliseconds
  deriving DecidableEq

def SynchronizationAcknowledgementEntryRow.key (row : SynchronizationAcknowledgementEntryRow) :
    FareTransactionId × Nat :=
  (row.fareTransactionId, row.localSequenceNumber)

/-- The constraints as the sixth migration left them. -/
def SynchronizationAcknowledgementEntryRow.check
    (row : SynchronizationAcknowledgementEntryRow) : Bool :=
  0 < row.localSequenceNumber && row.retryAt.all (0 ≤ ·) &&
    match row.outcome with
    | .acknowledged => row.failureCategory.isNone && row.retryAt.isNone
    | .retryableFailure => row.failureCategory.any Text.sqliteNonBlank && row.retryAt.isSome
    | .permanentFailure | .manualReview =>
      row.failureCategory.any Text.sqliteNonBlank && row.retryAt.isNone

def SynchronizationAcknowledgementEntryRow.conflicts
    (a b : SynchronizationAcknowledgementEntryRow) : Bool :=
  a.batchId == b.batchId &&
    (a.fareTransactionId == b.fareTransactionId ||
      a.localSequenceNumber == b.localSequenceNumber || a.entryPosition == b.entryPosition)

/-! ## The database -/

structure ReaderDatabase where
  /-- The row with `singleton = 1`. -/
  readerState : Option ReaderStateRow
  offlineTransactions : List OfflineTransactionRow
  synchronizationBatches : List SynchronizationBatchRow
  synchronizationEntries : List SynchronizationEntryRow
  synchronizationAcknowledgements : List SynchronizationAcknowledgementRow
  synchronizationAcknowledgementEntries : List SynchronizationAcknowledgementEntryRow
  deriving DecidableEq

/-- The database right after the migrations. -/
def ReaderDatabase.empty : ReaderDatabase := ⟨none, [], [], [], [], []⟩

/-- The reader row a foreign key `reader_id` refers to. -/
def ReaderDatabase.hasReader (db : ReaderDatabase) (readerId : ReaderId) : Bool :=
  db.readerState.any (·.readerId == readerId)

/-- The batch row a foreign key `(batch_id, reader_id)` refers to. -/
def ReaderDatabase.findBatch (db : ReaderDatabase) (readerId : ReaderId)
    (batchId : SynchronizationBatchId) : Option SynchronizationBatchRow :=
  db.synchronizationBatches.find? fun row => row.batchId == batchId && row.readerId == readerId

/-- `WHERE batch_id = ? AND reader_id = ?` on the entries. -/
def ReaderDatabase.batchEntries (db : ReaderDatabase) (readerId : ReaderId)
    (batchId : SynchronizationBatchId) : List SynchronizationEntryRow :=
  db.synchronizationEntries.filter fun row => row.batchId == batchId && row.readerId == readerId

/-- The correlated subquery on open batches: some entry of `row` belongs to a
prepared, in-flight or retryable batch. -/
def ReaderDatabase.inOpenBatch (db : ReaderDatabase) (row : OfflineTransactionRow) : Bool :=
  db.synchronizationEntries.any fun entry =>
    entry.fareTransactionId == row.fareTransactionId && entry.readerId == row.readerId &&
      db.synchronizationBatches.any fun batch =>
        batch.batchId == entry.batchId && batch.readerId == entry.readerId &&
          batch.batchState.isOpen

/-- What a public operation leaves in the file and what it returns. -/
structure Outcome (ε α : Type) where
  database : ReaderDatabase
  result : Except ε α

variable {ε α : Type}

/-- One SQLite transaction: its changes are committed on success and rolled
back as a whole when it is dropped with an error. -/
def transact (db : ReaderDatabase) (body : Except ε (α × ReaderDatabase)) : Outcome ε α :=
  match body with
  | .ok (value, committed) => ⟨committed, .ok value⟩
  | .error e => ⟨db, .error e⟩

/-- A look at the result of something committed already: it decides what the
call returns, no longer what the file holds. -/
def Outcome.andThen {β : Type} (committed : Outcome ε α) (next : α → Except ε β) : Outcome ε β where
  database := committed.database
  result := committed.result >>= next

@[simp] theorem Outcome.andThen_database {β : Type} {committed : Outcome ε α}
    {next : α → Except ε β} : (committed.andThen next).database = committed.database := rfl

theorem transact_eq {db db' : ReaderDatabase} {body : Except ε (α × ReaderDatabase)}
    {value : α} (h : body = .ok (value, db')) : transact db body = ⟨db', .ok value⟩ := by
  rw [h]
  rfl

theorem transact_database {db db' : ReaderDatabase} {body : Except ε (α × ReaderDatabase)}
    (value : α) (h : body = .ok (value, db')) : (transact db body).database = db' := by
  rw [transact_eq h]

theorem transact_of_ok {db : ReaderDatabase} {body : Except ε (α × ReaderDatabase)} {value : α}
    (h : (transact db body).result = .ok value) :
    ∃ db', body = .ok (value, db') ∧ (transact db body).database = db' := by
  cases body with
  | error e => cases h
  | ok out =>
    cases h
    exact ⟨out.2, rfl, rfl⟩

theorem transact_eq_error {db : ReaderDatabase} {body : Except ε (α × ReaderDatabase)} {e : ε} :
    (transact db body).result = .error e ↔ body = .error e := by
  cases body <;> simp [transact]

theorem transact_of_error {db : ReaderDatabase} {body : Except ε (α × ReaderDatabase)} {e : ε}
    (h : (transact db body).result = .error e) : (transact db body).database = db := by
  rw [transact_eq_error.mp h]
  rfl

/-- `LocalSequenceNumber::new` behind `u64::try_from`, with the error of the
calling module. -/
def decodeSequence (e : ε) (value : Nat) : Except ε LocalSequenceNumber :=
  Fallible.orFail e (LocalSequenceNumber.new value)

/-- `DeviceProtocolVersion::new` behind `u16::try_from`. -/
def decodeProtocolVersion (e : ε) (value : Nat) : Except ε DeviceProtocolVersion :=
  Fallible.orFail e (DeviceProtocolVersion.new value)

theorem decodeSequence_ok {e : ε} {value : Nat} {s : LocalSequenceNumber} :
    decodeSequence e value = .ok s ↔ s.value = value := by
  rw [decodeSequence, Fallible.orFail_eq_ok, LocalSequenceNumber.new_eq_some]

theorem decodeProtocolVersion_ok {e : ε} {value : Nat} {v : DeviceProtocolVersion} :
    decodeProtocolVersion e value = .ok v ↔ v.value = value := by
  rw [decodeProtocolVersion, Fallible.orFail_eq_ok, DeviceProtocolVersion.new_eq_some]

/-- The shared check on operation times. -/
def validateTime (e : UnixMilliseconds → ε) (t : UnixMilliseconds) : Except ε Unit :=
  if t < 0 then .error (e t) else .ok ()

/-- The shared check on failure categories: trimmed and not blank. -/
def validateCategory (e : ε) (category : String) : Except ε String :=
  let trimmed := Text.trim category
  if trimmed = "" then .error e else .ok trimmed

@[simp] theorem validateTime_ok {e : UnixMilliseconds → ε} {t : UnixMilliseconds} :
    validateTime e t = .ok () ↔ 0 ≤ t := by
  unfold validateTime
  split <;> simp <;> grind

@[simp] theorem validateCategory_ok {e : ε} {category trimmed : String} :
    validateCategory e category = .ok trimmed ↔
      trimmed = Text.trim category ∧ Text.trim category ≠ "" := by
  unfold validateCategory
  by_cases h : Text.trim category = "" <;> simp [h, eq_comm]

end TransitGuard.Reader
