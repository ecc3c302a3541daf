import TransitGuard.Library.Table
import TransitGuard.Library.Fallible
import TransitGuard.Protocol.Decoding
import TransitGuard.Protocol.Fingerprint

/-!
The ingest store of the backend: the PostgreSQL tables with their constraints,
the preparation of a request for them, and the transaction that stores a
prepared request or recognises it as a replay.

Columns that hold a name, a number or a fingerprint as text hold the value
itself here, and a JSON column holds the value it was written from; reading an
acknowledgement back goes through its JSON. The creation and update stamps that
the database clock fills in are left out; nothing reads them.
-/

namespace TransitGuard.Backend

open Protocol Fallible

/-! ## Rows -/

/-- `reader_equipment.status`. -/
inductive ReaderStatus
  | pendingRegistration
  | active
  | offline
  | disabled
  | revoked
  | decommissioned
  deriving DecidableEq, Repr

/-- `status IN ('active', 'offline')`. -/
def ReaderStatus.isOperational : ReaderStatus → Bool
  | .active | .offline => true
  | _ => false

structure ReaderEquipmentRow where
  id : ReaderId
  status : ReaderStatus
  deriving DecidableEq

structure IngestBatchRow where
  batchId : SynchronizationBatchId
  readerId : ReaderId
  protocolVersion : Nat
  environmentId : String
  readerSoftwareVersion : String
  firstLocalSequenceNumber : Nat
  lastLocalSequenceNumber : Nat
  submittedAt : UnixMilliseconds
  receivedAt : UnixMilliseconds
  entryCount : Nat
  requestFingerprint : Digest
  canonicalRequest : Request
  acknowledgementFingerprint : Digest
  canonicalAcknowledgement : Acknowledgement
  deriving DecidableEq

/-- `length(trim(X)) > 0 AND octet_length(X) <= 128`. -/
def boundedText (text : String) : Bool :=
  0 < (Text.sqlTrim text).length && Text.byteLength text ≤ 128

def IngestBatchRow.check (row : IngestBatchRow) : Bool :=
  0 < row.protocolVersion && row.protocolVersion ≤ 65535 && boundedText row.environmentId &&
    boundedText row.readerSoftwareVersion && 0 < row.firstLocalSequenceNumber &&
    row.firstLocalSequenceNumber ≤ row.lastLocalSequenceNumber && 0 ≤ row.submittedAt &&
    0 ≤ row.receivedAt && 0 < row.entryCount && row.entryCount ≤ 256

def IngestBatchRow.conflicts (a b : IngestBatchRow) : Bool := a.batchId == b.batchId

structure IngestTransactionRow where
  fareTransactionId : FareTransactionId
  readerId : ReaderId
  localSequenceNumber : Nat
  transactionFingerprint : Digest
  canonicalTransactionEnvelope : Json.Value
  firstSeenBatchId : SynchronizationBatchId
  currentResolution : EntryOutcome
  firstReceivedAt : UnixMilliseconds
  lastResolvedAt : UnixMilliseconds

def IngestTransactionRow.check (row : IngestTransactionRow) : Bool :=
  0 < row.localSequenceNumber && row.canonicalTransactionEnvelope.isObject &&
    0 ≤ row.firstReceivedAt && row.firstReceivedAt ≤ row.lastResolvedAt

/-- The primary key, and `UNIQUE (reader_id, local_sequence_number)`. -/
def IngestTransactionRow.conflicts (a b : IngestTransactionRow) : Bool :=
  a.fareTransactionId == b.fareTransactionId ||
    (a.readerId == b.readerId && a.localSequenceNumber == b.localSequenceNumber)

structure IngestEntryRow where
  batchId : SynchronizationBatchId
  readerId : ReaderId
  entryPosition : Nat
  fareTransactionId : FareTransactionId
  localSequenceNumber : Nat
  outcome : EntryOutcome
  failureCategory : Option FailureCategory
  nextRetryAt : Option UnixMilliseconds
  resolvedAt : UnixMilliseconds
  deriving DecidableEq

def IngestEntryRow.check (row : IngestEntryRow) : Bool :=
  row.entryPosition < 256 && 0 < row.localSequenceNumber && row.nextRetryAt.all (0 ≤ ·) &&
    0 ≤ row.resolvedAt &&
    match row.outcome with
    | .acknowledged => row.failureCategory.isNone && row.nextRetryAt.isNone
    | .retryableFailure => row.failureCategory.isSome && row.nextRetryAt.isSome
    | .permanentFailure | .manualReview =>
      row.failureCategory.isSome && row.nextRetryAt.isNone

/-- Within one batch the position, the transaction and the sequence are
unique. -/
def IngestEntryRow.conflicts (a b : IngestEntryRow) : Bool :=
  a.batchId == b.batchId &&
    (a.entryPosition == b.entryPosition || a.fareTransactionId == b.fareTransactionId ||
      a.localSequenceNumber == b.localSequenceNumber)

structure IngestDatabase where
  readerEquipment : List ReaderEquipmentRow
  batches : List IngestBatchRow
  transactions : List IngestTransactionRow
  entries : List IngestEntryRow

/-- A change of the status of a reader by the administration. -/
def IngestDatabase.changeStatus (db : IngestDatabase) (readerId : ReaderId)
    (status : ReaderStatus) : IngestDatabase :=
  { db with
    readerEquipment := Table.updateWhere (·.id == readerId) ({ · with status })
      db.readerEquipment }

/-- The reader is registered with a status that allows synchronization. -/
def IngestDatabase.operational (db : IngestDatabase) (readerId : ReaderId) : Bool :=
  (db.readerEquipment.find? (·.id == readerId)).any (·.status.isOperational)

/-- `WHERE batch_id = $1`. -/
def IngestDatabase.findBatch (db : IngestDatabase) (batchId : SynchronizationBatchId) :
    Option IngestBatchRow :=
  db.batches.find? (·.batchId == batchId)

/-! ## Preparation -/

/-- `PreparedSynchronizationIngestEntry`. -/
structure PreparedIngestEntry where
  entryPosition : Nat
  transactionId : FareTransactionId
  localSequenceNumber : LocalSequenceNumber
  transactionFingerprint : Digest
  canonicalTransactionEnvelope : Json.Value
  outcome : EntryOutcome
  failureCategory : Option FailureCategory
  nextRetryAt : Option UnixMilliseconds
  resolvedAt : UnixMilliseconds

/-- `PreparedSynchronizationIngest`. -/
structure PreparedIngest where
  protocolVersion : DeviceProtocolVersion
  environmentId : EnvironmentId
  readerId : ReaderId
  readerSoftwareVersion : SoftwareVersion
  batchId : SynchronizationBatchId
  firstLocalSequenceNumber : LocalSequenceNumber
  lastLocalSequenceNumber : LocalSequenceNumber
  submittedAt : UnixMilliseconds
  receivedAt : UnixMilliseconds
  requestFingerprint : Digest
  canonicalRequest : Request
  acknowledgementFingerprint : Digest
  canonicalAcknowledgement : Acknowledgement
  entries : List PreparedIngestEntry

/-- `SynchronizationIngestRecordError`. -/
inductive IngestRecordError
  | acknowledgementMismatch (error : ProtocolError)
  | serialization (payload : String)
  deriving DecidableEq

variable (codec : Json.Codec) (sha256 : Sha256)

/-- The loop of `prepare` over the zipped entries. -/
def prepareEntries (receivedAt : UnixMilliseconds) (position : Nat) :
    List RequestEntry → List AcknowledgementEntry →
      Except IngestRecordError (List PreparedIngestEntry)
  | submitted :: submittedRest, resolved :: resolvedRest => do
    let envelope ← orFail (.serialization "transaction envelope")
      (codec.parse submitted.transactionEnvelope.asStr)
    let entries ← prepareEntries receivedAt (position + 1) submittedRest resolvedRest
    .ok ({ entryPosition := position
           transactionId := submitted.transactionId
           localSequenceNumber := submitted.localSequenceNumber
           transactionFingerprint := submitted.transactionEnvelope.fingerprint sha256
           canonicalTransactionEnvelope := envelope
           outcome := resolved.outcome
           failureCategory := resolved.failureCategory
           nextRetryAt := resolved.nextRetryAt
           resolvedAt := receivedAt } :: entries)
  | _, _ => .ok []

/-- `PreparedSynchronizationIngest::prepare`. -/
def prepare (request : Request) (acknowledgement : Acknowledgement) :
    Except IngestRecordError PreparedIngest := do
  (acknowledgement.validateAgainstRequest request).mapError .acknowledgementMismatch
  let entries ← prepareEntries codec sha256 acknowledgement.receivedAt 0 request.entries
    acknowledgement.entries
  .ok { protocolVersion := request.protocolVersion
        environmentId := request.environmentId
        readerId := request.readerId
        readerSoftwareVersion := request.readerSoftwareVersion
        batchId := request.batchId
        firstLocalSequenceNumber := request.firstLocalSequenceNumber
        lastLocalSequenceNumber := request.lastLocalSequenceNumber
        submittedAt := request.submittedAt
        receivedAt := acknowledgement.receivedAt
        requestFingerprint := request.fingerprint sha256
        canonicalRequest := request
        acknowledgementFingerprint := acknowledgement.fingerprint sha256
        canonicalAcknowledgement := acknowledgement
        entries }

/-! ## Storing -/

/-- `SynchronizationIngestDisposition`. -/
inductive IngestDisposition
  | stored
  | replayed
  deriving DecidableEq, Repr

/-- `PersistenceError`, the variants of the repositories. -/
inductive PersistenceError
  | invalidStoredValue (field : String)
  | numericValueOutOfRange (field : String)
  | writeConditionFailed (entity : String)
  | constraintViolation (entity kind : String)
  | database (operation : String)
  | serialization (operation : String)
  deriving DecidableEq

/-- `SynchronizationIngestPersistenceError`. -/
inductive IngestPersistenceError
  | readerNotRegistered (readerId : ReaderId)
  | readerNotOperational (readerId : ReaderId)
  | batchIdentityConflict (batchId : SynchronizationBatchId)
  | transactionIdentityConflict (transactionId : FareTransactionId)
  | persistence (error : PersistenceError)
  deriving DecidableEq

/-- `PersistenceError::write` on a refused statement. -/
def IngestPersistenceError.write (entity : String) : Table.Violation → IngestPersistenceError
  | .unique => .persistence (.writeConditionFailed entity)
  | .foreignKey => .persistence (.constraintViolation entity "foreign-key")
  | .check => .persistence (.constraintViolation entity "check")

/-- `sequence_to_i64`. -/
def sequenceToI64 (sequence : LocalSequenceNumber) (field : String) :
    Except IngestPersistenceError Nat :=
  if i64Max < sequence.value then .error (.persistence (.numericValueOutOfRange field))
  else .ok sequence.value

/-- `validate_reader`. -/
def validateReader (db : IngestDatabase) (ingest : PreparedIngest) :
    Except IngestPersistenceError Unit :=
  match db.readerEquipment.find? (·.id == ingest.readerId) with
  | some row =>
    if row.status.isOperational then .ok () else .error (.readerNotOperational ingest.readerId)
  | none => .error (.readerNotRegistered ingest.readerId)

/-- `validate_existing_batch`. -/
def validateExistingBatch (existing : IngestBatchRow) (ingest : PreparedIngest) :
    Except IngestPersistenceError IngestDisposition :=
  if existing.readerId = ingest.readerId ∧
      existing.requestFingerprint = ingest.requestFingerprint then .ok .replayed
  else .error (.batchIdentityConflict ingest.batchId)

/-- The row `INSERT_BATCH_SQL` writes. -/
def PreparedIngest.batchRow (ingest : PreparedIngest) : IngestBatchRow where
  batchId := ingest.batchId
  readerId := ingest.readerId
  protocolVersion := ingest.protocolVersion.value
  environmentId := ingest.environmentId.asStr
  readerSoftwareVersion := ingest.readerSoftwareVersion.asStr
  firstLocalSequenceNumber := ingest.firstLocalSequenceNumber.value
  lastLocalSequenceNumber := ingest.lastLocalSequenceNumber.value
  submittedAt := ingest.submittedAt
  receivedAt := ingest.receivedAt
  entryCount := ingest.entries.length
  requestFingerprint := ingest.requestFingerprint
  canonicalRequest := ingest.canonicalRequest
  acknowledgementFingerprint := ingest.acknowledgementFingerprint
  canonicalAcknowledgement := ingest.canonicalAcknowledgement

/-- `insert_batch`. -/
def insertBatch (db : IngestDatabase) (ingest : PreparedIngest) :
    Except IngestPersistenceError (List IngestBatchRow) := do
  let _ ← sequenceToI64 ingest.firstLocalSequenceNumber
    "synchronization_ingest_batches.first_local_sequence_number"
  let _ ← sequenceToI64 ingest.lastLocalSequenceNumber
    "synchronization_ingest_batches.last_local_sequence_number"
  if 2 ^ 31 ≤ ingest.entries.length then
    .error (.persistence (.numericValueOutOfRange "synchronization_ingest_batches.entry_count"))
  if ¬(ingest.canonicalRequest.toJson.storableAsJsonb &&
      ingest.canonicalAcknowledgement.toJson.storableAsJsonb) then
    .error (.persistence (.database "insert synchronization ingest batch"))
  (Table.insert IngestBatchRow.check IngestBatchRow.conflicts
    (db.readerEquipment.any (·.id == ingest.readerId)) ingest.batchRow db.batches).mapError
      (.write "synchronization ingest batch")

/-- The WHERE clause of `FIND_TRANSACTION_SQL`. -/
def PreparedIngest.meets (ingest : PreparedIngest) (entry : PreparedIngestEntry)
    (row : IngestTransactionRow) : Bool :=
  row.fareTransactionId == entry.transactionId ||
    (row.readerId == ingest.readerId && row.localSequenceNumber == entry.localSequenceNumber.value)

/-- `transaction_identity_matches`. -/
def transactionIdentityMatches (stored : IngestTransactionRow) (ingest : PreparedIngest)
    (entry : PreparedIngestEntry) : Bool :=
  stored.fareTransactionId == entry.transactionId && stored.readerId == ingest.readerId &&
    stored.localSequenceNumber == entry.localSequenceNumber.value &&
    stored.transactionFingerprint == entry.transactionFingerprint

/-- The row `INSERT_TRANSACTION_SQL` writes. -/
def PreparedIngest.transactionRow (ingest : PreparedIngest) (entry : PreparedIngestEntry) :
    IngestTransactionRow where
  fareTransactionId := entry.transactionId
  readerId := ingest.readerId
  localSequenceNumber := entry.localSequenceNumber.value
  transactionFingerprint := entry.transactionFingerprint
  canonicalTransactionEnvelope := entry.canonicalTransactionEnvelope
  firstSeenBatchId := ingest.batchId
  currentResolution := entry.outcome
  firstReceivedAt := ingest.receivedAt
  lastResolvedAt := entry.resolvedAt

/-- The assignments of `UPDATE_TRANSACTION_SQL`. -/
def IngestTransactionRow.resolve (entry : PreparedIngestEntry) (row : IngestTransactionRow) :
    IngestTransactionRow :=
  { row with
    currentResolution :=
      if row.lastResolvedAt ≤ entry.resolvedAt then entry.outcome else row.currentResolution
    lastResolvedAt := max row.lastResolvedAt entry.resolvedAt }

/-- `insert_transaction`. -/
def insertTransaction (db : IngestDatabase) (ingest : PreparedIngest)
    (entry : PreparedIngestEntry) : Except IngestPersistenceError (List IngestTransactionRow) := do
  if ¬entry.canonicalTransactionEnvelope.storableAsJsonb then
    .error (.persistence (.database "insert synchronization ingest transaction"))
  (Table.insert IngestTransactionRow.check IngestTransactionRow.conflicts
    (db.batches.any (fun row => row.batchId == ingest.batchId && row.readerId == ingest.readerId) &&
      db.readerEquipment.any (·.id == ingest.readerId))
    (ingest.transactionRow entry) db.transactions).mapError
      (.write "synchronization ingest transaction")

/-- `update_transaction`. -/
def updateTransaction (db : IngestDatabase) (entry : PreparedIngestEntry) :
    Except IngestPersistenceError (List IngestTransactionRow) := do
  let (transactions, affected) ←
    orFail (.write "synchronization ingest transaction" .check)
      (Table.update IngestTransactionRow.check (·.fareTransactionId == entry.transactionId)
        (·.resolve entry) db.transactions)
  if affected ≠ 1 then .error (.transactionIdentityConflict entry.transactionId)
  .ok transactions

/-- `store_transaction`. -/
def storeTransaction (db : IngestDatabase) (ingest : PreparedIngest)
    (entry : PreparedIngestEntry) : Except IngestPersistenceError (List IngestTransactionRow) := do
  let _ ← sequenceToI64 entry.localSequenceNumber
    "synchronization_ingest_transactions.local_sequence_number"
  match db.transactions.filter (ingest.meets entry) with
  | [] => insertTransaction db ingest entry
  | [stored] =>
    if transactionIdentityMatches stored ingest entry then updateTransaction db entry
    else .error (.transactionIdentityConflict entry.transactionId)
  | _ => .error (.transactionIdentityConflict entry.transactionId)

/-- The row `INSERT_ENTRY_SQL` writes. -/
def PreparedIngest.entryRow (ingest : PreparedIngest) (entry : PreparedIngestEntry) :
    IngestEntryRow where
  batchId := ingest.batchId
  readerId := ingest.readerId
  entryPosition := entry.entryPosition
  fareTransactionId := entry.transactionId
  localSequenceNumber := entry.localSequenceNumber.value
  outcome := entry.outcome
  failureCategory := entry.failureCategory
  nextRetryAt := entry.nextRetryAt
  resolvedAt := entry.resolvedAt

/-- `insert_entry`. -/
def insertEntry (db : IngestDatabase) (ingest : PreparedIngest) (entry : PreparedIngestEntry) :
    Except IngestPersistenceError (List IngestEntryRow) := do
  if 2 ^ 31 ≤ entry.entryPosition then
    .error (.persistence (.numericValueOutOfRange "synchronization_ingest_entries.entry_position"))
  let _ ← sequenceToI64 entry.localSequenceNumber
    "synchronization_ingest_entries.local_sequence_number"
  (Table.insert IngestEntryRow.check IngestEntryRow.conflicts
    (db.batches.any (fun row => row.batchId == ingest.batchId && row.readerId == ingest.readerId) &&
      db.transactions.any (fun row => row.fareTransactionId == entry.transactionId &&
        row.readerId == ingest.readerId &&
        row.localSequenceNumber == entry.localSequenceNumber.value))
    (ingest.entryRow entry) db.entries).mapError (.write "synchronization ingest entry")

/-- The loop of `store` over the prepared entries. -/
def storeEntries (ingest : PreparedIngest) :
    List PreparedIngestEntry → IngestDatabase → Except IngestPersistenceError IngestDatabase
  | [], db => .ok db
  | entry :: rest, db => do
    let transactions ← storeTransaction db ingest entry
    let stored := { db with transactions }
    let entries ← insertEntry stored ingest entry
    storeEntries ingest rest { stored with entries }

/-- The statements of `store`; the transaction is rolled back on an error. -/
def storeStatements (db : IngestDatabase) (ingest : PreparedIngest) :
    Except IngestPersistenceError (IngestDisposition × IngestDatabase) := do
  validateReader db ingest
  match db.findBatch ingest.batchId with
  | some existing =>
    let disposition ← validateExistingBatch existing ingest
    .ok (disposition, db)
  | none =>
    let batches ← insertBatch db ingest
    let stored ← storeEntries ingest ingest.entries { db with batches }
    .ok (.stored, stored)

/-- `PostgresSynchronizationIngestRepository::store`. -/
def store (db : IngestDatabase) (ingest : PreparedIngest) :
    Except IngestPersistenceError IngestDisposition × IngestDatabase :=
  match storeStatements db ingest with
  | .ok (disposition, committed) => (.ok disposition, committed)
  | .error e => (.error e, db)

/-- `load_acknowledgement`: the JSON of the column, decoded. -/
def loadAcknowledgement (db : IngestDatabase) (batchId : SynchronizationBatchId) :
    Except IngestPersistenceError (Option Acknowledgement) :=
  match db.findBatch batchId with
  | none => .ok none
  | some row =>
    match Acknowledgement.fromJson row.canonicalAcknowledgement.toJson.normalize with
    | some acknowledgement => .ok (some acknowledgement)
    | none => .error (.persistence (.serialization "decode synchronization acknowledgement"))

theorem loadAcknowledgement_eq (db : IngestDatabase) (batchId : SynchronizationBatchId) :
    loadAcknowledgement db batchId =
      .ok ((db.findBatch batchId).map (·.canonicalAcknowledgement)) := by
  unfold loadAcknowledgement
  cases db.findBatch batchId with
  | none => rfl
  | some row => simp only [Acknowledgement.fromJson_normalize, Option.map_some]

/-! ## What is prepared -/

variable {codec} {sha256} {db db' : IngestDatabase} {ingest : PreparedIngest}

/-- What an entry takes from the request. -/
structure Submits (codec : Json.Codec) (sha256 : Sha256) (receivedAt : UnixMilliseconds)
    (submitted : RequestEntry) (entry : PreparedIngestEntry) : Prop where
  transactionId : entry.transactionId = submitted.transactionId
  sequence : entry.localSequenceNumber = submitted.localSequenceNumber
  fingerprint : entry.transactionFingerprint = submitted.transactionEnvelope.fingerprint sha256
  envelope : codec.parse submitted.transactionEnvelope.asStr =
    some entry.canonicalTransactionEnvelope
  resolvedAt : entry.resolvedAt = receivedAt

/-- What an entry takes from the acknowledgement. -/
structure Resolves (resolved : AcknowledgementEntry) (entry : PreparedIngestEntry) : Prop where
  outcome : entry.outcome = resolved.outcome
  failureCategory : entry.failureCategory = resolved.failureCategory
  nextRetryAt : entry.nextRetryAt = resolved.nextRetryAt

/-- The entries are prepared in the order of the request, with positions that
count up. -/
theorem prepareEntries_ok {receivedAt : UnixMilliseconds} {position : Nat}
    {submitted : List RequestEntry} {resolved : List AcknowledgementEntry}
    (hlength : resolved.length = submitted.length) {entries : List PreparedIngestEntry}
    (h : prepareEntries codec sha256 receivedAt position submitted resolved = .ok entries) :
    entries.map (·.entryPosition) = List.range' position entries.length ∧
      List.Forall₂ (Submits codec sha256 receivedAt) submitted entries ∧
      List.Forall₂ Resolves resolved entries := by
  induction submitted generalizing position resolved entries with
  | nil =>
    cases h
    obtain rfl := List.length_eq_zero_iff.mp hlength
    exact ⟨rfl, .nil, .nil⟩
  | cons entry submitted ih =>
    cases resolved with
    | nil => simp at hlength
    | cons result resolved =>
      simp only [prepareEntries, bind_eq_ok, orFail_eq_ok] at h
      obtain ⟨envelope, hparsed, rest, hrest, h⟩ := h
      cases h
      obtain ⟨hpositions, hsubmits, hresolves⟩ := ih (by simpa using hlength) hrest
      refine ⟨?_, .cons ⟨rfl, rfl, rfl, hparsed, rfl⟩ hsubmits, .cons ⟨rfl, rfl, rfl⟩ hresolves⟩
      rw [List.map_cons, hpositions, List.length_cons, List.range'_succ]

/-- Only an envelope that cannot be read keeps the entries from being
prepared. -/
theorem prepareEntries_error {receivedAt : UnixMilliseconds} {position : Nat}
    {submitted : List RequestEntry} {resolved : List AcknowledgementEntry} {e : IngestRecordError}
    (h : prepareEntries codec sha256 receivedAt position submitted resolved = .error e) :
    ∃ entry ∈ submitted, codec.parse entry.transactionEnvelope.asStr = none := by
  induction submitted generalizing position resolved with
  | nil => cases h
  | cons entry submitted ih =>
    cases resolved with
    | nil => cases h
    | cons result resolved =>
      simp only [prepareEntries, bind_eq_error, orFail_eq_error] at h
      rcases h with ⟨hnone, -⟩ | ⟨envelope, -, hrest | ⟨rest, -, h⟩⟩
      · exact ⟨entry, List.mem_cons_self .., hnone⟩
      · obtain ⟨other, hother, hnone⟩ := ih hrest
        exact ⟨other, List.mem_cons_of_mem _ hother, hnone⟩
      · cases h

theorem prepare_error {request : Request} {acknowledgement : Acknowledgement}
    {e : IngestRecordError} (hfits : acknowledgement.validateAgainstRequest request = .ok ())
    (h : prepare codec sha256 request acknowledgement = .error e) :
    ∃ entry ∈ request.entries, codec.parse entry.transactionEnvelope.asStr = none := by
  simp only [prepare, hfits, Except.mapError, ok_bind, bind_eq_error] at h
  rcases h with h | ⟨_, -, h⟩
  · exact prepareEntries_error h
  · cases h

theorem prepare_ok {request : Request} {acknowledgement : Acknowledgement} :
    prepare codec sha256 request acknowledgement = .ok ingest ↔
      acknowledgement.validateAgainstRequest request = .ok () ∧
      prepareEntries codec sha256 acknowledgement.receivedAt 0 request.entries
        acknowledgement.entries = .ok ingest.entries ∧
      ingest =
        { protocolVersion := request.protocolVersion
          environmentId := request.environmentId
          readerId := request.readerId
          readerSoftwareVersion := request.readerSoftwareVersion
          batchId := request.batchId
          firstLocalSequenceNumber := request.firstLocalSequenceNumber
          lastLocalSequenceNumber := request.lastLocalSequenceNumber
          submittedAt := request.submittedAt
          receivedAt := acknowledgement.receivedAt
          requestFingerprint := request.fingerprint sha256
          canonicalRequest := request
          acknowledgementFingerprint := acknowledgement.fingerprint sha256
          canonicalAcknowledgement := acknowledgement
          entries := ingest.entries } := by
  simp only [prepare, bind_eq_ok, mapError_eq_ok]
  constructor
  · rintro ⟨_, hfits, entries, hentries, h⟩
    cases h
    exact ⟨hfits, hentries, rfl⟩
  · rintro ⟨hfits, hentries, hingest⟩
    exact ⟨(), hfits, ingest.entries, hentries, congrArg _ hingest.symm⟩

/-- The entries of a prepared ingest, in the order of the request. -/
theorem prepare_entries {request : Request} {acknowledgement : Acknowledgement}
    (h : prepare codec sha256 request acknowledgement = .ok ingest) :
    ingest.entries.map (·.entryPosition) = List.range ingest.entries.length ∧
      List.Forall₂ (Submits codec sha256 acknowledgement.receivedAt) request.entries
        ingest.entries ∧
      List.Forall₂ Resolves acknowledgement.entries ingest.entries := by
  obtain ⟨hfits, hentries, -⟩ := prepare_ok.mp h
  have hlength : acknowledgement.entries.length = request.entries.length := by
    have hidentities := (Acknowledgement.validateAgainstRequest_ok.mp hfits).2.2.2.2.2.2
    simpa using congrArg List.length hidentities
  rw [List.range_eq_range']
  exact prepareEntries_ok hlength hentries

theorem exists_prepare {request : Request} {acknowledgement : Acknowledgement}
    (hfits : acknowledgement.validateAgainstRequest request = .ok ())
    (henvelopes : ∀ entry ∈ request.entries,
      (codec.parse entry.transactionEnvelope.asStr).isSome = true) :
    ∃ ingest, prepare codec sha256 request acknowledgement = .ok ingest := by
  cases h : prepare codec sha256 request acknowledgement with
  | ok ingest => exact ⟨ingest, rfl⟩
  | error e =>
    obtain ⟨entry, hentry, hnone⟩ := prepare_error hfits h
    have hsome := henvelopes entry hentry
    rw [hnone] at hsome
    cases hsome

/-! ## What a stored ingest leaves behind -/

/-- The columns of a transaction that no statement assigns again. -/
def IngestTransactionRow.identity (row : IngestTransactionRow) :
    FareTransactionId × ReaderId × Nat × Digest :=
  (row.fareTransactionId, row.readerId, row.localSequenceNumber, row.transactionFingerprint)

/-- The identity under which an entry of the ingest is stored. -/
def PreparedIngest.identity (ingest : PreparedIngest) (entry : PreparedIngestEntry) :
    FareTransactionId × ReaderId × Nat × Digest :=
  (entry.transactionId, ingest.readerId, entry.localSequenceNumber.value,
    entry.transactionFingerprint)

theorem transactionIdentityMatches_iff {stored : IngestTransactionRow}
    {entry : PreparedIngestEntry} :
    transactionIdentityMatches stored ingest entry = true ↔
      stored.identity = ingest.identity entry := by
  simp only [transactionIdentityMatches, IngestTransactionRow.identity, PreparedIngest.identity,
    Bool.and_eq_true, beq_iff_eq, Prod.mk.injEq, and_assoc]

/-- The two ways an entry is stored: no row has its transaction or its sequence
and a new one is appended, or exactly one row has either, with the identity of
the entry, and is resolved again. -/
theorem storeTransaction_cases {entry : PreparedIngestEntry}
    {transactions : List IngestTransactionRow}
    (h : storeTransaction db ingest entry = .ok transactions) :
    ((∀ row ∈ db.transactions, ingest.meets entry row = false) ∧
      (ingest.transactionRow entry).check = true ∧
      transactions = db.transactions ++ [ingest.transactionRow entry]) ∨
    ∃ stored, db.transactions.filter (ingest.meets entry) = [stored] ∧
      stored.identity = ingest.identity entry ∧
      (∀ row ∈ db.transactions, (row.fareTransactionId == entry.transactionId) = true →
        (row.resolve entry).check = true) ∧
      transactions = Table.updateWhere (·.fareTransactionId == entry.transactionId)
        (·.resolve entry) db.transactions := by
  simp only [storeTransaction, bind_eq_ok] at h
  obtain ⟨-, -, h⟩ := h
  split at h
  · next hnone =>
    simp only [insertTransaction, guard_eq_ok, mapError_eq_ok, Table.insert_eq_ok] at h
    obtain ⟨-, hcheck, -, -, rfl⟩ := h
    refine .inl ⟨fun row hrow => ?_, hcheck, rfl⟩
    simpa using List.filter_eq_nil_iff.mp hnone row hrow
  · next stored hfound =>
    split at h
    · next hmatches =>
      simp only [updateTransaction, bind_eq_ok, orFail_eq_ok, guard_eq_ok, Table.update_eq_some,
        Prod.exists, Prod.mk.injEq, Except.ok.injEq] at h
      obtain ⟨_, _, ⟨hchecks, rfl, rfl⟩, -, rfl⟩ := h
      exact .inr ⟨stored, hfound, transactionIdentityMatches_iff.mp hmatches, hchecks, rfl⟩
    · cases h
  · cases h

/-- Every transaction keeps its identity, and the entry is stored under its
own. -/
theorem storeTransaction_ok {entry : PreparedIngestEntry}
    {transactions : List IngestTransactionRow}
    (h : storeTransaction db ingest entry = .ok transactions) :
    (∀ row ∈ db.transactions, ∃ row' ∈ transactions, row'.identity = row.identity) ∧
      ∃ row ∈ transactions, row.identity = ingest.identity entry := by
  rcases storeTransaction_cases h with ⟨-, -, rfl⟩ | ⟨stored, hfound, hidentity, -, rfl⟩
  · refine ⟨fun row hrow => ⟨row, List.mem_append_left _ hrow, rfl⟩, ?_⟩
    exact ⟨_, List.mem_append_right _ (List.mem_singleton_self _), rfl⟩
  · have hkept : ∀ row ∈ db.transactions, ∃ row' ∈ Table.updateWhere
        (·.fareTransactionId == entry.transactionId) (·.resolve entry) db.transactions,
        row'.identity = row.identity :=
      Table.exists_updateWhere
        (R := fun row row' : IngestTransactionRow => row'.identity = row.identity)
        (fun _ => rfl) fun _ _ _ => rfl
    have hstored : stored ∈ db.transactions :=
      List.mem_of_mem_filter (hfound ▸ List.mem_singleton_self stored)
    obtain ⟨row, hrow, hid⟩ := hkept stored hstored
    exact ⟨hkept, row, hrow, hid.trans hidentity⟩

/-- What the loop over the entries leaves behind. -/
structure StoresEntries (ingest : PreparedIngest) (prepared : List PreparedIngestEntry)
    (db db' : IngestDatabase) : Prop where
  equipment : db'.readerEquipment = db.readerEquipment
  batches : db'.batches = db.batches
  entries : db'.entries = db.entries ++ prepared.map ingest.entryRow
  kept : ∀ row ∈ db.transactions, ∃ row' ∈ db'.transactions, row'.identity = row.identity
  covered : ∀ entry ∈ prepared, ∃ row ∈ db'.transactions, row.identity = ingest.identity entry

/-- One round of the loop. -/
theorem storeEntries_cons {entry : PreparedIngestEntry} {rest : List PreparedIngestEntry}
    (h : storeEntries ingest (entry :: rest) db = .ok db') :
    ∃ transactions, storeTransaction db ingest entry = .ok transactions ∧
      storeEntries ingest rest
        { db with transactions, entries := db.entries ++ [ingest.entryRow entry] } = .ok db' := by
  simp only [storeEntries, insertEntry, bind_eq_ok, guard_eq_ok, mapError_eq_ok,
    Table.insert_eq_ok] at h
  obtain ⟨transactions, hstored, _, ⟨-, -, -, -, -, -, rfl⟩, hrest⟩ := h
  exact ⟨transactions, hstored, hrest⟩

theorem storeEntries_ok {entries : List PreparedIngestEntry}
    (h : storeEntries ingest entries db = .ok db') : StoresEntries ingest entries db db' := by
  induction entries generalizing db with
  | nil =>
    cases h
    exact ⟨rfl, rfl, by simp, fun row hrow => ⟨row, hrow, rfl⟩, by simp⟩
  | cons entry rest ih =>
    obtain ⟨transactions, hstored, hrest⟩ := storeEntries_cons h
    obtain ⟨hkept, row, hrow, hid⟩ := storeTransaction_ok hstored
    have hnext := ih hrest
    refine ⟨hnext.equipment, hnext.batches, ?_, fun old hold => ?_, ?_⟩
    · rw [hnext.entries, List.map_cons, List.append_assoc, List.singleton_append]
    · obtain ⟨middle, hmiddle, hmid⟩ := hkept old hold
      obtain ⟨new, hnew, hnewid⟩ := hnext.kept middle hmiddle
      exact ⟨new, hnew, hnewid.trans hmid⟩
    · rw [List.forall_mem_cons]
      refine ⟨?_, hnext.covered⟩
      obtain ⟨new, hnew, hnewid⟩ := hnext.kept row hrow
      exact ⟨new, hnew, hnewid.trans hid⟩

theorem IngestDatabase.findBatch_eq_some {batchId : SynchronizationBatchId} {row : IngestBatchRow}
    (h : db.findBatch batchId = some row) : row ∈ db.batches ∧ row.batchId = batchId :=
  ⟨List.mem_of_find?_eq_some h, by simpa using List.find?_some h⟩

theorem IngestDatabase.findBatch_eq_none {batchId : SynchronizationBatchId} :
    db.findBatch batchId = none ↔ ∀ row ∈ db.batches, row.batchId ≠ batchId := by
  simp [IngestDatabase.findBatch]

theorem IngestDatabase.findBatch_append {batchId : SynchronizationBatchId}
    {row new : IngestBatchRow} (h : db.findBatch batchId = some row)
    (hbatches : db'.batches = db.batches ++ [new]) : db'.findBatch batchId = some row := by
  rw [IngestDatabase.findBatch] at h ⊢
  rw [hbatches, List.find?_append, h, Option.some_or]

/-- A batch that was not there is found where it is appended. -/
theorem IngestDatabase.findBatch_appended (new : IngestBatchRow)
    (hfresh : ∀ row ∈ db.batches, row.batchId ≠ new.batchId)
    (hbatches : db'.batches = db.batches ++ [new]) : db'.findBatch new.batchId = some new := by
  have hnone := IngestDatabase.findBatch_eq_none.mpr hfresh
  rw [IngestDatabase.findBatch] at hnone ⊢
  rw [hbatches, List.find?_append, hnone, Option.none_or]
  exact List.find?_cons_of_pos (beq_self_eq_true new.batchId)

theorem validateReader_ok :
    validateReader db ingest = .ok () ↔ db.operational ingest.readerId = true := by
  unfold validateReader IngestDatabase.operational
  cases db.readerEquipment.find? (·.id == ingest.readerId) with
  | none => exact ⟨nofun, nofun⟩
  | some row => cases h : row.status.isOperational <;> simp [h]

/-- A stored batch is only compared with. -/
theorem storeStatements_of_found {row : IngestBatchRow}
    (hoperational : db.operational ingest.readerId = true)
    (hfound : db.findBatch ingest.batchId = some row) :
    storeStatements db ingest =
      if row.readerId = ingest.readerId ∧ row.requestFingerprint = ingest.requestFingerprint then
        .ok (.replayed, db)
      else .error (.batchIdentityConflict ingest.batchId) := by
  simp only [storeStatements, validateReader_ok.mpr hoperational, ok_bind, hfound,
    validateExistingBatch]
  split <;> rfl

/-- The two ways a store succeeds: the batch is new and its entries are stored
one after another, or it is there already with the same reader and fingerprint
and nothing changes. -/
theorem storeStatements_cases {disposition : IngestDisposition}
    (h : storeStatements db ingest = .ok (disposition, db')) :
    (disposition = .stored ∧ (∀ row ∈ db.batches, row.batchId ≠ ingest.batchId) ∧
      storeEntries ingest ingest.entries
        { db with batches := db.batches ++ [ingest.batchRow] } = .ok db') ∨
    (disposition = .replayed ∧ db' = db ∧ ∃ row, db.findBatch ingest.batchId = some row ∧
      row.readerId = ingest.readerId ∧ row.requestFingerprint = ingest.requestFingerprint) := by
  simp only [storeStatements, bind_eq_ok] at h
  obtain ⟨-, -, h⟩ := h
  cases hfound : db.findBatch ingest.batchId with
  | some existing =>
    simp only [hfound, bind_eq_ok, validateExistingBatch] at h
    obtain ⟨found, hvalid, h⟩ := h
    split at hvalid
    · next hmatches =>
      cases hvalid
      cases h
      exact .inr ⟨rfl, rfl, existing, rfl, hmatches⟩
    · cases hvalid
  | none =>
    simp only [hfound, insertBatch, bind_eq_ok, guard_eq_ok, mapError_eq_ok,
      Table.insert_eq_ok] at h
    obtain ⟨_, ⟨-, -, -, -, -, -, -, -, -, rfl⟩, stored, hstored, h⟩ := h
    cases h
    exact .inl ⟨rfl, IngestDatabase.findBatch_eq_none.mp hfound, hstored⟩

/-- `storeStatements_cases`, with what the new batch leaves behind. -/
theorem storeStatements_ok {disposition : IngestDisposition}
    (h : storeStatements db ingest = .ok (disposition, db')) :
    (disposition = .stored ∧ (∀ row ∈ db.batches, row.batchId ≠ ingest.batchId) ∧
      StoresEntries ingest ingest.entries
        { db with batches := db.batches ++ [ingest.batchRow] } db') ∨
    (disposition = .replayed ∧ db' = db ∧ ∃ row, db.findBatch ingest.batchId = some row ∧
      row.readerId = ingest.readerId ∧ row.requestFingerprint = ingest.requestFingerprint) :=
  (storeStatements_cases h).imp_left fun ⟨hstored, hfresh, hentries⟩ =>
    ⟨hstored, hfresh, storeEntries_ok hentries⟩

end TransitGuard.Backend
