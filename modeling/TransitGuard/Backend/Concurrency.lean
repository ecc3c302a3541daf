import TransitGuard.Backend.Equipment

/-!
The ingest store statement by statement, beside changes of reader equipment.
What a statement finds, and whether the row it writes is accepted, is what the
one-call model of the store says about the tables the statement sees.

`FOR UPDATE` with two alternative keys reads the rows that match, then locks
them one after another and reads each again under its lock. It locks no row that
is not there. An `INSERT` takes the values of its unique keys, so it waits for
another transaction that is about to store one of them.
-/

namespace TransitGuard.Backend

open Protocol Fallible Isolation

/-! ## The database -/

structure BackendDatabase where
  equipment : List EquipmentRow
  batches : List IngestBatchRow
  transactions : List IngestTransactionRow
  entries : List IngestEntryRow

/-- The tables as the ingest store knows them. -/
def BackendDatabase.ingest (db : BackendDatabase) : IngestDatabase where
  readerEquipment := db.equipment.map EquipmentRow.reader
  batches := db.batches
  transactions := db.transactions
  entries := db.entries

/-- What a statement locks: a row, or the value of a unique key. -/
inductive BackendKey
  | reader (id : ReaderId)
  | equipmentKey (id : EquipmentKeyId)
  | batch (id : SynchronizationBatchId)
  | transaction (id : FareTransactionId)
  | sequence (readerId : ReaderId) (sequence : Nat)
  | entryPosition (batchId : SynchronizationBatchId) (position : Nat)
  | entryTransaction (batchId : SynchronizationBatchId) (id : FareTransactionId)
  | entrySequence (batchId : SynchronizationBatchId) (sequence : Nat)
  deriving DecidableEq

/-- A row that a statement has written. An update of a transaction sets its
resolution and leaves the other columns alone. -/
inductive BackendWrite
  | updateEquipment (row : EquipmentRow)
  | insertBatch (row : IngestBatchRow)
  | insertTransaction (row : IngestTransactionRow)
  | resolveTransaction (id : FareTransactionId) (resolution : EntryOutcome)
      (resolvedAt : UnixMilliseconds)
  | insertEntry (row : IngestEntryRow)

def IngestTransactionRow.withResolution (resolution : EntryOutcome)
    (resolvedAt : UnixMilliseconds) (row : IngestTransactionRow) : IngestTransactionRow :=
  { row with currentResolution := resolution, lastResolvedAt := resolvedAt }

def BackendDatabase.apply (db : BackendDatabase) : BackendWrite → BackendDatabase
  | .updateEquipment row =>
    { db with equipment := Table.updateWhere (·.id == row.id) (fun _ => row) db.equipment }
  | .insertBatch row => { db with batches := db.batches ++ [row] }
  | .insertTransaction row => { db with transactions := db.transactions ++ [row] }
  | .resolveTransaction id resolution resolvedAt =>
    { db with
      transactions := Table.updateWhere (·.fareTransactionId == id)
        (·.withResolution resolution resolvedAt) db.transactions }
  | .insertEntry row => { db with entries := db.entries ++ [row] }

inductive BackendError
  | ingest (error : IngestPersistenceError)
  | application (error : ApplicationError)
  | readerEquipment (error : ReaderEquipmentError)
  deriving DecidableEq

abbrev BackendScript := Script BackendDatabase BackendWrite BackendKey BackendError

/-! ## The store -/

/-- A computation of the store between two statements. -/
def ingestResult {α : Type} (x : Except IngestPersistenceError α) : BackendScript α :=
  .ofExcept (x.mapError .ingest)

/-- A statement of the store that has `check` to pass and then writes. -/
def ingestWrite {α : Type} (locks : List (Lock BackendKey))
    (check : IngestDatabase → Except IngestPersistenceError α)
    (writes : BackendDatabase → List BackendWrite) : BackendScript Unit :=
  .write locks fun db => ((check db.ingest).mapError .ingest).map fun _ => writes db

/-- `VALIDATE_READER_SQL`. -/
def BackendDatabase.readerOperational (db : BackendDatabase) (id : ReaderId) : Option Bool :=
  (db.equipment.find? (·.id == id)).map (·.operational)

/-- What `validate_reader` makes of the answer. -/
def checkReader (readerId : ReaderId) : Option Bool → Except IngestPersistenceError Unit
  | some true => .ok ()
  | some false => .error (.readerNotOperational readerId)
  | none => .error (.readerNotRegistered readerId)

def validateReaderScript (ingest : PreparedIngest) : BackendScript Unit := do
  let operational ← .selectFor [⟨.reader ingest.readerId, .share⟩]
    (·.readerOperational ingest.readerId)
  ingestResult (checkReader ingest.readerId operational)

def insertBatchScript (ingest : PreparedIngest) : BackendScript Unit :=
  ingestWrite [⟨.batch ingest.batchId, .exclusive⟩] (insertBatch · ingest)
    fun _ => [.insertBatch ingest.batchRow]

/-- Locks the rows one after another and reads each of them again. -/
def lockTransactions (ingest : PreparedIngest) (entry : PreparedIngestEntry) :
    List FareTransactionId → BackendScript (List IngestTransactionRow)
  | [] => pure []
  | id :: rest => do
    let row ← .selectFor [⟨.transaction id, .exclusive⟩]
      fun db => (db.transactions.find? (·.fareTransactionId == id)).filter (ingest.meets entry)
    let rows ← lockTransactions ingest entry rest
    pure (row.toList ++ rows)

/-- `FIND_TRANSACTION_SQL`. -/
def findTransactionScript (ingest : PreparedIngest) (entry : PreparedIngestEntry) :
    BackendScript (List IngestTransactionRow) := do
  let found ← .select fun db => db.transactions.filter (ingest.meets entry)
  lockTransactions ingest entry (found.map (·.fareTransactionId))

def insertTransactionScript (ingest : PreparedIngest) (entry : PreparedIngestEntry) :
    BackendScript Unit :=
  ingestWrite [⟨.transaction entry.transactionId, .exclusive⟩,
      ⟨.sequence ingest.readerId entry.localSequenceNumber.value, .exclusive⟩]
    (insertTransaction · ingest entry) fun _ => [.insertTransaction (ingest.transactionRow entry)]

def updateTransactionScript (entry : PreparedIngestEntry) : BackendScript Unit :=
  ingestWrite [⟨.transaction entry.transactionId, .exclusive⟩] (updateTransaction · entry) fun db =>
    (db.transactions.filter (·.fareTransactionId == entry.transactionId)).map fun row =>
      .resolveTransaction entry.transactionId (row.resolve entry).currentResolution
        (row.resolve entry).lastResolvedAt

def storeTransactionScript (ingest : PreparedIngest) (entry : PreparedIngestEntry) :
    BackendScript Unit := do
  let _ ← ingestResult (sequenceToI64 entry.localSequenceNumber
    "synchronization_ingest_transactions.local_sequence_number")
  match ← findTransactionScript ingest entry with
  | [] => insertTransactionScript ingest entry
  | [stored] =>
    if transactionIdentityMatches stored ingest entry then updateTransactionScript entry
    else .fail (.ingest (.transactionIdentityConflict entry.transactionId))
  | _ => .fail (.ingest (.transactionIdentityConflict entry.transactionId))

def insertEntryScript (ingest : PreparedIngest) (entry : PreparedIngestEntry) :
    BackendScript Unit :=
  ingestWrite [⟨.entryPosition ingest.batchId entry.entryPosition, .exclusive⟩,
      ⟨.entryTransaction ingest.batchId entry.transactionId, .exclusive⟩,
      ⟨.entrySequence ingest.batchId entry.localSequenceNumber.value, .exclusive⟩]
    (insertEntry · ingest entry) fun _ => [.insertEntry (ingest.entryRow entry)]

/-- The loop of `store` over the prepared entries. -/
def storeEntriesScript (ingest : PreparedIngest) : List PreparedIngestEntry → BackendScript Unit
  | [] => pure ()
  | entry :: rest => do
    storeTransactionScript ingest entry
    insertEntryScript ingest entry
    storeEntriesScript ingest rest

/-- `PostgresSynchronizationIngestRepository::store`. -/
def storeScript (ingest : PreparedIngest) : BackendScript IngestDisposition := do
  validateReaderScript ingest
  match ← .select fun db => db.batches.find? (·.batchId == ingest.batchId) with
  | some existing => ingestResult (validateExistingBatch existing ingest)
  | none => do
    insertBatchScript ingest
    storeEntriesScript ingest ingest.entries
    pure .stored

/-! ## Changes of equipment -/

def findReaderEquipment (id : ReaderId) :
    BackendScript (Option (VersionedAggregate ReaderEquipment)) := do
  let row ← .select fun db => db.equipment.find? (·.id == id)
  .ofExcept ((loadRow EquipmentRow.intoVersioned row).mapError fun error =>
    .application (repositoryError "reader equipment" "find by identifier" error))

/-- `UPDATE_READER_SQL`. -/
def BackendDatabase.updateEquipment (db : BackendDatabase) (row : EquipmentRow) (expected : Nat) :
    Except PersistenceError Unit :=
  updateStatement "reader equipment" EquipmentRow.check EquipmentRow.conflicts true
    (fun stored => stored.id == row.id && stored.aggregateVersion == expected) row db.equipment

/-- `save_reader_equipment` under `SaveCondition::IfVersion`. -/
def saveReaderEquipment (reader : ReaderEquipment) (version : AggregateVersion) :
    BackendScript Unit := do
  let (current, next) ← .ofExcept
    ((encodeNextVersion version "reader_equipment.aggregate_version").mapError fun error =>
      .application (repositoryError "reader equipment" "save" error))
  let row := EquipmentRow.fromDomain reader next
  .write [⟨.reader row.id, .exclusive⟩, ⟨.equipmentKey row.equipmentKeyId, .exclusive⟩] fun db =>
    ((db.updateEquipment row current).mapError fun error =>
      BackendError.application (repositoryError "reader equipment" "save" error)).map
        fun _ => [.updateEquipment row]

/-- Loads reader equipment, changes it by its operations and saves it under the
version it was loaded at. A refused operation saves nothing. -/
def changeReaderEquipment (id : ReaderId) (operations : List ReaderEquipment.Operation) :
    BackendScript Unit := do
  let found ← findReaderEquipment id
  let loaded ← .ofExcept
    (orFail (.application (.notFound "reader equipment" id.toText)) found)
  let reader ← .ofExcept ((operations.foldlM ReaderEquipment.perform loaded.aggregate).mapError
    .readerEquipment)
  saveReaderEquipment reader loaded.version

/-! ## The system -/

inductive BackendCall
  | store (ingest : PreparedIngest)
  | changeReader (id : ReaderId) (operations : List ReaderEquipment.Operation)

inductive BackendResult
  | ingested (disposition : IngestDisposition)
  | changed
  deriving DecidableEq

def BackendCall.script : BackendCall → BackendScript BackendResult
  | .store ingest => do pure (.ingested (← storeScript ingest))
  | .changeReader id operations => do
    changeReaderEquipment id operations
    pure .changed

abbrev BackendSystem :=
  System BackendDatabase BackendWrite BackendKey BackendError BackendCall BackendResult

abbrev BackendWorld :=
  World BackendDatabase BackendWrite BackendKey BackendError BackendCall BackendResult

abbrev BackendAction := Action BackendCall BackendError

/-- The store and the changes of equipment over one database; no constraint of
its tables is deferred. -/
def backendSystem : BackendSystem where
  script := BackendCall.script
  apply := BackendDatabase.apply
  deferred _ := .ok ()

end TransitGuard.Backend
