import TransitGuard.Reader.QueueState

/-!
Durable synchronization batches: creation, which selects and reserves eligible
transactions in one SQLite transaction, and the decoding of a stored batch.
-/

namespace TransitGuard.Reader

open Fallible

/-- `SynchronizationBatchEntry`. -/
structure SynchronizationBatchEntry where
  transactionId : FareTransactionId
  localSequenceNumber : LocalSequenceNumber
  deriving DecidableEq

def SynchronizationBatchEntry.key (entry : SynchronizationBatchEntry) : FareTransactionId × Nat :=
  (entry.transactionId, entry.localSequenceNumber.value)

structure SynchronizationBatch where
  batchId : SynchronizationBatchId
  readerId : ReaderId
  protocolVersion : DeviceProtocolVersion
  firstLocalSequenceNumber : LocalSequenceNumber
  lastLocalSequenceNumber : LocalSequenceNumber
  state : SynchronizationBatchState
  attemptCount : Nat
  submittedAt : Option UnixMilliseconds
  nextRetryAt : Option UnixMilliseconds
  lastFailureCategory : Option String
  createdAt : UnixMilliseconds
  updatedAt : UnixMilliseconds
  entries : List SynchronizationBatchEntry
  deriving DecidableEq

/-- `ReaderSynchronizationError`. -/
inductive ReaderSynchronizationError
  | negativeOperationTime (unixMilliseconds : UnixMilliseconds)
  | zeroBatchLimit
  | batchLimitTooLarge (limit : Nat)
  | noEligibleTransactions (readerId : ReaderId)
  | batchNotFound (batchId : SynchronizationBatchId) (readerId : ReaderId)
  | queueStateConflict (transactionId : FareTransactionId)
  | invalidStoredValue (field : String)
  | database (operation : String)
  deriving DecidableEq

/-! ## Loading -/

def decodeCandidate (transactionId : FareTransactionId) (localSequenceNumber : Nat) :
    Except ReaderSynchronizationError SynchronizationBatchEntry := do
  let sequence ← decodeSequence (.invalidStoredValue "local_sequence_number") localSequenceNumber
  .ok ⟨transactionId, sequence⟩

/-- The loop over the stored entries: positions count up from zero. -/
def decodeBatchEntries (expectedPosition : Nat) :
    List SynchronizationEntryRow →
      Except ReaderSynchronizationError (List SynchronizationBatchEntry)
  | [] => .ok []
  | stored :: rest => do
    if stored.entryPosition ≠ expectedPosition then .error (.invalidStoredValue "entry_position")
    let entry ← decodeCandidate stored.fareTransactionId stored.localSequenceNumber
    let entries ← decodeBatchEntries (expectedPosition + 1) rest
    .ok (entry :: entries)

theorem decodeCandidate_ok {transactionId : FareTransactionId} {sequence : Nat}
    {entry : SynchronizationBatchEntry} :
    decodeCandidate transactionId sequence = .ok entry ↔ entry.key = (transactionId, sequence) := by
  obtain ⟨id, seq⟩ := entry
  simp only [decodeCandidate, bind_eq_ok, decodeSequence_ok, Except.ok.injEq,
    SynchronizationBatchEntry.mk.injEq, SynchronizationBatchEntry.key, Prod.mk.injEq]
  constructor
  · rintro ⟨s, hs, rfl, rfl⟩
    exact ⟨rfl, hs⟩
  · rintro ⟨rfl, hs⟩
    exact ⟨seq, hs, rfl, rfl⟩

theorem decodeBatchEntries_ok {position : Nat} {rows : List SynchronizationEntryRow}
    {entries : List SynchronizationBatchEntry} :
    decodeBatchEntries position rows = .ok entries ↔
      rows.map (·.entryPosition) = List.range' position rows.length ∧
        entries.map (·.key) = rows.map (·.key) := by
  induction rows generalizing position entries with
  | nil =>
    simp only [decodeBatchEntries, Except.ok.injEq, List.map_nil, List.length_nil,
      List.range'_zero, true_and, List.map_eq_nil_iff]
    exact eq_comm
  | cons row rows ih =>
    simp only [decodeBatchEntries, guard_eq_ok, bind_eq_ok, decodeCandidate_ok, ih,
      Except.ok.injEq, ne_eq, not_not, List.map_cons, List.length_cons, List.range'_succ,
      List.cons.injEq]
    constructor
    · rintro ⟨hpos, entry, hentry, rest, ⟨hposs, hrest⟩, rfl⟩
      exact ⟨⟨hpos, hposs⟩, by rw [List.map_cons, hentry, hrest]; rfl⟩
    · rintro ⟨⟨hpos, hposs⟩, hkeys⟩
      obtain ⟨entry, rest, rfl, hentry, hrest⟩ := List.map_eq_cons_iff.mp hkeys
      exact ⟨hpos, entry, hentry, rest, ⟨hposs, hrest⟩, rfl⟩

def decodeStoredBatch (stored : SynchronizationBatchRow)
    (storedEntries : List SynchronizationEntryRow) :
    Except ReaderSynchronizationError SynchronizationBatch := do
  let protocolVersion ←
    decodeProtocolVersion (.invalidStoredValue "protocol_version") stored.protocolVersion
  let first ← decodeSequence (.invalidStoredValue "first_local_sequence_number")
    stored.firstLocalSequenceNumber
  let last ← decodeSequence (.invalidStoredValue "last_local_sequence_number")
    stored.lastLocalSequenceNumber
  if last.value < first.value then .error (.invalidStoredValue "last_local_sequence_number")
  if 2 ^ 32 ≤ stored.attemptCount then .error (.invalidStoredValue "attempt_count")
  if stored.submittedAt.any (· < 0) then
    .error (.invalidStoredValue "submitted_at_unix_milliseconds")
  if stored.nextRetryAt.any (· < 0) then
    .error (.invalidStoredValue "next_retry_at_unix_milliseconds")
  if stored.createdAt < 0 then .error (.invalidStoredValue "created_at_unix_milliseconds")
  if stored.updatedAt < stored.createdAt then
    .error (.invalidStoredValue "updated_at_unix_milliseconds")
  let entries ← decodeBatchEntries 0 storedEntries
  match entries.head?, entries.getLast? with
  | some firstEntry, some lastEntry =>
    if firstEntry.localSequenceNumber ≠ first ∨ lastEntry.localSequenceNumber ≠ last then
      .error (.invalidStoredValue "batch_sequence_range")
    else
      .ok { batchId := stored.batchId
            readerId := stored.readerId
            protocolVersion
            firstLocalSequenceNumber := first
            lastLocalSequenceNumber := last
            state := stored.batchState
            attemptCount := stored.attemptCount
            submittedAt := stored.submittedAt
            nextRetryAt := stored.nextRetryAt
            lastFailureCategory := stored.lastFailureCategory
            createdAt := stored.createdAt
            updatedAt := stored.updatedAt
            entries }
  | _, _ => .error (.invalidStoredValue "batch_entries")

/-- `load_synchronization_batch`. -/
def loadSynchronizationBatch (db : ReaderDatabase) (readerId : ReaderId)
    (batchId : SynchronizationBatchId) :
    Except ReaderSynchronizationError SynchronizationBatch := do
  let stored ← orFail (.batchNotFound batchId readerId) (db.findBatch readerId batchId)
  decodeStoredBatch stored
    (Table.orderBy (·.entryPosition) (db.batchEntries readerId batchId))

/-! ## Creation -/

/-- `SELECT .. ORDER BY local_sequence_number LIMIT ?` over the eligible
transactions outside every open batch. -/
def batchCandidates (db : ReaderDatabase) (readerId : ReaderId) (createdAt : UnixMilliseconds)
    (limit : Nat) : List OfflineTransactionRow :=
  (Table.orderBy (·.localSequenceNumber) (db.offlineTransactions.filter fun row =>
    row.readerId == readerId && row.eligibleAt createdAt && !db.inOpenBatch row)).take limit

def OfflineTransactionRow.reserve (t : UnixMilliseconds) (row : OfflineTransactionRow) :
    OfflineTransactionRow :=
  { row with
    queueState := .inFlight
    nextRetryAt := none
    lastFailureCategory := none
    updatedAt := t }

/-- The WHERE clause of the reservation. -/
def OfflineTransactionRow.reservableFor (row : OfflineTransactionRow) (readerId : ReaderId)
    (entry : SynchronizationBatchEntry) (t : UnixMilliseconds) : Bool :=
  row.named readerId entry.transactionId &&
    row.localSequenceNumber == entry.localSequenceNumber.value && row.updatedAt ≤ t &&
    row.eligibleAt t

/-- The loop of the creation: reserve the transaction, then insert its entry. -/
def reserveEntries (readerId : ReaderId) (batchId : SynchronizationBatchId)
    (createdAt : UnixMilliseconds) :
    Nat → List SynchronizationBatchEntry → ReaderDatabase →
      Except ReaderSynchronizationError ReaderDatabase
  | _, [], db => .ok db
  | position, entry :: rest, db => do
    if i64Max < position then .error (.invalidStoredValue "entry_position")
    if i64Max < entry.localSequenceNumber.value then
      .error (.invalidStoredValue "local_sequence_number")
    let (transactions, affected) ← orFail (.database "reserve batch transaction")
      (Table.update OfflineTransactionRow.check
        (·.reservableFor readerId entry createdAt) (·.reserve createdAt)
        db.offlineTransactions)
    if affected ≠ 1 then .error (.queueStateConflict entry.transactionId)
    let entries ← (Table.insert SynchronizationEntryRow.check SynchronizationEntryRow.conflicts
      ((db.findBatch readerId batchId).isSome &&
        transactions.any fun row => row.named readerId entry.transactionId &&
          row.localSequenceNumber == entry.localSequenceNumber.value)
      ⟨batchId, readerId, entry.transactionId, entry.localSequenceNumber.value, position⟩
      db.synchronizationEntries).mapError fun _ => .database "insert synchronization entry"
    reserveEntries readerId batchId createdAt (position + 1) rest
      { db with offlineTransactions := transactions, synchronizationEntries := entries }

/-- The rows inserted for the entries of a new batch. -/
def entryRows (readerId : ReaderId) (batchId : SynchronizationBatchId) (position : Nat)
    (entries : List SynchronizationBatchEntry) : List SynchronizationEntryRow :=
  (entries.zipIdx position).map fun (entry, i) =>
    ⟨batchId, readerId, entry.transactionId, entry.localSequenceNumber.value, i⟩

/-- The reservations of the loop, without the insertions between them. -/
def reserveTransactions (readerId : ReaderId) (t : UnixMilliseconds)
    (entries : List SynchronizationBatchEntry) (rows : List OfflineTransactionRow) :
    Except ReaderSynchronizationError (List OfflineTransactionRow) :=
  Table.updateEach OfflineTransactionRow.check (fun entry row => row.reservableFor readerId entry t)
    (fun _ row => row.reserve t) (.database "reserve batch transaction")
    (fun entry => .queueStateConflict entry.transactionId) entries rows

theorem reserveEntries_ok {readerId : ReaderId} {batchId : SynchronizationBatchId}
    {t : UnixMilliseconds} {position : Nat} {entries : List SynchronizationBatchEntry}
    {db db' : ReaderDatabase}
    (h : reserveEntries readerId batchId t position entries db = .ok db') :
    ∃ transactions,
      reserveTransactions readerId t entries db.offlineTransactions = .ok transactions ∧
        db' = { db with
          offlineTransactions := transactions
          synchronizationEntries :=
            db.synchronizationEntries ++ entryRows readerId batchId position entries } := by
  induction entries generalizing position db with
  | nil =>
    cases h
    exact ⟨_, rfl, by simp [entryRows]⟩
  | cons entry entries ih =>
    simp only [reserveEntries, guard_eq_ok, bind_eq_ok, orFail_eq_ok, mapError_eq_ok,
      Table.insert_eq_ok, Prod.exists, ne_eq, not_not] at h
    obtain ⟨-, -, updated, affected, hupdate, rfl, inserted, ⟨-, -, -, rfl⟩, hrest⟩ := h
    obtain ⟨transactions, heach, rfl⟩ := ih hrest
    refine ⟨transactions, ?_, ?_⟩
    · rw [reserveTransactions, Table.updateEach, hupdate]
      exact heach
    · simp [entryRows, List.zipIdx_cons]

theorem OfflineTransactionRow.reservableFor_eq_true {readerId : ReaderId}
    {entry : SynchronizationBatchEntry} {t : UnixMilliseconds} {row : OfflineTransactionRow} :
    row.reservableFor readerId entry t = true ↔
      row.fareTransactionId = entry.transactionId ∧ row.readerId = readerId ∧
        row.localSequenceNumber = entry.localSequenceNumber.value ∧ row.updatedAt ≤ t ∧
          row.eligibleAt t = true := by
  simp only [reservableFor, named, Bool.and_eq_true, beq_iff_eq, decide_eq_true_eq, and_assoc]

theorem reserveTransactions_eq_ok {readerId : ReaderId} {t : UnixMilliseconds}
    {entries : List SynchronizationBatchEntry} {rows out : List OfflineTransactionRow}
    (hrows : (rows.map (·.fareTransactionId)).Nodup)
    (hentries : (entries.map (·.transactionId)).Nodup) :
    reserveTransactions readerId t entries rows = .ok out ↔
      (∀ entry ∈ entries, ∃ row ∈ rows,
        row.reservableFor readerId entry t = true ∧ (row.reserve t).check = true) ∧
      out = rows.map (Table.assignEach (·.fareTransactionId) (·.transactionId)
        (fun _ row => row.reserve t) entries) := by
  refine Table.updateEach_eq_ok ?_ ?_ hrows hentries
  · exact fun entry row hp => (OfflineTransactionRow.reservableFor_eq_true.mp hp).1
  · exact fun _ _ => rfl

/-- The row `INSERT INTO synchronization_batches` writes. -/
def preparedBatch (readerId : ReaderId) (protocolVersion : DeviceProtocolVersion)
    (createdAt : UnixMilliseconds) (batchId : SynchronizationBatchId)
    (first last : LocalSequenceNumber) : SynchronizationBatchRow where
  batchId := batchId
  readerId := readerId
  protocolVersion := protocolVersion.value
  firstLocalSequenceNumber := first.value
  lastLocalSequenceNumber := last.value
  batchState := .prepared
  attemptCount := 0
  submittedAt := none
  nextRetryAt := none
  lastFailureCategory := none
  createdAt := createdAt
  updatedAt := createdAt

/-- `create_synchronization_batch`. The identifier that
`SynchronizationBatchId::generate` draws is the argument `generated`. -/
def createSynchronizationBatch (db : ReaderDatabase) (readerId : ReaderId)
    (protocolVersion : DeviceProtocolVersion) (createdAt : UnixMilliseconds) (limit : Nat)
    (generated : SynchronizationBatchId) :
    Outcome ReaderSynchronizationError SynchronizationBatch :=
  transact db do
    validateTime .negativeOperationTime createdAt
    if limit = 0 then .error .zeroBatchLimit
    if i64Max < limit then .error (.batchLimitTooLarge limit)
    let candidates := batchCandidates db readerId createdAt limit
    if candidates.isEmpty then .error (.noEligibleTransactions readerId)
    let entries ← candidates.mapM fun row =>
      decodeCandidate row.fareTransactionId row.localSequenceNumber
    match entries.head?, entries.getLast? with
    | some firstEntry, some lastEntry =>
      let first := firstEntry.localSequenceNumber
      let last := lastEntry.localSequenceNumber
      if i64Max < first.value ∨ i64Max < last.value then
        .error (.invalidStoredValue "local_sequence_number")
      let batch := preparedBatch readerId protocolVersion createdAt generated first last
      let batches ← (Table.insert SynchronizationBatchRow.check
        SynchronizationBatchRow.conflicts (db.hasReader readerId) batch
        db.synchronizationBatches).mapError fun _ => .database "insert synchronization batch"
      let reserved ← reserveEntries readerId generated createdAt 0 entries
        { db with synchronizationBatches := batches }
      .ok ({ batchId := generated
             readerId
             protocolVersion
             firstLocalSequenceNumber := first
             lastLocalSequenceNumber := last
             state := .prepared
             attemptCount := 0
             submittedAt := none
             nextRetryAt := none
             lastFailureCategory := none
             createdAt
             updatedAt := createdAt
             entries }, reserved)
    | _, _ => .error (.invalidStoredValue "batch_entries")

end TransitGuard.Reader
