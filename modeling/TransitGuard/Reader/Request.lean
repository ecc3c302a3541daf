import TransitGuard.Reader.Batch

/-!
Reconstruction of the protocol request of a batch from the stored rows. The
request is assembled anew for every attempt, so what it reads decides whether a
retry repeats the first submission.
-/

namespace TransitGuard.Reader

open Protocol Fallible

/-- `ReaderSynchronizationRequestError`. -/
inductive ReaderSynchronizationRequestError
  | batchNotFound (batchId : SynchronizationBatchId) (readerId : ReaderId)
  | batchNotInFlight (batchId : SynchronizationBatchId)
  | missingSubmissionTime (batchId : SynchronizationBatchId)
  | readerStateNotFound (readerId : ReaderId)
  | readerIdentityMismatch (expected actual : ReaderId)
  | protocolMismatch (batchId : SynchronizationBatchId)
  | invalidStoredValue (field : String)
  | protocol (error : ProtocolError)
  deriving DecidableEq

/-- The join of an entry with its queued transaction. -/
def ReaderDatabase.queuedFor (db : ReaderDatabase) (entry : SynchronizationEntryRow) :
    List OfflineTransactionRow :=
  db.offlineTransactions.filter fun row =>
    row.fareTransactionId == entry.fareTransactionId && row.readerId == entry.readerId &&
      row.localSequenceNumber == entry.localSequenceNumber

/-- `SELECT .. FROM synchronization_entries INNER JOIN offline_transactions ..
ORDER BY entry.entry_position`, as pairs of an entry and its envelope text. -/
def ReaderDatabase.storedEntries (db : ReaderDatabase) (readerId : ReaderId)
    (batchId : SynchronizationBatchId) : List (SynchronizationEntryRow × String) :=
  Table.orderBy (·.1.entryPosition) ((db.batchEntries readerId batchId).flatMap fun entry =>
    (db.queuedFor entry).map fun row => (entry, row.transactionEnvelopeJson))

variable (codec : Json.Codec)

/-- The loop over the joined rows: positions count up from zero. -/
def decodeRequestEntries (expectedPosition : Nat) :
    List (SynchronizationEntryRow × String) →
      Except ReaderSynchronizationRequestError (List RequestEntry)
  | [] => .ok []
  | (stored, envelope) :: rest => do
    if stored.entryPosition ≠ expectedPosition then .error (.invalidStoredValue "entry_position")
    let sequence ← decodeSequence (.invalidStoredValue "local_sequence_number")
      stored.localSequenceNumber
    let transactionEnvelope ←
      (CanonicalTransactionEnvelope.fromJson codec envelope).mapError .protocol
    let entries ← decodeRequestEntries (expectedPosition + 1) rest
    .ok (⟨stored.fareTransactionId, sequence, transactionEnvelope⟩ :: entries)

theorem decodeRequestEntries_ok {codec : Json.Codec} {position : Nat}
    {rows : List (SynchronizationEntryRow × String)} {entries : List RequestEntry} :
    decodeRequestEntries codec position rows = .ok entries ↔
      rows.map (·.1.entryPosition) = List.range' position rows.length ∧
        List.Forall₂ (fun row entry => entry.transactionId = row.1.fareTransactionId ∧
          entry.localSequenceNumber.value = row.1.localSequenceNumber ∧
          CanonicalTransactionEnvelope.fromJson codec row.2 = .ok entry.transactionEnvelope)
          rows entries := by
  induction rows generalizing position entries with
  | nil =>
    simp only [decodeRequestEntries, Except.ok.injEq, List.map_nil, List.length_nil,
      List.range'_zero, true_and, List.forall₂_nil_left_iff]
    exact eq_comm
  | cons row rows ih =>
    simp only [decodeRequestEntries, guard_eq_ok, bind_eq_ok, decodeSequence_ok, mapError_eq_ok,
      ih, Except.ok.injEq, ne_eq, not_not, List.map_cons, List.length_cons, List.range'_succ,
      List.cons.injEq, List.forall₂_cons_left_iff]
    constructor
    · rintro ⟨hposition, sequence, hsequence, envelope, henvelope, rest, ⟨hpositions, hrest⟩, rfl⟩
      exact ⟨⟨hposition, hpositions⟩, _, rest, ⟨rfl, hsequence, henvelope⟩, hrest, rfl⟩
    · rintro ⟨⟨hposition, hpositions⟩, entry, rest, ⟨hid, hsequence, henvelope⟩, hrest, rfl⟩
      refine ⟨hposition, entry.localSequenceNumber, hsequence, entry.transactionEnvelope,
        henvelope, rest, ⟨hpositions, hrest⟩, ?_⟩
      rw [← hid]

/-- The statements of the assembly after the state of the batch was checked. -/
def assembleRequest (db : ReaderDatabase) (readerId : ReaderId)
    (batchId : SynchronizationBatchId) (batch : SynchronizationBatchRow) :
    Except ReaderSynchronizationRequestError Request := do
  let submittedAt ← orFail (.missingSubmissionTime batchId) batch.submittedAt
  if submittedAt < 0 then .error (.invalidStoredValue "submitted_at_unix_milliseconds")
  let reader ← orFail (.readerStateNotFound readerId) db.readerState
  if reader.readerId ≠ readerId then .error (.readerIdentityMismatch readerId reader.readerId)
  let readerProtocol ← decodeProtocolVersion (.invalidStoredValue "protocol_version")
    reader.protocolVersion
  let batchProtocol ← decodeProtocolVersion (.invalidStoredValue "protocol_version")
    batch.protocolVersion
  if readerProtocol ≠ batchProtocol then .error (.protocolMismatch batchId)
  let first ← decodeSequence (.invalidStoredValue "first_local_sequence_number")
    batch.firstLocalSequenceNumber
  let last ← decodeSequence (.invalidStoredValue "last_local_sequence_number")
    batch.lastLocalSequenceNumber
  let storedEntries := db.storedEntries readerId batchId
  if storedEntries.isEmpty then .error (.invalidStoredValue "synchronization_entries")
  let entries ← decodeRequestEntries codec 0 storedEntries
  let environmentId ← (EnvironmentId.new reader.environmentId).mapError .protocol
  let readerSoftwareVersion ← (SoftwareVersion.new reader.softwareVersion).mapError .protocol
  (Request.new
    { protocolVersion := batchProtocol
      environmentId
      readerId
      readerSoftwareVersion
      batchId
      firstLocalSequenceNumber := first
      lastLocalSequenceNumber := last
      submittedAt
      entries }).mapError .protocol

variable {codec}

/-- What the request of a batch repeats of the stored rows. -/
structure Assembled (codec : Json.Codec) (db : ReaderDatabase) (batch : SynchronizationBatchRow)
    (reader : ReaderStateRow) (request : Request) : Prop where
  batchVersion : request.protocolVersion.value = batch.protocolVersion
  readerVersion : request.protocolVersion.value = reader.protocolVersion
  environment : EnvironmentId.new reader.environmentId = .ok request.environmentId
  software : SoftwareVersion.new reader.softwareVersion = .ok request.readerSoftwareVersion
  first : request.firstLocalSequenceNumber.value = batch.firstLocalSequenceNumber
  last : request.lastLocalSequenceNumber.value = batch.lastLocalSequenceNumber
  submitted : batch.submittedAt = some request.submittedAt
  nonneg : 0 ≤ request.submittedAt
  nonempty : (db.storedEntries request.readerId request.batchId).isEmpty = false
  entries : decodeRequestEntries codec 0 (db.storedEntries request.readerId request.batchId) =
    .ok request.entries

theorem assembleRequest_ok {db : ReaderDatabase} {readerId : ReaderId}
    {batchId : SynchronizationBatchId} {batch : SynchronizationBatchRow} {request : Request} :
    assembleRequest codec db readerId batchId batch = .ok request ↔
      ∃ reader, db.readerState = some reader ∧ reader.readerId = readerId ∧
        request.readerId = readerId ∧ request.batchId = batchId ∧
        Assembled codec db batch reader request := by
  simp only [assembleRequest, bind_eq_ok, orFail_eq_ok, guard_eq_ok, decodeProtocolVersion_ok,
    decodeSequence_ok, mapError_eq_ok, Request.new_ok, ne_eq, not_not]
  constructor
  · rintro ⟨submittedAt, hsubmitted, hnonneg, reader, hreader, howner, readerVersion,
      hreaderVersion, batchVersion, hbatchVersion, rfl, first, hfirst, last, hlast, hnonempty,
      entries, hentries, environment, henvironment, software, hsoftware, hrequest⟩
    refine ⟨reader, hreader, howner, ?_⟩
    obtain ⟨definition, hvalid⟩ := request
    cases hrequest
    exact ⟨rfl, rfl, hbatchVersion, hreaderVersion, henvironment, hsoftware, hfirst, hlast,
      hsubmitted, by grind, by simpa using hnonempty, hentries⟩
  · rintro ⟨reader, hreader, howner, hreaderId, hbatchId, h⟩
    subst hreaderId hbatchId
    refine ⟨request.submittedAt, h.submitted, by have := h.nonneg; grind, reader, hreader, howner,
      request.protocolVersion, h.readerVersion, request.protocolVersion, h.batchVersion, rfl,
      request.firstLocalSequenceNumber, h.first, request.lastLocalSequenceNumber, h.last,
      by simpa using h.nonempty, request.entries, h.entries, request.environmentId, h.environment,
      request.readerSoftwareVersion, h.software, rfl⟩

variable (codec)

/-- `load_synchronization_batch_request`. -/
def loadSynchronizationBatchRequest (db : ReaderDatabase) (readerId : ReaderId)
    (batchId : SynchronizationBatchId) :
    Except ReaderSynchronizationRequestError Request := do
  let batch ← orFail (.batchNotFound batchId readerId) (db.findBatch readerId batchId)
  if batch.batchState ≠ .inFlight then .error (.batchNotInFlight batchId)
  assembleRequest codec db readerId batchId batch

theorem loadSynchronizationBatchRequest_ok {codec : Json.Codec} {db : ReaderDatabase}
    {readerId : ReaderId} {batchId : SynchronizationBatchId} {request : Request} :
    loadSynchronizationBatchRequest codec db readerId batchId = .ok request ↔
      ∃ batch, db.findBatch readerId batchId = some batch ∧ batch.batchState = .inFlight ∧
        assembleRequest codec db readerId batchId batch = .ok request := by
  simp only [loadSynchronizationBatchRequest, bind_eq_ok, orFail_eq_ok, guard_eq_ok, ne_eq,
    not_not]

end TransitGuard.Reader
