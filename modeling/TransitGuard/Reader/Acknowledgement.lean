import TransitGuard.Reader.Batch

/-!
Intake of backend acknowledgements: the reader-local acknowledgement and its
validator, the canonical payload that decides whether a second acknowledgement
is a replay, its storage, and the translation of a protocol acknowledgement.
-/

namespace TransitGuard.Reader

open Json Fallible

/-- `SynchronizationEntryResolution`. -/
inductive SynchronizationEntryResolution
  | acknowledged
  | retryableFailure (failureCategory : String) (retryAt : UnixMilliseconds)
  | permanentFailure (failureCategory : String)
  | manualReview (failureCategory : String)
  deriving DecidableEq

structure SynchronizationAcknowledgementEntry where
  transactionId : FareTransactionId
  localSequenceNumber : LocalSequenceNumber
  resolution : SynchronizationEntryResolution
  deriving DecidableEq

def SynchronizationAcknowledgementEntry.key (entry : SynchronizationAcknowledgementEntry) :
    FareTransactionId × Nat :=
  (entry.transactionId, entry.localSequenceNumber.value)

/-- `ReaderAcknowledgementError`. -/
inductive ReaderAcknowledgementError
  | negativeReceivedTime (unixMilliseconds : UnixMilliseconds)
  | invalidSequenceRange
  | emptyEntries
  | duplicateTransaction (transactionId : FareTransactionId)
  | duplicateSequence (localSequenceNumber : Nat)
  | emptyFailureCategory (transactionId : FareTransactionId)
  | retryBeforeAcknowledgement (transactionId : FareTransactionId)
      (retryAt receivedAt : UnixMilliseconds)
  | protocolMismatch (batchId : SynchronizationBatchId)
  | sequenceRangeMismatch (batchId : SynchronizationBatchId)
  | entryCountMismatch (batchId : SynchronizationBatchId) (expected received : Nat)
  | entryMismatch (batchId : SynchronizationBatchId) (position : Nat)
  | batchNotInFlight (batchId : SynchronizationBatchId)
  | conflictingReplay (batchId : SynchronizationBatchId)
  | synchronization (error : ReaderSynchronizationError)
  | database (operation : String)
  deriving DecidableEq

/-! ## Validation -/

/-- `validate_failure_category`; the category is stored as it came, untrimmed. -/
def validateAcknowledgedCategory (transactionId : FareTransactionId) (failureCategory : String) :
    Except ReaderAcknowledgementError Unit :=
  if Text.trim failureCategory = "" then .error (.emptyFailureCategory transactionId) else .ok ()

def validateResolution (transactionId : FareTransactionId)
    (resolution : SynchronizationEntryResolution) (receivedAt : UnixMilliseconds) :
    Except ReaderAcknowledgementError Unit :=
  match resolution with
  | .acknowledged => .ok ()
  | .retryableFailure failureCategory retryAt => do
    validateAcknowledgedCategory transactionId failureCategory
    if retryAt < receivedAt then
      .error (.retryBeforeAcknowledgement transactionId retryAt receivedAt)
    else .ok ()
  | .permanentFailure failureCategory | .manualReview failureCategory =>
    validateAcknowledgedCategory transactionId failureCategory

/-- The loop of `new` over the two growing sets. -/
def validateAcknowledgedEntries (receivedAt : UnixMilliseconds)
    (transactionIds : List FareTransactionId) (sequences : List LocalSequenceNumber) :
    List SynchronizationAcknowledgementEntry → Except ReaderAcknowledgementError Unit
  | [] => .ok ()
  | entry :: rest =>
    if entry.transactionId ∈ transactionIds then
      .error (.duplicateTransaction entry.transactionId)
    else if entry.localSequenceNumber ∈ sequences then
      .error (.duplicateSequence entry.localSequenceNumber.value)
    else do
      validateResolution entry.transactionId entry.resolution receivedAt
      validateAcknowledgedEntries receivedAt (entry.transactionId :: transactionIds)
        (entry.localSequenceNumber :: sequences) rest

/-- The checks of `SynchronizationAcknowledgement::new`. -/
def validateAcknowledgement (first last : LocalSequenceNumber) (receivedAt : UnixMilliseconds)
    (entries : List SynchronizationAcknowledgementEntry) :
    Except ReaderAcknowledgementError Unit :=
  if receivedAt < 0 then .error (.negativeReceivedTime receivedAt)
  else if last.value < first.value then .error .invalidSequenceRange
  else if entries.isEmpty then .error .emptyEntries
  else validateAcknowledgedEntries receivedAt [] [] entries

structure SynchronizationAcknowledgement where
  readerId : ReaderId
  batchId : SynchronizationBatchId
  protocolVersion : DeviceProtocolVersion
  firstLocalSequenceNumber : LocalSequenceNumber
  lastLocalSequenceNumber : LocalSequenceNumber
  receivedAt : UnixMilliseconds
  entries : List SynchronizationAcknowledgementEntry
  valid : validateAcknowledgement firstLocalSequenceNumber lastLocalSequenceNumber receivedAt
    entries = .ok ()
  deriving DecidableEq

/-- `SynchronizationAcknowledgement::new`. -/
def SynchronizationAcknowledgement.new (readerId : ReaderId) (batchId : SynchronizationBatchId)
    (protocolVersion : DeviceProtocolVersion) (first last : LocalSequenceNumber)
    (receivedAt : UnixMilliseconds) (entries : List SynchronizationAcknowledgementEntry) :
    Except ReaderAcknowledgementError SynchronizationAcknowledgement :=
  match h : validateAcknowledgement first last receivedAt entries with
  | .error e => .error e
  | .ok () => .ok ⟨readerId, batchId, protocolVersion, first, last, receivedAt, entries, h⟩

/-- The loop of `validate_against_batch` over the zipped entries. -/
def validateAgainstEntries (batchId : SynchronizationBatchId) (position : Nat) :
    List SynchronizationBatchEntry → List SynchronizationAcknowledgementEntry →
      Except ReaderAcknowledgementError Unit
  | expected :: expectedRest, received :: receivedRest =>
    if expected.transactionId ≠ received.transactionId ∨
        expected.localSequenceNumber ≠ received.localSequenceNumber then
      .error (.entryMismatch batchId position)
    else validateAgainstEntries batchId (position + 1) expectedRest receivedRest
  | _, _ => .ok ()

/-- `validate_against_batch`. -/
def validateAgainstBatch (acknowledgement : SynchronizationAcknowledgement)
    (batch : SynchronizationBatch) : Except ReaderAcknowledgementError Unit :=
  if acknowledgement.protocolVersion ≠ batch.protocolVersion then
    .error (.protocolMismatch batch.batchId)
  else if acknowledgement.firstLocalSequenceNumber ≠ batch.firstLocalSequenceNumber ∨
      acknowledgement.lastLocalSequenceNumber ≠ batch.lastLocalSequenceNumber then
    .error (.sequenceRangeMismatch batch.batchId)
  else if acknowledgement.entries.length ≠ batch.entries.length then
    .error (.entryCountMismatch batch.batchId batch.entries.length acknowledgement.entries.length)
  else validateAgainstEntries batch.batchId 0 batch.entries acknowledgement.entries

theorem validateAgainstEntries_ok {batchId : SynchronizationBatchId} {position : Nat}
    {expected : List SynchronizationBatchEntry}
    {received : List SynchronizationAcknowledgementEntry}
    (hlength : received.length = expected.length) :
    validateAgainstEntries batchId position expected received = .ok () ↔
      received.map (·.key) = expected.map (·.key) := by
  induction expected generalizing position received with
  | nil =>
    rw [List.length_nil, List.length_eq_zero_iff] at hlength
    subst hlength
    exact ⟨fun _ => rfl, fun _ => rfl⟩
  | cons entry expected ih =>
    cases received with
    | nil => simp at hlength
    | cons head received =>
      rw [validateAgainstEntries, ite_error_eq_ok, ih (by simpa using hlength)]
      simp only [List.map_cons, List.cons.injEq, SynchronizationAcknowledgementEntry.key,
        SynchronizationBatchEntry.key, Prod.mk.injEq, not_or, ne_eq, not_not]
      refine and_congr_left fun _ => ⟨fun h => ⟨h.1.symm, h.2 ▸ rfl⟩, fun h => ?_⟩
      exact ⟨h.1.symm, LocalSequenceNumber.ext h.2.symm⟩

theorem validateAgainstBatch_ok {acknowledgement : SynchronizationAcknowledgement}
    {batch : SynchronizationBatch} :
    validateAgainstBatch acknowledgement batch = .ok () ↔
      acknowledgement.protocolVersion = batch.protocolVersion ∧
        acknowledgement.firstLocalSequenceNumber = batch.firstLocalSequenceNumber ∧
        acknowledgement.lastLocalSequenceNumber = batch.lastLocalSequenceNumber ∧
        acknowledgement.entries.map (·.key) = batch.entries.map (·.key) := by
  simp only [validateAgainstBatch, ite_error_eq_ok, ne_eq, not_or, not_not]
  constructor
  · rintro ⟨hversion, ⟨hfirst, hlast⟩, hlength, hentries⟩
    exact ⟨hversion, hfirst, hlast, (validateAgainstEntries_ok hlength).mp hentries⟩
  · rintro ⟨hversion, hfirst, hlast, hkeys⟩
    have hlength : acknowledgement.entries.length = batch.entries.length := by
      simpa using congrArg List.length hkeys
    exact ⟨hversion, ⟨hfirst, hlast⟩, hlength, (validateAgainstEntries_ok hlength).mpr hkeys⟩

/-! ## The canonical payload -/

/-- `stored_resolution`. -/
def storedResolution :
    SynchronizationEntryResolution →
      Protocol.EntryOutcome × Option String × Option UnixMilliseconds
  | .acknowledged => (.acknowledged, none, none)
  | .retryableFailure failureCategory retryAt =>
    (.retryableFailure, some failureCategory, some retryAt)
  | .permanentFailure failureCategory => (.permanentFailure, some failureCategory, none)
  | .manualReview failureCategory => (.manualReview, some failureCategory, none)

/-- One element of the `entries` array; `json!` objects print in key order. -/
def payloadEntry (position : Nat) (entry : SynchronizationAcknowledgementEntry) : Value :=
  let (outcome, failureCategory, retryAt) := storedResolution entry.resolution
  .object [("entry_position", nat position),
    ("failure_category", option .string failureCategory),
    ("fare_transaction_id", .string entry.transactionId.toText),
    ("local_sequence_number", nat entry.localSequenceNumber.value),
    ("outcome", .string outcome.asStr),
    ("retry_at_unix_milliseconds", option int retryAt)]

def payloadValue (acknowledgement : SynchronizationAcknowledgement) : Value :=
  .object [("batch_id", .string acknowledgement.batchId.toText),
    ("entries", .array (acknowledgement.entries.mapIdx payloadEntry)),
    ("first_local_sequence_number", nat acknowledgement.firstLocalSequenceNumber.value),
    ("last_local_sequence_number", nat acknowledgement.lastLocalSequenceNumber.value),
    ("protocol_version", nat acknowledgement.protocolVersion.value),
    ("reader_id", .string acknowledgement.readerId.toText),
    ("received_at_unix_milliseconds", int acknowledgement.receivedAt),
    ("schema_version", nat 1)]

variable (codec : Codec)

/-- `canonical_payload`. -/
def canonicalPayload (acknowledgement : SynchronizationAcknowledgement) : String :=
  (payloadValue acknowledgement).render codec

/-! ## Storage -/

structure StoredSynchronizationAcknowledgement where
  acknowledgement : SynchronizationAcknowledgement
  replayed : Bool
  deriving DecidableEq

/-- The acknowledgement row of a batch. -/
def ReaderDatabase.findAcknowledgement (db : ReaderDatabase) (readerId : ReaderId)
    (batchId : SynchronizationBatchId) : Option SynchronizationAcknowledgementRow :=
  db.synchronizationAcknowledgements.find? fun row =>
    row.batchId == batchId && row.readerId == readerId

def SynchronizationAcknowledgement.toRow (acknowledgement : SynchronizationAcknowledgement) :
    SynchronizationAcknowledgementRow where
  batchId := acknowledgement.batchId
  readerId := acknowledgement.readerId
  protocolVersion := acknowledgement.protocolVersion.value
  firstLocalSequenceNumber := acknowledgement.firstLocalSequenceNumber.value
  lastLocalSequenceNumber := acknowledgement.lastLocalSequenceNumber.value
  receivedAt := acknowledgement.receivedAt
  payloadJson := canonicalPayload codec acknowledgement
  appliedAt := none

def SynchronizationAcknowledgement.toEntryRow (acknowledgement : SynchronizationAcknowledgement)
    (position : Nat) (entry : SynchronizationAcknowledgementEntry) :
    SynchronizationAcknowledgementEntryRow where
  batchId := acknowledgement.batchId
  readerId := acknowledgement.readerId
  fareTransactionId := entry.transactionId
  localSequenceNumber := entry.localSequenceNumber.value
  entryPosition := position
  outcome := (storedResolution entry.resolution).1
  failureCategory := (storedResolution entry.resolution).2.1
  retryAt := (storedResolution entry.resolution).2.2

/-- `sequence_to_i64`. -/
def sequenceToI64 (sequence : LocalSequenceNumber) : Except ReaderAcknowledgementError Unit :=
  if i64Max < sequence.value then .error .invalidSequenceRange else .ok ()

/-- The loop that inserts the acknowledgement entries. -/
def insertAcknowledgementEntries (db : ReaderDatabase)
    (acknowledgement : SynchronizationAcknowledgement) :
    Nat → List SynchronizationAcknowledgementEntry →
      List SynchronizationAcknowledgementEntryRow →
        Except ReaderAcknowledgementError (List SynchronizationAcknowledgementEntryRow)
  | _, [], rows => .ok rows
  | position, entry :: rest, rows => do
    if i64Max < position then .error (.entryMismatch acknowledgement.batchId position)
    sequenceToI64 entry.localSequenceNumber
    let inserted ← (Table.insert SynchronizationAcknowledgementEntryRow.check
      SynchronizationAcknowledgementEntryRow.conflicts
      (db.synchronizationEntries.any fun row =>
        row.batchId == acknowledgement.batchId && row.fareTransactionId == entry.transactionId)
      (acknowledgement.toEntryRow position entry) rows).mapError fun _ =>
        .database "insert acknowledgement entry"
    insertAcknowledgementEntries db acknowledgement (position + 1) rest inserted

/-- The rows inserted for the entries of an acknowledgement. -/
def SynchronizationAcknowledgement.entryRows (acknowledgement : SynchronizationAcknowledgement)
    (position : Nat) (entries : List SynchronizationAcknowledgementEntry) :
    List SynchronizationAcknowledgementEntryRow :=
  (entries.zipIdx position).map fun (entry, i) => acknowledgement.toEntryRow i entry

theorem insertAcknowledgementEntries_ok {db : ReaderDatabase}
    {acknowledgement : SynchronizationAcknowledgement} {position : Nat}
    {entries : List SynchronizationAcknowledgementEntry}
    {rows out : List SynchronizationAcknowledgementEntryRow}
    (h : insertAcknowledgementEntries db acknowledgement position entries rows = .ok out) :
    (∀ row ∈ acknowledgement.entryRows position entries, row.check = true) ∧
      out = rows ++ acknowledgement.entryRows position entries := by
  induction entries generalizing position rows with
  | nil =>
    cases h
    simp [SynchronizationAcknowledgement.entryRows]
  | cons entry entries ih =>
    simp only [insertAcknowledgementEntries, guard_eq_ok, bind_eq_ok, mapError_eq_ok,
      Table.insert_eq_ok] at h
    obtain ⟨-, -, -, inserted, ⟨hcheck, -, -, rfl⟩, hrest⟩ := h
    obtain ⟨hchecks, rfl⟩ := ih hrest
    simp only [SynchronizationAcknowledgement.entryRows, List.zipIdx_cons, List.map_cons,
      List.forall_mem_cons, List.append_assoc, List.singleton_append, and_true]
    exact ⟨hcheck, hchecks⟩

/-- The statements that store an acknowledgement for the first time. -/
def insertAcknowledgement (db : ReaderDatabase)
    (acknowledgement : SynchronizationAcknowledgement) :
    Except ReaderAcknowledgementError (StoredSynchronizationAcknowledgement × ReaderDatabase) := do
  let batch ← orFail (.batchNotInFlight acknowledgement.batchId)
    (db.findBatch acknowledgement.readerId acknowledgement.batchId)
  if batch.batchState ≠ .inFlight then .error (.batchNotInFlight acknowledgement.batchId)
  sequenceToI64 acknowledgement.firstLocalSequenceNumber
  sequenceToI64 acknowledgement.lastLocalSequenceNumber
  let acknowledgements ← (Table.insert SynchronizationAcknowledgementRow.check
    SynchronizationAcknowledgementRow.conflicts
    (db.findBatch acknowledgement.readerId acknowledgement.batchId).isSome
    (acknowledgement.toRow codec) db.synchronizationAcknowledgements).mapError fun _ =>
      .database "insert acknowledgement"
  let entries ← insertAcknowledgementEntries db acknowledgement 0 acknowledgement.entries
    db.synchronizationAcknowledgementEntries
  .ok (⟨acknowledgement, false⟩,
    { db with
      synchronizationAcknowledgements := acknowledgements
      synchronizationAcknowledgementEntries := entries })

/-- `store_synchronization_acknowledgement`. -/
def storeSynchronizationAcknowledgement (db : ReaderDatabase)
    (acknowledgement : SynchronizationAcknowledgement) :
    Outcome ReaderAcknowledgementError StoredSynchronizationAcknowledgement :=
  transact db do
    let batch ← (loadSynchronizationBatch db acknowledgement.readerId
      acknowledgement.batchId).mapError .synchronization
    validateAgainstBatch acknowledgement batch
    match db.findAcknowledgement acknowledgement.readerId acknowledgement.batchId with
    | some existing =>
      if existing.payloadJson ≠ canonicalPayload codec acknowledgement then
        .error (.conflictingReplay acknowledgement.batchId)
      else .ok (⟨acknowledgement, true⟩, db)
    | none => insertAcknowledgement codec db acknowledgement

section ConflictingReplay

variable {codec} {db : ReaderDatabase} {acknowledgement : SynchronizationAcknowledgement}
  {batchId : SynchronizationBatchId}

theorem validateAgainstEntries_ne_conflictingReplay {expected : List SynchronizationBatchEntry}
    {received : List SynchronizationAcknowledgementEntry} {named : SynchronizationBatchId}
    {position : Nat} :
    validateAgainstEntries named position expected received ≠
      .error (.conflictingReplay batchId) := by
  induction expected generalizing position received with
  | nil => exact nofun
  | cons entry expected ih =>
    cases received with
    | nil => exact nofun
    | cons head received =>
      intro h
      simp only [validateAgainstEntries, ite_error_eq_error, reduceCtorEq, and_false,
        false_or] at h
      exact ih h.2

theorem validateAgainstBatch_ne_conflictingReplay {batch : SynchronizationBatch} :
    validateAgainstBatch acknowledgement batch ≠ .error (.conflictingReplay batchId) := by
  intro h
  simp only [validateAgainstBatch, ite_error_eq_error, reduceCtorEq, and_false, false_or] at h
  exact validateAgainstEntries_ne_conflictingReplay h.2.2.2

theorem insertAcknowledgementEntries_ne_conflictingReplay {position : Nat}
    {entries : List SynchronizationAcknowledgementEntry}
    {rows : List SynchronizationAcknowledgementEntryRow} :
    insertAcknowledgementEntries db acknowledgement position entries rows ≠
      .error (.conflictingReplay batchId) := by
  induction entries generalizing position rows with
  | nil => exact nofun
  | cons entry entries ih =>
    intro h
    simp only [insertAcknowledgementEntries, sequenceToI64, guard_eq_error, bind_eq_error,
      ite_error_eq_error, mapError_eq_error, reduceCtorEq, and_false, exists_false,
      false_or] at h
    obtain ⟨-, -, -, inserted, -, hrest⟩ := h
    exact ih hrest

theorem insertAcknowledgement_ne_conflictingReplay :
    insertAcknowledgement codec db acknowledgement ≠ .error (.conflictingReplay batchId) := by
  intro h
  simp only [insertAcknowledgement, sequenceToI64, guard_eq_error, bind_eq_error, orFail_eq_error,
    ite_error_eq_error, mapError_eq_error, reduceCtorEq, and_false, exists_false, or_false,
    false_or] at h
  obtain ⟨-, -, -, -, -, -, -, -, -, hentries⟩ := h
  exact insertAcknowledgementEntries_ne_conflictingReplay hentries

/-- A conflicting replay differs from the stored acknowledgement of its batch. -/
theorem conflictingReplay_stored
    (h : (storeSynchronizationAcknowledgement codec db acknowledgement).result =
      .error (.conflictingReplay batchId)) :
    ∃ existing, db.findAcknowledgement acknowledgement.readerId acknowledgement.batchId =
        some existing ∧ existing.payloadJson ≠ canonicalPayload codec acknowledgement := by
  rw [storeSynchronizationAcknowledgement, transact_eq_error] at h
  simp only [bind_eq_error, mapError_eq_error, reduceCtorEq, and_false, exists_false,
    false_or] at h
  obtain ⟨batch, -, h | ⟨-, -, h⟩⟩ := h
  · exact absurd h validateAgainstBatch_ne_conflictingReplay
  · cases hfound : db.findAcknowledgement acknowledgement.readerId acknowledgement.batchId with
    | none =>
      rw [hfound] at h
      exact absurd h insertAcknowledgement_ne_conflictingReplay
    | some existing =>
      rw [hfound] at h
      simp only [ite_error_eq_error, reduceCtorEq, and_false, or_false] at h
      exact ⟨existing, rfl, h.1⟩

end ConflictingReplay

/-! ## Protocol acknowledgements -/

/-- `ReaderProtocolAcknowledgementError`. -/
inductive ReaderProtocolAcknowledgementError
  | missingFailureCategory (transactionId : FareTransactionId)
  | missingRetryTime (transactionId : FareTransactionId)
  | acknowledgement (error : ReaderAcknowledgementError)
  deriving DecidableEq

/-- `required_failure_category`. -/
def requiredFailureCategory (entry : Protocol.AcknowledgementEntry) :
    Except ReaderProtocolAcknowledgementError String :=
  orFail (.missingFailureCategory entry.transactionId)
    (entry.failureCategory.map Protocol.FailureCategory.asStr)

def translateResolution (entry : Protocol.AcknowledgementEntry) :
    Except ReaderProtocolAcknowledgementError SynchronizationEntryResolution :=
  match entry.outcome with
  | .acknowledged => .ok .acknowledged
  | .retryableFailure => do
    let failureCategory ← requiredFailureCategory entry
    let retryAt ← orFail (.missingRetryTime entry.transactionId) entry.nextRetryAt
    .ok (.retryableFailure failureCategory retryAt)
  | .permanentFailure => (requiredFailureCategory entry).map .permanentFailure
  | .manualReview => (requiredFailureCategory entry).map .manualReview

/-- `translate_entry`. -/
def translateEntry (entry : Protocol.AcknowledgementEntry) :
    Except ReaderProtocolAcknowledgementError SynchronizationAcknowledgementEntry := do
  let resolution ← translateResolution entry
  .ok ⟨entry.transactionId, entry.localSequenceNumber, resolution⟩

/-- `translate_protocol_synchronization_acknowledgement`. -/
def translateProtocolSynchronizationAcknowledgement
    (acknowledgement : Protocol.Acknowledgement) :
    Except ReaderProtocolAcknowledgementError SynchronizationAcknowledgement := do
  let entries ← acknowledgement.entries.mapM translateEntry
  (SynchronizationAcknowledgement.new acknowledgement.readerId acknowledgement.batchId
    acknowledgement.protocolVersion acknowledgement.firstLocalSequenceNumber
    acknowledgement.lastLocalSequenceNumber acknowledgement.receivedAt entries).mapError
      .acknowledgement

/-- The loop accepts entries with distinct transactions, distinct sequences and
valid resolutions. -/
theorem validateAcknowledgedEntries_ok {receivedAt : UnixMilliseconds}
    {transactionIds : List FareTransactionId} {sequences : List LocalSequenceNumber}
    {entries : List SynchronizationAcknowledgementEntry} :
    validateAcknowledgedEntries receivedAt transactionIds sequences entries = .ok () ↔
      ((entries.map (·.transactionId)).Nodup ∧
          ∀ entry ∈ entries, entry.transactionId ∉ transactionIds) ∧
        ((entries.map (·.localSequenceNumber)).Nodup ∧
          ∀ entry ∈ entries, entry.localSequenceNumber ∉ sequences) ∧
        ∀ entry ∈ entries,
          validateResolution entry.transactionId entry.resolution receivedAt = .ok () := by
  induction entries generalizing transactionIds sequences with
  | nil => simp [validateAcknowledgedEntries]
  | cons head rest ih =>
    have hdistinct : ∀ {γ : Type} (f : SynchronizationAcknowledgementEntry → γ) (seen : List γ),
        (∀ entry ∈ rest, f entry ∉ f head :: seen) ↔
          f head ∉ rest.map f ∧ ∀ entry ∈ rest, f entry ∉ seen := by
      intro γ f seen
      simp only [List.mem_cons, not_or, List.mem_map, not_exists, not_and]
      exact ⟨fun h => ⟨fun e he => (h e he).1, fun e he => (h e he).2⟩,
        fun h e he => ⟨h.1 e he, h.2 e he⟩⟩
    simp only [validateAcknowledgedEntries, ite_error_eq_ok, bind_eq_ok, ih, hdistinct,
      List.map_cons, List.nodup_cons, List.forall_mem_cons]
    constructor
    · rintro ⟨hid, hsequence, ⟨⟩, hresolution, ⟨hids, hnotin, hout⟩, ⟨hsequences, hsnotin, hsout⟩,
        hrest⟩
      exact ⟨⟨⟨hnotin, hids⟩, hid, hout⟩, ⟨⟨hsnotin, hsequences⟩, hsequence, hsout⟩, hresolution,
        hrest⟩
    · rintro ⟨⟨⟨hnotin, hids⟩, hid, hout⟩, ⟨⟨hsnotin, hsequences⟩, hsequence, hsout⟩, hresolution,
        hrest⟩
      exact ⟨hid, hsequence, (), hresolution, ⟨hids, hnotin, hout⟩, ⟨hsequences, hsnotin, hsout⟩,
        hrest⟩

theorem SynchronizationAcknowledgement.exists_new (readerId : ReaderId)
    (batchId : SynchronizationBatchId) (protocolVersion : DeviceProtocolVersion)
    {first last : LocalSequenceNumber} {receivedAt : UnixMilliseconds}
    {entries : List SynchronizationAcknowledgementEntry}
    (h : validateAcknowledgement first last receivedAt entries = .ok ()) :
    SynchronizationAcknowledgement.new readerId batchId protocolVersion first last receivedAt
      entries = .ok ⟨readerId, batchId, protocolVersion, first, last, receivedAt, entries, h⟩ := by
  unfold SynchronizationAcknowledgement.new
  split
  · next e he =>
    rw [h] at he
    cases he
  · rfl

/-- The resolution that the outcome and its metadata say. -/
def resolutionOf (entry : Protocol.AcknowledgementEntry) : SynchronizationEntryResolution :=
  match entry.outcome, entry.failureCategory, entry.nextRetryAt with
  | .retryableFailure, some category, some retryAt => .retryableFailure category.asStr retryAt
  | .permanentFailure, some category, _ => .permanentFailure category.asStr
  | .manualReview, some category, _ => .manualReview category.asStr
  | _, _, _ => .acknowledged

def localEntry (entry : Protocol.AcknowledgementEntry) : SynchronizationAcknowledgementEntry :=
  ⟨entry.transactionId, entry.localSequenceNumber, resolutionOf entry⟩

theorem failureCategory_visible (category : Protocol.FailureCategory) :
    Text.trim category.asStr ≠ "" ∧ Text.sqliteNonBlank category.asStr = true := by
  obtain ⟨c, hhead, hvisible, hspace, hnul⟩ : ∃ c, category.asStr.toList.head? = some c ∧
      Text.isWhitespace c = false ∧ c ≠ ' ' ∧ c ≠ '\x00' := by
    cases category <;> exact ⟨_, rfl, by decide, by decide, by decide⟩
  exact ⟨Text.trim_ne_empty_of_head hhead hvisible,
    Text.sqliteNonBlank_of_head hhead hspace hnul⟩

theorem translateEntry_eq (entry : Protocol.AcknowledgementEntry) :
    translateEntry entry = .ok (localEntry entry) := by
  rcases entry.metadata with ⟨houtcome, hcategory, hretry⟩ |
    ⟨category, retryAt, houtcome, hcategory, hretry, -⟩ |
    ⟨category, houtcome | houtcome, hcategory, hretry⟩
  all_goals
    simp only [translateEntry, translateResolution, localEntry, resolutionOf,
      requiredFailureCategory, houtcome, hcategory, hretry]
    rfl

/-- Of the checks on a resolution only the one on the retry time can refuse
what the protocol accepted. -/
theorem validateResolution_resolutionOf {entry : Protocol.AcknowledgementEntry}
    {receivedAt : UnixMilliseconds} :
    validateResolution entry.transactionId (resolutionOf entry) receivedAt = .ok () ↔
      ∀ retryAt, entry.nextRetryAt = some retryAt → receivedAt ≤ retryAt := by
  have hvisible : ∀ category : Protocol.FailureCategory,
      validateAcknowledgedCategory entry.transactionId category.asStr = .ok () :=
    fun category => if_neg (failureCategory_visible category).1
  rcases entry.metadata with ⟨houtcome, hcategory, hretry⟩ |
    ⟨category, retryAt, houtcome, hcategory, hretry, -⟩ |
    ⟨category, houtcome | houtcome, hcategory, hretry⟩
  · simp [resolutionOf, houtcome, hretry, validateResolution]
  · simp only [resolutionOf, houtcome, hcategory, hretry, validateResolution, hvisible, ok_bind,
      ite_error_eq_ok, and_true, Option.some.injEq, forall_eq']
    grind
  · simp [resolutionOf, houtcome, hcategory, hretry, validateResolution, hvisible]
  · simp [resolutionOf, houtcome, hcategory, hretry, validateResolution, hvisible]

theorem validateAcknowledgement_localEntries (acknowledgement : Protocol.Acknowledgement) :
    validateAcknowledgement acknowledgement.firstLocalSequenceNumber
        acknowledgement.lastLocalSequenceNumber acknowledgement.receivedAt
        (acknowledgement.entries.map localEntry) = .ok () ↔
      ∀ entry ∈ acknowledgement.entries, ∀ retryAt, entry.nextRetryAt = some retryAt →
        acknowledgement.receivedAt ≤ retryAt := by
  have hparts := acknowledgement.valid
  simp only [Protocol.AcknowledgementDefinition.validate, bind_eq_ok, Protocol.validateTimestamp,
    ite_error_eq_ok, Protocol.validateAcknowledgementEntries, Protocol.validateEntries_ok] at hparts
  obtain ⟨-, ⟨hreceived, -⟩, -, hrange, hhead, -, hids, hsequences⟩ := hparts
  have hne : acknowledgement.entries ≠ [] := by
    rintro hnil
    rw [hnil] at hhead
    cases hhead
  simp only [validateAcknowledgement, ite_error_eq_ok, validateAcknowledgedEntries_ok,
    List.map_map]
  constructor
  · rintro ⟨-, -, -, -, -, hresolutions⟩ entry hentry
    exact validateResolution_resolutionOf.mp (hresolutions _ (List.mem_map_of_mem hentry))
  · intro hretry
    refine ⟨hreceived, Nat.not_lt.mpr hrange, by simpa using hne, ⟨?_, by simp⟩, ⟨?_, by simp⟩, ?_⟩
    · rwa [List.map_map] at hids
    · rw [List.map_map] at hsequences
      refine List.pairwise_map.mpr ((List.pairwise_map.mp hsequences).imp fun {a b} hlt heq => ?_)
      have hvalue : a.localSequenceNumber.value = b.localSequenceNumber.value := congrArg _ heq
      exact Nat.ne_of_lt hlt hvalue
    · intro entry hentry
      obtain ⟨resolved, hresolved, rfl⟩ := List.mem_map.mp hentry
      exact validateResolution_resolutionOf.mpr (hretry resolved hresolved)

/-- The translation keeps every field of the answer, and fails only on a retry
time before the receipt. -/
theorem translate_eq_ok {acknowledgement : Protocol.Acknowledgement}
    {translated : SynchronizationAcknowledgement} :
    translateProtocolSynchronizationAcknowledgement acknowledgement = .ok translated ↔
      translated.readerId = acknowledgement.readerId ∧
        translated.batchId = acknowledgement.batchId ∧
        translated.protocolVersion = acknowledgement.protocolVersion ∧
        translated.firstLocalSequenceNumber = acknowledgement.firstLocalSequenceNumber ∧
        translated.lastLocalSequenceNumber = acknowledgement.lastLocalSequenceNumber ∧
        translated.receivedAt = acknowledgement.receivedAt ∧
        translated.entries = acknowledgement.entries.map localEntry := by
  have hentries : acknowledgement.entries.mapM translateEntry =
      .ok (acknowledgement.entries.map localEntry) := by
    rw [mapM_eq_ok, List.forall₂_map_right_iff, List.forall₂_same]
    exact fun entry _ => translateEntry_eq entry
  rw [translateProtocolSynchronizationAcknowledgement, hentries, ok_bind, mapError_eq_ok]
  constructor
  · intro h
    unfold SynchronizationAcknowledgement.new at h
    split at h
    · cases h
    · cases h
      exact ⟨rfl, rfl, rfl, rfl, rfl, rfl, rfl⟩
  · intro h
    obtain ⟨readerId, batchId, version, first, last, receivedAt, entries, hvalid⟩ := translated
    obtain ⟨rfl, rfl, rfl, rfl, rfl, rfl, rfl⟩ := h
    exact SynchronizationAcknowledgement.exists_new _ _ _ hvalid

theorem translate_ok_iff {acknowledgement : Protocol.Acknowledgement} :
    (∃ translated, translateProtocolSynchronizationAcknowledgement acknowledgement =
        .ok translated) ↔
      ∀ entry ∈ acknowledgement.entries, ∀ retryAt, entry.nextRetryAt = some retryAt →
        acknowledgement.receivedAt ≤ retryAt := by
  rw [← validateAcknowledgement_localEntries]
  constructor
  · rintro ⟨translated, h⟩
    obtain ⟨-, -, -, hfirst, hlast, hreceived, hentries⟩ := translate_eq_ok.mp h
    rw [← hfirst, ← hlast, ← hreceived, ← hentries]
    exact translated.valid
  · intro hvalid
    exact ⟨⟨acknowledgement.readerId, acknowledgement.batchId, acknowledgement.protocolVersion, _,
      _, _, _, hvalid⟩, translate_eq_ok.mpr ⟨rfl, rfl, rfl, rfl, rfl, rfl, rfl⟩⟩

/-- A full acknowledgement translates to a full acknowledgement. -/
theorem translate_acknowledged {acknowledgement : Protocol.Acknowledgement}
    (h : ∀ entry ∈ acknowledgement.entries, entry.outcome = .acknowledged) :
    ∃ translated, translateProtocolSynchronizationAcknowledgement acknowledgement =
        .ok translated ∧ translated.batchId = acknowledgement.batchId ∧
      ∀ entry ∈ translated.entries, entry.resolution = .acknowledged := by
  have hresolved : ∀ entry ∈ acknowledgement.entries,
      entry.nextRetryAt = none ∧ resolutionOf entry = .acknowledged := by
    intro entry hentry
    rcases entry.metadata with ⟨houtcome, -, hretry⟩ |
      ⟨_, _, houtcome, -⟩ | ⟨_, houtcome | houtcome, -⟩
    · exact ⟨hretry, by simp [resolutionOf, houtcome]⟩
    · rw [h entry hentry] at houtcome
      cases houtcome
    · rw [h entry hentry] at houtcome
      cases houtcome
    · rw [h entry hentry] at houtcome
      cases houtcome
  obtain ⟨translated, htranslated⟩ := translate_ok_iff.mpr fun entry hentry retryAt hretry => by
    rw [(hresolved entry hentry).1] at hretry
    cases hretry
  obtain ⟨-, hid, -, -, -, -, hentries⟩ := translate_eq_ok.mp htranslated
  refine ⟨translated, htranslated, hid, fun entry hentry => ?_⟩
  rw [hentries] at hentry
  obtain ⟨resolved, hresolvedMem, rfl⟩ := List.mem_map.mp hentry
  exact (hresolved resolved hresolvedMem).2

/-- The translation does not read the replay marker. -/
theorem translate_withReplayed (acknowledgement : Protocol.Acknowledgement) (replayed : Bool) :
    translateProtocolSynchronizationAcknowledgement (acknowledgement.withReplayed replayed) =
      translateProtocolSynchronizationAcknowledgement acknowledgement := rfl

/-- `store_protocol_synchronization_acknowledgement`. -/
def storeProtocolSynchronizationAcknowledgement (db : ReaderDatabase)
    (acknowledgement : Protocol.Acknowledgement) :
    Outcome ReaderProtocolAcknowledgementError StoredSynchronizationAcknowledgement :=
  match translateProtocolSynchronizationAcknowledgement acknowledgement with
  | .error e => ⟨db, .error e⟩
  | .ok translated =>
    let stored := storeSynchronizationAcknowledgement codec db translated
    ⟨stored.database, stored.result.mapError .acknowledgement⟩

end TransitGuard.Reader
