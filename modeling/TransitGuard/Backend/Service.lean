import TransitGuard.Backend.Ingest

/-!
The synchronization service of the backend and the HTTP handler around it. A
request is checked, acknowledged in full, prepared and stored; a batch that is
stored already is answered with its stored acknowledgement.

The handler also compares two headers with the body. The reader fills both from
the request it sends, so the only thing these checks can find is an unsupported
protocol version, which the service answers with the same category.
-/

namespace TransitGuard.Backend

open Protocol Fallible

/-- `SynchronizationServiceError`. -/
inductive ServiceError
  | unsupportedProtocol
  | environmentMismatch
  | readerNotRegistered
  | readerNotOperational
  | batchIdentityConflict
  | transactionIdentityConflict
  | backendTemporarilyUnavailable
  | ingestRecord
  | protocol (error : ProtocolError)
  deriving DecidableEq

/-- `SynchronizationServiceError::failure_category`. -/
def ServiceError.failureCategory : ServiceError → FailureCategory
  | .unsupportedProtocol => .unsupportedProtocol
  | .environmentMismatch => .environmentMismatch
  | .readerNotRegistered => .readerNotRegistered
  | .readerNotOperational => .readerNotOperational
  | .batchIdentityConflict => .batchIdentityConflict
  | .transactionIdentityConflict => .transactionIdentityConflict
  | .backendTemporarilyUnavailable => .backendTemporarilyUnavailable
  | .ingestRecord | .protocol _ => .backendValidationFailure

/-- `map_ingest_error`. -/
def mapIngestError : IngestPersistenceError → ServiceError
  | .readerNotRegistered _ => .readerNotRegistered
  | .readerNotOperational _ => .readerNotOperational
  | .batchIdentityConflict _ => .batchIdentityConflict
  | .transactionIdentityConflict _ => .transactionIdentityConflict
  | .persistence _ => .backendTemporarilyUnavailable

/-- `validate_request_context`. -/
def validateRequestContext (request : Request) (environmentId : EnvironmentId) :
    Except ServiceError Unit :=
  if request.protocolVersion ≠ .current then .error .unsupportedProtocol
  else if request.environmentId ≠ environmentId then .error .environmentMismatch
  else .ok ()

/-- `build_acknowledgement`. -/
def buildAcknowledgement (request : Request) (receivedAt : UnixMilliseconds) :
    Except ServiceError Acknowledgement := do
  let entries ← (request.entries.mapM fun entry =>
    AcknowledgementEntry.new entry.transactionId entry.localSequenceNumber .acknowledged none
      none).mapError .protocol
  (Acknowledgement.new
    { protocolVersion := request.protocolVersion
      environmentId := request.environmentId
      readerId := request.readerId
      batchId := request.batchId
      firstLocalSequenceNumber := request.firstLocalSequenceNumber
      lastLocalSequenceNumber := request.lastLocalSequenceNumber
      receivedAt
      replayed := false
      entries }).mapError .protocol

variable (codec : Json.Codec) (sha256 : Sha256) (environmentId : EnvironmentId)

/-- `SynchronizationService::process`: the acknowledgement and the database it
leaves behind. Only the store transaction writes, so an error leaves the
database as it was. -/
def process (db : IngestDatabase) (request : Request) (receivedAt : UnixMilliseconds) :
    Except ServiceError (Acknowledgement × IngestDatabase) := do
  validateRequestContext request environmentId
  let acknowledgement ← buildAcknowledgement request receivedAt
  let prepared ← (prepare codec sha256 request acknowledgement).mapError fun _ => .ingestRecord
  let (disposition, committed) ← (storeStatements db prepared).mapError mapIngestError
  match disposition with
  | .stored => .ok (acknowledgement, committed)
  | .replayed => do
    let loaded ← (loadAcknowledgement committed request.batchId).mapError mapIngestError
    let stored ← orFail .backendTemporarilyUnavailable loaded
    .ok (stored.withReplayed true, committed)

/-- `current_unix_milliseconds`, given the milliseconds since the epoch; a clock
before the epoch has none. -/
def currentUnixMilliseconds (elapsed : Option Nat) : Option UnixMilliseconds :=
  elapsed.bind fun milliseconds =>
    if milliseconds ≤ i64Max then some (Int64.ofNat milliseconds) else none

/-- An answer of the API: an acknowledgement, or the category of an error
body. -/
abbrev ApiResponse := Except FailureCategory Acknowledgement

/-- `submit_synchronization_batch`, from the reading of the clock on. -/
def submitSynchronizationBatch (db : IngestDatabase) (request : Request) (elapsed : Option Nat) :
    ApiResponse × IngestDatabase :=
  match currentUnixMilliseconds elapsed with
  | none => (.error .backendTemporarilyUnavailable, db)
  | some receivedAt =>
    match process codec sha256 environmentId db request receivedAt with
    | .ok (acknowledgement, committed) => (.ok acknowledgement, committed)
    | .error e => (.error e.failureCategory, db)

/-! ## The acknowledgement of a request -/

/-- An entry of the request, acknowledged. -/
def acknowledgeEntry (entry : RequestEntry) : AcknowledgementEntry :=
  ⟨entry.transactionId, entry.localSequenceNumber, .acknowledged, none, none, rfl⟩

theorem identity_acknowledgeEntry (entries : List RequestEntry) :
    (entries.map acknowledgeEntry).map AcknowledgementEntry.identity =
      entries.map RequestEntry.identity := by
  rw [List.map_map]
  rfl

theorem mapM_acknowledgeEntry (entries : List RequestEntry) :
    (entries.mapM fun entry => AcknowledgementEntry.new entry.transactionId
      entry.localSequenceNumber .acknowledged none none) = .ok (entries.map acknowledgeEntry) := by
  rw [mapM_eq_ok, List.forall₂_map_right_iff, List.forall₂_same]
  exact fun _ _ => rfl

/-- A request and a receipt time make an acknowledgement unless the time is
negative. -/
theorem buildAcknowledgement_ok {request : Request} {receivedAt : UnixMilliseconds}
    {acknowledgement : Acknowledgement} :
    buildAcknowledgement request receivedAt = .ok acknowledgement ↔
      acknowledgement.toAcknowledgementDefinition =
        { protocolVersion := request.protocolVersion
          environmentId := request.environmentId
          readerId := request.readerId
          batchId := request.batchId
          firstLocalSequenceNumber := request.firstLocalSequenceNumber
          lastLocalSequenceNumber := request.lastLocalSequenceNumber
          receivedAt
          replayed := false
          entries := request.entries.map acknowledgeEntry } := by
  simp only [buildAcknowledgement, mapM_acknowledgeEntry, Except.mapError, ok_bind]
  exact mapError_eq_ok.trans Acknowledgement.new_ok

theorem exists_buildAcknowledgement (request : Request) {receivedAt : UnixMilliseconds}
    (h : 0 ≤ receivedAt) :
    ∃ acknowledgement, buildAcknowledgement request receivedAt = .ok acknowledgement := by
  obtain ⟨definition, hvalid⟩ := request
  simp only [RequestDefinition.validate, bind_eq_ok] at hvalid
  obtain ⟨-, -, hentries⟩ := hvalid
  refine ⟨⟨_, ?_⟩, buildAcknowledgement_ok.mpr rfl⟩
  simp only [AcknowledgementDefinition.validate, bind_eq_ok]
  refine ⟨(), if_neg (by grind), ?_⟩
  rw [validateAcknowledgementEntries, identity_acknowledgeEntry]
  exact hentries

theorem buildAcknowledgement_fits {request : Request} {receivedAt : UnixMilliseconds}
    {acknowledgement : Acknowledgement}
    (h : buildAcknowledgement request receivedAt = .ok acknowledgement) :
    acknowledgement.validateAgainstRequest request = .ok () := by
  have hparts := buildAcknowledgement_ok.mp h
  obtain ⟨definition, hvalid⟩ := acknowledgement
  cases hparts
  exact Acknowledgement.validateAgainstRequest_ok.mpr
    ⟨rfl, rfl, rfl, rfl, rfl, rfl, identity_acknowledgeEntry _⟩

/-! ## What a call does -/

variable {codec sha256 environmentId} {db db' : IngestDatabase} {request : Request}
  {receivedAt : UnixMilliseconds}

/-- What the service asks of a request whatever it has stored: the protocol
version, and envelopes that can be read. -/
structure Acceptable (codec : Json.Codec) (request : Request) : Prop where
  version : request.protocolVersion = .current
  envelopes : ∀ entry ∈ request.entries,
    (codec.parse entry.transactionEnvelope.asStr).isSome = true

/-- The errors that condemn the request itself. -/
def ServiceError.isFinal : ServiceError → Bool
  | .unsupportedProtocol | .ingestRecord | .protocol _ => true
  | _ => false

theorem mapIngestError_isFinal (e : IngestPersistenceError) :
    (mapIngestError e).isFinal = false := by
  cases e <;> rfl

/-- A request that is condemned once is not acceptable, and never will be. -/
theorem process_final {e : ServiceError} (hreceived : 0 ≤ receivedAt)
    (h : process codec sha256 environmentId db request receivedAt = .error e)
    (hfinal : e.isFinal = true) : ¬Acceptable codec request := by
  intro hacceptable
  obtain ⟨acknowledgement, hbuilt⟩ := exists_buildAcknowledgement request hreceived
  simp only [process, bind_eq_error, mapError_eq_error, Prod.exists] at h
  rcases h with h | ⟨-, -, h | ⟨built, hbuild, ⟨_, h, rfl⟩ | ⟨prepared, -, ⟨e', -, rfl⟩ |
    ⟨disposition, committed, -, h⟩⟩⟩⟩
  · simp only [validateRequestContext, ite_error_eq_error, ne_eq, hacceptable.version,
      not_true_eq_false, false_and, not_false_eq_true, true_and, false_or] at h
    rcases h with ⟨-, rfl⟩ | ⟨-, h⟩
    · cases hfinal
    · cases h
  · rw [hbuilt] at h
    cases h
  · -- only the envelopes can keep a fitting acknowledgement from being prepared
    obtain ⟨entry, hentry, hnone⟩ := prepare_error (buildAcknowledgement_fits hbuild) h
    have hsome := hacceptable.envelopes entry hentry
    rw [hnone] at hsome
    cases hsome
  · rw [mapIngestError_isFinal] at hfinal
    cases hfinal
  · cases disposition with
    | stored => cases h
    | replayed =>
      simp only [loadAcknowledgement_eq, Except.mapError, ok_bind, bind_eq_error,
        orFail_eq_error] at h
      rcases h with ⟨-, rfl⟩ | ⟨_, -, h⟩
      · cases hfinal
      · cases h

/-- The identity under which an entry of the request is stored. -/
def storedIdentity (sha256 : Sha256) (request : Request) (entry : RequestEntry) :
    FareTransactionId × ReaderId × Nat × Digest :=
  (entry.transactionId, request.readerId, entry.localSequenceNumber.value,
    entry.transactionEnvelope.fingerprint sha256)

/-- What a call that stores the request leaves behind. -/
structure Ingests (sha256 : Sha256) (request : Request) (acknowledgement : Acknowledgement)
    (row : IngestBatchRow) (added : List IngestEntryRow) (db db' : IngestDatabase) : Prop where
  fresh : ∀ other ∈ db.batches, other.batchId ≠ request.batchId
  equipment : db'.readerEquipment = db.readerEquipment
  batches : db'.batches = db.batches ++ [row]
  batchId : row.batchId = request.batchId
  stored : row.canonicalAcknowledgement = acknowledgement
  entries : db'.entries = db.entries ++ added
  member : ∀ entry ∈ added, entry.batchId = request.batchId ∧
    entry.fareTransactionId ∈ request.entries.map (·.transactionId)
  kept : ∀ row ∈ db.transactions, ∃ row' ∈ db'.transactions, row'.identity = row.identity
  covered : ∀ entry ∈ request.entries, ∃ row ∈ db'.transactions,
    row.identity = storedIdentity sha256 request entry

theorem validateRequestContext_ok :
    validateRequestContext request environmentId = .ok () ↔
      request.protocolVersion = .current ∧ request.environmentId = environmentId := by
  simp only [validateRequestContext, ite_error_eq_ok, ne_eq, not_not, and_true]

/-- The stages of a call that succeeds. -/
theorem process_eq_ok {acknowledgement : Acknowledgement} :
    process codec sha256 environmentId db request receivedAt = .ok (acknowledgement, db') ↔
      validateRequestContext request environmentId = .ok () ∧
      ∃ built ingest, buildAcknowledgement request receivedAt = .ok built ∧
        prepare codec sha256 request built = .ok ingest ∧
        ((storeStatements db ingest = .ok (.stored, db') ∧ acknowledgement = built) ∨
          (storeStatements db ingest = .ok (.replayed, db') ∧
            ∃ row, db'.findBatch request.batchId = some row ∧
              acknowledgement = row.canonicalAcknowledgement.withReplayed true)) := by
  simp only [process, bind_eq_ok, mapError_eq_ok, Prod.exists]
  constructor
  · rintro ⟨_, hcontext, built, hbuilt, ingest, hprepared, disposition, committed, hstored, h⟩
    refine ⟨hcontext, built, ingest, hbuilt, hprepared, ?_⟩
    cases disposition with
    | stored =>
      cases h
      exact .inl ⟨hstored, rfl⟩
    | replayed =>
      simp only [loadAcknowledgement_eq, Except.mapError, ok_bind, bind_eq_ok, orFail_eq_ok,
        Option.map_eq_some_iff] at h
      obtain ⟨_, ⟨row, hfound, rfl⟩, h⟩ := h
      cases h
      exact .inr ⟨hstored, row, hfound, rfl⟩
  · rintro ⟨hcontext, built, ingest, hbuilt, hprepared, ⟨hstored, rfl⟩ |
      ⟨hstored, row, hfound, rfl⟩⟩
    · exact ⟨(), hcontext, acknowledgement, hbuilt, ingest, hprepared, .stored, db', hstored, rfl⟩
    · refine ⟨(), hcontext, built, hbuilt, ingest, hprepared, .replayed, db', hstored, ?_⟩
      simp only [loadAcknowledgement_eq, Except.mapError, ok_bind, hfound, Option.map_some]
      rfl

/-- The two ways a call succeeds: it stores the request and returns the
acknowledgement it built, or it finds the batch stored and returns what is
stored with it. -/
theorem process_ok {acknowledgement : Acknowledgement}
    (h : process codec sha256 environmentId db request receivedAt =
      .ok (acknowledgement, db')) :
    Acceptable codec request ∧
      ((buildAcknowledgement request receivedAt = .ok acknowledgement ∧
          ∃ row added, Ingests sha256 request acknowledgement row added db db') ∨
        (db' = db ∧ ∃ row ∈ db.batches, row.batchId = request.batchId ∧
          acknowledgement = row.canonicalAcknowledgement.withReplayed true)) := by
  obtain ⟨hcontext, built, ingest, hbuilt, hprepared, h⟩ := process_eq_ok.mp h
  obtain ⟨-, -, hingest⟩ := prepare_ok.mp hprepared
  obtain ⟨-, hsubmits, -⟩ := prepare_entries hprepared
  refine ⟨⟨(validateRequestContext_ok.mp hcontext).1, fun entry hentry => ?_⟩, ?_⟩
  · obtain ⟨prepared, -, hsubmit⟩ := exists_of_forall₂ hsubmits.flip hentry
    rw [hsubmit.envelope]
    rfl
  have hreader : ingest.readerId = request.readerId := by rw [hingest]
  have hbatchId : ingest.batchId = request.batchId := by rw [hingest]
  have hcanonical : ingest.canonicalAcknowledgement = built := by rw [hingest]
  rcases h with ⟨hstored, rfl⟩ | ⟨hstored, row, hfound, rfl⟩
  · rcases storeStatements_ok hstored with ⟨-, hfresh, hwrites⟩ | ⟨h, -⟩
    · refine .inl ⟨hbuilt, ingest.batchRow, _, ⟨hbatchId ▸ hfresh, hwrites.equipment,
        hwrites.batches, hbatchId, hcanonical, hwrites.entries, fun entry hentry => ?_,
        hwrites.kept, fun entry hentry => ?_⟩⟩
      · obtain ⟨stored, hmem, rfl⟩ := List.mem_map.mp hentry
        obtain ⟨submitted, hsubmitted, hsubmit⟩ := exists_of_forall₂ hsubmits hmem
        exact ⟨hbatchId, List.mem_map.mpr ⟨submitted, hsubmitted, hsubmit.transactionId.symm⟩⟩
      · obtain ⟨stored, hmem, hsubmit⟩ := exists_of_forall₂ hsubmits.flip hentry
        obtain ⟨row, hrow, hidentity⟩ := hwrites.covered stored hmem
        refine ⟨row, hrow, hidentity.trans ?_⟩
        simp only [PreparedIngest.identity, storedIdentity, hsubmit.transactionId,
          hsubmit.sequence, hsubmit.fingerprint, hreader]
    · cases h
  · rcases storeStatements_ok hstored with ⟨h, -⟩ | ⟨-, rfl, -⟩
    · cases h
    · obtain ⟨hrow, hid⟩ := IngestDatabase.findBatch_eq_some hfound
      exact .inr ⟨rfl, row, hrow, hid, rfl⟩

theorem currentUnixMilliseconds_nonneg {elapsed : Option Nat}
    (h : currentUnixMilliseconds elapsed = some receivedAt) : 0 ≤ receivedAt := by
  obtain ⟨milliseconds, -, h⟩ := Option.bind_eq_some_iff.mp h
  split at h
  · next hle =>
    cases h
    rw [Int64.le_iff_toInt_le, Int64.toInt_ofNat_of_lt (by unfold i64Max at hle; omega)]
    exact Int.natCast_nonneg _
  · cases h

end TransitGuard.Backend
