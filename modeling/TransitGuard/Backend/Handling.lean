import TransitGuard.Backend.Interleaving

/-!
`SynchronizationService::process` in two parts: what comes before the store
transaction, and what is made of its outcome. Between the two the statements of
other transactions may run.
-/

namespace TransitGuard.Backend

open Protocol Fallible Isolation

section Parts

variable (codec : Json.Codec) (sha256 : Sha256) (environmentId : EnvironmentId)

/-- `process` up to the store. -/
def prepareIngest (request : Request) (receivedAt : UnixMilliseconds) :
    Except ServiceError (Acknowledgement × PreparedIngest) := do
  validateRequestContext request environmentId
  let acknowledgement ← buildAcknowledgement request receivedAt
  let prepared ← (prepare codec sha256 request acknowledgement).mapError fun _ => .ingestRecord
  .ok (acknowledgement, prepared)

/-- What `process` makes of the outcome of the store. The acknowledgement of a
replay is read from `db`; a store has no other results and errors than those of
the ingest. -/
def respond (db : IngestDatabase) (request : Request) (acknowledgement : Acknowledgement) :
    Except BackendError BackendResult → Except ServiceError Acknowledgement
  | .ok (.ingested .stored) => .ok acknowledgement
  | .ok (.ingested .replayed) => do
    let loaded ← (loadAcknowledgement db request.batchId).mapError mapIngestError
    let stored ← orFail .backendTemporarilyUnavailable loaded
    .ok (stored.withReplayed true)
  | .error (.ingest e) => .error (mapIngestError e)
  | .ok .changed | .error (.application _) | .error (.readerEquipment _) =>
    .error .backendTemporarilyUnavailable

end Parts

variable {codec : Json.Codec} {sha256 : Sha256} {environmentId : EnvironmentId}
  {request : Request} {receivedAt : UnixMilliseconds} {acknowledgement : Acknowledgement}
  {ingest : PreparedIngest}

/-- `process` is its two parts with the store between them. -/
theorem process_eq (db : IngestDatabase) (request : Request) (receivedAt : UnixMilliseconds) :
    process codec sha256 environmentId db request receivedAt =
      (do
        let (acknowledgement, ingest) ←
          prepareIngest codec sha256 environmentId request receivedAt
        let (disposition, committed) ← (storeStatements db ingest).mapError mapIngestError
        let answer ← respond committed request acknowledgement (.ok (.ingested disposition))
        pure (answer, committed)) := by
  unfold process prepareIngest
  cases validateRequestContext request environmentId with
  | error e => rfl
  | ok _ =>
    cases buildAcknowledgement request receivedAt with
    | error e => rfl
    | ok acknowledgement =>
      simp only [ok_bind]
      cases prepare codec sha256 request acknowledgement with
      | error e => rfl
      | ok ingest =>
        simp only [Except.mapError, ok_bind]
        cases storeStatements db ingest with
        | error e => rfl
        | ok stored =>
          obtain ⟨disposition, committed⟩ := stored
          cases disposition with
          | stored => rfl
          | replayed =>
            simp only [respond, Except.mapError, ok_bind, bind_assoc]
            rfl

theorem prepareIngest_ok :
    prepareIngest codec sha256 environmentId request receivedAt = .ok (acknowledgement, ingest) ↔
      validateRequestContext request environmentId = .ok () ∧
        buildAcknowledgement request receivedAt = .ok acknowledgement ∧
        prepare codec sha256 request acknowledgement = .ok ingest := by
  simp only [prepareIngest, bind_eq_ok, mapError_eq_ok]
  constructor
  · rintro ⟨_, hcontext, built, hbuilt, prepared, hprepared, h⟩
    cases h
    exact ⟨hcontext, hbuilt, hprepared⟩
  · rintro ⟨hcontext, hbuilt, hprepared⟩
    exact ⟨(), hcontext, acknowledgement, hbuilt, ingest, hprepared, rfl⟩

/-- An acknowledgement is built for a first answer. -/
theorem withReplayed_of_built (h : buildAcknowledgement request receivedAt = .ok acknowledgement) :
    acknowledgement.withReplayed false = acknowledgement := by
  have hparts := buildAcknowledgement_ok.mp h
  obtain ⟨definition, hvalid⟩ := acknowledgement
  cases hparts
  rfl

/-- A request that is refused before the store is refused whatever is stored. -/
theorem process_of_unprepared {e : ServiceError}
    (h : prepareIngest codec sha256 environmentId request receivedAt = .error e)
    (db : IngestDatabase) :
    process codec sha256 environmentId db request receivedAt = .error e := by
  rw [process_eq, h]
  rfl

/-- Where the store of a request succeeds, so does its call. -/
theorem process_of_store {db db' : IngestDatabase} {disposition : IngestDisposition}
    (hprepared : prepareIngest codec sha256 environmentId request receivedAt =
      .ok (acknowledgement, ingest))
    (hstore : storeStatements db ingest = .ok (disposition, db')) :
    ∃ answer, process codec sha256 environmentId db request receivedAt = .ok (answer, db') := by
  obtain ⟨hcontext, hbuilt, hingest⟩ := prepareIngest_ok.mp hprepared
  have hbatchId : ingest.batchId = request.batchId := by
    rw [(prepare_ok.mp hingest).2.2]
  rcases storeStatements_ok hstore with ⟨rfl, -⟩ | ⟨rfl, rfl, row, hfound, -⟩
  · exact ⟨acknowledgement, process_eq_ok.mpr
      ⟨hcontext, acknowledgement, ingest, hbuilt, hingest, .inl ⟨hstore, rfl⟩⟩⟩
  · rw [hbatchId] at hfound
    exact ⟨row.canonicalAcknowledgement.withReplayed true, process_eq_ok.mpr
      ⟨hcontext, acknowledgement, ingest, hbuilt, hingest, .inr ⟨hstore, row, hfound, rfl⟩⟩⟩

/-! ## The tables of the store -/

/-- A store that commits leaves the tables that its statements leave. -/
theorem Commits.ingest_of_store {db db' : BackendDatabase} {result : BackendResult}
    (h : Commits db (.store ingest) result db') :
    ∃ disposition, storeStatements db.ingest ingest = .ok (disposition, db'.ingest) := by
  obtain ⟨disposition, committed, hstatements, -, rfl⟩ := perform_store_ok h.performed
  have hequipment : committed.readerEquipment = db.ingest.readerEquipment := by
    rcases storeStatements_ok hstatements with ⟨-, -, hstores⟩ | ⟨-, rfl, -⟩
    · exact hstores.equipment
    · rfl
  refine ⟨disposition, ?_⟩
  obtain ⟨readerEquipment, batches, transactions, entries⟩ := committed
  cases hequipment
  exact hstatements

/-- A change of equipment that commits leaves the tables of the store alone. -/
theorem Commits.ingest_of_change {db db' : BackendDatabase} {result : BackendResult}
    {id : ReaderId} {operations : List ReaderEquipment.Operation}
    (h : Commits db (.changeReader id operations) result db') :
    ∃ readerEquipment, db'.ingest = { db.ingest with readerEquipment } := by
  obtain ⟨hbatches, htransactions, hentries⟩ := h.kept id operations rfl
  refine ⟨db'.equipment.map EquipmentRow.reader, ?_⟩
  simp only [BackendDatabase.ingest, hbatches, htransactions, hentries]

/-- What a session has stored is in the tables. -/
theorem batchRow_of_stored {db : BackendDatabase} (hdb : Keyed db) (actions : List BackendAction)
    {i : Nat}
    (h : (backendRun db actions).sessions[i]? =
      some ⟨.store ingest, .ended (.ok (.ingested .stored))⟩) :
    ingest.batchRow ∈ (backendRun db actions).database.batches := by
  have hrecorded : Recorded (backendRun db actions) := recorded_run db actions
  have hhistory : (.store ingest, .ingested .stored) ∈ (backendRun db actions).history :=
    hrecorded.mem_iff.mp (List.mem_filterMap.mpr ⟨_, List.mem_of_getElem? h, rfl⟩)
  rw [(rows_of_replays (backendRun_sound hdb actions).replays).1]
  exact List.mem_append_right _ (List.mem_map_of_mem (List.mem_filterMap.mpr ⟨_, hhistory, rfl⟩))

end TransitGuard.Backend
