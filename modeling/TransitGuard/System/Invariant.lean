import TransitGuard.Library.Runs
import TransitGuard.System.Composed

/-!
The invariant of the composed system. It rests on three facts: the request of a
batch never changes, the backend answers a batch it has stored with what it has
stored, and whether the backend condemns a request depends on the request alone.
-/

namespace TransitGuard.System

open Protocol Reader Backend

variable {codec : Json.Codec} {sha256 : Sha256} {environmentId : EnvironmentId}

/-! ## The backend -/

/-- The request can never be ingested: it is too long to be posted, or the
service condemns it. -/
def Refused (codec : Json.Codec) (request : Request) : Prop :=
  ¬Acceptable codec request ∨ checkRequestBody codec request ≠ .ok ()

/-- The backend has stored the acknowledgement, up to the replay marker. -/
def Returned (backend : IngestDatabase) (acknowledgement : Acknowledgement) : Prop :=
  ∃ row ∈ backend.batches, ∃ replayed,
    acknowledgement = row.canonicalAcknowledgement.withReplayed replayed

/-- The ingest of `request` is complete and behind the batch row `row`. -/
structure Ingested (codec : Json.Codec) (sha256 : Sha256) (backend : IngestDatabase)
    (row : IngestBatchRow) (request : Request) : Prop where
  batchId : row.batchId = request.batchId
  acceptable : Acceptable codec request
  built : ∃ receivedAt, buildAcknowledgement request receivedAt = .ok row.canonicalAcknowledgement
  covered : ∀ entry ∈ request.entries, ∃ stored ∈ backend.transactions,
    stored.identity = storedIdentity sha256 request entry

/-- Everything at the backend comes from a posted request. -/
structure BackendInvariant (codec : Json.Codec) (sha256 : Sha256) (posted : List Request)
    (backend : IngestDatabase) : Prop where
  batchIds : (backend.batches.map (·.batchId)).Nodup
  batches : ∀ row ∈ backend.batches, ∃ request ∈ posted,
    Ingested codec sha256 backend row request
  entries : ∀ row ∈ backend.entries, ∃ request ∈ posted, row.batchId = request.batchId ∧
    row.fareTransactionId ∈ request.entries.map (·.transactionId)

theorem BackendInvariant.mono {posted posted' : List Request} {backend : IngestDatabase}
    (inv : BackendInvariant codec sha256 posted backend) (h : posted ⊆ posted') :
    BackendInvariant codec sha256 posted' backend where
  batchIds := inv.batchIds
  batches row hrow := (inv.batches row hrow).imp fun _ hr => ⟨h hr.1, hr.2⟩
  entries row hrow := (inv.entries row hrow).imp fun _ hr => ⟨h hr.1, hr.2⟩

/-- An ingest keeps the invariant. -/
theorem BackendInvariant.ingest {posted : List Request} {backend backend' : IngestDatabase}
    (inv : BackendInvariant codec sha256 posted backend) {request : Request}
    (hposted : request ∈ posted) (hacceptable : Acceptable codec request)
    {receivedAt : UnixMilliseconds} {acknowledgement : Acknowledgement}
    (hbuilt : buildAcknowledgement request receivedAt = .ok acknowledgement)
    {row : IngestBatchRow} {added : List IngestEntryRow}
    (h : Ingests sha256 request acknowledgement row added backend backend') :
    BackendInvariant codec sha256 posted backend' where
  batchIds := by
    rw [h.batches]
    refine Table.nodup_map_append inv.batchIds fun other hother => ?_
    rw [h.batchId]
    exact (h.fresh other hother).symm
  batches other hother := by
    rw [h.batches, List.mem_append, List.mem_singleton] at hother
    rcases hother with hother | rfl
    · obtain ⟨origin, horigin, hingested⟩ := inv.batches other hother
      refine ⟨origin, horigin, { hingested with covered := fun entry hentry => ?_ }⟩
      obtain ⟨stored, hstored, hidentity⟩ := hingested.covered entry hentry
      obtain ⟨stored', hstored', hidentity'⟩ := h.kept stored hstored
      exact ⟨stored', hstored', hidentity'.trans hidentity⟩
    · exact ⟨request, hposted, h.batchId, hacceptable, ⟨receivedAt, h.stored ▸ hbuilt⟩, h.covered⟩
  entries entry hentry := by
    rw [h.entries, List.mem_append] at hentry
    rcases hentry with hentry | hentry
    · exact inv.entries entry hentry
    · exact ⟨request, hposted, h.member entry hentry⟩

theorem isFinal_of_permanentFailure {e : ServiceError}
    (h : synchronizationFailureDisposition e.failureCategory = .permanentFailure) :
    e.isFinal = true := by
  cases e <;> first | rfl | cases h

/-- An answer the reader can rely on. -/
def Answered (codec : Json.Codec) (backend : IngestDatabase) (request : Request) :
    ApiResponse → Prop
  | .ok acknowledgement =>
    Returned backend acknowledgement ∧ acknowledgement.batchId = request.batchId
  | .error category =>
    synchronizationFailureDisposition category = .permanentFailure → Refused codec request

/-- Rows of committed batches stay as they are. -/
theorem Returned.mono {backend backend' : IngestDatabase} {acknowledgement : Acknowledgement}
    (h : Returned backend acknowledgement) (hbatches : backend.batches ⊆ backend'.batches) :
    Returned backend' acknowledgement := by
  obtain ⟨row, hrow, hreplayed⟩ := h
  exact ⟨row, hbatches hrow, hreplayed⟩

theorem Answered.mono {backend backend' : IngestDatabase} {request : Request}
    {response : ApiResponse} (h : Answered codec backend request response)
    (hbatches : backend.batches ⊆ backend'.batches) :
    Answered codec backend' request response := by
  cases response with
  | ok acknowledgement => exact ⟨h.1.mono hbatches, h.2⟩
  | error category => exact h

/-- The batch id of a stored acknowledgement. -/
theorem Ingested.acknowledgement_batchId {backend : IngestDatabase} {row : IngestBatchRow}
    {request : Request} (h : Ingested codec sha256 backend row request) :
    row.canonicalAcknowledgement.batchId = row.batchId := by
  obtain ⟨receivedAt, hbuilt⟩ := h.built
  have hid : row.canonicalAcknowledgement.batchId = request.batchId :=
    congrArg (·.batchId) (buildAcknowledgement_ok.mp hbuilt)
  exact hid.trans h.batchId.symm

/-- Handling a posted request keeps the invariant, keeps every committed batch,
and yields an answer the reader can rely on. -/
theorem BackendInvariant.serve {posted : List Request} {backend : IngestDatabase}
    (inv : BackendInvariant codec sha256 posted backend) {request : Request}
    (hposted : request ∈ posted) (elapsed : Option Nat) :
    let served := submitSynchronizationBatch codec sha256 environmentId backend request elapsed
    BackendInvariant codec sha256 posted served.2 ∧ backend.batches ⊆ served.2.batches ∧
      Answered codec served.2 request served.1 := by
  intro served
  simp only [served, submitSynchronizationBatch]
  cases hclock : currentUnixMilliseconds elapsed with
  | none => exact ⟨inv, List.Subset.refl _, nofun⟩
  | some receivedAt =>
    have hreceived := currentUnixMilliseconds_nonneg hclock
    dsimp only
    cases hprocess : process codec sha256 environmentId backend request receivedAt with
    | error e =>
      refine ⟨inv, List.Subset.refl _, fun hpermanent => .inl ?_⟩
      exact process_final hreceived hprocess (isFinal_of_permanentFailure hpermanent)
    | ok result =>
      obtain ⟨acknowledgement, committed⟩ := result
      obtain ⟨hacceptable, ⟨hbuilt, row, added, hingests⟩ | ⟨rfl, row, hrow, hid, rfl⟩⟩ :=
        process_ok hprocess
      · have hmem : row ∈ committed.batches := by
          rw [hingests.batches]
          exact List.mem_append_right _ (List.mem_singleton_self row)
        have hparts := buildAcknowledgement_ok.mp hbuilt
        refine ⟨inv.ingest hposted hacceptable hbuilt hingests, ?_, ⟨row, hmem, false, ?_⟩,
          congrArg (·.batchId) hparts⟩
        · rw [hingests.batches]
          exact List.subset_append_left ..
        · obtain ⟨definition, hvalid⟩ := acknowledgement
          rw [hingests.stored]
          cases hparts
          rfl
      · obtain ⟨origin, -, hingested⟩ := inv.batches row hrow
        exact ⟨inv, List.Subset.refl _, ⟨row, hrow, true, rfl⟩,
          hingested.acknowledgement_batchId.trans hid⟩

/-! ## The reader -/

/-- A stored acknowledgement is one the backend returned. -/
def Genuine (codec : Json.Codec) (backend : IngestDatabase)
    (row : SynchronizationAcknowledgementRow) : Prop :=
  ∃ acknowledgement translated, Returned backend acknowledgement ∧
    translateProtocolSynchronizationAcknowledgement acknowledgement = .ok translated ∧
    row.batchId = translated.batchId ∧ row.payloadJson = canonicalPayload codec translated

/-- The request of the batch is one the backend refuses. -/
def RefusedBatch (codec : Json.Codec) (reader : ReaderDatabase)
    (batchId : SynchronizationBatchId) : Prop :=
  ∃ request, Requested codec reader request ∧ request.batchId = batchId ∧ Refused codec request

/-- The reader acts on what the backend told it. -/
structure ReaderInvariant (codec : Json.Codec) (backend : IngestDatabase)
    (reader : ReaderDatabase) : Prop where
  consistent : ∃ row, Consistent row reader
  enlisted : Enlisted reader
  acknowledgements : ∀ row ∈ reader.synchronizationAcknowledgements, Genuine codec backend row
  failed : ∀ batch ∈ reader.synchronizationBatches, batch.batchState = .permanentFailure →
    RefusedBatch codec reader batch.batchId

/-- What the composed system lets the reader do: an acknowledgement it stores is
a translated answer, and a batch it gives up for good is refused. -/
structure Licensed (codec : Json.Codec) (backend : IngestDatabase) (reader : ReaderDatabase)
    (op : Operation) : Prop where
  coordinated : op.Coordinated
  genuine : ∀ translated, op = .storeAcknowledgement translated →
    ∃ acknowledgement, Returned backend acknowledgement ∧
      translateProtocolSynchronizationAcknowledgement acknowledgement = .ok translated
  refused : ∀ readerId batchId category t,
    op = .failBatch readerId batchId category t .permanentFailure →
    RefusedBatch codec reader batchId

theorem Genuine.mono {backend backend' : IngestDatabase} {row : SynchronizationAcknowledgementRow}
    (h : Genuine codec backend row) (hbatches : backend.batches ⊆ backend'.batches) :
    Genuine codec backend' row := by
  obtain ⟨acknowledgement, translated, hreturned, hrest⟩ := h
  exact ⟨acknowledgement, translated, hreturned.mono hbatches, hrest⟩

theorem ReaderInvariant.mono {backend backend' : IngestDatabase} {reader : ReaderDatabase}
    (inv : ReaderInvariant codec backend reader) (hbatches : backend.batches ⊆ backend'.batches) :
    ReaderInvariant codec backend' reader :=
  { inv with acknowledgements := fun row hrow => (inv.acknowledgements row hrow).mono hbatches }

/-- A licensed operation keeps the invariant and every request. -/
theorem ReaderInvariant.step {backend : IngestDatabase} {reader reader' : ReaderDatabase}
    {op : Operation} (inv : ReaderInvariant codec backend reader)
    (hop : Licensed codec backend reader op) (h : Committed codec reader op reader') :
    ReaderInvariant codec backend reader' ∧
      ∀ request, Requested codec reader request → Requested codec reader' request := by
  obtain ⟨row, hconsistent⟩ := inv.consistent
  obtain ⟨row', hconsistent', -⟩ := hconsistent.step h
  have hkept : ∀ request, Requested codec reader request → Requested codec reader' request :=
    fun request => h.grows.requested hconsistent hconsistent'
  have hrefused : ∀ batchId, RefusedBatch codec reader batchId →
      RefusedBatch codec reader' batchId := by
    rintro batchId ⟨request, hrequested, hrest⟩
    exact ⟨request, hkept request hrequested, hrest⟩
  refine ⟨⟨⟨row', hconsistent'⟩, inv.enlisted.step hconsistent h hop.coordinated, ?_, ?_⟩, hkept⟩
  · intro stored' hstored'
    rcases h.acknowledgement_origin hstored' with
      ⟨stored, hstored, hfrozen⟩ | ⟨translated, hstore, rfl⟩
    · obtain ⟨acknowledgement, translated, hreturned, htranslated, hid, hpayload⟩ :=
        inv.acknowledgements stored hstored
      have hid' : stored'.batchId = stored.batchId := congrArg (·.batchId) hfrozen
      have hpayload' : stored'.payloadJson = stored.payloadJson := congrArg (·.payloadJson) hfrozen
      exact ⟨acknowledgement, translated, hreturned, htranslated, hid'.trans hid,
        hpayload'.trans hpayload⟩
    · obtain ⟨acknowledgement, hreturned, htranslated⟩ := hop.genuine translated hstore
      exact ⟨acknowledgement, translated, hreturned, htranslated, rfl, rfl⟩
  · intro batch' hbatch' hfailed
    rcases h.permanentFailure_origin hconsistent hbatch' hfailed with
      ⟨batch, hbatch, hid, hstate⟩ | ⟨readerId, category, t, hfail⟩
    · exact hrefused _ (hid ▸ inv.failed batch hbatch hstate)
    · exact hrefused _ (hop.refused readerId batch'.batchId category t hfail)

theorem ReaderInvariant.perform {backend : IngestDatabase} {reader : ReaderDatabase}
    {op : Operation} (inv : ReaderInvariant codec backend reader)
    (hop : Licensed codec backend reader op) :
    ReaderInvariant codec backend (Reader.perform codec reader op) ∧
      ∀ request, Requested codec reader request →
        Requested codec (Reader.perform codec reader op) request :=
  perform_invariant (P := fun reader' => ReaderInvariant codec backend reader' ∧
    ∀ request, Requested codec reader request → Requested codec reader' request)
    ⟨inv, fun _ h => h⟩ fun _ h => inv.step hop h

theorem LocalCall.licensed (localCall : LocalCall) {backend : IngestDatabase}
    {reader : ReaderDatabase} : Licensed codec backend reader localCall.operation := by
  cases localCall <;> exact ⟨trivial, nofun, nofun⟩

/-! ## The exchange -/

/-- Every entry of a returned acknowledgement is acknowledged, so the reader can
translate it. -/
theorem Returned.translates {posted : List Request} {backend : IngestDatabase}
    {acknowledgement : Acknowledgement} (h : Returned backend acknowledgement)
    (inv : BackendInvariant codec sha256 posted backend) :
    ∃ translated, translateProtocolSynchronizationAcknowledgement acknowledgement =
        .ok translated ∧ translated.batchId = acknowledgement.batchId ∧
      ∀ entry ∈ translated.entries, entry.resolution = .acknowledged := by
  obtain ⟨row, hrow, replayed, rfl⟩ := h
  obtain ⟨request, -, hingested⟩ := inv.batches row hrow
  obtain ⟨receivedAt, hbuilt⟩ := hingested.built
  refine translate_acknowledged fun entry hentry => ?_
  have hentries : row.canonicalAcknowledgement.entries = request.entries.map acknowledgeEntry :=
    congrArg (·.entries) (buildAcknowledgement_ok.mp hbuilt)
  have hmem : entry ∈ row.canonicalAcknowledgement.entries := hentry
  rw [hentries] at hmem
  obtain ⟨submitted, -, rfl⟩ := List.mem_map.mp hmem
  rfl

/-- The batch row behind a returned acknowledgement, and its ingest. -/
theorem Returned.ingested {posted : List Request} {backend : IngestDatabase}
    {acknowledgement : Acknowledgement} (h : Returned backend acknowledgement)
    (inv : BackendInvariant codec sha256 posted backend) :
    ∃ row ∈ backend.batches, row.batchId = acknowledgement.batchId ∧
      translateProtocolSynchronizationAcknowledgement acknowledgement =
        translateProtocolSynchronizationAcknowledgement row.canonicalAcknowledgement ∧
      ∃ request ∈ posted, Ingested codec sha256 backend row request := by
  obtain ⟨row, hrow, replayed, rfl⟩ := h
  obtain ⟨request, hposted, hingested⟩ := inv.batches row hrow
  exact ⟨row, hrow, hingested.acknowledgement_batchId.symm, translate_withReplayed _ replayed,
    request, hposted, hingested⟩

/-- What a submission knows at each phase. -/
def Phase.Sound (codec : Json.Codec) (backend : IngestDatabase) (request : Request) :
    Phase → Prop
  | .awaiting => True
  | .acknowledged acknowledgement | .stored acknowledgement => Returned backend acknowledgement
  | .failed category =>
    synchronizationFailureDisposition category = .permanentFailure → Refused codec request

structure Submission.Sound (codec : Json.Codec) (backend : IngestDatabase)
    (reader : ReaderDatabase) (submission : Submission) : Prop where
  requested : Requested codec reader submission.request
  batchId : submission.request.batchId = submission.batchId
  phase : submission.phase.Sound codec backend submission.request

theorem Phase.Sound.mono {backend backend' : IngestDatabase} {request : Request} {phase : Phase}
    (h : phase.Sound codec backend request) (hbatches : backend.batches ⊆ backend'.batches) :
    phase.Sound codec backend' request := by
  cases phase with
  | awaiting => trivial
  | acknowledged acknowledgement | stored acknowledgement => exact Returned.mono h hbatches
  | failed category => exact h

/-- An answer of the backend condemns a request only if it is refused: no
acknowledgement is too long for the client, and one it cannot use is retried. -/
theorem Answered.sound {backend : IngestDatabase} {request : Request} {response : ApiResponse}
    (h : Answered codec backend request response) :
    (Phase.ofResult (receiveResponse codec request response)).Sound codec backend request := by
  cases response with
  | error category => exact h
  | ok acknowledgement =>
    simp only [receiveResponse,
      if_neg (Nat.not_lt.mpr (acknowledgement_body_le codec acknowledgement))]
    cases acknowledgement.validateAgainstRequest request with
    | error source => exact nofun
    | ok _ => exact h.1

theorem NetworkFailure.sound (failure : NetworkFailure) (backend : IngestDatabase)
    (request : Request) :
    (Phase.failed failure.error.failureCategory).Sound codec backend request := by
  cases failure <;> exact nofun

/-! ## The composed state -/

structure Invariant (codec : Json.Codec) (sha256 : Sha256) (s : State) : Prop where
  reader : ReaderInvariant codec s.backend s.reader
  posted : ∀ request ∈ s.posted,
    Requested codec s.reader request ∧ checkRequestBody codec request = .ok ()
  backend : BackendInvariant codec sha256 s.posted s.backend
  answers : ∀ answer ∈ s.answers, Answered codec s.backend answer.1 answer.2
  submissions : ∀ submission ∈ s.submissions, submission.Sound codec s.backend s.reader

variable {s : State}

theorem Invariant.perform (inv : Invariant codec sha256 s) {op : Operation}
    (hop : Licensed codec s.backend s.reader op) :
    Invariant codec sha256 { s with reader := Reader.perform codec s.reader op } := by
  obtain ⟨hreader, hkept⟩ := inv.reader.perform hop
  refine ⟨hreader, fun request hrequest => ?_, inv.backend, inv.answers, fun sub hsub => ?_⟩
  · obtain ⟨hrequested, hbody⟩ := inv.posted request hrequest
    exact ⟨hkept request hrequested, hbody⟩
  · have hsound := inv.submissions sub hsub
    exact ⟨hkept _ hsound.requested, hsound.batchId, hsound.phase⟩

theorem Invariant.withSubmissions (inv : Invariant codec sha256 s) {submissions : List Submission}
    (h : ∀ submission ∈ submissions, submission.Sound codec s.backend s.reader) :
    Invariant codec sha256 { s with submissions } :=
  { inv with submissions := h }

theorem Invariant.erase (inv : Invariant codec sha256 s) (index : Nat) :
    Invariant codec sha256 { s with submissions := s.submissions.eraseIdx index } :=
  inv.withSubmissions fun sub hsub => inv.submissions sub (List.mem_of_mem_eraseIdx hsub)

/-- A submission goes on to a phase it can rely on. -/
theorem Invariant.setPhase (inv : Invariant codec sha256 s) {index : Nat}
    {submission : Submission} (hmem : submission ∈ s.submissions) {phase : Phase}
    (hphase : phase.Sound codec s.backend submission.request) :
    Invariant codec sha256
      { s with submissions := s.submissions.set index { submission with phase } } := by
  refine inv.withSubmissions fun sub hsub => ?_
  rcases List.mem_or_eq_of_mem_set hsub with hsub | rfl
  · exact inv.submissions sub hsub
  · have hsound := inv.submissions submission hmem
    exact ⟨hsound.requested, hsound.batchId, hphase⟩

theorem Invariant.submit (inv : Invariant codec sha256 s) (readerId : ReaderId)
    (batchId : SynchronizationBatchId) (completedAt retryAt : UnixMilliseconds) :
    Invariant codec sha256 (s.submit codec readerId batchId completedAt retryAt) := by
  unfold State.submit
  cases hload : loadSynchronizationBatchRequest codec s.reader readerId batchId with
  | error e => exact inv
  | ok request =>
    obtain ⟨hrequested, hid, -⟩ := requested_of_load hload
    dsimp only
    cases hbody : checkRequestBody codec request with
    | error e =>
      refine inv.withSubmissions fun sub hsub => ?_
      rw [List.mem_append, List.mem_singleton] at hsub
      rcases hsub with hsub | rfl
      · exact inv.submissions sub hsub
      · refine ⟨hrequested, hid, fun _ => .inr ?_⟩
        rw [hbody]
        exact nofun
    | ok _ =>
      refine ⟨inv.reader, fun other hother => ?_, inv.backend.mono (List.subset_append_left ..),
        inv.answers, fun sub hsub => ?_⟩
      · rw [List.mem_append, List.mem_singleton] at hother
        rcases hother with hother | rfl
        · exact inv.posted other hother
        · exact ⟨hrequested, hbody⟩
      · rw [List.mem_append, List.mem_singleton] at hsub
        rcases hsub with hsub | rfl
        · exact inv.submissions sub hsub
        · exact ⟨hrequested, hid, trivial⟩

/-- The backend goes on, committed batches stay, and a sound answer is added. -/
theorem Invariant.withBackend (inv : Invariant codec sha256 s) {backend : IngestDatabase}
    (hbackend : BackendInvariant codec sha256 s.posted backend)
    (hbatches : s.backend.batches ⊆ backend.batches) {added : List (Request × ApiResponse)}
    (hadded : ∀ answer ∈ added, Answered codec backend answer.1 answer.2) :
    Invariant codec sha256 { s with backend, answers := s.answers ++ added } := by
  refine ⟨inv.reader.mono hbatches, inv.posted, hbackend, fun answer hanswer => ?_,
    fun sub hsub => ?_⟩
  · rcases List.mem_append.mp hanswer with hanswer | hanswer
    · exact (inv.answers answer hanswer).mono hbatches
    · exact hadded answer hanswer
  · have hsound := inv.submissions sub hsub
    exact ⟨hsound.requested, hsound.batchId, hsound.phase.mono hbatches⟩

/-- The status of a reader is no part of what the backend has ingested. -/
theorem BackendInvariant.withEquipment {posted : List Request} {backend : IngestDatabase}
    (inv : BackendInvariant codec sha256 posted backend)
    (readerEquipment : List ReaderEquipmentRow) :
    BackendInvariant codec sha256 posted { backend with readerEquipment } where
  batchIds := inv.batchIds
  batches row hrow := by
    obtain ⟨request, hposted, hingested⟩ := inv.batches row hrow
    exact ⟨request, hposted, hingested.batchId, hingested.acceptable, hingested.built,
      hingested.covered⟩
  entries := inv.entries

/-- The operation that records a failure is licensed by what the submission
knows. -/
theorem Submission.Sound.licensed {backend : IngestDatabase} {reader : ReaderDatabase}
    {submission : Submission} {category : FailureCategory}
    (h : submission.Sound codec backend reader) (hphase : submission.phase = .failed category) :
    Licensed codec backend reader (failureOperation submission.readerId submission.batchId category
      submission.completedAt submission.retryAt) := by
  have hrefused := h.phase
  rw [hphase] at hrefused
  unfold failureOperation
  cases hdisposition : synchronizationFailureDisposition category with
  | retry => exact ⟨trivial, nofun, nofun⟩
  | manualReview =>
    refine ⟨trivial, nofun, ?_⟩
    rintro _ _ _ _ ⟨⟩
  | permanentFailure =>
    refine ⟨trivial, nofun, ?_⟩
    rintro _ _ _ _ ⟨⟩
    exact ⟨submission.request, h.requested, h.batchId, hrefused hdisposition⟩

theorem Invariant.proceed (inv : Invariant codec sha256 s) {index : Nat} {submission : Submission}
    (hmem : submission ∈ s.submissions) :
    Invariant codec sha256 (s.proceed codec index submission) := by
  have hsound := inv.submissions submission hmem
  unfold State.proceed
  cases hphase : submission.phase with
  | awaiting => exact inv
  | acknowledged acknowledgement =>
    have hreturned : Returned s.backend acknowledgement := by
      have hknown := hsound.phase
      rwa [hphase] at hknown
    obtain ⟨translated, htranslated, -, hresolutions⟩ := hreturned.translates inv.backend
    have hlicensed : Licensed codec s.backend s.reader (.storeAcknowledgement translated) := by
      refine ⟨hresolutions, ?_, nofun⟩
      rintro _ ⟨⟩
      exact ⟨acknowledgement, hreturned, htranslated⟩
    have hstored : (storeProtocolSynchronizationAcknowledgement codec s.reader
        acknowledgement).database =
          Reader.perform codec s.reader (.storeAcknowledgement translated) := by
      rw [storeProtocolSynchronizationAcknowledgement, htranslated]
      rfl
    have hnext := inv.perform hlicensed
    rw [← hstored] at hnext
    dsimp only
    cases (storeProtocolSynchronizationAcknowledgement codec s.reader acknowledgement).result with
    | ok _ => exact hnext.setPhase hmem hreturned
    | error _ => exact hnext.erase index
  | stored acknowledgement =>
    have hlicensed : Licensed codec s.backend s.reader (.applyAcknowledgement submission.readerId
        submission.batchId (max submission.completedAt acknowledgement.receivedAt)) :=
      ⟨trivial, nofun, nofun⟩
    exact (inv.perform hlicensed).erase index
  | failed category => exact (inv.perform (hsound.licensed hphase)).erase index

/-- Every event keeps the invariant. -/
theorem Invariant.step (inv : Invariant codec sha256 s) (event : Event) :
    Invariant codec sha256 (System.step codec sha256 environmentId s event) := by
  cases event with
  | call localCall => exact inv.perform localCall.licensed
  | submit readerId batchId completedAt retryAt =>
    exact inv.submit readerId batchId completedAt retryAt
  | serve index elapsed =>
    simp only [System.step]
    cases hrequest : s.posted[index]? with
    | none => exact inv
    | some request =>
      obtain ⟨hbackend, hbatches, hanswered⟩ :=
        inv.backend.serve (List.mem_of_getElem? hrequest) elapsed
      refine inv.withBackend hbackend hbatches fun answer hanswer => ?_
      rw [List.mem_singleton] at hanswer
      subst hanswer
      exact hanswered
  | fault index elapsed commits =>
    simp only [System.step]
    cases hrequest : s.posted[index]? with
    | none => exact inv
    | some request =>
      obtain ⟨hbackend, hbatches, -⟩ :=
        inv.backend.serve (List.mem_of_getElem? hrequest) elapsed
      have hanswered : ∀ backend : IngestDatabase,
          ∀ answer ∈ [(request, Except.error FailureCategory.backendTemporarilyUnavailable)],
            Answered codec backend answer.1 answer.2 := by
        intro backend answer hanswer
        rw [List.mem_singleton] at hanswer
        subst hanswer
        exact nofun
      cases commits with
      | true => exact inv.withBackend hbackend hbatches (hanswered _)
      | false => exact inv.withBackend inv.backend (List.Subset.refl _) (hanswered _)
  | changeStatus readerId status =>
    have hbackend := inv.backend.withEquipment
      (Table.updateWhere (·.id == readerId) ({ · with status }) s.backend.readerEquipment)
    have hnone : ∀ answer ∈ ([] : List (Request × ApiResponse)),
        Answered codec s.backend answer.1 answer.2 :=
      fun answer hanswer => absurd hanswer List.not_mem_nil
    have hnext := inv.withBackend hbackend (List.Subset.refl _) hnone
    rw [List.append_nil] at hnext
    exact hnext
  | deliver index answer =>
    simp only [System.step]
    cases hsubmission : s.submissions[index]? with
    | none => exact inv
    | some submission =>
      cases hanswer : s.answers[answer]? with
      | none => exact inv
      | some pair =>
        dsimp only
        split
        · next hwaiting =>
          have hanswered := inv.answers pair (List.mem_of_getElem? hanswer)
          have hsound := hanswered.sound
          rw [← hwaiting.2] at hsound
          rw [← hwaiting.2]
          exact inv.setPhase (List.mem_of_getElem? hsubmission) hsound
        · exact inv
  | lose index failure =>
    simp only [System.step]
    cases hsubmission : s.submissions[index]? with
    | none => exact inv
    | some submission =>
      dsimp only
      split
      · exact inv.setPhase (List.mem_of_getElem? hsubmission) (NetworkFailure.sound failure _ _)
      · exact inv
  | proceed index =>
    simp only [System.step]
    cases hsubmission : s.submissions[index]? with
    | none => exact inv
    | some submission => exact inv.proceed (List.mem_of_getElem? hsubmission)
  | crash => exact inv.withSubmissions fun sub hsub => absurd hsub List.not_mem_nil

theorem invariant_initial {reader : ReaderDatabase} (h : FreshlyBound reader)
    (readerEquipment : List ReaderEquipmentRow) :
    Invariant codec sha256 (.initial reader readerEquipment) := by
  have hconsistent := h.consistent
  have henlisted := h.enlisted
  obtain ⟨identity, -, rfl⟩ := h.exists_identity
  refine ⟨⟨hconsistent, henlisted, ?_, ?_⟩, ?_, ⟨List.nodup_nil, ?_, ?_⟩, ?_, ?_⟩
  · exact fun row hrow => absurd hrow List.not_mem_nil
  · exact fun batch hbatch => absurd hbatch List.not_mem_nil
  · exact fun request hrequest => absurd hrequest List.not_mem_nil
  · exact fun row hrow => absurd hrow List.not_mem_nil
  · exact fun row hrow => absurd hrow List.not_mem_nil
  · exact fun answer hanswer => absurd hanswer List.not_mem_nil
  · exact fun submission hsubmission => absurd hsubmission List.not_mem_nil

/-- The invariant holds after every run. -/
theorem invariant_run {reader : ReaderDatabase} (h : FreshlyBound reader)
    (readerEquipment : List ReaderEquipmentRow) (events : List Event) :
    Invariant codec sha256
      (Runs.run (step codec sha256 environmentId) (.initial reader readerEquipment) events) :=
  Runs.invariant (fun _ event inv => inv.step event) (invariant_initial h readerEquipment) events

/-! ## Acknowledged submissions -/

/-- A submission that has its acknowledgement stores and applies it in two
steps. -/
theorem run_proceed_acknowledged {index : Nat} {submission : Submission}
    (hsubmission : s.submissions[index]? = some submission) {acknowledgement : Acknowledgement}
    (hphase : submission.phase = .acknowledged acknowledgement)
    {stored : StoredSynchronizationAcknowledgement}
    (hstored : (storeProtocolSynchronizationAcknowledgement codec s.reader acknowledgement).result =
      .ok stored) :
    (Runs.run (step codec sha256 environmentId) s [.proceed index, .proceed index]).reader =
      (applySynchronizationAcknowledgement (storeProtocolSynchronizationAcknowledgement codec
        s.reader acknowledgement).database submission.readerId submission.batchId
          (max submission.completedAt acknowledgement.receivedAt)).database := by
  have hindex : index < s.submissions.length := (List.getElem?_eq_some_iff.mp hsubmission).1
  have hstep : step codec sha256 environmentId s (.proceed index) =
      { s with
        reader := (storeProtocolSynchronizationAcknowledgement codec s.reader
          acknowledgement).database
        submissions :=
          s.submissions.set index { submission with phase := .stored acknowledgement } } := by
    simp only [step, hsubmission, State.proceed, hphase, hstored]
  rw [Runs.run_cons, Runs.run_cons, Runs.run_nil, hstep]
  simp only [step, List.getElem?_set_self hindex, State.proceed]

end TransitGuard.System
