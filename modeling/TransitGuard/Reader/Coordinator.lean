import TransitGuard.Reader.Delivery
import TransitGuard.Reader.Transport
import TransitGuard.Telemetry.Recorder

/-!
The submission coordinator. One call loads the request of a batch in flight,
has a transport send it, and writes down what came of it: an acknowledgement is
stored and then applied, a failure moves the batch by the policy for its
category. The call does one of these as a whole or leaves the batch in flight.
-/

namespace TransitGuard.Reader

open Fallible Protocol Telemetry

/-- `SynchronizationTransportFailure`. -/
inductive SynchronizationTransportFailure
  | http (category : FailureCategory) (source : SynchronizationHttpClientError)
  | classified (category : FailureCategory)

/-- `SynchronizationTransportFailure::category`. -/
def SynchronizationTransportFailure.category :
    SynchronizationTransportFailure → FailureCategory
  | .http category _ | .classified category => category

/-- `SynchronizationTransport`, as its `submit`. -/
abbrev SynchronizationTransport :=
  Request → Except SynchronizationTransportFailure Acknowledgement

/-- The HTTP client as a transport. -/
def SynchronizationHttpClient.transport (codec : Json.Codec)
    (read : List UInt8 → Option Json.Value)
    (send : Http.HttpRequest → Except ReqwestError (Http.HttpResponse (Http.Body ReqwestError))) :
    SynchronizationTransport := fun request =>
  (SynchronizationHttpClient.submit codec read send request).mapError fun source =>
    .http source.failureCategory source

/-- `SynchronizationSubmissionResult`. -/
inductive SynchronizationSubmissionResult
  | applied (acknowledgementReplayed : Bool)
      (application : SynchronizationAcknowledgementApplication)
  | retryScheduled (failure : SynchronizationTransportFailure) (batch : SynchronizationBatch)
  | permanentFailure (failure : SynchronizationTransportFailure) (batch : SynchronizationBatch)
  | manualReview (failure : SynchronizationTransportFailure) (batch : SynchronizationBatch)

/-- `SynchronizationSubmissionError`. -/
inductive SynchronizationSubmissionError
  | request (source : ReaderSynchronizationRequestError)
  | acknowledgement (source : ReaderProtocolAcknowledgementError)
  | application (source : ReaderAcknowledgementApplicationError)
  | retryState (source : ReaderSynchronizationStateError)
  | finalState (source : ReaderSynchronizationStateError)

/-- What a call of the coordinator leaves behind: the database, its result, and
what it recorded. -/
structure Submitted where
  database : ReaderDatabase
  result : Except SynchronizationSubmissionError SynchronizationSubmissionResult
  recorded : List Counter

/-- The end of a submission whose transport failed, after the failure was
written to the database. -/
def Submitted.ofFailure (failure : SynchronizationTransportFailure)
    (error : ReaderSynchronizationStateError → SynchronizationSubmissionError)
    (result : SynchronizationTransportFailure → SynchronizationBatch →
      SynchronizationSubmissionResult)
    (written : Outcome ReaderSynchronizationStateError SynchronizationBatch) : Submitted where
  database := written.database
  result := (written.result.mapError error).map (result failure)
  recorded := recordRequestStarted ++ recordRequestFailure failure.category

/-- `submit_in_flight_synchronization_batch_with_telemetry`. -/
def submitInFlightSynchronizationBatch (codec : Json.Codec) (db : ReaderDatabase)
    (transport : SynchronizationTransport) (readerId : ReaderId)
    (batchId : SynchronizationBatchId) (completedAt retryAt : UnixMilliseconds) : Submitted :=
  match loadSynchronizationBatchRequest codec db readerId batchId with
  | .error source => ⟨db, .error (.request source), []⟩
  | .ok request =>
    match transport request with
    | .ok acknowledgement =>
      let stored := storeProtocolSynchronizationAcknowledgement codec db acknowledgement
      match stored.result with
      | .error source => ⟨stored.database, .error (.acknowledgement source), recordRequestStarted⟩
      | .ok value =>
        let appliedAt := max completedAt acknowledgement.receivedAt
        let applied :=
          applySynchronizationAcknowledgement stored.database readerId batchId appliedAt
        ⟨applied.database, (applied.result.mapError .application).map (.applied value.replayed),
          recordRequestStarted ++ recordAcknowledgement acknowledgement⟩
    | .error failure =>
      let failureCategory := failure.category.asStr
      match synchronizationFailureDisposition failure.category with
      | .retry => Submitted.ofFailure failure .retryState .retryScheduled <|
          recordSynchronizationRetryableFailure db readerId batchId failureCategory completedAt
            retryAt
      | .permanentFailure => Submitted.ofFailure failure .finalState .permanentFailure <|
          recordSynchronizationPermanentFailure db readerId batchId failureCategory completedAt
      | .manualReview => Submitted.ofFailure failure .finalState .manualReview <|
          recordSynchronizationManualReview db readerId batchId failureCategory completedAt

variable {codec : Json.Codec} {db db' : ReaderDatabase} {reader : ReaderStateRow}
  {batch : SynchronizationBatchRow} {completedAt retryAt : UnixMilliseconds}
  {transport : SynchronizationTransport} {request : Request}

/-! ## The outcome of a call -/

/-- The time of a call is not before the last change of the batch and of its
transactions. -/
structure ReaderDatabase.Timely (db : ReaderDatabase) (batch : SynchronizationBatchRow)
    (t : UnixMilliseconds) : Prop where
  updatedAt : batch.updatedAt ≤ t
  transactions : ∀ row ∈ db.offlineTransactions,
    db.inBatch batch.readerId batch.batchId row = true → row.updatedAt ≤ t

/-- What a timely call does with the batch, by what the transport returned. -/
inductive SubmissionOutcome (codec : Json.Codec) (db : ReaderDatabase)
    (batch : SynchronizationBatchRow) (completedAt retryAt : UnixMilliseconds) :
    Except SynchronizationTransportFailure Acknowledgement → Submitted → Prop
  | applied {answer : Acknowledgement} {translated : SynchronizationAcknowledgement}
      {replayed : Bool} {application : SynchronizationAcknowledgementApplication}
      {final : ReaderDatabase}
      (translates : translateProtocolSynchronizationAcknowledgement answer = .ok translated)
      (known : replayed = true ↔
        ∃ row ∈ db.synchronizationAcknowledgements, row.batchId = batch.batchId)
      (counts : application.counts = translated.counts)
      (settles : Settles translated (max completedAt answer.receivedAt)
        (if replayed then db else db.withAcknowledgement codec translated) final) :
      SubmissionOutcome codec db batch completedAt retryAt (.ok answer)
        ⟨final, .ok (.applied replayed application),
          recordRequestStarted ++ recordAcknowledgement answer⟩
  | refused {answer : Acknowledgement} {source : ReaderProtocolAcknowledgementError}
      (refuses : (storeProtocolSynchronizationAcknowledgement codec db answer).result =
        .error source) :
      SubmissionOutcome codec db batch completedAt retryAt (.ok answer)
        ⟨db, .error (.acknowledgement source), recordRequestStarted⟩
  | retryScheduled {failure : SynchronizationTransportFailure} {loaded : SynchronizationBatch}
      (disposition : synchronizationFailureDisposition failure.category = .retry)
      (loads : loadSynchronizationBatch (db.retried batch.batchId failure.category.asStr
        completedAt retryAt) batch.readerId batch.batchId = .ok loaded) :
      SubmissionOutcome codec db batch completedAt retryAt (.error failure)
        ⟨db.retried batch.batchId failure.category.asStr completedAt retryAt,
          .ok (.retryScheduled failure loaded),
          recordRequestStarted ++ recordRequestFailure failure.category⟩
  | permanentFailure {failure : SynchronizationTransportFailure} {loaded : SynchronizationBatch}
      (disposition : synchronizationFailureDisposition failure.category = .permanentFailure)
      (loads : loadSynchronizationBatch (db.failed batch.readerId batch.batchId
        failure.category.asStr completedAt .permanentFailure) batch.readerId batch.batchId =
          .ok loaded) :
      SubmissionOutcome codec db batch completedAt retryAt (.error failure)
        ⟨db.failed batch.readerId batch.batchId failure.category.asStr completedAt
            .permanentFailure,
          .ok (.permanentFailure failure loaded),
          recordRequestStarted ++ recordRequestFailure failure.category⟩
  | manualReview {failure : SynchronizationTransportFailure} {loaded : SynchronizationBatch}
      (disposition : synchronizationFailureDisposition failure.category = .manualReview)
      (loads : loadSynchronizationBatch (db.failed batch.readerId batch.batchId
        failure.category.asStr completedAt .manualReview) batch.readerId batch.batchId =
          .ok loaded) :
      SubmissionOutcome codec db batch completedAt retryAt (.error failure)
        ⟨db.failed batch.readerId batch.batchId failure.category.asStr completedAt .manualReview,
          .ok (.manualReview failure loaded),
          recordRequestStarted ++ recordRequestFailure failure.category⟩

/-! ## Answers -/

theorem UnixMilliseconds.le_max_left {a b : UnixMilliseconds} : a ≤ max a b := by
  simp only [max]
  split
  · assumption
  · exact Int64.le_refl a

theorem UnixMilliseconds.le_max_right {a b : UnixMilliseconds} : b ≤ max a b := by
  simp only [max]
  split
  · exact Int64.le_refl b
  · next h => exact (Int64.le_total a b).resolve_left h

/-- An acknowledgement that names the batch is applied as a whole, unless the
store refuses it. -/
theorem Consistent.settles_answer (inv : Consistent reader db) (hrecorded : Recorded codec db)
    (hclosed : db.AppliedClosed) (hbatch : batch ∈ db.synchronizationBatches)
    (hflight : batch.batchState = .inFlight) (hattempts : batch.attemptCount < 2 ^ 32)
    (hall : db.AllInFlight reader.readerId batch.batchId) (htimely : db.Timely batch completedAt)
    {answer : Acknowledgement} (hid : answer.batchId = batch.batchId)
    {stored : StoredSynchronizationAcknowledgement}
    (hstored : (storeProtocolSynchronizationAcknowledgement codec db answer).result =
      .ok stored) :
    ∃ translated application,
      translateProtocolSynchronizationAcknowledgement answer = .ok translated ∧
      (stored.replayed = true ↔
        ∃ row ∈ db.synchronizationAcknowledgements, row.batchId = batch.batchId) ∧
      (applySynchronizationAcknowledgement (storeProtocolSynchronizationAcknowledgement codec db
        answer).database reader.readerId batch.batchId (max completedAt answer.receivedAt)).result =
          .ok application ∧ application.counts = translated.counts ∧
      Settles translated (max completedAt answer.receivedAt)
        (if stored.replayed then db else db.withAcknowledgement codec translated)
        (applySynchronizationAcknowledgement (storeProtocolSynchronizationAcknowledgement codec db
          answer).database reader.readerId batch.batchId
            (max completedAt answer.receivedAt)).database := by
  have howner := inv.batches.owned batch hbatch
  cases htranslated : translateProtocolSynchronizationAcknowledgement answer with
  | error e =>
    simp only [storeProtocolSynchronizationAcknowledgement, htranslated] at hstored
    cases hstored
  | ok translated =>
    simp only [storeProtocolSynchronizationAcknowledgement, htranslated] at hstored ⊢
    have haccepted := mapError_eq_ok.mp hstored
    obtain ⟨⟨found, hfound, hmatches⟩, hsame⟩ := inv.same_of_store hrecorded haccepted
    have htranslatedId : translated.batchId = batch.batchId :=
      (translate_eq_ok.mp htranslated).2.1.trans hid
    obtain rfl : found = batch :=
      Table.eq_of_key_eq inv.batches.ids hfound hbatch (hmatches.id.symm.trans htranslatedId)
    obtain ⟨replayed, hknown, hstore⟩ := inv.store_matching hbatch hflight hattempts hmatches
      (translated_checks htranslated) fun row hrow hrowId =>
        hsame row hrow (hrowId.trans htranslatedId.symm)
    obtain rfl : stored = ⟨translated, replayed⟩ := by
      rw [hstore] at haccepted
      exact (Except.ok.inj haccepted).symm
    obtain ⟨hreader, htransactions, hbatches, hentries⟩ := store_frame codec db translated
    have hafter := inv.stored_of_store hrecorded haccepted
    have hrecorded' : Recorded codec
        (storeSynchronizationAcknowledgement codec db translated).database := by
      rw [← perform_storeAcknowledgement]
      exact perform_invariant hrecorded fun db' h => hrecorded.step inv h
    have hclosed' : (storeSynchronizationAcknowledgement codec db
        translated).database.AppliedClosed := by
      rw [← perform_storeAcknowledgement]
      exact perform_invariant hclosed fun db' h => inv.appliedClosed_step h hclosed
    obtain ⟨reader', inv'⟩ : ∃ reader', Consistent reader'
        (storeSynchronizationAcknowledgement codec db translated).database :=
      inv.perform (.storeAcknowledgement translated)
    rw [hstore] at hreader htransactions hbatches hentries hafter hrecorded' hclosed' inv' ⊢
    dsimp only at hreader htransactions hbatches hentries hafter hrecorded' hclosed' inv' ⊢
    generalize hwritten : (if replayed then db else db.withAcknowledgement codec translated) =
      stored at hreader htransactions hbatches hentries hafter hrecorded' hclosed' inv' ⊢
    obtain rfl : reader = reader' :=
      Option.some.inj (inv.queue.bound.symm.trans (hreader.symm.trans inv'.queue.bound))
    have hmember : ∀ row, stored.inBatch reader.readerId found.batchId row =
        db.inBatch reader.readerId found.batchId row := by
      intro row
      simp only [ReaderDatabase.inBatch, ReaderDatabase.batchEntries, hentries]
    have hreceived : translated.receivedAt = answer.receivedAt :=
      (translate_eq_ok.mp htranslated).2.2.2.2.2.1
    have hlate : completedAt ≤ max completedAt answer.receivedAt := UnixMilliseconds.le_max_left
    obtain ⟨row, hrow, hrecords⟩ := hafter.row
    obtain ⟨application, happlied, hcounts, hsettles⟩ :=
      inv'.apply_settles hrecorded' hclosed' (hbatches ▸ hbatch) hflight
        (fun row hrow hin => hall row (htransactions ▸ hrow) (hmember row ▸ hin))
        (fun row hrow hin => Int64.le_trans (htimely.transactions row (htransactions ▸ hrow)
          (howner ▸ hmember row ▸ hin)) hlate)
        (Int64.le_trans htimely.updatedAt hlate) hrow hrecords htranslatedId
        (hreceived ▸ UnixMilliseconds.le_max_right)
    exact ⟨translated, application, rfl, hknown, happlied, hcounts, hwritten.symm ▸ hsettles⟩

/-- A refused acknowledgement is not written. -/
theorem storeProtocol_of_error {answer : Acknowledgement}
    {source : ReaderProtocolAcknowledgementError}
    (h : (storeProtocolSynchronizationAcknowledgement codec db answer).result = .error source) :
    (storeProtocolSynchronizationAcknowledgement codec db answer).database = db := by
  unfold storeProtocolSynchronizationAcknowledgement at h ⊢
  cases htranslated : translateProtocolSynchronizationAcknowledgement answer with
  | error e => rfl
  | ok translated =>
    simp only [htranslated] at h ⊢
    cases hresult : (storeSynchronizationAcknowledgement codec db translated).result with
    | error e => exact transact_of_error hresult
    | ok stored =>
      rw [hresult] at h
      cases h

/-- The HTTP client returns nothing but answers to the request. -/
theorem SynchronizationHttpClient.transport_names {read : List UInt8 → Option Json.Value}
    {send : Http.HttpRequest → Except ReqwestError (Http.HttpResponse (Http.Body ReqwestError))}
    {answer : Acknowledgement}
    (h : SynchronizationHttpClient.transport codec read send request = .ok answer) :
    answer.batchId = request.batchId := by
  have hsubmit := mapError_eq_ok.mp h
  simp only [SynchronizationHttpClient.submit, receiveHttpResponse, bind_eq_ok, guard_eq_ok,
    mapError_eq_ok, Except.ok.injEq] at hsubmit
  obtain ⟨_, -, _, -, _, -, -, -, _, -, _, hvalid, rfl⟩ := hsubmit
  exact (Acknowledgement.validateAgainstRequest_ok.mp hvalid).2.2.2.1

/-! ## The law -/

/-- A batch whose request is loaded is in flight. -/
theorem Consistent.inFlight_of_load (inv : Consistent reader db)
    (hbatch : batch ∈ db.synchronizationBatches)
    (hload : loadSynchronizationBatchRequest codec db batch.readerId batch.batchId = .ok request) :
    batch.batchState = .inFlight := by
  obtain ⟨found, hfound, hstate, -⟩ := loadSynchronizationBatchRequest_ok.mp hload
  rw [inv.batches.owned batch hbatch, inv.batches.findBatch hbatch, Option.some.injEq] at hfound
  rwa [hfound]

theorem Consistent.outcome_of_submission (inv : Consistent reader db)
    (hrecorded : Recorded codec db) (hclosed : db.AppliedClosed) (hheld : db.Held)
    (hbatch : batch ∈ db.synchronizationBatches)
    (hload : loadSynchronizationBatchRequest codec db batch.readerId batch.batchId = .ok request)
    (hattempts : batch.attemptCount < 2 ^ 32) (htimely : db.Timely batch completedAt)
    (hretry : completedAt ≤ retryAt)
    (hnames : ∀ answer, transport request = .ok answer → answer.batchId = batch.batchId) :
    SubmissionOutcome codec db batch completedAt retryAt (transport request)
      (submitInFlightSynchronizationBatch codec db transport batch.readerId batch.batchId
        completedAt retryAt) := by
  have howner := inv.batches.owned batch hbatch
  have hflight := inv.inFlight_of_load hbatch hload
  have hall : db.AllInFlight reader.readerId batch.batchId :=
    inv.allInFlight hheld hbatch (by rw [hflight]; rfl)
  simp only [submitInFlightSynchronizationBatch, hload]
  cases hresult : transport request with
  | ok answer =>
    cases hstored : (storeProtocolSynchronizationAcknowledgement codec db answer).result with
    | error source =>
      simp only [hstored, storeProtocol_of_error hstored]
      exact .refused hstored
    | ok stored =>
      obtain ⟨translated, application, htranslates, hknown, happlied, hcounts, hsettles⟩ :=
        inv.settles_answer hrecorded hclosed hbatch hflight hattempts hall htimely
          (hnames answer hresult) hstored
      simp only [hstored, howner, happlied]
      exact .applied htranslates hknown hcounts hsettles
  | error failure =>
    have hlate : ∀ row ∈ db.offlineTransactions,
        db.inBatch reader.readerId batch.batchId row = true → row.updatedAt ≤ completedAt :=
      fun row hrow hin => htimely.transactions row hrow (howner ▸ hin)
    cases hdisposition : synchronizationFailureDisposition failure.category with
    | retry =>
      obtain ⟨loaded, hwritten, hloads⟩ := inv.retry_eq hbatch hflight htimely.updatedAt codec
        hattempts hretry failure.category
      simp only [hdisposition, howner, hwritten]
      exact .retryScheduled hdisposition (howner ▸ hloads)
    | permanentFailure =>
      obtain ⟨loaded, hwritten, hloads⟩ := inv.fail_eq hbatch hflight htimely.updatedAt codec
        hattempts hall hlate failure.category .permanentFailure "record_permanent_failure"
      simp only [hdisposition, recordSynchronizationPermanentFailure, howner, hwritten]
      exact howner ▸ .permanentFailure hdisposition (howner ▸ hloads)
    | manualReview =>
      obtain ⟨loaded, hwritten, hloads⟩ := inv.fail_eq hbatch hflight htimely.updatedAt codec
        hattempts hall hlate failure.category .manualReview "record_manual_review"
      simp only [hdisposition, recordSynchronizationManualReview, howner, hwritten]
      exact howner ▸ .manualReview hdisposition (howner ▸ hloads)

/-- In every database that a run leads to which takes no transaction out of an
open batch, a timely call of the coordinator writes down the whole outcome of
the transport, records it, and returns it; only an acknowledgement that the
store refuses leaves the database as it was. -/
theorem submission_outcome {db₀ : ReaderDatabase} (h : FreshlyBound db₀) {ops : List Operation}
    (hspares : Runs.StepsMeet (perform codec) (fun db op => op.sparesOpenBatches db = true) db₀
      ops) (readerId : ReaderId) (batchId : SynchronizationBatchId)
    (hload : loadSynchronizationBatchRequest codec (Runs.run (perform codec) db₀ ops) readerId
      batchId = .ok request)
    (hfound : (Runs.run (perform codec) db₀ ops).findBatch readerId batchId = some batch)
    (hattempts : batch.attemptCount < 2 ^ 32)
    (htimely : (Runs.run (perform codec) db₀ ops).Timely batch completedAt)
    (hretry : completedAt ≤ retryAt)
    (hnames : ∀ answer, transport request = .ok answer → answer.batchId = batchId) :
    SubmissionOutcome codec (Runs.run (perform codec) db₀ ops) batch completedAt retryAt
      (transport request)
      (submitInFlightSynchronizationBatch codec (Runs.run (perform codec) db₀ ops) transport
        readerId batchId completedAt retryAt) := by
  obtain ⟨reader, inv⟩ : ∃ reader, Consistent reader (Runs.run (perform codec) db₀ ops) :=
    consistent_run h ops
  obtain ⟨hbatch, rfl, rfl⟩ := ReaderDatabase.findBatch_eq_some hfound
  exact inv.outcome_of_submission (recorded_run h ops) (appliedClosed_run h ops)
    (held_run h hspares) hbatch hload hattempts htimely hretry hnames

/-- The network answers the sample submission with a timeout. -/
theorem submission_outcome_timeout :
    ∃ request, loadSynchronizationBatchRequest sampleCodec
        (Runs.run (perform sampleCodec) sampleDatabase sampleSubmission) sampleReaderId
        sampleBatchId = .ok request ∧
      let transport := SynchronizationHttpClient.transport sampleCodec (fun _ => none)
        fun _ => .error ⟨true⟩
      SubmissionOutcome sampleCodec
        (Runs.run (perform sampleCodec) sampleDatabase sampleSubmission) sampleSubmitted 3 5
        (transport request)
        (submitInFlightSynchronizationBatch sampleCodec
          (Runs.run (perform sampleCodec) sampleDatabase sampleSubmission) transport
          sampleReaderId sampleBatchId 3 5) := by
  obtain ⟨request, hload⟩ := isOk_iff.mp (show (loadSynchronizationBatchRequest sampleCodec
    (Runs.run (perform sampleCodec) sampleDatabase sampleSubmission) sampleReaderId
    sampleBatchId).isOk = true by decide)
  have hid : request.batchId = sampleBatchId := (requested_of_load hload).2.1
  refine ⟨request, hload, submission_outcome sampleDatabase_freshlyBound
    (Runs.stepsMeet_mono (fun _ _ => Operation.sparesOpenBatches_of_not_onTransaction)
      (Runs.stepsMeet_of_forall _ _ (by decide)))
    sampleReaderId sampleBatchId hload ?_ (by decide) ?_ (by decide)
    fun answer h => (SynchronizationHttpClient.transport_names h).trans hid⟩
  · rw [sampleSubmission_run]
    rfl
  · rw [sampleSubmission_run]
    exact ⟨by decide, by decide⟩

end TransitGuard.Reader
