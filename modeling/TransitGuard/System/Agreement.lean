import TransitGuard.Library.Sha256
import TransitGuard.Reader.Delivery
import TransitGuard.System.Invariant

/-!
What the reader and the backend agree on, whatever the network does: an
acknowledged transaction is at the backend, a transaction given up for good is
not, and no transaction is ingested twice.
-/

namespace TransitGuard.System

open Protocol Reader Backend

variable {codec : Json.Codec} {sha256 : Sha256} {environmentId : EnvironmentId} {s : State}

/-! ## Agreement -/

/-- The backend holds the transaction of the row, with the fingerprint of the
envelope the reader has stored. -/
def HeldBy (codec : Json.Codec) (sha256 : Sha256) (backend : IngestDatabase)
    (row : OfflineTransactionRow) : Prop :=
  ∃ stored ∈ backend.transactions, stored.fareTransactionId = row.fareTransactionId ∧
    stored.readerId = row.readerId ∧ stored.localSequenceNumber = row.localSequenceNumber ∧
    ∃ envelope, CanonicalTransactionEnvelope.fromJson codec row.transactionEnvelopeJson =
      .ok envelope ∧ stored.transactionFingerprint = envelope.fingerprint sha256

/-- A committed batch holds every transaction of the reader's batch. -/
theorem Ingested.heldBy {reader : ReaderDatabase} {backend : IngestDatabase}
    {batch : IngestBatchRow} {request : Request} {state : ReaderStateRow}
    (h : Ingested codec sha256 backend batch request) (hrequested : Requested codec reader request)
    (consistent : Consistent state reader) {entry : SynchronizationEntryRow}
    (hentry : entry ∈ reader.synchronizationEntries) (hbatch : entry.batchId = batch.batchId)
    {row : OfflineTransactionRow} (hrow : row ∈ reader.offlineTransactions)
    (hkey : row.key = entry.key) : HeldBy codec sha256 backend row := by
  obtain ⟨submitted, hsubmitted, hid, hsequence, hparsed⟩ :=
    hrequested.transaction_sent consistent hentry (hbatch.trans h.batchId) hrow hkey
  obtain ⟨stored, hstored, hidentity⟩ := h.covered submitted hsubmitted
  have howner : request.readerId = row.readerId := by
    obtain ⟨-, -, -, howner, -⟩ := hrequested.assembled consistent
    rw [howner, consistent.queue.owned row hrow]
  simp only [IngestTransactionRow.identity, storedIdentity, Prod.mk.injEq] at hidentity
  obtain ⟨hstoredId, hstoredReader, hstoredSequence, hfingerprint⟩ := hidentity
  exact ⟨stored, hstored, hstoredId.trans hid, hstoredReader.trans howner,
    hstoredSequence.trans hsequence, submitted.transactionEnvelope, hparsed, hfingerprint⟩

theorem Invariant.acknowledged_heldBy (inv : Invariant codec sha256 s)
    {row : OfflineTransactionRow} (hrow : row ∈ s.reader.offlineTransactions)
    (hacknowledged : row.queueState = .acknowledged) : HeldBy codec sha256 s.backend row := by
  obtain ⟨state, consistent⟩ := inv.reader.consistent
  -- the reader acknowledges a transaction only through a stored acknowledgement of its batch
  obtain ⟨entry, hentry, hkey, stored, hstored, hbatch⟩ :=
    consistent.acknowledgements.settled row hrow hacknowledged
  obtain ⟨acknowledgement, translated, hreturned, htranslated, hstoredId, -⟩ :=
    inv.reader.acknowledgements stored hstored
  obtain ⟨translated', htranslated', htranslatedId, -⟩ := hreturned.translates inv.backend
  obtain rfl : translated = translated' := Except.ok.inj (htranslated.symm.trans htranslated')
  obtain ⟨batch, -, hid, -, request, hposted, hingested⟩ := hreturned.ingested inv.backend
  have hentryOf : entry.batchId = batch.batchId := by
    rw [← hbatch, hstoredId, htranslatedId, hid]
  exact hingested.heldBy (inv.posted request hposted).1 consistent hentry hentryOf hrow hkey.symm

/-- The backend has not committed a batch that the reader gave up for good. -/
theorem Invariant.not_committed_of_refused (inv : Invariant codec sha256 s)
    {batchId : SynchronizationBatchId} (h : RefusedBatch codec s.reader batchId) :
    ∀ batch ∈ s.backend.batches, batch.batchId ≠ batchId := by
  intro batch hbatch hid
  obtain ⟨state, consistent⟩ := inv.reader.consistent
  obtain ⟨refused, hrequested, hrefusedId, hrefused⟩ := h
  obtain ⟨request, hposted, hingested⟩ := inv.backend.batches batch hbatch
  obtain ⟨hposted, hbody⟩ := inv.posted request hposted
  have hsame : request = refused :=
    hposted.unique hrequested consistent (hingested.batchId.symm.trans (hid.trans hrefusedId.symm))
  subst hsame
  rcases hrefused with hunacceptable | hlong
  · exact hunacceptable hingested.acceptable
  · exact hlong hbody

/-- In every reachable state the reader and the backend agree: an acknowledged
transaction is stored at the backend, and a transaction the reader gave up for
good belongs to a batch, and only to batches, that the backend has not
committed. -/
theorem agreement {db₀ : ReaderDatabase} (h : FreshlyBound db₀)
    (readerEquipment : List ReaderEquipmentRow) (events : List Event) :
    let s := Runs.run (step codec sha256 environmentId) (.initial db₀ readerEquipment) events
    (∀ row ∈ s.reader.offlineTransactions, row.queueState = .acknowledged →
      HeldBy codec sha256 s.backend row) ∧
    ∀ row ∈ s.reader.offlineTransactions, row.queueState = .permanentFailure →
      (∃ entry ∈ s.reader.synchronizationEntries,
        entry.fareTransactionId = row.fareTransactionId) ∧
      ∀ entry ∈ s.reader.synchronizationEntries,
        entry.fareTransactionId = row.fareTransactionId →
          ∀ batch ∈ s.backend.batches, batch.batchId ≠ entry.batchId := by
  intro s
  have inv : Invariant codec sha256 s := invariant_run h readerEquipment events
  refine ⟨fun row hrow hacknowledged => inv.acknowledged_heldBy hrow hacknowledged,
    fun row hrow hfailed => ?_⟩
  obtain ⟨entry, hentry, hkey, batch, hbatch, hid, hstate⟩ :=
    inv.reader.enlisted.failed row hrow hfailed
  have hentryId : entry.fareTransactionId = row.fareTransactionId := congrArg Prod.fst hkey
  refine ⟨⟨entry, hentry, hentryId⟩, fun other hother hotherId => ?_⟩
  obtain rfl : other = entry := Table.eq_of_key_eq inv.reader.enlisted.once hother hentry
    (hotherId.trans hentryId.symm)
  rw [← hid]
  exact inv.not_committed_of_refused (inv.reader.failed batch hbatch hstate)

def sampleEquipment : List ReaderEquipmentRow := [⟨sampleReaderId, .active⟩]

def nextProtocolVersion : DeviceProtocolVersion := ⟨2, by decide, by decide⟩

/-- A reader ahead of the backend's protocol version. -/
def aheadIdentity : ReaderDatabaseIdentity :=
  { sampleIdentity with protocolVersion := nextProtocolVersion }

def aheadDatabase : ReaderDatabase := (bindReaderDatabase .empty aheadIdentity).database

theorem aheadDatabase_freshlyBound : FreshlyBound aheadDatabase :=
  ⟨aheadIdentity, _, rfl⟩

/-- A submission that the backend refuses. -/
def sampleRefusal : List Event :=
  [.call (.enqueue sampleReaderId (sampleDraft (.object []))),
    .call (.createBatch sampleReaderId nextProtocolVersion 1 10 sampleBatchId),
    .call (.markBatch sampleReaderId sampleBatchId 2),
    .submit sampleReaderId sampleBatchId 3 4,
    .serve 0 (some 3),
    .deliver 0 0,
    .proceed 0]

/-- A submission of the sample batch that has its acknowledgement settles the
batch in two steps. -/
theorem sampleInFlight_proceed (hreader : s.reader = sampleInFlight) {index : Nat}
    {submission : Submission} (hsubmission : s.submissions[index]? = some submission)
    {answer : Acknowledgement}
    (hcolumns : (submission.readerId, submission.batchId, submission.completedAt,
      submission.phase) = (sampleReaderId, sampleBatchId, 4, .acknowledged answer))
    (htranslated : translateProtocolSynchronizationAcknowledgement answer =
      .ok sampleAcknowledgement) :
    (Runs.run (step sampleCodec sha256 environmentId) s
      [.proceed index, .proceed index]).reader.offlineTransactions.map (·.queueState) =
        [.acknowledged] := by
  simp only [Prod.mk.injEq] at hcolumns
  obtain ⟨howner, hid, hcompleted, hphase⟩ := hcolumns
  obtain ⟨hresult, hdatabase⟩ := sampleInFlight_storeProtocol htranslated
  have hsettled := sampleStored_settled
  rw [← hdatabase] at hsettled
  rw [← hreader] at hresult hsettled
  have hreceived : sampleAcknowledgement.receivedAt = answer.receivedAt :=
    (translate_eq_ok.mp htranslated).2.2.2.2.2.1
  have hlatest : max submission.completedAt answer.receivedAt = 4 := by
    rw [hcompleted, ← hreceived]
    decide
  rw [run_proceed_acknowledged hsubmission hphase hresult, howner, hid, hlatest]
  exact hsettled

/-- The answer to the sample request. -/
def sampleAccepted : Acknowledgement :=
  sampleAnswer (acknowledgeEntry ⟨sampleTransactionId, .first, sampleEnvelope⟩) rfl

/-- A submission that receives its acknowledgement. -/
def sampleDelivery : List Event :=
  [.call (.enqueue sampleReaderId (sampleDraft (.object []))),
    .call (.createBatch sampleReaderId .current 1 10 sampleBatchId),
    .call (.markBatch sampleReaderId sampleBatchId 2),
    .submit sampleReaderId sampleBatchId 4 5,
    .serve 0 (some 3),
    .deliver 0 0]

/-- The submission goes on with its acknowledgement. -/
def sampleSettlement : List Event := sampleDelivery ++ [.proceed 0, .proceed 0]

theorem sampleDelivery_answered :
    let s := Runs.run (step sampleCodec Sha256.digest sampleEnvironmentId)
      (.initial sampleDatabase sampleEquipment) sampleDelivery
    (s.reader, s.submissions.map fun submission =>
        (submission.readerId, submission.batchId, submission.completedAt, submission.phase)) =
      (sampleInFlight, [(sampleReaderId, sampleBatchId, 4, .acknowledged sampleAccepted)]) := by
  decide +kernel

theorem sampleSettlement_acknowledged :
    (Runs.run (step sampleCodec Sha256.digest sampleEnvironmentId)
      (.initial sampleDatabase sampleEquipment)
      sampleSettlement).reader.offlineTransactions.map (·.queueState) = [.acknowledged] := by
  obtain ⟨hreader, hsubmissions⟩ := Prod.mk.inj sampleDelivery_answered
  rw [sampleSettlement, Runs.run_append]
  generalize Runs.run (step sampleCodec Sha256.digest sampleEnvironmentId)
    (.initial sampleDatabase sampleEquipment) sampleDelivery = s at *
  obtain ⟨submission, none, hlist, hcolumns, -⟩ := List.map_eq_cons_iff.mp hsubmissions
  have hsubmission : s.submissions[0]? = some submission := by rw [hlist]; rfl
  exact sampleInFlight_proceed hreader hsubmission hcolumns (by decide)

theorem agreement_sample :
    (FreshlyBound aheadDatabase ∧
      let s := Runs.run (step sampleCodec Sha256.digest sampleEnvironmentId)
        (.initial aheadDatabase sampleEquipment) sampleRefusal
      s.reader.offlineTransactions.map (·.queueState) = [.permanentFailure] ∧
      ∀ row ∈ s.reader.offlineTransactions, row.queueState = .permanentFailure →
        (∃ entry ∈ s.reader.synchronizationEntries,
          entry.fareTransactionId = row.fareTransactionId) ∧
        ∀ entry ∈ s.reader.synchronizationEntries,
          entry.fareTransactionId = row.fareTransactionId →
            ∀ batch ∈ s.backend.batches, batch.batchId ≠ entry.batchId) ∧
    FreshlyBound sampleDatabase ∧
    let s := Runs.run (step sampleCodec Sha256.digest sampleEnvironmentId)
      (.initial sampleDatabase sampleEquipment) sampleSettlement
    s.reader.offlineTransactions.map (·.queueState) = [.acknowledged] ∧
    ∀ row ∈ s.reader.offlineTransactions, row.queueState = .acknowledged →
      HeldBy sampleCodec Sha256.digest s.backend row := by
  obtain ⟨-, hfailed⟩ := agreement aheadDatabase_freshlyBound sampleEquipment sampleRefusal
  obtain ⟨hheld, -⟩ := agreement sampleDatabase_freshlyBound sampleEquipment sampleSettlement
  exact ⟨⟨aheadDatabase_freshlyBound, by decide +kernel, hfailed⟩, sampleDatabase_freshlyBound,
    sampleSettlement_acknowledged, hheld⟩

/-! ## Exactly-once ingest -/

/-- All acknowledgements the backend returns for a batch translate alike. -/
theorem Invariant.translate_eq (inv : Invariant codec sha256 s)
    {acknowledgement acknowledgement' : Acknowledgement}
    (h : Returned s.backend acknowledgement) (h' : Returned s.backend acknowledgement')
    (hid : acknowledgement.batchId = acknowledgement'.batchId) :
    translateProtocolSynchronizationAcknowledgement acknowledgement =
      translateProtocolSynchronizationAcknowledgement acknowledgement' := by
  obtain ⟨row, hrow, hrowId, htranslated, -⟩ := h.ingested inv.backend
  obtain ⟨row', hrow', hrowId', htranslated', -⟩ := h'.ingested inv.backend
  have hsame : row = row' := Table.eq_of_key_eq inv.backend.batchIds hrow hrow'
    (hrowId.trans (hid.trans hrowId'.symm))
  rw [htranslated, htranslated', hsame]

theorem Invariant.not_conflictingReplay (inv : Invariant codec sha256 s)
    {acknowledgement : Acknowledgement} {translated : SynchronizationAcknowledgement}
    (h : Returned s.backend acknowledgement)
    (htranslated : translateProtocolSynchronizationAcknowledgement acknowledgement =
      .ok translated) (batchId : SynchronizationBatchId) :
    (storeSynchronizationAcknowledgement codec s.reader translated).result ≠
      .error (.conflictingReplay batchId) := by
  intro hconflict
  obtain ⟨existing, hfound, hdifferent⟩ := conflictingReplay_stored hconflict
  obtain ⟨hexisting, hexistingId, -⟩ := ReaderDatabase.findAcknowledgement_eq_some hfound
  obtain ⟨origin, stored, horigin, hstored, hstoredId, hpayload⟩ :=
    inv.reader.acknowledgements existing hexisting
  -- what is stored for the batch is the translation of an acknowledgement of that batch
  obtain ⟨_, htranslates, htranslatedId, -⟩ := h.translates inv.backend
  obtain ⟨_, hstores, hstoredOf, -⟩ := horigin.translates inv.backend
  obtain rfl := Except.ok.inj (htranslated.symm.trans htranslates)
  obtain rfl := Except.ok.inj (hstored.symm.trans hstores)
  have hid : origin.batchId = acknowledgement.batchId := by
    rw [← hstoredOf, ← hstoredId, hexistingId, htranslatedId]
  have hequal := inv.translate_eq horigin h hid
  rw [hstored, htranslated] at hequal
  rw [hpayload, Except.ok.inj hequal] at hdifferent
  exact hdifferent rfl

/-- A transaction belongs to one batch of the reader, so to one batch of the
backend. -/
theorem Invariant.entry_batchId (inv : Invariant codec sha256 s) {entry other : IngestEntryRow}
    (hentry : entry ∈ s.backend.entries) (hother : other ∈ s.backend.entries)
    (hid : entry.fareTransactionId = other.fareTransactionId) : entry.batchId = other.batchId := by
  obtain ⟨state, consistent⟩ := inv.reader.consistent
  have hstored : ∀ row ∈ s.backend.entries, ∃ stored ∈ s.reader.synchronizationEntries,
      stored.batchId = row.batchId ∧ stored.fareTransactionId = row.fareTransactionId := by
    intro row hrow
    obtain ⟨request, hposted, hbatch, hmember⟩ := inv.backend.entries row hrow
    obtain ⟨submitted, hsubmitted, hsubmittedId⟩ := List.mem_map.mp hmember
    obtain ⟨stored, hstored, hstoredBatch, hstoredId⟩ :=
      (inv.posted request hposted).1.entry_stored consistent hsubmitted
    exact ⟨stored, hstored, hstoredBatch.trans hbatch.symm, hstoredId.trans hsubmittedId⟩
  obtain ⟨stored, hmem, hbatch, hstoredId⟩ := hstored entry hentry
  obtain ⟨stored', hmem', hbatch', hstoredId'⟩ := hstored other hother
  have hsame : stored = stored' := Table.eq_of_key_eq inv.reader.enlisted.once hmem hmem'
    (hstoredId.trans (hid.trans hstoredId'.symm))
  rw [← hbatch, ← hbatch', hsame]

/-- In every reachable state a transaction is in the entries of at most one
batch of the backend, a batch is committed at most once, and the
acknowledgements returned for a batch translate to one canonical payload, so
that storing one is never a conflicting replay. -/
theorem exactlyOnce_ingest {db₀ : ReaderDatabase} (h : FreshlyBound db₀)
    (readerEquipment : List ReaderEquipmentRow) (events : List Event) :
    let s := Runs.run (step codec sha256 environmentId) (.initial db₀ readerEquipment) events
    (∀ entry ∈ s.backend.entries, ∀ other ∈ s.backend.entries,
      entry.fareTransactionId = other.fareTransactionId → entry.batchId = other.batchId) ∧
    (s.backend.batches.map (·.batchId)).Nodup ∧
    (∀ request acknowledgement request' acknowledgement',
      (request, .ok acknowledgement) ∈ s.answers → (request', .ok acknowledgement') ∈ s.answers →
        request.batchId = request'.batchId →
          ∃ translated translated',
            translateProtocolSynchronizationAcknowledgement acknowledgement = .ok translated ∧
            translateProtocolSynchronizationAcknowledgement acknowledgement' = .ok translated' ∧
            canonicalPayload codec translated = canonicalPayload codec translated') ∧
    ∀ request acknowledgement translated, (request, .ok acknowledgement) ∈ s.answers →
      translateProtocolSynchronizationAcknowledgement acknowledgement = .ok translated →
        ∀ batchId, (storeSynchronizationAcknowledgement codec s.reader translated).result ≠
          .error (.conflictingReplay batchId) := by
  intro s
  have inv : Invariant codec sha256 s := invariant_run h readerEquipment events
  refine ⟨fun entry hentry other hother hid => inv.entry_batchId hentry hother hid,
    inv.backend.batchIds, ?_, ?_⟩
  · intro request acknowledgement request' acknowledgement' hanswer hanswer' hid
    obtain ⟨hreturned, hbatchId⟩ := inv.answers _ hanswer
    obtain ⟨hreturned', hbatchId'⟩ := inv.answers _ hanswer'
    obtain ⟨translated, htranslated, -⟩ := hreturned.translates inv.backend
    have hequal := inv.translate_eq hreturned hreturned'
      (hbatchId.trans (hid.trans hbatchId'.symm))
    exact ⟨translated, translated, htranslated, hequal ▸ htranslated, rfl⟩
  · intro request acknowledgement translated hanswer htranslated batchId
    exact inv.not_conflictingReplay (inv.answers _ hanswer).1 htranslated batchId

/-- A batch is committed, the answer is lost in a crash, and the retry is
answered as a replay. -/
def sampleRetriedExchange : List Event :=
  [.call (.enqueue sampleReaderId (sampleDraft (.object []))),
    .call (.createBatch sampleReaderId .current 1 10 sampleBatchId),
    .call (.markBatch sampleReaderId sampleBatchId 2),
    .submit sampleReaderId sampleBatchId 3 4,
    .serve 0 (some 3),
    .crash,
    .call (.recoverBatches sampleReaderId 5),
    .call (.markBatch sampleReaderId sampleBatchId 6),
    .submit sampleReaderId sampleBatchId 7 8,
    .serve 1 (some 7)]

theorem exactlyOnce_ingest_retry :
    FreshlyBound sampleDatabase ∧
    let s := Runs.run (step sampleCodec Sha256.digest sampleEnvironmentId)
      (.initial sampleDatabase sampleEquipment) sampleRetriedExchange
    s.answers.map (·.2.isOk) = [true, true] ∧ (s.backend.batches.map (·.batchId)).Nodup ∧
    ∀ request acknowledgement translated, (request, .ok acknowledgement) ∈ s.answers →
      translateProtocolSynchronizationAcknowledgement acknowledgement = .ok translated →
        ∀ batchId, (storeSynchronizationAcknowledgement sampleCodec s.reader translated).result ≠
          .error (.conflictingReplay batchId) := by
  obtain ⟨-, hbatches, -, hstored⟩ :=
    exactlyOnce_ingest sampleDatabase_freshlyBound sampleEquipment sampleRetriedExchange
  exact ⟨sampleDatabase_freshlyBound, by decide +kernel, hbatches, hstored⟩

end TransitGuard.System
