import TransitGuard.Library.Sha256
import TransitGuard.Protocol.Fingerprint
import TransitGuard.Reader.Progress

/-!
Retries repeat the first submission. The request of a batch is read from four
tables that change between attempts, but only from columns that are written
once: the identity of the reader, the frozen columns and the first submission
time of the batch, its entries, and the envelopes of its transactions.
-/

namespace TransitGuard.Reader

open Fallible Protocol

variable {codec : Json.Codec} {db db' : ReaderDatabase} {reader reader' : ReaderStateRow}

/-! ## The join -/

/-- The transaction of an entry is found, and found once. -/
theorem Consistent.queuedFor_eq (inv : Consistent reader db) {entry : SynchronizationEntryRow}
    (hentry : entry ∈ db.synchronizationEntries) :
    ∃ row ∈ db.offlineTransactions, row.key = entry.key ∧ db.queuedFor entry = [row] := by
  obtain ⟨row, hrow, hkey⟩ := inv.batches.entryQueued entry hentry
  refine ⟨row, hrow, hkey, ?_⟩
  have hid : row.fareTransactionId = entry.fareTransactionId := congrArg Prod.fst hkey
  have hsequence : row.localSequenceNumber = entry.localSequenceNumber := congrArg Prod.snd hkey
  have howner : row.readerId = entry.readerId :=
    (inv.queue.owned row hrow).trans (inv.batches.entryOwned entry hentry).symm
  have hfilter : db.queuedFor entry =
      db.offlineTransactions.filter (·.fareTransactionId == row.fareTransactionId) := by
    refine List.filter_congr fun other hother => ?_
    by_cases hsame : other.fareTransactionId = row.fareTransactionId
    · rw [Table.eq_of_key_eq inv.queue.ids hother hrow hsame]
      simp [hid, hsequence, howner]
    · rw [← hid, beq_eq_false_iff_ne.mpr hsame]
      rfl
  rw [hfilter]
  exact Table.filter_eq_singleton inv.queue.ids hrow

/-- A batch keeps its entries and their envelopes. -/
theorem Grows.storedEntries (h : Grows db db') (inv : Consistent reader db)
    (inv' : Consistent reader' db') (hid : reader'.readerId = reader.readerId)
    {batch : SynchronizationBatchRow} (hbatch : batch ∈ db.synchronizationBatches) :
    db'.storedEntries reader.readerId batch.batchId =
      db.storedEntries reader.readerId batch.batchId := by
  have hentries : db'.entriesOf batch.batchId = db.entriesOf batch.batchId :=
    h.entriesOf hbatch
  have hbatchEntries : db'.batchEntries reader.readerId batch.batchId =
      db.batchEntries reader.readerId batch.batchId := by
    rw [inv.batches.batchEntries_eq, ← hid, inv'.batches.batchEntries_eq, hentries]
  unfold ReaderDatabase.storedEntries
  rw [hbatchEntries]
  congr 1
  refine List.flatMap_congr fun entry hentry => ?_
  rw [inv.batches.batchEntries_eq] at hentry
  have hentry' : entry ∈ db'.synchronizationEntries :=
    List.mem_of_mem_filter (hentries ▸ hentry : entry ∈ db'.entriesOf batch.batchId)
  obtain ⟨row, hrow, hkey, hqueued⟩ := inv.queuedFor_eq (List.mem_of_mem_filter hentry)
  obtain ⟨row', hrow', hkey', hqueued'⟩ := inv'.queuedFor_eq hentry'
  obtain ⟨kept, hmem, hkept⟩ := h.queue row hrow
  have hsame : row' = kept := by
    refine Table.eq_of_key_eq inv'.queue.ids hrow' hmem ?_
    exact (congrArg Prod.fst (hkey'.trans hkey.symm)).trans
      (congrArg (·.fareTransactionId) hkept.frozen).symm
  have henvelope : row'.transactionEnvelopeJson = row.transactionEnvelopeJson := by
    rw [hsame]
    exact congrArg (·.transactionEnvelopeJson) hkept.frozen
  rw [hqueued, hqueued', List.map_singleton, List.map_singleton, henvelope]

/-! ## The request -/

/-- The assembly reads nothing that a later database has changed. -/
theorem Grows.assembleRequest_eq (h : Grows db db') (inv : Consistent reader db)
    (inv' : Consistent reader' db') (hkept : reader.Kept reader')
    {batch batch' : SynchronizationBatchRow} (hbatch : batch ∈ db.synchronizationBatches)
    (hbatchKept : batch.Kept batch') (hsubmitted : batch.submittedAt.isSome = true) :
    assembleRequest codec db' reader.readerId batch.batchId batch' =
      assembleRequest codec db reader.readerId batch.batchId batch := by
  have hid : reader'.readerId = reader.readerId := congrArg (·.readerId) hkept.frozen
  have hversion : reader'.protocolVersion = reader.protocolVersion :=
    congrArg (·.protocolVersion) hkept.frozen
  have henvironment : reader'.environmentId = reader.environmentId :=
    congrArg (·.environmentId) hkept.frozen
  have hsoftware : reader'.softwareVersion = reader.softwareVersion :=
    congrArg (·.softwareVersion) hkept.frozen
  have hbatchVersion : batch'.protocolVersion = batch.protocolVersion :=
    congrArg (·.protocolVersion) hbatchKept.frozen
  have hfirst : batch'.firstLocalSequenceNumber = batch.firstLocalSequenceNumber :=
    congrArg (·.firstLocalSequenceNumber) hbatchKept.frozen
  have hlast : batch'.lastLocalSequenceNumber = batch.lastLocalSequenceNumber :=
    congrArg (·.lastLocalSequenceNumber) hbatchKept.frozen
  simp only [assembleRequest, hbatchKept.submitted hsubmitted, inv.queue.bound, inv'.queue.bound,
    orFail, ok_bind, hid, hversion, henvironment, hsoftware, hbatchVersion, hfirst, hlast,
    h.storedEntries inv inv' hid hbatch]

/-- Two points of one run. -/
theorem grows_take (db : ReaderDatabase) (ops : List Operation) {i j : Nat} (h : i ≤ j) :
    Grows (Runs.run (perform codec) db (ops.take i))
      (Runs.run (perform codec) db (ops.take j)) := by
  have hsplit : ops.take j = ops.take i ++ (ops.drop i).take (j - i) := by
    rw [← List.take_add, Nat.add_sub_cancel' h]
  rw [hsplit, Runs.run_append]
  exact grows_run _ _

/-- Two requests of one batch, loaded one after the other, are equal. -/
theorem Grows.request_eq (h : Grows db db') (inv : Consistent reader db)
    (inv' : Consistent reader' db') {readerId readerId' : ReaderId}
    {batchId : SynchronizationBatchId} {request request' : Request}
    (hload : loadSynchronizationBatchRequest codec db readerId batchId = .ok request)
    (hload' : loadSynchronizationBatchRequest codec db' readerId' batchId = .ok request') :
    request = request' := by
  obtain ⟨batch, hfound, -, hassembled⟩ := loadSynchronizationBatchRequest_ok.mp hload
  obtain ⟨batch', hfound', -, hassembled'⟩ := loadSynchronizationBatchRequest_ok.mp hload'
  obtain ⟨row, hrow, howner, -, -, hparts⟩ := assembleRequest_ok.mp hassembled
  obtain ⟨row', hrow', howner', -, -, -⟩ := assembleRequest_ok.mp hassembled'
  obtain rfl : reader = row := Option.some.inj (inv.queue.bound.symm.trans hrow)
  obtain rfl : reader' = row' := Option.some.inj (inv'.queue.bound.symm.trans hrow')
  obtain ⟨hbatch, rfl, -⟩ := ReaderDatabase.findBatch_eq_some hfound
  obtain ⟨hbatch', hbatchid', -⟩ := ReaderDatabase.findBatch_eq_some hfound'
  obtain ⟨next, hnext, hkept⟩ := h.reader reader inv.queue.bound
  obtain rfl : next = reader' := Option.some.inj (hnext.symm.trans inv'.queue.bound)
  obtain ⟨keptBatch, hmem, hbatchKept⟩ := h.batches batch hbatch
  obtain rfl : batch' = keptBatch := Table.eq_of_key_eq inv'.batches.ids hbatch' hmem
    (hbatchid'.trans (congrArg (·.batchId) hbatchKept.frozen).symm)
  have hsubmitted : batch.submittedAt.isSome = true := by
    rw [hparts.submitted]
    rfl
  have hid : next.readerId = reader.readerId := congrArg (·.readerId) hkept.frozen
  rw [← howner', hid, h.assembleRequest_eq inv inv' hkept hbatch hbatchKept hsubmitted, howner,
    hassembled] at hassembled'
  exact Except.ok.inj hassembled'

/-- Any two requests loaded for one batch along a run are equal, and so are
their fingerprints. -/
theorem request_stable {db₀ : ReaderDatabase} (h : FreshlyBound db₀) (sha256 : Sha256)
    (ops : List Operation) (i j : Nat) (readerId readerId' : ReaderId)
    (batchId : SynchronizationBatchId) (request request' : Request)
    (hload : loadSynchronizationBatchRequest codec
      (Runs.run (perform codec) db₀ (ops.take i)) readerId batchId = .ok request)
    (hload' : loadSynchronizationBatchRequest codec
      (Runs.run (perform codec) db₀ (ops.take j)) readerId' batchId = .ok request') :
    request = request' ∧ request.fingerprint sha256 = request'.fingerprint sha256 := by
  obtain ⟨reader, inv⟩ : ∃ reader, Consistent reader
    (Runs.run (perform codec) db₀ (ops.take i)) := consistent_run h _
  obtain ⟨reader', inv'⟩ : ∃ reader, Consistent reader
    (Runs.run (perform codec) db₀ (ops.take j)) := consistent_run h _
  have heq : request = request' := by
    rcases Nat.le_total i j with hle | hle
    · exact (grows_take db₀ ops hle).request_eq inv inv' hload hload'
    · exact ((grows_take db₀ ops hle).request_eq inv' inv hload' hload).symm
  exact ⟨heq, congrArg _ heq⟩

/-- The sample batch is interrupted by a restart and submitted again. -/
def sampleRetry : List Operation :=
  sampleSubmission ++ [.recoverBatches sampleReaderId 3, .markBatch sampleReaderId sampleBatchId 4]

theorem request_stable_retry :
    ∃ request request',
      loadSynchronizationBatchRequest sampleCodec
        (Runs.run (perform sampleCodec) sampleDatabase (sampleRetry.take 3)) sampleReaderId
        sampleBatchId = .ok request ∧
      loadSynchronizationBatchRequest sampleCodec
        (Runs.run (perform sampleCodec) sampleDatabase (sampleRetry.take 5)) sampleReaderId
        sampleBatchId = .ok request' ∧ request = request' := by
  obtain ⟨request, hload⟩ := isOk_iff.mp (show (loadSynchronizationBatchRequest sampleCodec
    (Runs.run (perform sampleCodec) sampleDatabase (sampleRetry.take 3)) sampleReaderId
    sampleBatchId).isOk = true by decide)
  obtain ⟨request', hload'⟩ := isOk_iff.mp (show (loadSynchronizationBatchRequest sampleCodec
    (Runs.run (perform sampleCodec) sampleDatabase (sampleRetry.take 5)) sampleReaderId
    sampleBatchId).isOk = true by decide)
  exact ⟨request, request', hload, hload',
    (request_stable sampleDatabase_freshlyBound Sha256.digest sampleRetry 3 5
      _ _ _ _ _ hload hload').1⟩

end TransitGuard.Reader
