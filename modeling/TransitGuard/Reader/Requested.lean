import TransitGuard.Reader.Transmission

/-!
The request of a submitted batch as a fact about the stored rows. It is there
from the first submission on, it is the same in every later database, and it
says of each transaction of the batch exactly what the queue holds of it.
-/

namespace TransitGuard.Reader

open Fallible Protocol

variable {codec : Json.Codec} {db db' : ReaderDatabase} {reader reader' : ReaderStateRow}
  {request request' : Request}

/-- The stored rows of a batch assemble to the request. -/
def Requested (codec : Json.Codec) (db : ReaderDatabase) (request : Request) : Prop :=
  ∃ batch ∈ db.synchronizationBatches, batch.batchId = request.batchId ∧
    assembleRequest codec db request.readerId request.batchId batch = .ok request

theorem requested_of_load {readerId : ReaderId} {batchId : SynchronizationBatchId}
    (h : loadSynchronizationBatchRequest codec db readerId batchId = .ok request) :
    Requested codec db request ∧ request.batchId = batchId ∧ request.readerId = readerId := by
  obtain ⟨batch, hfound, -, hassembled⟩ := loadSynchronizationBatchRequest_ok.mp h
  obtain ⟨-, -, -, rfl, rfl, -⟩ := assembleRequest_ok.mp hassembled
  obtain ⟨hbatch, hid, -⟩ := ReaderDatabase.findBatch_eq_some hfound
  exact ⟨⟨batch, hbatch, hid, hassembled⟩, rfl, rfl⟩

/-- The parts of a request, read from the row of its batch. -/
theorem Requested.assembled (h : Requested codec db request) (inv : Consistent reader db) :
    ∃ batch ∈ db.synchronizationBatches, batch.batchId = request.batchId ∧
      request.readerId = reader.readerId ∧ Assembled codec db batch reader request := by
  obtain ⟨batch, hbatch, hid, hassembled⟩ := h
  obtain ⟨row, hrow, howner, -, -, hparts⟩ := assembleRequest_ok.mp hassembled
  obtain rfl : reader = row := Option.some.inj (inv.queue.bound.symm.trans hrow)
  exact ⟨batch, hbatch, hid, howner.symm, hparts⟩

theorem Grows.requested (hgrows : Grows db db') (inv : Consistent reader db)
    (inv' : Consistent reader' db') (h : Requested codec db request) :
    Requested codec db' request := by
  obtain ⟨batch, hbatch, hid, howner, hparts⟩ := h.assembled inv
  obtain ⟨batch', hbatch', hkept⟩ := hgrows.batches batch hbatch
  obtain ⟨next, hnext, hreaderKept⟩ := hgrows.reader reader inv.queue.bound
  obtain rfl : next = reader' := Option.some.inj (hnext.symm.trans inv'.queue.bound)
  have hsubmitted : batch.submittedAt.isSome = true := by
    rw [hparts.submitted]
    rfl
  refine ⟨batch', hbatch', (congrArg (·.batchId) hkept.frozen).trans hid, ?_⟩
  have heq : assembleRequest codec db' reader.readerId batch.batchId batch' =
      assembleRequest codec db reader.readerId batch.batchId batch :=
    hgrows.assembleRequest_eq inv inv' hreaderKept hbatch hkept hsubmitted
  rw [howner, ← hid, heq, hid, ← howner]
  exact assembleRequest_ok.mpr ⟨reader, inv.queue.bound, howner.symm, rfl, rfl, hparts⟩

/-- One batch, one request. -/
theorem Requested.unique (h : Requested codec db request) (h' : Requested codec db request')
    (inv : Consistent reader db) (hid : request.batchId = request'.batchId) :
    request = request' := by
  obtain ⟨batch, hbatch, hbatchid, hassembled⟩ := h
  obtain ⟨batch', hbatch', hbatchid', hassembled'⟩ := h'
  obtain ⟨row, hrow, howner, -⟩ := assembleRequest_ok.mp hassembled
  obtain ⟨row', hrow', howner', -⟩ := assembleRequest_ok.mp hassembled'
  obtain rfl : row = row' := Option.some.inj (hrow.symm.trans hrow')
  obtain rfl : batch = batch' := Table.eq_of_key_eq inv.batches.ids hbatch hbatch'
    (hbatchid.trans (hid.trans hbatchid'.symm))
  rw [← howner, hid] at hassembled
  rw [← howner', hassembled] at hassembled'
  exact Except.ok.inj hassembled'

/-- Every entry of the request is an entry of the batch. -/
theorem Requested.entry_stored (h : Requested codec db request) (inv : Consistent reader db)
    {entry : RequestEntry} (hentry : entry ∈ request.entries) :
    ∃ stored ∈ db.synchronizationEntries, stored.batchId = request.batchId ∧
      stored.fareTransactionId = entry.transactionId := by
  obtain ⟨batch, hbatch, hid, howner, hparts⟩ := h.assembled inv
  have hdecoded := hparts.entries
  rw [howner, ← hid] at hdecoded
  have hmem := List.mem_map_of_mem
    (f := fun entry : RequestEntry => (entry.transactionId, entry.localSequenceNumber.value)) hentry
  rw [inv.request_keys hbatch hdecoded] at hmem
  obtain ⟨stored, hstored, hkey⟩ := List.mem_map.mp hmem
  obtain ⟨hstored, hbatchid⟩ := ReaderDatabase.mem_entriesOf.mp hstored
  exact ⟨stored, hstored, hbatchid.trans hid, congrArg Prod.fst hkey⟩

/-- Every transaction of the batch is in the request, with the identity and the
envelope the queue holds. -/
theorem Requested.transaction_sent (h : Requested codec db request) (inv : Consistent reader db)
    {stored : SynchronizationEntryRow} (hstored : stored ∈ db.synchronizationEntries)
    (hbatchOf : stored.batchId = request.batchId) {row : OfflineTransactionRow}
    (hrow : row ∈ db.offlineTransactions) (hkey : row.key = stored.key) :
    ∃ entry ∈ request.entries, entry.transactionId = row.fareTransactionId ∧
      entry.localSequenceNumber.value = row.localSequenceNumber ∧
      CanonicalTransactionEnvelope.fromJson codec row.transactionEnvelopeJson =
        .ok entry.transactionEnvelope := by
  obtain ⟨batch, hbatch, hid, howner, hparts⟩ := h.assembled inv
  have hdecoded := hparts.entries
  rw [howner, ← hid] at hdecoded
  obtain ⟨hfst, hjoined⟩ := inv.storedEntries_spec hbatch
  have hmem : stored ∈ db.entriesOf batch.batchId :=
    ReaderDatabase.mem_entriesOf.mpr ⟨hstored, hbatchOf.trans hid.symm⟩
  rw [← hfst] at hmem
  obtain ⟨pair, hpair, rfl⟩ := List.mem_map.mp hmem
  obtain ⟨joined, hjoinedMem, hjoinedKey, henvelope⟩ := hjoined pair hpair
  have hsame : joined = row := Table.eq_of_key_eq inv.queue.ids hjoinedMem hrow
    (congrArg Prod.fst (hjoinedKey.trans hkey.symm))
  obtain ⟨entry, hentry, hentryid, hsequence, hparsed⟩ :=
    exists_of_forall₂ (decodeRequestEntries_ok.mp hdecoded).2.flip hpair
  refine ⟨entry, hentry, ?_, ?_, ?_⟩
  · exact hentryid.trans (congrArg Prod.fst hkey).symm
  · exact hsequence.trans (congrArg Prod.snd hkey).symm
  · rw [← hsame, henvelope]
    exact hparsed

/-- Every entry of the request is a transaction of the queue, as the queue holds
it. -/
theorem Requested.entry_queued (h : Requested codec db request) (inv : Consistent reader db)
    {entry : RequestEntry} (hentry : entry ∈ request.entries) :
    ∃ row ∈ db.offlineTransactions, row.fareTransactionId = entry.transactionId ∧
      row.localSequenceNumber = entry.localSequenceNumber.value ∧
      CanonicalTransactionEnvelope.fromJson codec row.transactionEnvelopeJson =
        .ok entry.transactionEnvelope := by
  obtain ⟨stored, hstored, hbatch, hid⟩ := h.entry_stored inv hentry
  obtain ⟨row, hrow, hkey⟩ := inv.batches.entryQueued stored hstored
  obtain ⟨sent, hsent, hsentId, hsequence, hparsed⟩ :=
    h.transaction_sent inv hstored hbatch hrow hkey
  have hrowId : row.fareTransactionId = entry.transactionId :=
    (congrArg Prod.fst hkey).trans hid
  obtain ⟨-, -, -, -, -, hids, -⟩ := RequestDefinition.validate_ok.mp request.valid
  obtain rfl : sent = entry := Table.eq_of_key_eq hids hsent hentry (hsentId.trans hrowId)
  exact ⟨row, hrow, hrowId, hsequence.symm, hparsed⟩

end TransitGuard.Reader
