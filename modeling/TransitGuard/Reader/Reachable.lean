import TransitGuard.Reader.Acknowledged

/-!
The databases a freshly bound reader can reach. `Consistent` is what holds in
all of them; the first results read off it are that local sequences have no
gaps and that open batches never share a transaction.
-/

namespace TransitGuard.Reader

variable {codec : Json.Codec} {db db' : ReaderDatabase} {op : Operation}
  {reader reader' : ReaderStateRow}

/-- The invariants of every reachable database. -/
structure Consistent (reader : ReaderStateRow) (db : ReaderDatabase) : Prop where
  queue : QueueInvariant reader db
  batches : BatchInvariant reader.readerId db
  acknowledgements : AcknowledgementInvariant reader.readerId db

theorem Consistent.step (inv : Consistent reader db) (h : Committed codec db op db') :
    ∃ reader', Consistent reader' db' ∧ reader'.frozen = reader.frozen := by
  obtain ⟨reader', hqueue, hfrozen⟩ := inv.queue.step h
  have hid : reader'.readerId = reader.readerId := congrArg (·.readerId) hfrozen
  exact ⟨reader', ⟨hqueue, hid ▸ inv.batches.step inv.queue h,
    hid ▸ inv.acknowledgements.step inv.queue inv.batches h⟩, hfrozen⟩

theorem Consistent.perform (inv : Consistent reader db) (op : Operation) :
    ∃ reader', Consistent reader' (perform codec db op) :=
  perform_invariant ⟨reader, inv⟩ fun _ h => (inv.step h).imp fun _ h => h.1

theorem FreshlyBound.consistent (h : FreshlyBound db) : ∃ reader, Consistent reader db := by
  obtain ⟨reader, hqueue⟩ := h.queueInvariant
  obtain ⟨identity, -, rfl⟩ := h.exists_identity
  refine ⟨reader, hqueue, ?_, ?_⟩
  · constructor <;> simp [ReaderDatabase.empty]
  · constructor <;> simp [ReaderDatabase.empty]

theorem consistent_run (h : FreshlyBound db) (ops : List Operation) :
    ∃ reader, Consistent reader (Runs.run (perform codec) db ops) :=
  Runs.invariant (P := fun db => ∃ reader, Consistent reader db)
    (fun _ op ⟨_, inv⟩ => inv.perform op) h.consistent ops

/-! ## A reader for the examples -/

def sampleCredentialId : FareCredentialId := ⟨⟨0x70008000000000000004#128, by decide⟩⟩

def sampleIdentity : ReaderDatabaseIdentity where
  readerId := sampleReaderId
  environmentId := sampleEnvironmentId.asStr
  softwareVersion := sampleSoftwareVersion.asStr
  protocolVersion := .current
  initializedAt := 0
  environment_trimmed := sampleEnvironmentId.trimmed
  environment_nonempty := sampleEnvironmentId.nonempty
  software_trimmed := sampleSoftwareVersion.trimmed
  software_nonempty := sampleSoftwareVersion.nonempty
  initializedAt_nonneg := by decide

/-- A draft of the sample transaction with a given envelope. -/
def sampleDraft (transactionEnvelope : Json.Value) : OfflineTransactionDraft where
  transactionId := sampleTransactionId
  fareCredentialId := sampleCredentialId
  eventTime := ⟨0, by decide⟩
  farePolicyVersion := .first
  provisionalDecision := .rejected .stalePolicy
  transactionEnvelope
  createdAt := 0
  createdAt_nonneg := by decide

def sampleDatabase : ReaderDatabase := (bindReaderDatabase .empty sampleIdentity).database

theorem sampleDatabase_freshlyBound : FreshlyBound sampleDatabase :=
  ⟨sampleIdentity, _, rfl⟩

/-- One transaction is queued, put into a batch and submitted. -/
def sampleSubmission : List Operation :=
  [.enqueue sampleReaderId (sampleDraft (.object [])),
    .createBatch sampleReaderId .current 1 10 sampleBatchId,
    .markBatch sampleReaderId sampleBatchId 2]

theorem sampleSubmission_reader :
    ∃ reader, (Runs.run (perform sampleCodec) sampleDatabase sampleSubmission).readerState =
      some reader ∧ reader.readerId = sampleReaderId :=
  Option.map_eq_some_iff.mp (by decide)

/-! ## Sequences -/

theorem QueueInvariant.queue_prefix (inv : QueueInvariant reader db) (op : Operation) :
    db.offlineTransactions.map (·.frozen) <+:
      (perform codec db op).offlineTransactions.map (·.frozen) := by
  refine perform_invariant (P := fun db' => db.offlineTransactions.map (·.frozen) <+:
    db'.offlineTransactions.map (·.frozen)) (List.prefix_refl _) fun db' h => ?_
  rcases h.queueFrame with ⟨hunbound, -⟩ | ⟨readerId, draft, rfl⟩ | hframe
  · rw [inv.bound] at hunbound
    cases hunbound
  · cases h with
    | enqueue =>
      rw [List.map_append]
      exact List.prefix_append ..
  · rw [hframe.queue]

/-- The queue only grows at its end, and no frozen column of it changes. -/
theorem queue_prefix_run (inv : ∃ reader, Consistent reader db) (ops : List Operation) :
    db.offlineTransactions.map (·.frozen) <+:
      (Runs.run (perform codec) db ops).offlineTransactions.map (·.frozen) :=
  Runs.relation (P := fun db => ∃ reader, Consistent reader db)
    (R := fun db db' => db.offlineTransactions.map (·.frozen) <+:
      db'.offlineTransactions.map (·.frozen))
    (fun _ => List.prefix_refl _) (fun _ _ _ => List.IsPrefix.trans)
    (fun _ op ⟨_, inv⟩ => inv.perform op) (fun _ op ⟨_, inv⟩ => inv.queue.queue_prefix op) inv ops

/-- Only an insertion brings a new envelope into the queue. -/
theorem forall_envelopes_perform {P : String → Prop}
    (h : ∀ row ∈ db.offlineTransactions, P row.transactionEnvelopeJson)
    (hop : ∀ readerId draft, op = .enqueue readerId draft →
      P (draft.transactionEnvelope.render codec)) :
    ∀ row ∈ (perform codec db op).offlineTransactions, P row.transactionEnvelopeJson := by
  refine perform_invariant (P := fun db' => ∀ row ∈ db'.offlineTransactions,
    P row.transactionEnvelopeJson) h fun db' hcommitted => ?_
  rcases hcommitted.queueFrame with ⟨-, hsame⟩ | ⟨readerId, draft, rfl⟩ | hframe
  · rw [hsame]
    exact h
  · cases hcommitted with
    | enqueue =>
      intro row hrow
      rcases List.mem_append.mp hrow with hrow | hrow
      · exact h row hrow
      · rw [List.mem_singleton.mp hrow]
        exact hop readerId draft rfl
  · intro row hrow
    have hfrozen := List.mem_map_of_mem (f := (·.frozen)) hrow
    rw [hframe.queue] at hfrozen
    obtain ⟨old, hold, hsame⟩ := List.mem_map.mp hfrozen
    have henvelope : row.transactionEnvelopeJson = old.transactionEnvelopeJson :=
      (congrArg (·.transactionEnvelopeJson) hsame).symm
    rw [henvelope]
    exact h old hold

/-- What identifies a stored transaction and what it will transmit. -/
def OfflineTransactionRow.record (row : OfflineTransactionRow) :
    FareTransactionId × Nat × String :=
  (row.fareTransactionId, row.localSequenceNumber, row.transactionEnvelopeJson)

/-- Local sequences are gap-free in every reachable database, stored
transactions only ever get company behind them, and a failed insertion changes
nothing. -/
theorem localSequences_gapFree {db₀ : ReaderDatabase} (h : FreshlyBound db₀)
    (ops more : List Operation) :
    let db := Runs.run (perform codec) db₀ ops
    let later := Runs.run (perform codec) db more
    (∃ reader, db.readerState = some reader ∧
      db.offlineTransactions.map (·.localSequenceNumber) =
        List.range' 1 (reader.nextLocalSequence - 1)) ∧
    db.offlineTransactions.map (·.record) <+: later.offlineTransactions.map (·.record) ∧
    ∀ readerId draft e,
      (enqueueOfflineTransaction codec db readerId draft).result = .error e →
        (enqueueOfflineTransaction codec db readerId draft).database = db := by
  intro db later
  obtain ⟨reader, inv⟩ : ∃ reader, Consistent reader db := consistent_run h ops
  refine ⟨⟨reader, inv.queue.bound, inv.queue.sequences⟩, ?_, fun readerId draft e he => ?_⟩
  · have hrecord : ∀ rows : List OfflineTransactionRow,
        (rows.map (·.frozen)).map (·.record) = rows.map (·.record) := fun rows => by
      rw [List.map_map]
      exact List.map_congr_left fun _ _ => rfl
    rw [← hrecord db.offlineTransactions, ← hrecord later.offlineTransactions]
    exact (queue_prefix_run ⟨reader, inv⟩ more).map _
  · exact transact_of_error he

theorem localSequences_gapFree_submission :
    FreshlyBound sampleDatabase ∧
      ∃ reader, (Runs.run (perform sampleCodec) sampleDatabase sampleSubmission).readerState =
        some reader ∧
        (Runs.run (perform sampleCodec) sampleDatabase sampleSubmission).offlineTransactions.map
          (·.localSequenceNumber) = List.range' 1 (reader.nextLocalSequence - 1) :=
  ⟨sampleDatabase_freshlyBound,
    (localSequences_gapFree sampleDatabase_freshlyBound sampleSubmission []).1⟩

/-! ## Open batches -/

/-- The prepared, in-flight and retryable batches with an entry for `row`. -/
def ReaderDatabase.openBatchesOf (db : ReaderDatabase) (row : OfflineTransactionRow) :
    List SynchronizationBatchRow :=
  db.synchronizationBatches.filter fun batch =>
    batch.batchState.isOpen && db.inBatch row.readerId batch.batchId row

theorem Consistent.mem_openBatchesOf (inv : Consistent reader db) {row : OfflineTransactionRow}
    (hrow : row ∈ db.offlineTransactions) {batch : SynchronizationBatchRow} :
    batch ∈ db.openBatchesOf row ↔ batch ∈ db.synchronizationBatches ∧
      batch.batchState.isOpen = true ∧ ∃ entry ∈ db.synchronizationEntries,
        entry.batchId = batch.batchId ∧ entry.fareTransactionId = row.fareTransactionId := by
  simp only [ReaderDatabase.openBatchesOf, List.mem_filter, Bool.and_eq_true,
    ReaderDatabase.inBatch, inv.queue.owned row hrow, inv.batches.batchEntries_eq,
    ReaderDatabase.entriesOf, List.any_eq_true, beq_iff_eq, and_assoc]

theorem Consistent.length_openBatchesOf_le (inv : Consistent reader db)
    {row : OfflineTransactionRow} (hrow : row ∈ db.offlineTransactions) :
    (db.openBatchesOf row).length ≤ 1 := by
  have hids : ((db.openBatchesOf row).map (·.batchId)).Nodup :=
    inv.batches.ids.sublist (List.filter_sublist.map _)
  have hsame : ∀ a ∈ db.openBatchesOf row, ∀ b ∈ db.openBatchesOf row,
      a.batchId = b.batchId := by
    intro a ha b hb
    obtain ⟨ha, hopena, ea, hea, hida, htxa⟩ := (inv.mem_openBatchesOf hrow).mp ha
    obtain ⟨hb, hopenb, eb, heb, hidb, htxb⟩ := (inv.mem_openBatchesOf hrow).mp hb
    rw [← hida, ← hidb]
    exact inv.batches.oneOpen ea hea eb heb (htxa.trans htxb.symm) ⟨a, ha, hida.symm, hopena⟩
      ⟨b, hb, hidb.symm, hopenb⟩
  match hlist : db.openBatchesOf row with
  | [] | [_] => simp
  | a :: b :: rest =>
    rw [hlist] at hids hsame
    exact absurd (hsame a (by simp) b (by simp)) (by simp at hids; exact hids.1.1)

/-- No transaction is in two open batches, and closed batches stay as they
are. -/
theorem openBatches_disjoint_and_closed_final {db₀ : ReaderDatabase} (h : FreshlyBound db₀)
    (ops more : List Operation) :
    let db := Runs.run (perform codec) db₀ ops
    let later := Runs.run (perform codec) db more
    (∀ row ∈ db.offlineTransactions, (db.openBatchesOf row).length ≤ 1) ∧
    ∀ batch ∈ db.synchronizationBatches, batch.batchState.isOpen = false →
      (later.findBatch batch.readerId batch.batchId).map (·.batchState) =
        some batch.batchState := by
  intro db later
  obtain ⟨reader, inv⟩ : ∃ reader, Consistent reader db := consistent_run h ops
  obtain ⟨reader', inv'⟩ : ∃ reader, Consistent reader later :=
    Runs.invariant (P := fun db => ∃ reader, Consistent reader db)
      (fun _ op ⟨_, inv⟩ => inv.perform op) ⟨reader, inv⟩ more
  refine ⟨fun row => inv.length_openBatchesOf_le, fun batch hbatch hclosed => ?_⟩
  obtain ⟨batch', hbatch', hkept⟩ := (grows_run db more).batches batch hbatch
  have hid : batch'.batchId = batch.batchId := congrArg (·.batchId) hkept.frozen
  have howner : batch.readerId = reader'.readerId :=
    (congrArg (·.readerId) hkept.frozen).symm.trans (inv'.batches.owned batch' hbatch')
  rw [howner, ← hid, inv'.batches.findBatch hbatch', Option.map_some, hkept.closed hclosed]

theorem openBatches_disjoint_and_closed_final_submission :
    FreshlyBound sampleDatabase ∧
      ∀ row ∈ (Runs.run (perform sampleCodec) sampleDatabase sampleSubmission).offlineTransactions,
        ((Runs.run (perform sampleCodec) sampleDatabase sampleSubmission).openBatchesOf
          row).length ≤ 1 :=
  ⟨sampleDatabase_freshlyBound,
    (openBatches_disjoint_and_closed_final sampleDatabase_freshlyBound sampleSubmission []).1⟩

end TransitGuard.Reader
