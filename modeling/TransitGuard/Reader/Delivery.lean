import TransitGuard.Reader.Settlement

/-!
The ways out of flight. A submission of a batch ends with one of three calls of
the store: its acknowledgement is stored and applied, or a failure is recorded
that is retried, or one that is final. Each of them succeeds for a batch whose
transactions are all in flight, and what it leaves is stated in full.
-/

namespace TransitGuard.Reader

open Fallible

variable {codec : Json.Codec} {db db' : ReaderDatabase} {op : Operation}
  {reader : ReaderStateRow} {batch : SynchronizationBatchRow} {t retryAt : UnixMilliseconds}
  {acknowledgement : SynchronizationAcknowledgement}

/-! ## Applied acknowledgements -/

/-- An acknowledgement that was applied has closed its batch. -/
def ReaderDatabase.AppliedClosed (db : ReaderDatabase) : Prop :=
  ∀ row ∈ db.synchronizationAcknowledgements, row.appliedAt.isSome = true →
    ¬db.IsOpen row.batchId

theorem AppliedClosed.of_frame (hclosed : db.AppliedClosed) (hframe : BatchFrame db db')
    (hsame : db'.synchronizationAcknowledgements = db.synchronizationAcknowledgements) :
    db'.AppliedClosed := by
  intro row hrow happlied hopen
  rw [hsame] at hrow
  exact hclosed row hrow happlied (hframe.isOpen hopen)

theorem Consistent.appliedClosed_step (inv : Consistent reader db) (h : Committed codec db op db')
    (hclosed : db.AppliedClosed) : db'.AppliedClosed := by
  have hcommitted := h
  rcases h.batchFrame with ⟨readerId, version, t, limit, generated, rfl⟩ | hframe
  · obtain ⟨batch, added, hcreates, -⟩ := inv.queue.creates h
    rintro row hrow happlied ⟨other, hother, hid, hopen⟩
    have hsame : db'.synchronizationAcknowledgements = db.synchronizationAcknowledgements := by
      cases h with
      | createBatch => rfl
    rw [hsame] at hrow
    rw [hcreates.batches, List.mem_append, List.mem_singleton] at hother
    rcases hother with hother | rfl
    · exact hclosed row hrow happlied ⟨other, hother, hid, hopen⟩
    · -- the identifier of the new batch is not the one of a batch with an acknowledgement
      obtain ⟨known, hknown, hknownid⟩ := inv.acknowledgements.known row hrow
      exact hcreates.fresh known hknown (hid.trans hknownid.symm)
  · rcases h.acknowledgementFrame with
      ⟨acknowledgement, rfl⟩ | ⟨readerId, batchId, t, rfl⟩ | hacknowledgements
    · cases h with
      | storeAcknowledgement =>
        intro row hrow happlied hopen
        rcases List.mem_append.mp hrow with hrow | hrow
        · exact hclosed row hrow happlied (hframe.isOpen hopen)
        · rw [List.mem_singleton] at hrow
          rw [hrow] at happlied
          cases happlied
    · have hcloses := inv.closes_apply h
      intro row' hrow' happlied hopen
      obtain ⟨hstill, hne⟩ := (hcloses.isOpen _).mp hopen
      cases h with
      | applyAcknowledgement =>
        obtain ⟨row, hrow, rfl⟩ := Table.mem_updateWhere.mp hrow'
        by_cases hp : (row.batchId == batchId && row.readerId == readerId &&
            row.appliedAt.isNone) = true
        · rw [if_pos hp] at hne
          simp only [Bool.and_eq_true, beq_iff_eq] at hp
          exact hne hp.1.1
        · rw [if_neg hp] at happlied hstill
          exact hclosed row hrow happlied hstill
    · exact AppliedClosed.of_frame hclosed hframe hacknowledgements.acknowledgements

theorem FreshlyBound.appliedClosed (h : FreshlyBound db) : db.AppliedClosed := by
  obtain ⟨identity, -, rfl⟩ := h.exists_identity
  exact fun row hrow => absurd hrow List.not_mem_nil

theorem appliedClosed_run (h : FreshlyBound db) (ops : List Operation) :
    (Runs.run (perform codec) db ops).AppliedClosed := by
  refine (Runs.invariant (P := fun db => (∃ reader, Consistent reader db) ∧ db.AppliedClosed) ?_
    ⟨h.consistent, h.appliedClosed⟩ ops).2
  rintro db op ⟨⟨reader, inv⟩, hclosed⟩
  exact ⟨inv.perform op,
    perform_invariant hclosed fun _ h => inv.appliedClosed_step h hclosed⟩

/-! ## Acknowledged -/

/-- What the store accepts names a stored batch and repeats its columns and
entries; an acknowledgement that is there already is the same. -/
theorem Consistent.same_of_store (inv : Consistent reader db) (hrecorded : Recorded codec db)
    {stored : StoredSynchronizationAcknowledgement}
    (h : (storeSynchronizationAcknowledgement codec db acknowledgement).result = .ok stored) :
    (∃ batch ∈ db.synchronizationBatches, acknowledgement.Matches db batch) ∧
      ∀ row ∈ db.synchronizationAcknowledgements, row.batchId = acknowledgement.batchId →
        row.Records codec db acknowledgement := by
  obtain ⟨db', hbody, -⟩ := transact_of_ok h
  simp only [bind_eq_ok, mapError_eq_ok] at hbody
  obtain ⟨loaded, hload, ⟨⟩, hvalid, hbody⟩ := hbody
  obtain ⟨batch, hfound, -⟩ := loadSynchronizationBatch_ok hload
  obtain ⟨hbatch, hid, howner⟩ := ReaderDatabase.findBatch_eq_some hfound
  have hmatches := ((inv.validates_iff hbatch howner.symm hid.symm).mp ⟨loaded, hload, hvalid⟩).2
  refine ⟨⟨batch, hbatch, hmatches⟩, fun row hrow hrowId => ?_⟩
  have hexisting : db.findAcknowledgement acknowledgement.readerId acknowledgement.batchId =
      some row := by
    rw [hmatches.owner, inv.batches.owned batch hbatch, ← hrowId]
    exact inv.acknowledgements.findAcknowledgement hrow
  rw [hexisting] at hbody
  simp only [ite_error_eq_ok, ne_eq, not_not, Except.ok.injEq, Prod.mk.injEq] at hbody
  exact hrecorded.of_payload hrow hbody.1

/-- Storing an acknowledgement that matches a batch in flight inserts it, or
finds it there. -/
theorem Consistent.store_matching (inv : Consistent reader db)
    (hbatch : batch ∈ db.synchronizationBatches) (hflight : batch.batchState = .inFlight)
    (hattempts : batch.attemptCount < 2 ^ 32) (hmatches : acknowledgement.Matches db batch)
    (hchecks : ∀ row ∈ acknowledgement.entryRows 0 acknowledgement.entries, row.check = true)
    (hsame : ∀ row ∈ db.synchronizationAcknowledgements, row.batchId = batch.batchId →
      row.Records codec db acknowledgement) :
    ∃ replayed : Bool,
      (replayed = true ↔ ∃ row ∈ db.synchronizationAcknowledgements,
        row.batchId = batch.batchId) ∧
      storeSynchronizationAcknowledgement codec db acknowledgement =
        ⟨if replayed then db else db.withAcknowledgement codec acknowledgement,
          .ok ⟨acknowledgement, replayed⟩⟩ := by
  by_cases hknown : ∃ row ∈ db.synchronizationAcknowledgements, row.batchId = batch.batchId
  · obtain ⟨row, hrow, hid⟩ := hknown
    have hstored : Stored codec db acknowledgement :=
      ⟨⟨row, hrow, hsame row hrow hid⟩, batch, hbatch, hmatches⟩
    have hfound : db.findBatch acknowledgement.readerId acknowledgement.batchId = some batch := by
      rw [hmatches.owner, hmatches.id, inv.batches.owned batch hbatch]
      exact inv.batches.findBatch hbatch
    exact ⟨true, ⟨fun _ => ⟨row, hrow, hid⟩, fun _ => rfl⟩,
      (hstored.replay_iff inv hfound).mpr hattempts⟩
  · have hfresh : ∀ row ∈ db.synchronizationAcknowledgements, row.batchId ≠ batch.batchId :=
      fun row hrow hid => hknown ⟨row, hrow, hid⟩
    exact ⟨false, ⟨fun h => Bool.noConfusion h, fun h => absurd h hknown⟩,
      inv.store_eq hbatch hflight hattempts hmatches hfresh hchecks⟩

/-- Storing touches the tables of acknowledgements alone. -/
theorem store_frame (codec : Json.Codec) (db : ReaderDatabase)
    (acknowledgement : SynchronizationAcknowledgement) :
    let db' := (storeSynchronizationAcknowledgement codec db acknowledgement).database
    db'.readerState = db.readerState ∧ db'.offlineTransactions = db.offlineTransactions ∧
      db'.synchronizationBatches = db.synchronizationBatches ∧
      db'.synchronizationEntries = db.synchronizationEntries := by
  refine @perform_invariant codec (fun db' => db'.readerState = db.readerState ∧
      db'.offlineTransactions = db.offlineTransactions ∧
      db'.synchronizationBatches = db.synchronizationBatches ∧
      db'.synchronizationEntries = db.synchronizationEntries) db
    (.storeAcknowledgement acknowledgement) ⟨rfl, rfl, rfl, rfl⟩ ?_
  intro db' h
  cases h with
  | storeAcknowledgement => exact ⟨rfl, rfl, rfl, rfl⟩

/-- A stored acknowledgement of a batch in flight is applied, and settles the
batch. -/
theorem Consistent.apply_settles (inv : Consistent reader db) (hrecorded : Recorded codec db)
    (hclosed : db.AppliedClosed) (hbatch : batch ∈ db.synchronizationBatches)
    (hflight : batch.batchState = .inFlight)
    (hall : db.AllInFlight reader.readerId batch.batchId)
    (hlate : ∀ row ∈ db.offlineTransactions,
      db.inBatch reader.readerId batch.batchId row = true → row.updatedAt ≤ t)
    (hupdated : batch.updatedAt ≤ t) {row : SynchronizationAcknowledgementRow}
    (hrow : row ∈ db.synchronizationAcknowledgements)
    (hrecords : row.Records codec db acknowledgement)
    (hid : acknowledgement.batchId = batch.batchId) (hreceived : acknowledgement.receivedAt ≤ t) :
    ∃ application, (applySynchronizationAcknowledgement db reader.readerId batch.batchId
        t).result = .ok application ∧ application.counts = acknowledgement.counts ∧
      Settles acknowledgement t db
        (applySynchronizationAcknowledgement db reader.readerId batch.batchId t).database := by
  have hrowId : row.batchId = batch.batchId := hrecords.batchId_eq.trans hid
  have hrowReceived : row.receivedAt = acknowledgement.receivedAt :=
    congrArg (·.receivedAt) hrecords.columns
  have hunapplied : row.appliedAt = none := by
    rw [← Option.not_isSome_iff_eq_none]
    intro happlied
    refine hclosed row hrow happlied ⟨batch, hbatch, hrowId.symm, ?_⟩
    rw [hflight]
    rfl
  obtain ⟨application, happlication⟩ := (inv.apply_ok_iff hbatch hupdated hrow hrowId hunapplied
    (hrowReceived ▸ hreceived) hrecorded hall hlate).mpr hflight
  have howner : acknowledgement.readerId = reader.readerId :=
    (inv.find_recorded hrow hrecords).1
  have happlied := happlication
  rw [← howner, ← hid] at happlied
  obtain ⟨-, hcounts, marked, hmarked, hmarkedId, hmark⟩ := inv.applied_row hrow hrecords happlied
  refine ⟨application, happlication, hcounts.trans (resolutionCounts_decoded acknowledgement), ?_⟩
  rw [← howner, ← hid]
  rcases @applyAcknowledgement_ok codec _ _ _ _ _ happlied with ⟨-, hunchanged⟩ | ⟨-, hcommitted⟩
  · -- nothing was applied before, so the call did not find its work done
    rw [hunchanged] at hmarked
    obtain rfl : marked = row := Table.eq_of_key_eq inv.acknowledgements.ids hmarked hrow
      (hmarkedId.trans hrecords.batchId_eq.symm)
    rw [hunapplied] at hmark
    cases hmark
  · exact inv.settles hrow hrecords hcommitted

/-- An answer that translates to the sample acknowledgement is stored as it. -/
theorem sampleInFlight_storeProtocol {answer : Protocol.Acknowledgement}
    (h : translateProtocolSynchronizationAcknowledgement answer = .ok sampleAcknowledgement) :
    let stored := storeProtocolSynchronizationAcknowledgement sampleCodec sampleInFlight answer
    stored.result = .ok ⟨sampleAcknowledgement, false⟩ ∧
      stored.database = sampleInFlight.withAcknowledgement sampleCodec sampleAcknowledgement := by
  simp only [storeProtocolSynchronizationAcknowledgement, h, sampleInFlight_store]
  exact ⟨rfl, trivial⟩

/-- The stored acknowledgement settles the sample batch. -/
theorem sampleStored_settled :
    (applySynchronizationAcknowledgement
        (sampleInFlight.withAcknowledgement sampleCodec sampleAcknowledgement) sampleReaderId
        sampleBatchId 4).database.offlineTransactions.map (·.queueState) = [.acknowledged] := by
  obtain ⟨reader, inv⟩ := @consistent_run sampleCodec _ sampleDatabase_freshlyBound sampleStored
  have hrecorded := @recorded_run sampleCodec _ sampleDatabase_freshlyBound sampleStored
  have hclosed := @appliedClosed_run sampleCodec _ sampleDatabase_freshlyBound sampleStored
  rw [sampleStored_run] at inv hrecorded hclosed
  have hbatch : sampleSubmitted ∈ (sampleInFlight.withAcknowledgement sampleCodec
      sampleAcknowledgement).synchronizationBatches :=
    List.mem_singleton_self _
  have howner : reader.readerId = sampleReaderId := (inv.batches.owned _ hbatch).symm
  have hrow : sampleAcknowledgement.toRow sampleCodec ∈ (sampleInFlight.withAcknowledgement
      sampleCodec sampleAcknowledgement).synchronizationAcknowledgements :=
    List.mem_singleton_self _
  have hrecords : (sampleAcknowledgement.toRow sampleCodec).Records sampleCodec
      (sampleInFlight.withAcknowledgement sampleCodec sampleAcknowledgement)
      sampleAcknowledgement :=
    ⟨rfl, rfl⟩
  have hall : (sampleInFlight.withAcknowledgement sampleCodec
      sampleAcknowledgement).AllInFlight sampleReaderId sampleBatchId := by
    intro row hrow _
    rw [List.mem_singleton.mp hrow]
  have hlate : ∀ row ∈ (sampleInFlight.withAcknowledgement sampleCodec
      sampleAcknowledgement).offlineTransactions, row.updatedAt ≤ 4 := by
    intro row hrow
    rw [List.mem_singleton.mp hrow]
    decide
  obtain ⟨application, -, -, hsettles⟩ := @Consistent.apply_settles sampleCodec _ reader
    sampleSubmitted 4 sampleAcknowledgement inv hrecorded hclosed hbatch rfl (howner ▸ hall)
    (fun row hrow _ => hlate row hrow) (by decide) _ hrow hrecords rfl (by decide)
  have hid : sampleSubmitted.batchId = sampleBatchId := rfl
  rw [howner, hid] at hsettles
  generalize (applySynchronizationAcknowledgement (sampleInFlight.withAcknowledgement sampleCodec
    sampleAcknowledgement) sampleReaderId sampleBatchId 4).database = settled at hsettles ⊢
  obtain ⟨row, rest, hsettled, hnone, hrows⟩ :=
    List.forall₂_cons_left_iff.mp hsettles.transactions
  rw [hrows, List.forall₂_nil_left_iff.mp hnone]
  split at hsettled
  · obtain ⟨entry, hentry, -, rfl⟩ := hsettled
    rw [List.mem_singleton.mp hentry]
    rfl
  · next hother => exact absurd (by decide) hother

/-! ## Failed -/

/-- The database after a failure of the batch that is retried. -/
def ReaderDatabase.retried (db : ReaderDatabase) (batchId : SynchronizationBatchId)
    (category : String) (t retryAt : UnixMilliseconds) : ReaderDatabase :=
  { db with
    synchronizationBatches := db.synchronizationBatches.map fun batch =>
      if batch.batchId = batchId then
        batch.leave .retryableFailure (some retryAt) (some category) t
      else batch }

/-- The database after a final failure of the batch, which its transactions
share. -/
def ReaderDatabase.failed (db : ReaderDatabase) (readerId : ReaderId)
    (batchId : SynchronizationBatchId) (category : String) (t : UnixMilliseconds)
    (target : FinalState) : ReaderDatabase :=
  { db with
    synchronizationBatches := db.synchronizationBatches.map fun batch =>
      if batch.batchId = batchId then batch.leave target.batchState none (some category) t
      else batch
    offlineTransactions := db.offlineTransactions.map fun row =>
      if db.inBatch readerId batchId row then
        row.resolve target.queueState none (some category) t
      else row }

theorem trim_asStr (category : Protocol.FailureCategory) :
    Text.trim category.asStr = category.asStr := by
  cases category <;> decide

theorem SynchronizationBatchRow.retry_check {row : SynchronizationBatchRow}
    {state : SynchronizationBatchState} {category : Option String} (h : row.check = true)
    (hupdated : row.updatedAt ≤ t) (hretry : 0 ≤ retryAt) :
    (row.leave state (some retryAt) category t).check = true := by
  simp only [check, leave, Bool.and_eq_true, decide_eq_true_eq, Option.all_some] at h ⊢
  grind

theorem andThen_eq {ε α β : Type} {body : Except ε (α × ReaderDatabase)} {next : α → Except ε β}
    {result : β} (value : α) (h : body = .ok (value, db')) (hnext : next value = .ok result) :
    (transact db body).andThen next = ⟨db', .ok result⟩ := by
  rw [h, ← hnext]
  rfl

theorem thenLoad_eq {readerId : ReaderId} {batchId : SynchronizationBatchId}
    {committed : Outcome ReaderSynchronizationStateError Unit} {loaded : SynchronizationBatch}
    (h : committed = ⟨db', .ok ()⟩)
    (hload : loadSynchronizationBatch db' readerId batchId = .ok loaded) :
    thenLoad readerId batchId committed = ⟨db', .ok loaded⟩ := by
  rw [h, thenLoad, hload]
  rfl

/-- A batch that a committed operation leaves can be loaded by its reader. -/
theorem Consistent.load_after (inv : Consistent reader db) (h : Committed codec db op db')
    (hbatch : batch ∈ db'.synchronizationBatches) (hattempts : batch.attemptCount < 2 ^ 32)
    {batchId : SynchronizationBatchId} (hbatchId : batch.batchId = batchId) :
    ∃ loaded, loadSynchronizationBatch db' reader.readerId batchId = .ok loaded := by
  obtain ⟨reader', inv', hfrozen⟩ := inv.step h
  obtain ⟨loaded, hloaded, -⟩ := inv'.load_ok hbatch hattempts
  have hid : reader'.readerId = reader.readerId := congrArg (·.readerId) hfrozen
  exact ⟨loaded, hbatchId ▸ hid ▸ hloaded⟩

/-- Transactions in flight that were not updated later are reached with their
batch. -/
theorem Consistent.inFlightEntry_eq (inv : Consistent reader db)
    {batchId : SynchronizationBatchId} (hall : db.AllInFlight reader.readerId batchId)
    (hlate : ∀ row ∈ db.offlineTransactions,
      db.inBatch reader.readerId batchId row = true → row.updatedAt ≤ t) :
    ∀ row ∈ db.offlineTransactions, db.inFlightEntry reader.readerId batchId t row =
      db.inBatch reader.readerId batchId row := by
  intro row hrow
  by_cases hmember : db.inBatch reader.readerId batchId row = true
  · simp [ReaderDatabase.inFlightEntry, OfflineTransactionRow.inFlightBy, hmember,
      inv.queue.owned row hrow, hall row hrow hmember, hlate row hrow hmember]
  · simp [ReaderDatabase.inFlightEntry, hmember]

section Failed

variable (inv : Consistent reader db) (hbatch : batch ∈ db.synchronizationBatches)
  (hflight : batch.batchState = .inFlight) (hupdated : batch.updatedAt ≤ t)
include inv hbatch hflight hupdated

/-- The statements on a batch in flight select that batch. -/
theorem Consistent.selects_inFlight :
    db.synchronizationBatches.countP
        (fun row => row.named reader.readerId batch.batchId && row.inFlightBy t) = 1 ∧
      ∀ row ∈ db.synchronizationBatches,
        (row.named reader.readerId batch.batchId && row.inFlightBy t) = true ↔
          row.batchId = batch.batchId := by
  have hnamed : ∀ row ∈ db.synchronizationBatches,
      (row.named reader.readerId batch.batchId && row.inFlightBy t) = true →
        row.batchId = batch.batchId := by
    intro row _ hp
    simp only [SynchronizationBatchRow.named, Bool.and_eq_true, beq_iff_eq] at hp
    exact hp.1.1
  have hone : db.synchronizationBatches.countP
      (fun row => row.named reader.readerId batch.batchId && row.inFlightBy t) = 1 := by
    refine (Table.countP_eq_one_iff inv.batches.ids hnamed).mpr ⟨batch, hbatch, ?_⟩
    simp [SynchronizationBatchRow.named, SynchronizationBatchRow.inFlightBy, hflight, hupdated,
      inv.batches.owned batch hbatch]
  exact ⟨hone, Table.selects_iff_of_countP inv.batches.ids hnamed hone⟩

/-- A retried failure is recorded with the batch, and nothing else changes. -/
theorem Consistent.retry_eq (codec : Json.Codec) (hattempts : batch.attemptCount < 2 ^ 32)
    (hretry : t ≤ retryAt) (category : Protocol.FailureCategory) :
    ∃ loaded, recordSynchronizationRetryableFailure db reader.readerId batch.batchId
        category.asStr t retryAt =
          ⟨db.retried batch.batchId category.asStr t retryAt, .ok loaded⟩ ∧
      loadSynchronizationBatch (db.retried batch.batchId category.asStr t retryAt)
        reader.readerId batch.batchId = .ok loaded := by
  obtain ⟨hone, hselects⟩ := inv.selects_inFlight hbatch hflight hupdated
  have hnonneg : 0 ≤ t := SynchronizationBatchRow.nonneg_of_updatedAt_le
    (inv.batches.valid batch hbatch).check hupdated
  have hcheck : ∀ row ∈ db.synchronizationBatches,
      (row.named reader.readerId batch.batchId && row.inFlightBy t) = true →
        (row.leave .retryableFailure (some retryAt) (some (Text.trim category.asStr))
          t).check = true := by
    intro row hrow hp
    simp only [SynchronizationBatchRow.inFlightBy, Bool.and_eq_true, decide_eq_true_eq] at hp
    exact SynchronizationBatchRow.retry_check (inv.batches.valid row hrow).check hp.2.2
      (Int64.le_trans hnonneg hretry)
  have hdb : db.retried batch.batchId category.asStr t retryAt = { db with
      synchronizationBatches := Table.updateWhere
        (fun row => row.named reader.readerId batch.batchId && row.inFlightBy t)
        (·.leave .retryableFailure (some retryAt) (some (Text.trim category.asStr)) t)
        db.synchronizationBatches } := by
    rw [ReaderDatabase.retried, Table.updateWhere_eq_map hselects, trim_asStr]
  have hcommitted : Committed codec db (.retryBatch reader.readerId batch.batchId
      category.asStr t retryAt) (db.retried batch.batchId category.asStr t retryAt) := by
    rw [hdb]
    exact .retryBatch hcheck
  have hleft : batch.leave .retryableFailure (some retryAt) (some category.asStr) t ∈
      (db.retried batch.batchId category.asStr t retryAt).synchronizationBatches :=
    List.mem_map.mpr ⟨batch, hbatch, if_pos rfl⟩
  obtain ⟨loaded, hloaded⟩ : ∃ loaded, loadSynchronizationBatch
      (db.retried batch.batchId category.asStr t retryAt) reader.readerId batch.batchId =
        .ok loaded :=
    inv.load_after hcommitted hleft hattempts rfl
  refine ⟨loaded, thenLoad_eq (andThen_eq 1 ?_ rfl) hloaded, hloaded⟩
  simp only [bind_eq_ok, guard_eq_ok, validateCategory_ok, updateBatches_ok]
  exact ⟨(), validateTime_ok.mpr hnonneg, (), validateTime_ok.mpr (Int64.le_trans hnonneg hretry),
    Int64.not_lt.mpr hretry, _, ⟨rfl, (failureCategory_visible category).1⟩, hcheck, hone.symm,
    hdb⟩

/-- A final failure is recorded with the batch and with its transactions. -/
theorem Consistent.fail_eq (codec : Json.Codec) (hattempts : batch.attemptCount < 2 ^ 32)
    (hall : db.AllInFlight reader.readerId batch.batchId)
    (hlate : ∀ row ∈ db.offlineTransactions,
      db.inBatch reader.readerId batch.batchId row = true → row.updatedAt ≤ t)
    (category : Protocol.FailureCategory) (target : FinalState) (transition : String) :
    ∃ loaded, recordFinalSynchronizationFailure db reader.readerId batch.batchId
        category.asStr t target transition =
          ⟨db.failed reader.readerId batch.batchId category.asStr t target, .ok loaded⟩ ∧
      loadSynchronizationBatch (db.failed reader.readerId batch.batchId category.asStr t target)
        reader.readerId batch.batchId = .ok loaded := by
  obtain ⟨hone, hselects⟩ := inv.selects_inFlight hbatch hflight hupdated
  have hcount := inv.count_inFlightEntry hbatch hall hlate
  have hcheck : ∀ row ∈ db.synchronizationBatches,
      (row.named reader.readerId batch.batchId && row.inFlightBy t) = true →
        (row.leave target.batchState none (some (Text.trim category.asStr)) t).check = true := by
    intro row hrow hp
    simp only [SynchronizationBatchRow.inFlightBy, Bool.and_eq_true, decide_eq_true_eq] at hp
    exact SynchronizationBatchRow.leave_check (inv.batches.valid row hrow).check hp.2.2
  have hqueueCheck : ∀ row ∈ db.offlineTransactions,
      db.inFlightEntry reader.readerId batch.batchId t row = true →
        (row.resolve target.queueState none (some (Text.trim category.asStr)) t).check = true := by
    intro row hrow hp
    simp only [ReaderDatabase.inFlightEntry, OfflineTransactionRow.inFlightBy, Bool.and_eq_true,
      decide_eq_true_eq] at hp
    exact OfflineTransactionRow.resolve_check (inv.queue.checks row hrow) hp.1.2.2
  have hentry := inv.inFlightEntry_eq hall hlate
  have htransactions : Table.updateWhere (db.inFlightEntry reader.readerId batch.batchId t)
      (·.resolve target.queueState none (some (Text.trim category.asStr)) t)
      db.offlineTransactions =
        (db.failed reader.readerId batch.batchId category.asStr t target).offlineTransactions := by
    rw [trim_asStr]
    exact List.map_congr_left fun row hrow => by rw [hentry row hrow]
  have hdb : db.failed reader.readerId batch.batchId category.asStr t target = { db with
      synchronizationBatches := Table.updateWhere
        (fun row => row.named reader.readerId batch.batchId && row.inFlightBy t)
        (·.leave target.batchState none (some (Text.trim category.asStr)) t)
        db.synchronizationBatches
      offlineTransactions := Table.updateWhere
        (db.inFlightEntry reader.readerId batch.batchId t)
        (·.resolve target.queueState none (some (Text.trim category.asStr)) t)
        db.offlineTransactions } := by
    rw [htransactions, Table.updateWhere_eq_map hselects, trim_asStr]
    rfl
  have hcommitted : Committed codec db (.failBatch reader.readerId batch.batchId
      category.asStr t target)
        (db.failed reader.readerId batch.batchId category.asStr t target) := by
    rw [hdb]
    exact .failBatch hcheck hone hqueueCheck hcount (failureCategory_visible category).1
  have hleft : batch.leave target.batchState none (some category.asStr) t ∈
      (db.failed reader.readerId batch.batchId category.asStr t
        target).synchronizationBatches :=
    List.mem_map.mpr ⟨batch, hbatch, if_pos rfl⟩
  obtain ⟨loaded, hloaded⟩ : ∃ loaded, loadSynchronizationBatch
      (db.failed reader.readerId batch.batchId category.asStr t target) reader.readerId
        batch.batchId = .ok loaded :=
    inv.load_after hcommitted hleft hattempts rfl
  have hnonempty : (db.batchEntries reader.readerId batch.batchId).length ≠ 0 := by
    rw [inv.batches.batchEntries_eq]
    intro hlength
    have hfirst := (inv.batches.holds batch hbatch).first
    rw [List.eq_nil_of_length_eq_zero hlength] at hfirst
    cases hfirst
  have hnonneg : 0 ≤ t := SynchronizationBatchRow.nonneg_of_updatedAt_le
    (inv.batches.valid batch hbatch).check hupdated
  refine ⟨loaded, thenLoad_eq (transact_eq ?_) hloaded, hloaded⟩
  simp only [bind_eq_ok, validateCategory_ok, updateOneBatch_ok, updateEntryTransactions_ok]
  exact ⟨(), validateTime_ok.mpr hnonneg, _, ⟨rfl, (failureCategory_visible category).1⟩, _,
    ⟨hcheck, hone, rfl⟩, _, ⟨hnonempty, hqueueCheck, hcount, rfl⟩, by rw [hdb]⟩

end Failed

end TransitGuard.Reader
