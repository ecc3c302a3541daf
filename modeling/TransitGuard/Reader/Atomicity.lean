import TransitGuard.Reader.Progress

/-!
A call that returns an error has changed nothing. For the calls that run in one
SQLite transaction this is the rollback. The single UPDATE statements are
committed before their number of rows is looked at, and four calls read the
batch again after their commit; for these the error has to be excluded by what
every reachable database has.
-/

namespace TransitGuard.Reader

open Fallible

variable {codec : Json.Codec} {db db' : ReaderDatabase} {op : Operation}
  {reader : ReaderStateRow} {readerId : ReaderId} {batchId : SynchronizationBatchId}

/-- The call returns an error. -/
def Operation.fails (codec : Json.Codec) (db : ReaderDatabase) : Operation → Bool
  | .bind identity => !(bindReaderDatabase db identity).result.isOk
  | .enqueue readerId draft => !(enqueueOfflineTransaction codec db readerId draft).result.isOk
  | .markTransaction readerId transactionId attemptedAt =>
    !(markOfflineTransactionInFlight db readerId transactionId attemptedAt).result.isOk
  | .retryTransaction readerId transactionId failureCategory updatedAt retryAt =>
    !(recordRetryableQueueFailure db readerId transactionId failureCategory updatedAt
      retryAt).result.isOk
  | .failTransaction readerId transactionId failureCategory updatedAt .permanentFailure =>
    !(recordPermanentQueueFailure db readerId transactionId failureCategory updatedAt).result.isOk
  | .failTransaction readerId transactionId failureCategory updatedAt .manualReview =>
    !(recordManualReviewRequired db readerId transactionId failureCategory updatedAt).result.isOk
  | .recoverQueue readerId recoveredAt =>
    !(recoverInterruptedOfflineQueue db readerId recoveredAt).result.isOk
  | .createBatch readerId protocolVersion createdAt limit generated =>
    !(createSynchronizationBatch db readerId protocolVersion createdAt limit
      generated).result.isOk
  | .markBatch readerId batchId attemptedAt =>
    !(markSynchronizationBatchInFlight db readerId batchId attemptedAt).result.isOk
  | .retryBatch readerId batchId failureCategory updatedAt retryAt =>
    !(recordSynchronizationRetryableFailure db readerId batchId failureCategory updatedAt
      retryAt).result.isOk
  | .failBatch readerId batchId failureCategory updatedAt .permanentFailure =>
    !(recordSynchronizationPermanentFailure db readerId batchId failureCategory
      updatedAt).result.isOk
  | .failBatch readerId batchId failureCategory updatedAt .manualReview =>
    !(recordSynchronizationManualReview db readerId batchId failureCategory updatedAt).result.isOk
  | .recoverBatches readerId recoveredAt =>
    !(recoverInterruptedSynchronizationBatches db readerId recoveredAt).result.isOk
  | .storeAcknowledgement acknowledgement =>
    !(storeSynchronizationAcknowledgement codec db acknowledgement).result.isOk
  | .applyAcknowledgement readerId batchId appliedAt =>
    !(applySynchronizationAcknowledgement db readerId batchId appliedAt).result.isOk

/-! ## Rolled back and single statements -/

section Statements

variable {ε α β : Type}

theorem transact_fails {body : Except ε (α × ReaderDatabase)}
    (h : (!(transact db body).result.isOk) = true) : (transact db body).database = db := by
  cases hresult : (transact db body).result with
  | error e => exact transact_of_error hresult
  | ok value =>
    rw [hresult] at h
    cases h

/-- A statement committed by itself has changed nothing if it failed, or if
nothing changed whenever its result is refused. -/
theorem andThen_fails {body : Except ε (α × ReaderDatabase)} {next : α → Except ε β}
    (hbody : ∀ value db', body = .ok (value, db') → (next value).isOk = false → db' = db)
    (h : (!((transact db body).andThen next).result.isOk) = true) :
    ((transact db body).andThen next).database = db := by
  cases body with
  | error e => rfl
  | ok out =>
    obtain ⟨value, db'⟩ := out
    have hnext : (next value).isOk = false := by
      simpa only [Outcome.andThen, transact, ok_bind, Bool.not_eq_true'] using h
    exact hbody value db' rfl hnext

end Statements

/-- An UPDATE of one named transaction that does not reach it. -/
theorem Consistent.updateTransactions_unchanged (inv : Consistent reader db) {operation : String}
    {transactionId : FareTransactionId} {transition : String} {affected : Nat}
    {p : OfflineTransactionRow → Bool} {f : OfflineTransactionRow → OfflineTransactionRow}
    (hp : ∀ row, p row = true → row.named readerId transactionId = true)
    (h : updateTransactions db operation p f = .ok (affected, db'))
    (hrefused : (requireChangedRow transactionId transition affected).isOk = false) :
    db' = db := by
  obtain ⟨-, rfl, rfl⟩ := updateTransactions_ok.mp h
  have hcount : db.offlineTransactions.countP p ≠ 1 := by
    intro hone
    rw [requireChangedRow, if_pos hone] at hrefused
    cases hrefused
  have hnamed : ∀ row ∈ db.offlineTransactions, p row = true →
      row.fareTransactionId = transactionId := by
    intro row _ hrow
    have hrow := hp row hrow
    simp only [OfflineTransactionRow.named, Bool.and_eq_true, beq_iff_eq] at hrow
    exact hrow.1
  rw [Table.updateWhere_eq_self_of_count inv.queue.ids hnamed hcount]

theorem Consistent.updateBatches_unchanged (inv : Consistent reader db) {operation : String}
    {transition : String} {affected : Nat} {p : SynchronizationBatchRow → Bool}
    {f : SynchronizationBatchRow → SynchronizationBatchRow}
    (hp : ∀ row, p row = true → row.named readerId batchId = true)
    (h : updateBatches db operation p f = .ok (affected, db'))
    (hrefused : (requireChangedBatch batchId transition affected).isOk = false) : db' = db := by
  obtain ⟨-, rfl, rfl⟩ := updateBatches_ok.mp h
  have hcount : db.synchronizationBatches.countP p ≠ 1 := by
    intro hone
    rw [requireChangedBatch, if_pos hone] at hrefused
    cases hrefused
  have hnamed : ∀ row ∈ db.synchronizationBatches, p row = true → row.batchId = batchId := by
    intro row _ hrow
    have hrow := hp row hrow
    simp only [SynchronizationBatchRow.named, Bool.and_eq_true, beq_iff_eq] at hrow
    exact hrow.1
  rw [Table.updateWhere_eq_self_of_count inv.batches.ids hnamed hcount]

/-! ## The batch read again -/

/-- A batch that was updated, with an attempt at most more, can be read. -/
theorem Consistent.load_updated (codec : Json.Codec) (inv : Consistent reader db)
    (hcommitted : Committed codec db op db')
    (hattempts : ∀ batch ∈ db.synchronizationBatches, batch.attemptCount < 2 ^ 32 - 1)
    {p : SynchronizationBatchRow → Bool} {f : SynchronizationBatchRow → SynchronizationBatchRow}
    (hbatches : db'.synchronizationBatches = Table.updateWhere p f db.synchronizationBatches)
    (hp : ∀ row, p row = true → row.named readerId batchId = true)
    (hid : ∀ row, (f row).batchId = row.batchId)
    (hcount : ∀ row, (f row).attemptCount ≤ row.attemptCount + 1)
    (hone : db.synchronizationBatches.countP p = 1) :
    ∃ batch, loadSynchronizationBatch db' readerId batchId = .ok batch := by
  obtain ⟨reader', inv', hfrozen⟩ := inv.step hcommitted
  have hreader : reader'.readerId = reader.readerId := congrArg (·.readerId) hfrozen
  obtain ⟨row, hrow, hselected⟩ := List.countP_pos_iff.mp (hone ▸ Nat.one_pos)
  have hnamed := hp row hselected
  simp only [SynchronizationBatchRow.named, Bool.and_eq_true, beq_iff_eq] at hnamed
  have howner := inv.batches.owned row hrow
  have hmem : f row ∈ db'.synchronizationBatches := by
    rw [hbatches]
    exact Table.mem_updateWhere.mpr ⟨row, hrow, by rw [if_pos hselected]⟩
  have hbound : (f row).attemptCount < 2 ^ 32 := by
    have hrowBound := hattempts row hrow
    have hstep := hcount row
    omega
  obtain ⟨batch, hload, -⟩ := inv'.load_ok hmem hbound
  refine ⟨batch, ?_⟩
  rw [← hload, hreader, hid, hnamed.1, ← hnamed.2, howner]

theorem thenLoad_fails {committed : Outcome ReaderSynchronizationStateError Unit}
    (hload : committed.result.isOk = true →
      ∃ batch, loadSynchronizationBatch committed.database readerId batchId = .ok batch)
    (hfails : (!committed.result.isOk) = true → committed.database = db)
    (h : (!(thenLoad readerId batchId committed).result.isOk) = true) :
    (thenLoad readerId batchId committed).database = db := by
  rw [thenLoad_database]
  cases hresult : committed.result with
  | error e => exact hfails (by rw [hresult]; rfl)
  | ok value =>
    obtain ⟨batch, hbatch⟩ := hload (by rw [hresult]; rfl)
    simp only [thenLoad, hresult, hbatch, Except.mapError, ok_bind] at h
    cases h

section Reread

variable (hattempts : ∀ batch ∈ db.synchronizationBatches, batch.attemptCount < 2 ^ 32 - 1)
include hattempts

theorem Consistent.markBatch_fails (codec : Json.Codec) (inv : Consistent reader db)
    {t : UnixMilliseconds}
    (h : (!(markSynchronizationBatchInFlight db readerId batchId t).result.isOk) = true) :
    (markSynchronizationBatchInFlight db readerId batchId t).database = db := by
  refine thenLoad_fails (fun hok => ?_) transact_fails h
  obtain ⟨value, hvalue⟩ := isOk_iff.mp hok
  obtain ⟨db', hbody, hdatabase⟩ := transact_of_ok hvalue
  rw [hdatabase]
  simp only [bind_eq_ok, updateOneBatch_ok, updateEntryTransactions_ok, Except.ok.injEq,
    Prod.mk.injEq] at hbody
  obtain ⟨-, -, batches, ⟨hcheck, hone, rfl⟩, transactions, ⟨-, hqueue, hall, rfl⟩, -, rfl⟩ := hbody
  refine inv.load_updated codec (.markBatch hcheck hqueue hall) hattempts rfl
    (fun row hrow => ?_) (fun _ => rfl) (fun _ => Nat.le_refl _) hone
  simp only [Bool.and_eq_true] at hrow
  exact hrow.1.1

theorem Consistent.retryBatch_fails (codec : Json.Codec) (inv : Consistent reader db)
    {category : String} {t retryAt : UnixMilliseconds}
    (h : (!(recordSynchronizationRetryableFailure db readerId batchId category t
      retryAt).result.isOk) = true) :
    (recordSynchronizationRetryableFailure db readerId batchId category t retryAt).database =
      db := by
  have hnamed : ∀ row : SynchronizationBatchRow,
      (row.named readerId batchId && row.inFlightBy t) = true →
        row.named readerId batchId = true := by
    intro row hrow
    rw [Bool.and_eq_true] at hrow
    exact hrow.1
  refine thenLoad_fails (fun hok => ?_) (andThen_fails fun affected db' hbody hrefused => ?_) h
  · obtain ⟨value, hvalue⟩ := isOk_iff.mp hok
    simp only [Outcome.andThen, bind_eq_ok] at hvalue
    obtain ⟨affected, hvalue, hrequired⟩ := hvalue
    obtain ⟨db', hbody, hdatabase⟩ := transact_of_ok hvalue
    rw [Outcome.andThen_database, hdatabase]
    simp only [bind_eq_ok, guard_eq_ok, validateCategory_ok, updateBatches_ok] at hbody
    obtain ⟨-, -, -, -, -, trimmed, ⟨rfl, -⟩, hcheck, rfl, rfl⟩ := hbody
    have hone : db.synchronizationBatches.countP
        (fun row => row.named readerId batchId && row.inFlightBy t) = 1 := by
      rw [requireChangedBatch] at hrequired
      split at hrequired
      · assumption
      · cases hrequired
    exact inv.load_updated codec (.retryBatch hcheck) hattempts rfl hnamed
      (fun _ => rfl) (fun _ => Nat.le_succ _) hone
  · simp only [bind_eq_ok, guard_eq_ok, validateCategory_ok] at hbody
    obtain ⟨-, -, -, -, -, trimmed, -, hupdate⟩ := hbody
    exact inv.updateBatches_unchanged hnamed hupdate hrefused

theorem Consistent.failBatch_fails (codec : Json.Codec) (inv : Consistent reader db)
    {category transition : String} {t : UnixMilliseconds} {target : FinalState}
    (h : (!(recordFinalSynchronizationFailure db readerId batchId category t target
      transition).result.isOk) = true) :
    (recordFinalSynchronizationFailure db readerId batchId category t target
      transition).database = db := by
  refine thenLoad_fails (fun hok => ?_) transact_fails h
  obtain ⟨value, hvalue⟩ := isOk_iff.mp hok
  obtain ⟨db', hbody, hdatabase⟩ := transact_of_ok hvalue
  rw [hdatabase]
  simp only [bind_eq_ok, validateCategory_ok, updateOneBatch_ok, updateEntryTransactions_ok,
    Except.ok.injEq, Prod.mk.injEq] at hbody
  obtain ⟨-, -, trimmed, ⟨rfl, hcategory⟩, batches, ⟨hcheck, hone, rfl⟩, transactions,
    ⟨-, hqueue, hall, rfl⟩, -, rfl⟩ := hbody
  refine inv.load_updated codec (.failBatch hcheck hone hqueue hall hcategory) hattempts rfl
    (fun row hrow => ?_) (fun _ => rfl) (fun _ => Nat.le_succ _) hone
  rw [Bool.and_eq_true] at hrow
  exact hrow.1

end Reread

/-! ## Every call -/

theorem Consistent.failTransaction_fails (inv : Consistent reader db)
    {transactionId : FareTransactionId} {category : String} {t : UnixMilliseconds}
    {target : FinalState}
    (h : (!(recordFinalFailure db readerId transactionId category t target).result.isOk) = true) :
    (recordFinalFailure db readerId transactionId category t target).database = db := by
  refine andThen_fails (fun affected db' hbody hrefused => ?_) h
  simp only [bind_eq_ok, validateCategory_ok] at hbody
  obtain ⟨-, -, trimmed, -, hupdate⟩ := hbody
  refine inv.updateTransactions_unchanged
    (fun row hrow => (?_ : row.named readerId transactionId = true)) hupdate hrefused
  rw [Bool.and_eq_true] at hrow
  exact hrow.1

theorem Consistent.fails_unchanged (inv : Consistent reader db)
    (hattempts : ∀ batch ∈ db.synchronizationBatches, batch.attemptCount < 2 ^ 32 - 1)
    (h : op.fails codec db = true) : Reader.perform codec db op = db := by
  cases op with
  | bind | enqueue | recoverQueue | createBatch | recoverBatches | storeAcknowledgement |
    applyAcknowledgement => exact transact_fails h
  | markTransaction readerId transactionId t =>
    refine andThen_fails (fun affected db' hbody hrefused => ?_) h
    simp only [bind_eq_ok] at hbody
    obtain ⟨-, -, hupdate⟩ := hbody
    refine inv.updateTransactions_unchanged
      (fun row hrow => (?_ : row.named readerId transactionId = true)) hupdate hrefused
    simp only [Bool.and_eq_true] at hrow
    exact hrow.1.1
  | retryTransaction readerId transactionId category t retryAt =>
    refine andThen_fails (fun affected db' hbody hrefused => ?_) h
    simp only [bind_eq_ok, guard_eq_ok, validateCategory_ok] at hbody
    obtain ⟨-, -, -, -, -, trimmed, -, hupdate⟩ := hbody
    refine inv.updateTransactions_unchanged
      (fun row hrow => (?_ : row.named readerId transactionId = true)) hupdate hrefused
    rw [Bool.and_eq_true] at hrow
    exact hrow.1
  | failTransaction readerId transactionId category t target =>
    cases target with
    | permanentFailure => exact inv.failTransaction_fails h
    | manualReview => exact inv.failTransaction_fails h
  | markBatch readerId batchId t => exact inv.markBatch_fails hattempts codec h
  | retryBatch readerId batchId category t retryAt => exact inv.retryBatch_fails hattempts codec h
  | failBatch readerId batchId category t target =>
    cases target with
    | permanentFailure => exact inv.failBatch_fails hattempts codec h
    | manualReview => exact inv.failBatch_fails hattempts codec h

/-- In a reachable database whose attempt counters have room for one more, a
call that returns an error leaves every table as it was. -/
theorem failedCall_unchanged {db₀ : ReaderDatabase} (h : FreshlyBound db₀) (ops : List Operation)
    (op : Operation)
    (hattempts : ∀ batch ∈ (Runs.run (perform codec) db₀ ops).synchronizationBatches,
      batch.attemptCount < 2 ^ 32 - 1)
    (hfails : op.fails codec (Runs.run (perform codec) db₀ ops) = true) :
    perform codec (Runs.run (perform codec) db₀ ops) op = Runs.run (perform codec) db₀ ops := by
  obtain ⟨reader, inv⟩ : ∃ reader, Consistent reader (Runs.run (perform codec) db₀ ops) :=
    consistent_run h ops
  exact inv.fails_unchanged hattempts hfails

/-- The sample batch cannot be submitted a second time while it is in flight. -/
theorem failedCall_unchanged_submission :
    Operation.fails sampleCodec (Runs.run (perform sampleCodec) sampleDatabase sampleSubmission)
        (.markBatch sampleReaderId sampleBatchId 3) = true ∧
      perform sampleCodec (Runs.run (perform sampleCodec) sampleDatabase sampleSubmission)
          (.markBatch sampleReaderId sampleBatchId 3) =
        Runs.run (perform sampleCodec) sampleDatabase sampleSubmission :=
  ⟨by decide, failedCall_unchanged sampleDatabase_freshlyBound sampleSubmission _ (by decide)
    (by decide)⟩

end TransitGuard.Reader
