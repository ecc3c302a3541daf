import TransitGuard.Reader.InFlight
import TransitGuard.Reader.Storage

/-!
The recovery after a restart. One statement takes the batches out of flight, the
other the transactions that no open batch holds. The second one asks for the
state of the batches, but only whether they are open, and the first one keeps
them open: so the two can run in any order, and need to run only once.
-/

namespace TransitGuard.Reader

open Fallible

variable {codec : Json.Codec} {db : ReaderDatabase} {reader : ReaderStateRow}
  {readerId : ReaderId} {t : UnixMilliseconds}

/-- No row was updated after `t`. -/
structure ReaderDatabase.StampedBy (db : ReaderDatabase) (t : UnixMilliseconds) : Prop where
  reader : ∀ row, db.readerState = some row → row.updatedAt ≤ t
  queue : ∀ row ∈ db.offlineTransactions, row.updatedAt ≤ t
  batches : ∀ row ∈ db.synchronizationBatches, row.updatedAt ≤ t

/-! ## The two statements -/

/-- The assignments of the recovery of a batch. -/
def SynchronizationBatchRow.recover (t : UnixMilliseconds) (row : SynchronizationBatchRow) :
    SynchronizationBatchRow :=
  row.leave .retryableFailure (some t) (some restartFailureCategory) t

def OfflineTransactionRow.recover (t : UnixMilliseconds) (row : OfflineTransactionRow) :
    OfflineTransactionRow :=
  row.resolve .retryableFailure (some t) (some restartFailureCategory) t

/-- The database with its interrupted batches recovered at `t`. -/
def ReaderDatabase.recoverBatches (db : ReaderDatabase) (readerId : ReaderId)
    (t : UnixMilliseconds) : ReaderDatabase :=
  { db with
    synchronizationBatches := Table.updateWhere
      (fun row => row.readerId == readerId && row.inFlightBy t) (·.recover t)
      db.synchronizationBatches }

/-- The database with its interrupted transactions recovered at `t`. -/
def ReaderDatabase.recoverQueue (db : ReaderDatabase) (readerId : ReaderId)
    (t : UnixMilliseconds) : ReaderDatabase :=
  { db with
    offlineTransactions := Table.updateWhere
      (fun row => row.readerId == readerId && row.inFlightBy t && !db.inOpenBatch row)
      (·.recover t) db.offlineTransactions }

theorem SynchronizationBatchRow.recover_check {row : SynchronizationBatchRow}
    (h : row.check = true) (ht : 0 ≤ t) (hupdated : row.updatedAt ≤ t) :
    (row.recover t).check = true := by
  simp only [check, recover, leave, Bool.and_eq_true, decide_eq_true_eq] at h ⊢
  grind

theorem OfflineTransactionRow.recover_check {row : OfflineTransactionRow}
    (h : row.check = true) (ht : 0 ≤ t) (hupdated : row.updatedAt ≤ t) :
    (row.recover t).check = true := by
  simp only [check, recover, resolve, Bool.and_eq_true, decide_eq_true_eq] at h ⊢
  grind

theorem recoverInterruptedSynchronizationBatches_eq (ht : 0 ≤ t)
    (hchecks : ∀ row ∈ db.synchronizationBatches, row.check = true) :
    recoverInterruptedSynchronizationBatches db readerId t =
      ⟨db.recoverBatches readerId t, .ok (db.synchronizationBatches.countP fun row =>
        row.readerId == readerId && row.inFlightBy t)⟩ := by
  refine transact_eq ?_
  rw [validateTime_ok.mpr ht, ok_bind, updateBatches_ok]
  refine ⟨fun row hrow hp => ?_, rfl, rfl⟩
  simp only [SynchronizationBatchRow.inFlightBy, Bool.and_eq_true, decide_eq_true_eq] at hp
  exact SynchronizationBatchRow.recover_check (hchecks row hrow) ht hp.2.2

theorem recoverInterruptedOfflineQueue_eq (ht : 0 ≤ t)
    (hchecks : ∀ row ∈ db.offlineTransactions, row.check = true) :
    recoverInterruptedOfflineQueue db readerId t =
      ⟨db.recoverQueue readerId t, .ok (db.offlineTransactions.countP fun row =>
        row.readerId == readerId && row.inFlightBy t && !db.inOpenBatch row)⟩ := by
  refine transact_eq ?_
  rw [validateTime_ok.mpr ht, ok_bind, updateTransactions_ok]
  refine ⟨fun row hrow hp => ?_, rfl, rfl⟩
  simp only [OfflineTransactionRow.inFlightBy, Bool.and_eq_true, decide_eq_true_eq] at hp
  exact OfflineTransactionRow.recover_check (hchecks row hrow) ht hp.1.2.2

/-! ## Order -/

/-- A recovered batch is as open as it was in flight. -/
theorem inOpenBatch_recoverBatches (row : OfflineTransactionRow) :
    (db.recoverBatches readerId t).inOpenBatch row = db.inOpenBatch row := by
  simp only [ReaderDatabase.inOpenBatch, ReaderDatabase.recoverBatches]
  congr 1
  funext entry
  rw [Table.any_updateWhere]
  intro batch hp
  simp only [SynchronizationBatchRow.inFlightBy, Bool.and_eq_true, beq_iff_eq] at hp
  simp only [SynchronizationBatchRow.recover, SynchronizationBatchRow.leave, hp.2.1]
  rfl

theorem recoverQueue_recoverBatches (db : ReaderDatabase) (readerId : ReaderId)
    (t : UnixMilliseconds) :
    (db.recoverBatches readerId t).recoverQueue readerId t =
      (db.recoverQueue readerId t).recoverBatches readerId t := by
  unfold ReaderDatabase.recoverQueue
  simp only [inOpenBatch_recoverBatches]
  rfl

/-- Both recoveries. -/
def ReaderDatabase.restarted (db : ReaderDatabase) (readerId : ReaderId) (t : UnixMilliseconds) :
    ReaderDatabase :=
  (db.recoverBatches readerId t).recoverQueue readerId t

theorem inOpenBatch_restarted (row : OfflineTransactionRow) :
    (db.restarted readerId t).inOpenBatch row = db.inOpenBatch row := by
  show (db.recoverBatches readerId t).inOpenBatch row = _
  exact inOpenBatch_recoverBatches row

/-! ## Row by row -/

/-- What the recovery at `t` leaves of a batch. -/
structure SynchronizationBatchRow.Recovered (t : UnixMilliseconds)
    (row row' : SynchronizationBatchRow) : Prop where
  frozen : row'.frozen = row.frozen
  attempts : row'.attemptCount = row.attemptCount
  submitted : row'.submittedAt = row.submittedAt
  untouched : row.batchState ≠ .inFlight → row' = row
  eligible : row.batchState = .inFlight → row'.readyAt t = true ∧ row'.updatedAt ≤ t

/-- What the recovery at `t` leaves of a transaction, which is `held` by an open
batch or not. -/
structure OfflineTransactionRow.Recovered (t : UnixMilliseconds) (held : Bool)
    (row row' : OfflineTransactionRow) : Prop where
  frozen : row'.frozen = row.frozen
  attempts : row'.attemptCount = row.attemptCount
  untouched : row.queueState ≠ .inFlight ∨ held = true → row' = row
  eligible : row.queueState = .inFlight → held = false →
    row'.eligibleAt t = true ∧ row'.updatedAt ≤ t

theorem SynchronizationBatchRow.recovered_refl {row : SynchronizationBatchRow}
    (h : row.batchState ≠ .inFlight) : row.Recovered t row :=
  ⟨rfl, rfl, rfl, fun _ => rfl, fun hflight => absurd hflight h⟩

theorem SynchronizationBatchRow.recovered_recover {row : SynchronizationBatchRow}
    (h : row.batchState = .inFlight) : row.Recovered t (row.recover t) where
  frozen := rfl
  attempts := rfl
  submitted := rfl
  untouched hidle := absurd h hidle
  eligible _ := ⟨decide_eq_true (Int64.le_refl t), Int64.le_refl t⟩

theorem OfflineTransactionRow.recovered_refl {row : OfflineTransactionRow} {held : Bool}
    (h : row.queueState = .inFlight → held = true) : row.Recovered t held row where
  frozen := rfl
  attempts := rfl
  untouched _ := rfl
  eligible hflight hheld := by
    rw [h hflight] at hheld
    cases hheld

theorem OfflineTransactionRow.recovered_recover {row : OfflineTransactionRow}
    (h : row.queueState = .inFlight) : row.Recovered t false (row.recover t) where
  frozen := rfl
  attempts := rfl
  untouched hidle := by
    rcases hidle with hidle | hheld
    · exact absurd h hidle
    · cases hheld
  eligible _ _ := ⟨decide_eq_true (Int64.le_refl t), Int64.le_refl t⟩

/-- What a restart at `t` makes of a database. -/
structure Restarts (t : UnixMilliseconds) (db db' : ReaderDatabase) : Prop where
  idle : ∀ row ∈ db'.synchronizationBatches, row.batchState ≠ .inFlight
  grounded : db'.Grounded
  batches : List.Forall₂ (fun row row' => row.Recovered t row') db.synchronizationBatches
    db'.synchronizationBatches
  queue : List.Forall₂ (fun row row' => row.Recovered t (db.inOpenBatch row) row')
    db.offlineTransactions db'.offlineTransactions
  opened : ∀ row, db'.inOpenBatch row = db.inOpenBatch row
  reader : db'.readerState = db.readerState
  entries : db'.synchronizationEntries = db.synchronizationEntries
  acknowledgements :
    db'.synchronizationAcknowledgements = db.synchronizationAcknowledgements
  acknowledgementEntries :
    db'.synchronizationAcknowledgementEntries = db.synchronizationAcknowledgementEntries

/-- The recovery reaches every batch in flight. -/
theorem Consistent.selects_batch (inv : Consistent reader db) (hstamped : db.StampedBy t)
    {row : SynchronizationBatchRow}
    (hrow : row ∈ db.synchronizationBatches) :
    (row.readerId == reader.readerId && row.inFlightBy t) = (row.batchState == .inFlight) := by
  rw [inv.batches.owned row hrow, beq_self_eq_true, Bool.true_and,
    SynchronizationBatchRow.inFlightBy, decide_eq_true (hstamped.batches row hrow), Bool.and_true]

theorem Consistent.selects_transaction (inv : Consistent reader db) (hstamped : db.StampedBy t)
    {row : OfflineTransactionRow}
    (hrow : row ∈ db.offlineTransactions) :
    (row.readerId == reader.readerId && row.inFlightBy t && !db.inOpenBatch row) =
      (row.queueState == .inFlight && !db.inOpenBatch row) := by
  rw [inv.queue.owned row hrow, beq_self_eq_true, Bool.true_and, OfflineTransactionRow.inFlightBy,
    decide_eq_true (hstamped.queue row hrow), Bool.and_true]

theorem Consistent.restarts (inv : Consistent reader db) (hstamped : db.StampedBy t) :
    Restarts t db (db.restarted reader.readerId t) where
  idle := by
    intro row' hrow'
    obtain ⟨row, hrow, rfl⟩ := Table.mem_updateWhere.mp hrow'
    rw [inv.selects_batch hstamped hrow]
    split
    · exact nofun
    · next hidle => simpa using hidle
  grounded := by
    intro row' hrow' hflight
    rw [inOpenBatch_restarted]
    obtain ⟨row, hrow, rfl⟩ := Table.mem_updateWhere.mp hrow'
    rw [inOpenBatch_recoverBatches, inv.selects_transaction hstamped hrow] at hflight ⊢
    split at hflight
    · cases hflight
    · next hidle =>
      rw [if_neg hidle]
      simpa [hflight] using hidle
  batches := by
    refine Table.forall₂_updateWhere fun row hrow => ?_
    rw [inv.selects_batch hstamped hrow]
    split
    · next hflight => exact SynchronizationBatchRow.recovered_recover (beq_iff_eq.mp hflight)
    · next hidle => exact SynchronizationBatchRow.recovered_refl (by simpa using hidle)
  queue := by
    refine Table.forall₂_updateWhere fun row hrow => ?_
    rw [inOpenBatch_recoverBatches, inv.selects_transaction hstamped hrow]
    split
    · next hp =>
      simp only [Bool.and_eq_true, beq_iff_eq, Bool.not_eq_true'] at hp
      rw [hp.2]
      exact OfflineTransactionRow.recovered_recover hp.1
    · next hp =>
      refine OfflineTransactionRow.recovered_refl fun hflight => ?_
      simpa [hflight] using hp
  opened := inOpenBatch_restarted
  reader := rfl
  entries := rfl
  acknowledgements := rfl
  acknowledgementEntries := rfl

/-! ## A second restart -/

theorem Consistent.nonneg_of_stampedBy (inv : Consistent reader db) (hstamped : db.StampedBy t) :
    0 ≤ t := by
  have hcheck := inv.queue.readerCheck
  have hupdated := hstamped.reader reader inv.queue.bound
  simp only [ReaderStateRow.check, Bool.and_eq_true, decide_eq_true_eq] at hcheck
  grind

/-- Without batches in flight there is nothing to recover. -/
theorem recoverBatches_idle (hidle : ∀ row ∈ db.synchronizationBatches, row.batchState ≠ .inFlight)
    (ht : 0 ≤ t) : recoverInterruptedSynchronizationBatches db readerId t = ⟨db, .ok 0⟩ := by
  have hnone : ∀ row ∈ db.synchronizationBatches,
      (row.readerId == readerId && row.inFlightBy t) = false := by
    intro row hrow
    rw [SynchronizationBatchRow.inFlightBy, beq_eq_false_iff_ne.mpr (hidle row hrow),
      Bool.false_and, Bool.and_false]
  refine transact_eq ?_
  rw [validateTime_ok.mpr ht, ok_bind, updateBatches_ok, Table.updateWhere_eq_self hnone]
  refine ⟨fun row hrow hp => ?_, ?_, rfl⟩
  · rw [hnone row hrow] at hp
    cases hp
  · exact (List.countP_eq_zero.mpr fun row hrow => by rw [hnone row hrow]; decide).symm

theorem recoverQueue_idle (hground : db.Grounded) (ht : 0 ≤ t) :
    recoverInterruptedOfflineQueue db readerId t = ⟨db, .ok 0⟩ := by
  have hnone : ∀ row ∈ db.offlineTransactions,
      (row.readerId == readerId && row.inFlightBy t && !db.inOpenBatch row) = false := by
    intro row hrow
    by_cases hflight : row.queueState = .inFlight
    · rw [hground row hrow hflight, Bool.not_true, Bool.and_false]
    · rw [OfflineTransactionRow.inFlightBy, beq_eq_false_iff_ne.mpr hflight, Bool.false_and,
        Bool.and_false, Bool.false_and]
  refine transact_eq ?_
  rw [validateTime_ok.mpr ht, ok_bind, updateTransactions_ok, Table.updateWhere_eq_self hnone]
  refine ⟨fun row hrow hp => ?_, ?_, rfl⟩
  · rw [hnone row hrow] at hp
    cases hp
  · exact (List.countP_eq_zero.mpr fun row hrow => by rw [hnone row hrow]; decide).symm

/-- In every reachable database with no row updated after `t`, the two recoveries
at `t` succeed in either order and leave the same database, the one a restart
makes, in which a second restart finds nothing to do. -/
theorem restart_recovers {db₀ : ReaderDatabase} (h : FreshlyBound db₀) (ops : List Operation)
    (hreader : (Runs.run (perform codec) db₀ ops).readerState = some reader)
    (hstamped : (Runs.run (perform codec) db₀ ops).StampedBy t) :
    let db := Runs.run (perform codec) db₀ ops
    let batches := db.synchronizationBatches.countP (·.batchState == .inFlight)
    let transactions := db.offlineTransactions.countP fun row =>
      row.queueState == .inFlight && !db.inOpenBatch row
    ∃ batchesFirst queueFirst recovered : ReaderDatabase,
      recoverInterruptedSynchronizationBatches db reader.readerId t =
        ⟨batchesFirst, .ok batches⟩ ∧
      recoverInterruptedOfflineQueue batchesFirst reader.readerId t =
        ⟨recovered, .ok transactions⟩ ∧
      recoverInterruptedOfflineQueue db reader.readerId t = ⟨queueFirst, .ok transactions⟩ ∧
      recoverInterruptedSynchronizationBatches queueFirst reader.readerId t =
        ⟨recovered, .ok batches⟩ ∧
      Restarts t db recovered ∧
      recoverInterruptedSynchronizationBatches recovered reader.readerId t = ⟨recovered, .ok 0⟩ ∧
      recoverInterruptedOfflineQueue recovered reader.readerId t = ⟨recovered, .ok 0⟩ := by
  intro db batches transactions
  obtain ⟨reader', inv⟩ : ∃ reader, Consistent reader db := consistent_run h ops
  obtain rfl : reader' = reader := Option.some.inj (inv.queue.bound.symm.trans hreader)
  have ht := inv.nonneg_of_stampedBy hstamped
  have hbatches : batches = db.synchronizationBatches.countP fun row =>
      row.readerId == reader'.readerId && row.inFlightBy t :=
    List.countP_congr fun row hrow => by rw [inv.selects_batch hstamped hrow]
  have htransactions : transactions = db.offlineTransactions.countP fun row =>
      row.readerId == reader'.readerId && row.inFlightBy t && !db.inOpenBatch row :=
    List.countP_congr fun row hrow => by rw [inv.selects_transaction hstamped hrow]
  have hchecks : ∀ row ∈ db.synchronizationBatches, row.check = true := fun row hrow =>
    (inv.batches.valid row hrow).check
  have hrestarts := inv.restarts hstamped
  refine ⟨db.recoverBatches reader'.readerId t, db.recoverQueue reader'.readerId t,
    db.restarted reader'.readerId t, ?_, ?_, ?_, ?_, hrestarts, ?_, ?_⟩
  · rw [recoverInterruptedSynchronizationBatches_eq ht hchecks, hbatches]
  · have hafter : recoverInterruptedOfflineQueue (db.recoverBatches reader'.readerId t)
        reader'.readerId t = _ := recoverInterruptedOfflineQueue_eq ht inv.queue.checks
    simp only [inOpenBatch_recoverBatches] at hafter
    rw [hafter, htransactions]
    rfl
  · rw [recoverInterruptedOfflineQueue_eq ht inv.queue.checks, htransactions]
  · have hafter : recoverInterruptedSynchronizationBatches (db.recoverQueue reader'.readerId t)
        reader'.readerId t = _ := recoverInterruptedSynchronizationBatches_eq ht hchecks
    rw [hafter, hbatches, ← recoverQueue_recoverBatches]
    rfl
  · exact recoverBatches_idle hrestarts.idle ht
  · exact recoverQueue_idle hrestarts.grounded ht

/-- The submitted batch of the sample is recovered at 3. -/
theorem restart_recovers_submission :
    ∃ recovered, Restarts 3 (Runs.run (perform sampleCodec) sampleDatabase sampleSubmission)
      recovered ∧
      recoverInterruptedSynchronizationBatches recovered sampleReaderId 3 =
        ⟨recovered, .ok 0⟩ := by
  obtain ⟨reader, hreader, hid⟩ := sampleSubmission_reader
  have hstamped : (Runs.run (perform sampleCodec) sampleDatabase sampleSubmission).StampedBy 3 := by
    constructor <;> decide
  obtain ⟨-, -, recovered, -, -, -, -, hrestarts, hagain, -⟩ :=
    restart_recovers sampleDatabase_freshlyBound sampleSubmission hreader hstamped
  rw [hid] at hagain
  exact ⟨recovered, hrestarts, hagain⟩

end TransitGuard.Reader
