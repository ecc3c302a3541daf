import TransitGuard.Reader.InFlight

/-!
Batches that can move on. An open batch whose transactions are all in flight
passes the count every batch transition makes, so the conflicts those
transitions report do not occur, and the batch can always be submitted again.
-/

namespace TransitGuard.Reader

open Fallible

variable {codec : Json.Codec} {db db' : ReaderDatabase} {op : Operation}
  {reader : ReaderStateRow}

/-! ## Loading a stored batch -/

theorem QueueInvariant.sequence_bounds (inv : QueueInvariant reader db)
    {row : OfflineTransactionRow} (hrow : row ∈ db.offlineTransactions) :
    1 ≤ row.localSequenceNumber ∧ row.localSequenceNumber < reader.nextLocalSequence := by
  have hmem := List.mem_map_of_mem (f := (·.localSequenceNumber)) hrow
  rw [inv.sequences, List.mem_range'_1] at hmem
  omega

theorem Consistent.entry_lt (inv : Consistent reader db) {entry : SynchronizationEntryRow}
    (hentry : entry ∈ db.synchronizationEntries) :
    1 ≤ entry.localSequenceNumber ∧ entry.localSequenceNumber < i64Max := by
  obtain ⟨row, hrow, hkey⟩ := inv.batches.entryQueued entry hentry
  have hseq : row.localSequenceNumber = entry.localSequenceNumber := congrArg Prod.snd hkey
  have hbounds := inv.queue.sequence_bounds hrow
  have hnext := inv.queue.next_le
  omega

theorem Consistent.entry_bounds (inv : Consistent reader db) {entry : SynchronizationEntryRow}
    (hentry : entry ∈ db.synchronizationEntries) :
    1 ≤ entry.localSequenceNumber ∧ entry.localSequenceNumber < 2 ^ 64 := by
  have hbounds := inv.entry_lt hentry
  unfold i64Max at hbounds
  omega

/-- Rows with sequences in range are the keys of entries. -/
theorem exists_entries_of_bounds {rows : List SynchronizationEntryRow}
    (hbounds : ∀ row ∈ rows, 1 ≤ row.localSequenceNumber ∧ row.localSequenceNumber < 2 ^ 64) :
    ∃ entries : List SynchronizationBatchEntry, entries.map (·.key) = rows.map (·.key) := by
  induction rows with
  | nil => exact ⟨[], rfl⟩
  | cons row rows ih =>
    rw [List.forall_mem_cons] at hbounds
    obtain ⟨entries, hentries⟩ := ih hbounds.2
    refine ⟨⟨row.fareTransactionId, row.localSequenceNumber, hbounds.1.1, hbounds.1.2⟩ :: entries,
      ?_⟩
    rw [List.map_cons, List.map_cons, hentries]
    rfl

/-- A stored batch can be loaded until its attempt counter leaves 32 bits. -/
theorem Consistent.load_ok (inv : Consistent reader db) {row : SynchronizationBatchRow}
    (hrow : row ∈ db.synchronizationBatches) (hattempts : row.attemptCount < 2 ^ 32) :
    ∃ batch, loadSynchronizationBatch db reader.readerId row.batchId = .ok batch ∧
      batch.state = row.batchState := by
  have hvalid := (inv.batches.valid row hrow).check
  have hholds := inv.batches.holds row hrow
  have hbounds : ∀ entry ∈ db.entriesOf row.batchId,
      1 ≤ entry.localSequenceNumber ∧ entry.localSequenceNumber < 2 ^ 64 := fun entry hentry =>
    inv.entry_bounds (List.mem_of_mem_filter hentry)
  obtain ⟨entries, hkeys⟩ := exists_entries_of_bounds hbounds
  have hsequences : entries.map (·.localSequenceNumber.value) =
      (db.entriesOf row.batchId).map (·.localSequenceNumber) := map_snd_of_keys hkeys
  have hfirst := hholds.first
  have hlast := hholds.last
  rw [← List.head?_map, ← hsequences, List.head?_map, Option.map_eq_some_iff] at hfirst
  rw [← List.getLast?_map, ← hsequences, List.getLast?_map, Option.map_eq_some_iff] at hlast
  obtain ⟨first, hhead, hfirst⟩ := hfirst
  obtain ⟨last, htail, hlast⟩ := hlast
  simp only [SynchronizationBatchRow.check, Bool.and_eq_true, decide_eq_true_eq] at hvalid
  obtain ⟨⟨⟨⟨⟨⟨⟨hversion, hversion'⟩, -⟩, hle⟩, hsubmitted⟩, hretry⟩, hcreated⟩, hupdated⟩ := hvalid
  have hdecoded : ∃ batch, decodeStoredBatch row (db.entriesOf row.batchId) = .ok batch ∧
      batch.state = row.batchState := by
    simp only [decodeStoredBatch, bind_eq_ok, decodeProtocolVersion_ok, decodeSequence_ok,
      guard_eq_ok, decodeBatchEntries_ok]
    refine ⟨{ row with
        protocolVersion := ⟨row.protocolVersion, hversion, by omega⟩
        firstLocalSequenceNumber := first.localSequenceNumber
        lastLocalSequenceNumber := last.localSequenceNumber
        state := row.batchState
        entries }, ⟨⟨row.protocolVersion, hversion, by omega⟩, rfl, _, hfirst, _, hlast, by omega,
      by omega, ?_, ?_, ?_, ?_, entries, ⟨hholds.positions, hkeys⟩, ?_⟩, rfl⟩
    · cases hs : row.submittedAt <;> grind
    · cases hs : row.nextRetryAt <;> grind
    · grind
    · grind
    · rw [hhead, htail]
      simp
  rw [loadSynchronizationBatch, inv.batches.findBatch hrow,
    inv.batches.orderBy_entryPosition hrow]
  exact hdecoded

/-- A batch that was loaded counts its attempts in 32 bits. -/
theorem Consistent.attempts_of_load (inv : Consistent reader db) {row : SynchronizationBatchRow}
    (hrow : row ∈ db.synchronizationBatches) {batch : SynchronizationBatch}
    (h : loadSynchronizationBatch db reader.readerId row.batchId = .ok batch) :
    row.attemptCount < 2 ^ 32 := by
  simp only [loadSynchronizationBatch, inv.batches.findBatch hrow, orFail, ok_bind,
    decodeStoredBatch, bind_eq_ok, guard_eq_ok] at h
  obtain ⟨-, -, -, -, -, -, -, hattempts, -⟩ := h
  exact Nat.lt_of_not_le hattempts

/-! ## The transitions of an open batch -/

theorem SynchronizationBatchRow.submit_check {row : SynchronizationBatchRow}
    {t : UnixMilliseconds} (h : row.check = true) (ht : 0 ≤ t) (hupdated : row.updatedAt ≤ t) :
    (row.submit t).check = true := by
  simp only [check, submit, Bool.and_eq_true, decide_eq_true_eq] at h ⊢
  cases hs : row.submittedAt <;> grind

theorem OfflineTransactionRow.countAttempt_check {row : OfflineTransactionRow}
    {t : UnixMilliseconds} (h : row.check = true) (hupdated : row.updatedAt ≤ t) :
    (row.countAttempt t).check = true := by
  simp only [check, countAttempt, Bool.and_eq_true, decide_eq_true_eq] at h ⊢
  grind

/-- Every transaction of the batch is in flight. -/
def ReaderDatabase.AllInFlight (db : ReaderDatabase) (readerId : ReaderId)
    (batchId : SynchronizationBatchId) : Prop :=
  ∀ row ∈ db.offlineTransactions, db.inBatch readerId batchId row = true →
    row.queueState = .inFlight

theorem Consistent.allInFlight (inv : Consistent reader db) (hheld : db.Held)
    {batch : SynchronizationBatchRow} (hbatch : batch ∈ db.synchronizationBatches)
    (hopen : batch.batchState.isOpen = true) :
    db.AllInFlight reader.readerId batch.batchId := by
  intro row hrow hmember
  obtain ⟨entry, hentry, hid⟩ := List.mem_map.mp (inv.batches.mem_inBatch.mp hmember)
  obtain ⟨hentry, hbatchid⟩ := ReaderDatabase.mem_entriesOf.mp hentry
  refine hheld row hrow ((inv.inOpenBatch_iff hrow).mpr ⟨entry, hentry, hid, ?_⟩)
  exact ⟨batch, hbatch, hbatchid.symm, hopen⟩

/-- Transactions in flight that were not updated later are all reached by the
transitions of their batch. -/
theorem Consistent.count_inFlightEntry (inv : Consistent reader db)
    {batch : SynchronizationBatchRow} (hbatch : batch ∈ db.synchronizationBatches)
    (hall : db.AllInFlight reader.readerId batch.batchId) {t : UnixMilliseconds}
    (hlate : ∀ row ∈ db.offlineTransactions,
      db.inBatch reader.readerId batch.batchId row = true → row.updatedAt ≤ t) :
    db.offlineTransactions.countP (db.inFlightEntry reader.readerId batch.batchId t) =
      (db.batchEntries reader.readerId batch.batchId).length := by
  rw [inv.batches.batchEntries_eq, ← List.length_map (·.fareTransactionId)]
  refine Table.countP_eq_length_of_forall inv.queue.ids
    (inv.batches.nodup_transactions inv.queue hbatch) (fun row _ hp => ?_) fun id hid => ?_
  · simp only [ReaderDatabase.inFlightEntry, Bool.and_eq_true] at hp
    exact inv.batches.mem_inBatch.mp hp.2
  · obtain ⟨entry, hentry, rfl⟩ := List.mem_map.mp hid
    obtain ⟨row, hrow, hkey⟩ := inv.batches.entryQueued entry (List.mem_of_mem_filter hentry)
    have hrowid : row.fareTransactionId = entry.fareTransactionId := congrArg Prod.fst hkey
    have hmember : db.inBatch reader.readerId batch.batchId row = true := by
      rw [inv.batches.mem_inBatch, hrowid]
      exact hid
    refine ⟨row, hrow, ?_, hrowid⟩
    simp only [ReaderDatabase.inFlightEntry, OfflineTransactionRow.inFlightBy, Bool.and_eq_true,
      beq_iff_eq, decide_eq_true_eq]
    exact ⟨⟨inv.queue.owned row hrow, hall row hrow hmember, hlate row hrow hmember⟩, hmember⟩

theorem thenLoad_eq_ok {readerId : ReaderId} {batchId : SynchronizationBatchId}
    {body : Except ReaderSynchronizationStateError (Unit × ReaderDatabase)}
    {batch : SynchronizationBatch} :
    (thenLoad readerId batchId (transact db body)).result = .ok batch ↔
      ∃ db', body = .ok ((), db') ∧ loadSynchronizationBatch db' readerId batchId = .ok batch := by
  cases body with
  | error e =>
    constructor
    · intro h
      cases h
    · rintro ⟨db', h, -⟩
      cases h
  | ok out =>
    simp only [thenLoad, transact, bind_eq_ok, mapError_eq_ok, Except.ok.injEq]
    constructor
    · rintro ⟨-, -, h⟩
      exact ⟨out.2, rfl, h⟩
    · rintro ⟨db', rfl, h⟩
      exact ⟨(), trivial, h⟩

/-- The database right after the submission of a batch. -/
def ReaderDatabase.afterSubmission (db : ReaderDatabase) (readerId : ReaderId)
    (batchId : SynchronizationBatchId) (t : UnixMilliseconds) : ReaderDatabase :=
  { db with
    synchronizationBatches := Table.updateWhere
      (fun row => row.named readerId batchId && row.updatedAt ≤ t && row.readyAt t)
      (·.submit t) db.synchronizationBatches
    offlineTransactions := Table.updateWhere (db.inFlightEntry readerId batchId t)
      (·.countAttempt t) db.offlineTransactions }

theorem SynchronizationBatchRow.nonneg_of_updatedAt_le {row : SynchronizationBatchRow}
    {t : UnixMilliseconds} (h : row.check = true) (hupdated : row.updatedAt ≤ t) : 0 ≤ t := by
  simp only [check, Bool.and_eq_true, decide_eq_true_eq] at h
  grind

/-- The submission of a batch that is due commits when it reaches all its
transactions. -/
theorem Consistent.mark_eq (codec : Json.Codec) (inv : Consistent reader db) {readerId : ReaderId}
    {batchId : SynchronizationBatchId} {t : UnixMilliseconds} {batch : SynchronizationBatchRow}
    (hbatch : batch ∈ db.synchronizationBatches)
    (hselected : (batch.named readerId batchId && batch.updatedAt ≤ t && batch.readyAt t) = true)
    (hcount : db.offlineTransactions.countP (db.inFlightEntry readerId batchId t) =
      (db.batchEntries readerId batchId).length) :
    Committed codec db (.markBatch readerId batchId t) (db.afterSubmission readerId batchId t) ∧
      markSynchronizationBatchInFlight db readerId batchId t =
        thenLoad readerId batchId ⟨db.afterSubmission readerId batchId t, .ok ()⟩ := by
  have hnamed : ∀ row ∈ db.synchronizationBatches,
      (row.named readerId batchId && row.updatedAt ≤ t && row.readyAt t) = true →
        row.batchId = batchId := by
    intro row _ hp
    simp only [SynchronizationBatchRow.named, Bool.and_eq_true, beq_iff_eq] at hp
    exact hp.1.1.1
  have hnonneg : 0 ≤ t := by
    simp only [Bool.and_eq_true, decide_eq_true_eq] at hselected
    exact SynchronizationBatchRow.nonneg_of_updatedAt_le (inv.batches.valid batch hbatch).check
      hselected.1.2
  have hcheck : ∀ row ∈ db.synchronizationBatches,
      (row.named readerId batchId && row.updatedAt ≤ t && row.readyAt t) = true →
        (row.submit t).check = true := by
    intro row hrow hp
    simp only [Bool.and_eq_true, decide_eq_true_eq] at hp
    exact SynchronizationBatchRow.submit_check (inv.batches.valid row hrow).check hnonneg hp.1.2
  have hqueueCheck : ∀ row ∈ db.offlineTransactions,
      db.inFlightEntry readerId batchId t row = true → (row.countAttempt t).check = true := by
    intro row hrow hp
    simp only [ReaderDatabase.inFlightEntry, OfflineTransactionRow.inFlightBy, Bool.and_eq_true,
      decide_eq_true_eq] at hp
    exact OfflineTransactionRow.countAttempt_check (inv.queue.checks row hrow) hp.1.2.2
  have hnonempty : (db.batchEntries readerId batchId).length ≠ 0 := by
    have hid := hnamed batch hbatch hselected
    have howner : readerId = reader.readerId := by
      simp only [SynchronizationBatchRow.named, Bool.and_eq_true, beq_iff_eq] at hselected
      exact hselected.1.1.2.symm.trans (inv.batches.owned batch hbatch)
    rw [howner, inv.batches.batchEntries_eq, ← hid]
    intro hlength
    have hfirst := (inv.batches.holds batch hbatch).first
    rw [List.eq_nil_of_length_eq_zero hlength] at hfirst
    cases hfirst
  refine ⟨.markBatch hcheck hqueueCheck hcount, ?_⟩
  rw [markSynchronizationBatchInFlight]
  congr 1
  refine transact_eq ?_
  simp only [bind_eq_ok, updateOneBatch_ok, updateEntryTransactions_ok, Except.ok.injEq,
    Prod.mk.injEq]
  exact ⟨(), validateTime_ok.mpr hnonneg, _, ⟨hcheck, (Table.countP_eq_one_iff inv.batches.ids
    hnamed).mpr ⟨batch, hbatch, hselected⟩, rfl⟩, _, ⟨hnonempty, hqueueCheck, hcount, rfl⟩,
    trivial, rfl⟩

/-- A submission that commits can be read back while its attempts are counted
in 32 bits. -/
theorem Consistent.mark_ok (codec : Json.Codec) (inv : Consistent reader db)
    {batch : SynchronizationBatchRow} (hbatch : batch ∈ db.synchronizationBatches)
    (hall : db.AllInFlight reader.readerId batch.batchId) {t : UnixMilliseconds}
    (hready : batch.readyAt t = true) (hupdated : batch.updatedAt ≤ t)
    (hlate : ∀ row ∈ db.offlineTransactions,
      db.inBatch reader.readerId batch.batchId row = true → row.updatedAt ≤ t)
    (hattempts : batch.attemptCount < 2 ^ 32 - 1) :
    ∃ submitted, (markSynchronizationBatchInFlight db reader.readerId batch.batchId t).result =
      .ok submitted := by
  have hselected : (batch.named reader.readerId batch.batchId && batch.updatedAt ≤ t &&
      batch.readyAt t) = true := by
    simp [SynchronizationBatchRow.named, inv.batches.owned batch hbatch, hupdated, hready]
  obtain ⟨hcommitted, hmark⟩ := inv.mark_eq codec hbatch hselected
    (inv.count_inFlightEntry hbatch hall hlate)
  obtain ⟨reader', inv', hfrozen⟩ := inv.step hcommitted
  have hrow : batch.submit t ∈ (db.afterSubmission reader.readerId batch.batchId
      t).synchronizationBatches :=
    Table.mem_updateWhere.mpr ⟨batch, hbatch, (if_pos hselected).symm⟩
  obtain ⟨loaded, hloaded, -⟩ := inv'.load_ok hrow (Nat.add_lt_of_lt_sub hattempts)
  have hid : reader'.readerId = reader.readerId := congrArg (·.readerId) hfrozen
  rw [hid] at hloaded
  refine ⟨loaded, ?_⟩
  rw [hmark, thenLoad]
  exact mapError_eq_ok.mpr hloaded

/-! ## Submission of every open batch -/

theorem UnixMilliseconds.le_maxValue (t : UnixMilliseconds) : t ≤ Int64.maxValue :=
  Int64.le_iff_toInt_le.mpr t.toInt_le

/-- A prepared or retryable batch can be submitted at some time exactly when all
its transactions are in flight. -/
theorem Consistent.submittable_iff (codec : Json.Codec) (inv : Consistent reader db)
    {batch : SynchronizationBatchRow} (hbatch : batch ∈ db.synchronizationBatches)
    (hstate : batch.batchState = .prepared ∨ batch.batchState = .retryableFailure)
    (hattempts : batch.attemptCount < 2 ^ 32 - 1) :
    (∃ t submitted, (markSynchronizationBatchInFlight db reader.readerId batch.batchId
        t).result = .ok submitted) ↔ db.AllInFlight reader.readerId batch.batchId := by
  constructor
  · rintro ⟨t, submitted, hresult⟩ row hrow hmember
    simp only [markSynchronizationBatchInFlight, thenLoad_eq_ok, bind_eq_ok,
      updateEntryTransactions_ok] at hresult
    obtain ⟨-, ⟨-, -, -, -, -, ⟨-, -, hcount, -⟩, -⟩, -⟩ := hresult
    have hp := inv.inFlightEntry_of_count hcount hrow (inv.batches.mem_inBatch.mp hmember)
    simp only [ReaderDatabase.inFlightEntry, OfflineTransactionRow.inFlightBy, Bool.and_eq_true,
      beq_iff_eq] at hp
    exact hp.1.2.1
  · intro hall
    have hready : batch.readyAt Int64.maxValue = true := by
      unfold SynchronizationBatchRow.readyAt
      rcases hstate with hstate | hstate <;> rw [hstate]
      cases batch.nextRetryAt with
      | none => rfl
      | some retryAt => exact decide_eq_true (UnixMilliseconds.le_maxValue retryAt)
    exact ⟨Int64.maxValue, inv.mark_ok codec hbatch hall hready
      (UnixMilliseconds.le_maxValue _) (fun _ _ _ => UnixMilliseconds.le_maxValue _) hattempts⟩

/-- As long as no call takes a transaction out of an open batch, every prepared
or retryable batch can be submitted at some time. -/
theorem openBatch_submittable {db₀ : ReaderDatabase} (h : FreshlyBound db₀)
    (ops : List Operation)
    (hspares : Runs.StepsMeet (perform codec) (fun db op => op.sparesOpenBatches db = true)
      db₀ ops) :
    let db := Runs.run (perform codec) db₀ ops
    ∀ batch ∈ db.synchronizationBatches,
      batch.batchState = .prepared ∨ batch.batchState = .retryableFailure →
      batch.attemptCount < 2 ^ 32 - 1 →
        ∃ t submitted, (markSynchronizationBatchInFlight db batch.readerId batch.batchId
          t).result = .ok submitted := by
  intro db batch hbatch hstate hattempts
  obtain ⟨reader, inv⟩ : ∃ reader, Consistent reader db := consistent_run h ops
  have hopen : batch.batchState.isOpen = true := by
    rcases hstate with hstate | hstate <;> rw [hstate] <;> rfl
  rw [inv.batches.owned batch hbatch]
  exact (inv.submittable_iff codec hbatch hstate hattempts).mpr
    (inv.allInFlight (held_run h hspares) hbatch hopen)

/-- A transaction is queued, put into a batch, and failed for good on its own. -/
def sampleWedge : List Operation :=
  [.enqueue sampleReaderId (sampleDraft (.object [])),
    .createBatch sampleReaderId .current 1 10 sampleBatchId,
    .failTransaction sampleReaderId sampleTransactionId "card_blocked" 2 .permanentFailure]

theorem openBatch_submittable_submission :
    FreshlyBound sampleDatabase ∧
      ∀ batch ∈ (Runs.run (perform sampleCodec) sampleDatabase
          (sampleSubmission.take 2)).synchronizationBatches,
        batch.batchState = .prepared ∨ batch.batchState = .retryableFailure →
        batch.attemptCount < 2 ^ 32 - 1 →
          ∃ t submitted, (markSynchronizationBatchInFlight
            (Runs.run (perform sampleCodec) sampleDatabase (sampleSubmission.take 2))
            batch.readerId batch.batchId t).result = .ok submitted :=
  ⟨sampleDatabase_freshlyBound,
    openBatch_submittable sampleDatabase_freshlyBound (sampleSubmission.take 2)
      ⟨by decide, by decide, trivial⟩⟩

/-- The batch of that transaction stays prepared and can never be submitted. -/
theorem openBatch_wedged :
    ¬∀ (db₀ : ReaderDatabase) (ops : List Operation), FreshlyBound db₀ →
      ∀ batch ∈ (Runs.run (perform sampleCodec) db₀ ops).synchronizationBatches,
        batch.batchState = .prepared ∨ batch.batchState = .retryableFailure →
        batch.attemptCount < 2 ^ 32 - 1 →
          ∃ t submitted, (markSynchronizationBatchInFlight
            (Runs.run (perform sampleCodec) db₀ ops) batch.readerId batch.batchId t).result =
              .ok submitted := by
  intro hclaim
  obtain ⟨reader, inv⟩ : ∃ reader, Consistent reader
      (Runs.run (perform sampleCodec) sampleDatabase sampleWedge) :=
    consistent_run sampleDatabase_freshlyBound sampleWedge
  have hbatch : ∃ batch ∈ (Runs.run (perform sampleCodec) sampleDatabase
      sampleWedge).synchronizationBatches,
      batch.batchState = .prepared ∧ batch.attemptCount < 2 ^ 32 - 1 := by decide
  obtain ⟨batch, hbatch, hstate, hattempts⟩ := hbatch
  have hsubmitted := hclaim sampleDatabase sampleWedge sampleDatabase_freshlyBound batch hbatch
    (.inl hstate) hattempts
  rw [inv.batches.owned batch hbatch, inv.submittable_iff sampleCodec hbatch (.inl hstate)
    hattempts, ← inv.batches.owned batch hbatch] at hsubmitted
  have hfailed : ∀ batch ∈ (Runs.run (perform sampleCodec) sampleDatabase
      sampleWedge).synchronizationBatches, ∃ row ∈ (Runs.run (perform sampleCodec) sampleDatabase
      sampleWedge).offlineTransactions, (Runs.run (perform sampleCodec) sampleDatabase
        sampleWedge).inBatch batch.readerId batch.batchId row = true ∧
          row.queueState ≠ .inFlight := by decide
  obtain ⟨row, hrow, hmember, hne⟩ := hfailed batch hbatch
  exact hne (hsubmitted row hrow hmember)

/-! ## Conflicts -/

theorem validateTime_eq_error {ε : Type} {f : UnixMilliseconds → ε} {t : UnixMilliseconds} {e : ε}
    (h : validateTime f t = .error e) : e = f t := by
  unfold validateTime at h
  split at h <;> cases h
  rfl

theorem validateCategory_eq_error {ε : Type} {e e' : ε} {category : String}
    (h : validateCategory e category = .error e') : e' = e := by
  simp only [validateCategory, ite_error_eq_error, reduceCtorEq, and_false, or_false] at h
  exact h.2.symm

theorem thenLoad_eq_error {readerId : ReaderId} {batchId : SynchronizationBatchId}
    {body : Except ReaderSynchronizationStateError (Unit × ReaderDatabase)}
    {e : ReaderSynchronizationStateError}
    (h : (thenLoad readerId batchId (transact db body)).result = .error e) :
    body = .error e ∨ ∃ e', e = .synchronization e' := by
  cases body with
  | error e' =>
    cases h
    exact .inl rfl
  | ok out =>
    simp only [thenLoad, transact, bind_eq_error, mapError_eq_error] at h
    obtain h | ⟨-, -, e', -, rfl⟩ := h
    · cases h
    · exact .inr ⟨e', rfl⟩

variable {readerId : ReaderId} {batchId id : SynchronizationBatchId} {t : UnixMilliseconds}
  {expected updated : Nat} {category : String} {target : FinalState} {transition : String}

theorem updateOneBatch_ne_conflict {operation : String} {p : SynchronizationBatchRow → Bool}
    {f : SynchronizationBatchRow → SynchronizationBatchRow} :
    updateOneBatch db operation transition batchId p f ≠
      .error (.batchEntryConflict id expected updated) := by
  intro h
  simp only [updateOneBatch, bind_eq_error, orFail_eq_error, guard_eq_error, reduceCtorEq,
    and_false, or_false, exists_false] at h

theorem updateEntryTransactions_conflict {operation : String}
    {f : OfflineTransactionRow → OfflineTransactionRow}
    (h : updateEntryTransactions db operation readerId batchId t f =
      .error (.batchEntryConflict id expected updated)) :
    db.offlineTransactions.countP (db.inFlightEntry readerId batchId t) ≠
      (db.batchEntries readerId batchId).length := by
  simp only [updateEntryTransactions, bind_eq_error, orFail_eq_error, guard_eq_error,
    reduceCtorEq, and_false, or_false, false_or, Prod.exists, orFail_eq_ok,
    Table.update_eq_some, Prod.mk.injEq] at h
  obtain ⟨-, _, _, ⟨-, -, rfl⟩, hne, -⟩ := h
  exact hne

theorem mark_conflict
    (h : (markSynchronizationBatchInFlight db readerId batchId t).result =
      .error (.batchEntryConflict id expected updated)) :
    db.offlineTransactions.countP (db.inFlightEntry readerId batchId t) ≠
      (db.batchEntries readerId batchId).length := by
  obtain hbody | ⟨_, hload⟩ := thenLoad_eq_error h
  · simp only [bind_eq_error] at hbody
    obtain htime | ⟨_, -, hbatch | ⟨_, -, hentries | ⟨_, -, hok⟩⟩⟩ := hbody
    · cases validateTime_eq_error htime
    · exact absurd hbatch updateOneBatch_ne_conflict
    · exact updateEntryTransactions_conflict hentries
    · cases hok
  · cases hload

theorem finalFailure_conflict
    (h : (recordFinalSynchronizationFailure db readerId batchId category t target
      transition).result = .error (.batchEntryConflict id expected updated)) :
    db.offlineTransactions.countP (db.inFlightEntry readerId batchId t) ≠
      (db.batchEntries readerId batchId).length := by
  obtain hbody | ⟨_, hload⟩ := thenLoad_eq_error h
  · simp only [bind_eq_error] at hbody
    obtain htime | ⟨_, -, hcategory | ⟨_, -, hbatch | ⟨_, -, hentries | ⟨_, -, hok⟩⟩⟩⟩ := hbody
    · cases validateTime_eq_error htime
    · cases validateCategory_eq_error hcategory
    · exact absurd hbatch updateOneBatch_ne_conflict
    · exact updateEntryTransactions_conflict hentries
    · cases hok
  · cases hload

/-! ## Conflicts of an application -/

theorem DecodedAcknowledgementEntry.settle_check {entry : DecodedAcknowledgementEntry}
    {row : OfflineTransactionRow} {receivedAt : UnixMilliseconds} (h : row.check = true)
    (hreceived : 0 ≤ receivedAt) (hupdated : row.updatedAt ≤ t)
    (hretry : entry.resolution.queueValues.2.2.all (receivedAt ≤ ·) = true) :
    (entry.settle t row).check = true := by
  simp only [OfflineTransactionRow.check, settle, OfflineTransactionRow.resolve, Bool.and_eq_true,
    decide_eq_true_eq] at h ⊢
  cases hr : entry.resolution.queueValues.2.2 with
  | none => grind
  | some retryAt =>
    rw [hr] at hretry
    have hretry : receivedAt ≤ retryAt := of_decide_eq_true hretry
    have hnonneg : 0 ≤ retryAt := Int64.le_trans hreceived hretry
    simp only [Option.all_some, decide_eq_true_eq]
    grind

section Conflict

variable {transactionId : FareTransactionId}

theorem validatedFailureCategory_ne_conflict {failureCategory : Option String} :
    validatedFailureCategory failureCategory ≠ .error (.entryStateConflict transactionId) := by
  intro h
  simp only [validatedFailureCategory, bind_eq_error, orFail_eq_error, reduceCtorEq,
    and_false, false_or] at h
  obtain ⟨category, -, h⟩ := h
  cases validateCategory_eq_error h

theorem decodeResolution_ne_conflict {outcome : Protocol.EntryOutcome}
    {failureCategory : Option String} {retryAt : Option UnixMilliseconds}
    {receivedAt : UnixMilliseconds} :
    decodeResolution outcome failureCategory retryAt receivedAt ≠
      .error (.entryStateConflict transactionId) := by
  intro h
  have hmap : ∀ f : String → SynchronizationEntryResolution,
      (validatedFailureCategory failureCategory).map f ≠
        .error (.entryStateConflict transactionId) := by
    intro f hf
    cases hc : validatedFailureCategory failureCategory with
    | ok category => rw [hc] at hf; cases hf
    | error e =>
      rw [hc] at hf
      cases hf
      exact validatedFailureCategory_ne_conflict hc
  cases outcome with
  | acknowledged =>
    simp [decodeResolution, ite_error_eq_error] at h
  | retryableFailure =>
    simp only [decodeResolution, bind_eq_error, orFail_eq_error, ite_error_eq_error, reduceCtorEq,
      and_false, or_false, exists_false] at h
    exact validatedFailureCategory_ne_conflict h
  | permanentFailure | manualReview =>
    simp only [decodeResolution, ite_error_eq_error, reduceCtorEq, and_false, false_or] at h
    exact hmap _ h.2

theorem decodeAcknowledgementEntries_ne_conflict {receivedAt : UnixMilliseconds} {position : Nat}
    {rows : List SynchronizationAcknowledgementEntryRow} :
    decodeAcknowledgementEntries receivedAt position rows ≠
      .error (.entryStateConflict transactionId) := by
  induction rows generalizing position with
  | nil => exact nofun
  | cons row rows ih =>
    intro h
    simp only [decodeAcknowledgementEntries, bind_eq_error, guard_eq_error, reduceCtorEq,
      and_false, false_or, or_false, exists_false] at h
    obtain ⟨-, -, h | ⟨_, -, h⟩⟩ := h
    · exact decodeResolution_ne_conflict h
    · exact ih h

theorem contiguousFrom_ne_conflict {last expected : Nat} {rows : List OfflineTransactionRow} :
    contiguousFrom last expected rows ≠ .error (.entryStateConflict transactionId) := by
  induction rows generalizing last expected with
  | nil => exact nofun
  | cons row rows ih =>
    intro h
    simp only [contiguousFrom, ite_error_eq_error, reduceCtorEq, and_false, false_or] at h
    obtain ⟨-, h⟩ := h
    split_ifs at h
    · cases h
    · exact ih h

theorem advanceReader_ne_conflict {readerState : Option ReaderStateRow} {current advanced : Nat} :
    advanceReader readerState readerId current advanced t ≠
      .error (.entryStateConflict transactionId) := by
  intro h
  unfold advanceReader at h
  split at h
  · cases h
  · simp only [bind_eq_error, guard_eq_error, orFail_eq_error, reduceCtorEq, and_false, or_false,
      exists_false] at h

theorem applyStatements_conflict {entries : List DecodedAcknowledgementEntry} {current : Nat}
    (h : applyStatements db readerId batchId t entries current =
      .error (.entryStateConflict transactionId)) :
    applyEntries readerId t entries db.offlineTransactions =
      .error (.entryStateConflict transactionId) := by
  simp only [applyStatements, bind_eq_error, guard_eq_error, orFail_eq_error, reduceCtorEq,
    and_false, false_or, or_false, exists_false] at h
  obtain ⟨_, -, -, h | ⟨_, -, _, -, -, h | ⟨_, -, h⟩⟩⟩ := h
  · exact h
  · unfold contiguousResolvedSequence at h
    rw [ite_error_eq_error] at h
    simp only [reduceCtorEq, and_false, false_or] at h
    exact absurd h.2 contiguousFrom_ne_conflict
  · exact absurd h advanceReader_ne_conflict

/-- The only statement of an application that reports an entry conflict is the
update of that entry. -/
theorem apply_conflict
    (h : (applySynchronizationAcknowledgement db readerId batchId t).result =
      .error (.entryStateConflict transactionId)) :
    ∃ acknowledgement entries,
      db.findAcknowledgement readerId batchId = some acknowledgement ∧
      0 ≤ acknowledgement.receivedAt ∧
      decodeAcknowledgementEntries acknowledgement.receivedAt 0
        (Table.orderBy (·.entryPosition) (db.synchronizationAcknowledgementEntries.filter
          fun row => row.batchId == batchId && row.readerId == readerId)) = .ok entries ∧
      applyEntries readerId t entries db.offlineTransactions =
        .error (.entryStateConflict transactionId) := by
  rw [applySynchronizationAcknowledgement, transact_eq_error] at h
  simp only [bind_eq_error, guard_eq_error, orFail_eq_error, orFail_eq_ok, reduceCtorEq,
    and_false, false_or] at h
  obtain h | ⟨_, -, acknowledgement, hfound, hreceived, h⟩ := h
  · cases validateTime_eq_error h
  obtain h | ⟨entries, hdecoded, -, reader, -, h⟩ := h
  · exact absurd h decodeAcknowledgementEntries_ne_conflict
  refine ⟨acknowledgement, entries, hfound, by grind, hdecoded, ?_⟩
  split at h
  · simp [ite_error_eq_error] at h
  · simp only [ite_error_eq_error, bind_eq_error, reduceCtorEq, and_false, false_or, or_false,
      exists_false] at h
    exact applyStatements_conflict h.2

/-- The entries of a stored acknowledgement find their transactions while all of
these are in flight. -/
theorem Consistent.applyEntries_ok (inv : Consistent reader db)
    {batch : SynchronizationBatchRow} (hbatch : batch ∈ db.synchronizationBatches)
    (hall : db.AllInFlight reader.readerId batch.batchId)
    (hlate : ∀ row ∈ db.offlineTransactions,
      db.inBatch reader.readerId batch.batchId row = true → row.updatedAt ≤ t)
    {acknowledgement : SynchronizationAcknowledgementRow}
    {entries : List DecodedAcknowledgementEntry}
    (hfound : db.findAcknowledgement reader.readerId batch.batchId = some acknowledgement)
    (hreceived : 0 ≤ acknowledgement.receivedAt)
    (hdecoded : decodeAcknowledgementEntries acknowledgement.receivedAt 0
      (Table.orderBy (·.entryPosition) (db.synchronizationAcknowledgementEntries.filter
        fun row => row.batchId == batch.batchId && row.readerId == reader.readerId)) =
          .ok entries) :
    applyEntries reader.readerId t entries db.offlineTransactions =
      .ok (db.offlineTransactions.map (Table.assignEach (·.fareTransactionId) (·.transactionId)
        (DecodedAcknowledgementEntry.settle t) entries)) := by
  obtain ⟨hack, hackid, -⟩ := ReaderDatabase.findAcknowledgement_eq_some hfound
  have hkeys := inv.acknowledgements.decoded_keys inv.batches hack hackid hdecoded
  have hids : entries.map (·.transactionId) =
      (db.entriesOf batch.batchId).map (·.fareTransactionId) := map_fst_of_keys hkeys
  have hnodup : (entries.map (·.transactionId)).Nodup := by
    rw [hids]
    exact inv.batches.nodup_transactions inv.queue hbatch
  refine (applyEntries_eq_ok inv.queue.ids hnodup).mpr ⟨fun entry hentry => ?_, rfl⟩
  have hmem := List.mem_map_of_mem (f := (·.key)) hentry
  rw [hkeys] at hmem
  obtain ⟨stored, hstored, hkey⟩ := List.mem_map.mp hmem
  obtain ⟨row, hrow, hrowkey⟩ := inv.batches.entryQueued stored (List.mem_of_mem_filter hstored)
  have hrowid : row.fareTransactionId = stored.fareTransactionId := congrArg Prod.fst hrowkey
  have hmember : db.inBatch reader.readerId batch.batchId row = true := by
    rw [inv.batches.mem_inBatch, hrowid]
    exact List.mem_map_of_mem hstored
  refine ⟨row, hrow, DecodedAcknowledgementEntry.selects_eq_true.mpr
    ⟨congrArg Prod.fst (hrowkey.trans hkey), inv.queue.owned row hrow,
      congrArg Prod.snd (hrowkey.trans hkey), ?_⟩, ?_⟩
  · simp only [OfflineTransactionRow.inFlightBy, Bool.and_eq_true, beq_iff_eq, decide_eq_true_eq]
    exact ⟨hall row hrow hmember, hlate row hrow hmember⟩
  · obtain ⟨-, hresolved⟩ := decodeAcknowledgementEntries_ok.mp hdecoded
    obtain ⟨_, -, -, -, hresolution⟩ := exists_of_forall₂ hresolved hentry
    exact DecodedAcknowledgementEntry.settle_check (inv.queue.checks row hrow) hreceived
      (hlate row hrow hmember) (decodeResolution_ok hresolution).2

/-- Every entry of an acknowledgement finds its transaction in flight. -/
theorem Consistent.apply_ne_conflict (inv : Consistent reader db)
    {batch : SynchronizationBatchRow} (hbatch : batch ∈ db.synchronizationBatches)
    (hall : db.AllInFlight reader.readerId batch.batchId)
    (hlate : ∀ row ∈ db.offlineTransactions,
      db.inBatch reader.readerId batch.batchId row = true → row.updatedAt ≤ t) :
    (applySynchronizationAcknowledgement db reader.readerId batch.batchId t).result ≠
      .error (.entryStateConflict transactionId) := by
  intro h
  obtain ⟨acknowledgement, entries, hfound, hreceived, hdecoded, hconflict⟩ := apply_conflict h
  rw [inv.applyEntries_ok hbatch hall hlate hfound hreceived hdecoded] at hconflict
  cases hconflict

end Conflict

/-! ## The equivalence -/

theorem Consistent.inOpenBatch_iff_length (inv : Consistent reader db)
    {row : OfflineTransactionRow} (hrow : row ∈ db.offlineTransactions) :
    db.inOpenBatch row = true ↔ (db.openBatchesOf row).length = 1 := by
  have hle := inv.length_openBatchesOf_le hrow
  have hpos : 0 < (db.openBatchesOf row).length ↔ (db.openBatchesOf row).length = 1 := by omega
  rw [← hpos, List.length_pos_iff_exists_mem, inv.inOpenBatch_iff hrow]
  constructor
  · rintro ⟨entry, hentry, hid, batch, hbatch, hbatchid, hopen⟩
    exact ⟨batch, (inv.mem_openBatchesOf hrow).mpr
      ⟨hbatch, hopen, entry, hentry, hbatchid.symm, hid⟩⟩
  · rintro ⟨batch, hmem⟩
    obtain ⟨hbatch, hopen, entry, hentry, hbatchid, hid⟩ := (inv.mem_openBatchesOf hrow).mp hmem
    exact ⟨entry, hentry, hid, batch, hbatch, hbatchid.symm, hopen⟩

/-- Without the operations on single transactions, a transaction is in flight
exactly while it is in one open batch, and no transition of an open batch
stumbles over the state of a transaction when it comes late enough. -/
theorem inFlight_iff_in_one_openBatch {db₀ : ReaderDatabase} (h : FreshlyBound db₀)
    (ops : List Operation) (hops : ∀ op ∈ ops, op.onTransaction = false) :
    let db := Runs.run (perform codec) db₀ ops
    (∀ row ∈ db.offlineTransactions,
      row.queueState = .inFlight ↔ (db.openBatchesOf row).length = 1) ∧
    ∀ readerId batchId batch t, db.findBatch readerId batchId = some batch →
      batch.batchState.isOpen = true →
      (∀ row ∈ db.offlineTransactions,
        db.inBatch readerId batchId row = true → row.updatedAt ≤ t) →
      (∀ id expected updated,
        (markSynchronizationBatchInFlight db readerId batchId t).result ≠
          .error (.batchEntryConflict id expected updated)) ∧
      (∀ category id expected updated,
        (recordSynchronizationPermanentFailure db readerId batchId category t).result ≠
          .error (.batchEntryConflict id expected updated) ∧
        (recordSynchronizationManualReview db readerId batchId category t).result ≠
          .error (.batchEntryConflict id expected updated)) ∧
      ∀ transactionId,
        (applySynchronizationAcknowledgement db readerId batchId t).result ≠
          .error (.entryStateConflict transactionId) := by
  intro db
  obtain ⟨reader, inv⟩ : ∃ reader, Consistent reader db := consistent_run h ops
  have hground : db.Grounded := grounded_run h hops
  have hheld : db.Held := held_run h (Runs.stepsMeet_mono
    (fun _ _ => Operation.sparesOpenBatches_of_not_onTransaction)
    (Runs.stepsMeet_of_forall _ _ hops))
  refine ⟨fun row hrow => ?_, fun readerId batchId batch t hfound hopen hlate => ?_⟩
  · rw [← inv.inOpenBatch_iff_length hrow]
    exact ⟨hground row hrow, hheld row hrow⟩
  · obtain ⟨hbatch, rfl, howner⟩ := ReaderDatabase.findBatch_eq_some hfound
    obtain rfl : readerId = reader.readerId := howner.symm.trans (inv.batches.owned batch hbatch)
    have hall := inv.allInFlight hheld hbatch hopen
    have hcount := inv.count_inFlightEntry hbatch hall hlate
    exact ⟨fun _ _ _ hmark => mark_conflict hmark hcount,
      fun _ _ _ _ => ⟨fun hfail => finalFailure_conflict hfail hcount,
        fun hfail => finalFailure_conflict hfail hcount⟩,
      fun _ => inv.apply_ne_conflict hbatch hall hlate⟩

theorem inFlight_iff_in_one_openBatch_submission :
    FreshlyBound sampleDatabase ∧ (∀ op ∈ sampleSubmission, op.onTransaction = false) ∧
      ∀ row ∈ (Runs.run (perform sampleCodec) sampleDatabase sampleSubmission).offlineTransactions,
        row.queueState = .inFlight ↔
          ((Runs.run (perform sampleCodec) sampleDatabase sampleSubmission).openBatchesOf
            row).length = 1 :=
  ⟨sampleDatabase_freshlyBound, by decide,
    (inFlight_iff_in_one_openBatch sampleDatabase_freshlyBound sampleSubmission (by decide)).1⟩

end TransitGuard.Reader
