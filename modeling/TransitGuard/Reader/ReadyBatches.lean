import Mathlib.Data.Prod.Lex
import Mathlib.Data.String.Basic
import TransitGuard.Reader.Progress

/-!
The batches to submit next. The reader selects the prepared and retryable
batches whose time has come, in the order of their sequences. No two of them
start at one sequence, because open batches share no transaction, so the order
is strict, the limit only ever leaves out later batches, and every batch that is
returned can be submitted at once.
-/

namespace TransitGuard.Reader

open Fallible

/-! ## The selection -/

/-- `ReaderSynchronizationStateError` with the errors of the read. -/
inductive ReadyBatchesError
  | zeroReadLimit
  | readLimitTooLarge (limit : Nat)
  | state (error : ReaderSynchronizationStateError)
  deriving DecidableEq

/-- `ORDER BY first_local_sequence_number, created_at_unix_milliseconds,
batch_id`. -/
def SynchronizationBatchRow.position (row : SynchronizationBatchRow) : ℕ ×ₗ ℤ ×ₗ String :=
  toLex (row.firstLocalSequenceNumber, toLex (row.createdAt.toInt, row.batchId.toText))

/-- The ready batches of the reader, in order. -/
def ReaderDatabase.readyBatches (db : ReaderDatabase) (readerId : ReaderId)
    (now : UnixMilliseconds) : List SynchronizationBatchRow :=
  (db.synchronizationBatches.filter fun row => row.readerId == readerId && row.readyAt now)
    |>.insertionSort fun a b => a.position ≤ b.position

/-- `load_ready_synchronization_batches`. -/
def loadReadySynchronizationBatches (db : ReaderDatabase) (readerId : ReaderId)
    (now : UnixMilliseconds) (limit : Nat) :
    Except ReadyBatchesError (List SynchronizationBatch) := do
  (validateTime .negativeOperationTime now).mapError .state
  if limit = 0 then .error .zeroReadLimit
  if i64Max < limit then .error (.readLimitTooLarge limit)
  ((db.readyBatches readerId now).take limit).mapM fun row =>
    (loadSynchronizationBatch db readerId row.batchId).mapError fun e =>
      .state (.synchronization e)

variable {codec : Json.Codec} {db db' : ReaderDatabase} {reader : ReaderStateRow}
  {t : UnixMilliseconds} {limit : Nat} {batch other : SynchronizationBatchRow}

/-! ## The order -/

theorem Consistent.mem_readyBatches (inv : Consistent reader db) :
    batch ∈ db.readyBatches reader.readerId t ↔
      batch ∈ db.synchronizationBatches ∧ batch.readyAt t = true := by
  rw [ReaderDatabase.readyBatches, List.mem_insertionSort, List.mem_filter, Bool.and_eq_true,
    beq_iff_eq]
  exact ⟨fun h => ⟨h.1, h.2.2⟩, fun h => ⟨h.1, inv.batches.owned batch h.1, h.2⟩⟩

/-- Open batches that start at one sequence are one batch. -/
theorem Consistent.eq_of_first_eq (inv : Consistent reader db)
    (hbatch : batch ∈ db.synchronizationBatches) (hopen : batch.batchState.isOpen = true)
    (hother : other ∈ db.synchronizationBatches) (hopen' : other.batchState.isOpen = true)
    (hfirst : batch.firstLocalSequenceNumber = other.firstLocalSequenceNumber) :
    batch = other := by
  obtain ⟨entry, hhead, hsequence⟩ :=
    Option.map_eq_some_iff.mp (inv.batches.holds batch hbatch).first
  obtain ⟨entry', hhead', hsequence'⟩ :=
    Option.map_eq_some_iff.mp (inv.batches.holds other hother).first
  obtain ⟨hentry, hid⟩ := ReaderDatabase.mem_entriesOf.mp (List.mem_of_head? hhead)
  obtain ⟨hentry', hid'⟩ := ReaderDatabase.mem_entriesOf.mp (List.mem_of_head? hhead')
  -- one sequence is one transaction of the queue
  obtain ⟨row, hrow, hkey⟩ := inv.batches.entryQueued entry hentry
  obtain ⟨row', hrow', hkey'⟩ := inv.batches.entryQueued entry' hentry'
  have hnodup : (db.offlineTransactions.map (·.localSequenceNumber)).Nodup :=
    inv.queue.sequences_increasing.imp Nat.ne_of_lt
  have hrowSequence : row.localSequenceNumber = row'.localSequenceNumber := by
    rw [show row.localSequenceNumber = entry.localSequenceNumber from congrArg Prod.snd hkey,
      show row'.localSequenceNumber = entry'.localSequenceNumber from congrArg Prod.snd hkey',
      hsequence, hsequence', hfirst]
  have hsame : row = row' := Table.eq_of_key_eq hnodup hrow hrow' hrowSequence
  have htransaction : entry.fareTransactionId = entry'.fareTransactionId := by
    rw [← show row.fareTransactionId = entry.fareTransactionId from congrArg Prod.fst hkey,
      ← show row'.fareTransactionId = entry'.fareTransactionId from congrArg Prod.fst hkey', hsame]
  -- and a transaction is in one open batch
  have hbatchId : batch.batchId = other.batchId := by
    rw [← hid, ← hid']
    exact inv.batches.oneOpen entry hentry entry' hentry' htransaction
      ⟨batch, hbatch, hid.symm, hopen⟩ ⟨other, hother, hid'.symm, hopen'⟩
  exact Table.eq_of_key_eq inv.batches.ids hbatch hother hbatchId

/-- The ready batches stand in the strict order of their sequences. -/
theorem Consistent.readyBatches_pairwise (inv : Consistent reader db) :
    (db.readyBatches reader.readerId t).Pairwise fun a b =>
      a.firstLocalSequenceNumber < b.firstLocalSequenceNumber := by
  have hsorted : (db.readyBatches reader.readerId t).Pairwise fun a b =>
      a.position ≤ b.position := List.pairwise_insertionSort _ _
  have hnodup : (db.readyBatches reader.readerId t).Nodup := by
    refine (List.perm_insertionSort _ _).nodup_iff.mpr (List.Nodup.filter _ ?_)
    exact List.Nodup.of_map _ inv.batches.ids
  refine (hsorted.and hnodup).imp_of_mem fun {a b} ha hb hab => ?_
  obtain ⟨hbatch, hready⟩ := inv.mem_readyBatches.mp ha
  obtain ⟨hother, hready'⟩ := inv.mem_readyBatches.mp hb
  have hle : a.firstLocalSequenceNumber ≤ b.firstLocalSequenceNumber := by
    rcases Prod.Lex.toLex_le_toLex.mp hab.1 with hlt | ⟨heq, -⟩
    · exact Nat.le_of_lt hlt
    · exact Nat.le_of_eq heq
  refine lt_of_le_of_ne hle fun hfirst => hab.2 ?_
  exact inv.eq_of_first_eq hbatch (SynchronizationBatchRow.isOpen_of_readyAt hready) hother
    (SynchronizationBatchRow.isOpen_of_readyAt hready') hfirst

/-! ## Loading -/

/-- The load returns the first ready batches, as they are stored. -/
theorem Consistent.loadReady_ok (inv : Consistent reader db) (ht : 0 ≤ t) (hpos : 0 < limit)
    (hlimit : limit ≤ i64Max)
    (hattempts : ∀ row ∈ db.synchronizationBatches, row.readyAt t = true →
      row.attemptCount < 2 ^ 32) :
    ∃ ready, loadReadySynchronizationBatches db reader.readerId t limit = .ok ready ∧
      List.Forall₂ (fun row batch =>
          loadSynchronizationBatch db reader.readerId row.batchId = .ok batch)
        ((db.readyBatches reader.readerId t).take limit) ready := by
  have hloads : ∀ row ∈ (db.readyBatches reader.readerId t).take limit, ∃ batch,
      loadSynchronizationBatch db reader.readerId row.batchId = .ok batch := by
    intro row hrow
    obtain ⟨hmem, hready⟩ := inv.mem_readyBatches.mp (List.mem_of_mem_take hrow)
    obtain ⟨batch, hload, -⟩ := inv.load_ok hmem (hattempts row hmem hready)
    exact ⟨batch, hload⟩
  obtain ⟨ready, hready⟩ := exists_forall₂ hloads
  refine ⟨ready, ?_, hready⟩
  simp only [loadReadySynchronizationBatches, bind_eq_ok, mapError_eq_ok, guard_eq_ok, mapM_eq_ok]
  exact ⟨(), validateTime_ok.mpr ht, by omega, by omega, hready⟩

theorem loaded_batchId {readerId : ReaderId} {batchId : SynchronizationBatchId}
    {loaded : SynchronizationBatch}
    (h : loadSynchronizationBatch db readerId batchId = .ok loaded) :
    loaded.batchId = batchId := by
  simp only [loadSynchronizationBatch, bind_eq_ok, orFail_eq_ok, decodeStoredBatch,
    guard_eq_ok] at h
  obtain ⟨row, hrow, version, -, first, -, last, -, -, -, -, -, -, -, entries, -, h⟩ := h
  split at h
  · rw [ite_error_eq_ok, Except.ok.injEq] at h
    obtain ⟨-, rfl⟩ := h
    exact (ReaderDatabase.findBatch_eq_some hrow).2.1
  · cases h

/-- What a loaded batch shows of its row. -/
theorem Consistent.loaded_columns (inv : Consistent reader db)
    (hbatch : batch ∈ db.synchronizationBatches) {loaded : SynchronizationBatch}
    (h : loadSynchronizationBatch db reader.readerId batch.batchId = .ok loaded) :
    (loaded.batchId, loaded.firstLocalSequenceNumber.value) =
      (batch.batchId, batch.firstLocalSequenceNumber) := by
  obtain ⟨row, hfound, -, hfirst, -⟩ := loadSynchronizationBatch_ok h
  obtain rfl : batch = row := Option.some.inj ((inv.batches.findBatch hbatch).symm.trans hfound)
  rw [loaded_batchId h, hfirst]

theorem Consistent.loaded_columns_all (inv : Consistent reader db)
    {rows : List SynchronizationBatchRow} {loaded : List SynchronizationBatch}
    (h : List.Forall₂ (fun row batch =>
      loadSynchronizationBatch db reader.readerId row.batchId = .ok batch) rows loaded)
    (hrows : ∀ row ∈ rows, row ∈ db.synchronizationBatches) :
    loaded.map (fun batch => (batch.batchId, batch.firstLocalSequenceNumber.value)) =
      rows.map fun row => (row.batchId, row.firstLocalSequenceNumber) := by
  induction h with
  | nil => rfl
  | cons hload _ ih =>
    rw [List.forall_mem_cons] at hrows
    rw [List.map_cons, List.map_cons, inv.loaded_columns hrows.1 hload, ih hrows.2]

/-- A batch that is submitted leaves the ready batches, and nothing else
changes in them. -/
theorem Consistent.ready_after_mark (codec : Json.Codec) (inv : Consistent reader db)
    (hbatch : batch ∈ db.synchronizationBatches)
    (hall : db.AllInFlight reader.readerId batch.batchId) (hready : batch.readyAt t = true)
    (hupdated : batch.updatedAt ≤ t)
    (hlate : ∀ row ∈ db.offlineTransactions,
      db.inBatch reader.readerId batch.batchId row = true → row.updatedAt ≤ t)
    (row : SynchronizationBatchRow) :
    let marked := (markSynchronizationBatchInFlight db reader.readerId batch.batchId t).database
    (row ∈ marked.synchronizationBatches ∧ row.readyAt t = true) ↔
      row ∈ db.synchronizationBatches ∧ row.readyAt t = true ∧ row.batchId ≠ batch.batchId := by
  intro marked
  have hselected : (batch.named reader.readerId batch.batchId && batch.updatedAt ≤ t &&
      batch.readyAt t) = true := by
    simp [SynchronizationBatchRow.named, inv.batches.owned batch hbatch, hupdated, hready]
  obtain ⟨-, hmark⟩ := inv.mark_eq codec hbatch hselected
    (inv.count_inFlightEntry hbatch hall hlate)
  have hmarked : marked = db.afterSubmission reader.readerId batch.batchId t :=
    congrArg Outcome.database hmark
  have hnamed : ∀ row ∈ db.synchronizationBatches,
      (row.named reader.readerId batch.batchId && row.updatedAt ≤ t && row.readyAt t) = true →
        row.batchId = batch.batchId := by
    intro row _ hp
    simp only [SynchronizationBatchRow.named, Bool.and_eq_true, beq_iff_eq] at hp
    exact hp.1.1.1
  have hbatches : marked.synchronizationBatches = db.synchronizationBatches.map fun row =>
      if row.batchId = batch.batchId then row.submit t else row := by
    rw [hmarked]
    exact Table.updateWhere_eq_map (Table.selects_iff_of_countP inv.batches.ids hnamed
      ((Table.countP_eq_one_iff inv.batches.ids hnamed).mpr ⟨batch, hbatch, hselected⟩))
  rw [hbatches, List.mem_map]
  constructor
  · rintro ⟨⟨old, hold, rfl⟩, hrow⟩
    split at hrow
    · cases hrow
    · next hne =>
      rw [if_neg hne]
      exact ⟨hold, hrow, hne⟩
  · rintro ⟨hrow, hrowReady, hne⟩
    exact ⟨⟨row, hrow, if_neg hne⟩, hrowReady⟩

/-- The ready batches are scheduled in the strict order of their sequences. In
every database reached without the operations on single transactions, the load
returns as many as the limit allows, none that is left out starts before one
that is returned, and unless the clock is behind the stored times each of them
can be submitted, which takes it out of the ready batches and changes no
other. -/
theorem readyBatches_schedule {db₀ : ReaderDatabase} (h : FreshlyBound db₀) {ops : List Operation}
    (hops : ∀ op ∈ ops, op.onTransaction = false) (ht : 0 ≤ t) (hpos : 0 < limit)
    (hlimit : limit ≤ i64Max)
    (hbound : (Runs.run (perform codec) db₀ ops).readerState = some reader)
    (hattempts : ∀ row ∈ (Runs.run (perform codec) db₀ ops).synchronizationBatches,
      row.readyAt t = true → row.attemptCount < 2 ^ 32 - 1) :
    let db := Runs.run (perform codec) db₀ ops
    ∃ ready, loadReadySynchronizationBatches db reader.readerId t limit = .ok ready ∧
      ready.length = min limit (db.synchronizationBatches.countP (·.readyAt t)) ∧
      (ready.map (·.firstLocalSequenceNumber.value)).Pairwise (· < ·) ∧
      (∀ batch ∈ ready, ∃ row ∈ db.synchronizationBatches,
        row.batchId = batch.batchId ∧ row.readyAt t = true) ∧
      (∀ row ∈ db.synchronizationBatches, row.readyAt t = true →
        row.batchId ∉ ready.map (·.batchId) → ∀ batch ∈ ready,
          batch.firstLocalSequenceNumber.value < row.firstLocalSequenceNumber) ∧
      ((∀ row ∈ db.synchronizationBatches, row.updatedAt ≤ t) →
        (∀ row ∈ db.offlineTransactions, row.updatedAt ≤ t) → ∀ batch ∈ ready,
          let marked := markSynchronizationBatchInFlight db reader.readerId batch.batchId t
          (∃ submitted, marked.result = .ok submitted) ∧
            ∀ row, row ∈ marked.database.synchronizationBatches ∧ row.readyAt t = true ↔
              row ∈ db.synchronizationBatches ∧ row.readyAt t = true ∧
                row.batchId ≠ batch.batchId) := by
  intro db
  obtain ⟨reader', inv⟩ : ∃ reader, Consistent reader db := consistent_run h ops
  obtain rfl : reader = reader' := Option.some.inj (hbound.symm.trans inv.queue.bound)
  have hheld : db.Held := held_run h <|
    Runs.stepsMeet_mono (fun _ _ => Operation.sparesOpenBatches_of_not_onTransaction)
      (Runs.stepsMeet_of_forall _ _ hops)
  obtain ⟨ready, hload, hmatch⟩ := inv.loadReady_ok ht hpos hlimit fun row hrow hready =>
    Nat.lt_of_lt_of_le (hattempts row hrow hready) (by decide)
  have hmember : ∀ row ∈ (db.readyBatches reader.readerId t).take limit,
      row ∈ db.synchronizationBatches ∧ row.readyAt t = true :=
    fun row hrow => inv.mem_readyBatches.mp (List.mem_of_mem_take hrow)
  -- a returned batch shows the identifier and the first sequence of its row
  have hcolumns : ready.map (fun batch => (batch.batchId, batch.firstLocalSequenceNumber.value)) =
      ((db.readyBatches reader.readerId t).take limit).map
        fun row => (row.batchId, row.firstLocalSequenceNumber) :=
    inv.loaded_columns_all hmatch fun row hrow => (hmember row hrow).1
  have hids : ready.map (·.batchId) =
      ((db.readyBatches reader.readerId t).take limit).map (·.batchId) := map_fst_of_keys hcolumns
  have hfirsts : ready.map (·.firstLocalSequenceNumber.value) =
      ((db.readyBatches reader.readerId t).take limit).map (·.firstLocalSequenceNumber) :=
    map_snd_of_keys hcolumns
  have hrow : ∀ batch ∈ ready, ∃ row ∈ (db.readyBatches reader.readerId t).take limit,
      row.batchId = batch.batchId ∧
        row.firstLocalSequenceNumber = batch.firstLocalSequenceNumber.value := by
    intro batch hbatch
    obtain ⟨row, hrow, heq⟩ := List.mem_map.mp (hcolumns ▸ List.mem_map_of_mem
      (f := fun batch : SynchronizationBatch =>
        (batch.batchId, batch.firstLocalSequenceNumber.value)) hbatch)
    exact ⟨row, hrow, congrArg Prod.fst heq, congrArg Prod.snd heq⟩
  have hpairwise := inv.readyBatches_pairwise (t := t)
  rw [← List.take_append_drop limit (db.readyBatches reader.readerId t)] at hpairwise
  obtain ⟨htaken, -, hacross⟩ := List.pairwise_append.mp hpairwise
  refine ⟨ready, hload, ?_, ?_, fun batch hbatch => ?_,
    fun row hmem hready hleft batch hbatch => ?_, fun hbatches hlate batch hbatch => ?_⟩
  · have hlength : ready.length = ((db.readyBatches reader.readerId t).take limit).length := by
      simpa using congrArg List.length hids
    rw [hlength, List.length_take, ReaderDatabase.readyBatches, List.length_insertionSort,
      List.countP_eq_length_filter]
    congr 2
    refine List.filter_congr fun row hmem => ?_
    rw [inv.batches.owned row hmem, beq_self_eq_true, Bool.true_and]
  · rw [hfirsts, List.pairwise_map]
    exact htaken
  · obtain ⟨row, hmem, hid, -⟩ := hrow batch hbatch
    exact ⟨row, (hmember row hmem).1, hid, (hmember row hmem).2⟩
  · obtain ⟨taken, htakenMem, -, hfirst⟩ := hrow batch hbatch
    rw [← hfirst]
    refine hacross taken htakenMem row ?_
    have hall := inv.mem_readyBatches.mpr ⟨hmem, hready⟩
    rw [← List.take_append_drop limit (db.readyBatches reader.readerId t)] at hall
    refine (List.mem_append.mp hall).resolve_left fun htake => hleft ?_
    rw [hids]
    exact List.mem_map_of_mem htake
  · obtain ⟨row, hmem, hid, -⟩ := hrow batch hbatch
    obtain ⟨hstored, hready⟩ := hmember row hmem
    have hall := inv.allInFlight hheld hstored (SynchronizationBatchRow.isOpen_of_readyAt hready)
    have hupdated := hbatches row hstored
    rw [← hid]
    exact ⟨inv.mark_ok codec hstored hall hready hupdated (fun row hrow _ => hlate row hrow)
        (hattempts row hstored hready),
      inv.ready_after_mark codec hstored hall hready hupdated fun row hrow _ => hlate row hrow⟩

def sampleOtherTransactionId : FareTransactionId := ⟨⟨0x70008000000000000081#128, by decide⟩⟩

def sampleOtherBatchId : SynchronizationBatchId := ⟨⟨0x70008000000000000082#128, by decide⟩⟩

/-- Two batches of one transaction each. -/
def sampleTwoBatches : List Operation :=
  [.enqueue sampleReaderId (sampleDraft (.object [])),
    .enqueue sampleReaderId { sampleDraft (.object []) with
      transactionId := sampleOtherTransactionId },
    .createBatch sampleReaderId .current 1 1 sampleBatchId,
    .createBatch sampleReaderId .current 1 1 sampleOtherBatchId]

theorem readyBatches_schedule_two :
    let db := Runs.run (perform sampleCodec) sampleDatabase sampleTwoBatches
    (loadReadySynchronizationBatches db sampleReaderId 2 1).map (·.map (·.batchId)) =
        .ok [sampleBatchId] ∧
      ∃ reader ready, db.readerState = some reader ∧
        loadReadySynchronizationBatches db reader.readerId 2 1 = .ok ready ∧
        ready.length = min 1 (db.synchronizationBatches.countP (·.readyAt 2)) ∧
        (ready.map (·.firstLocalSequenceNumber.value)).Pairwise (· < ·) := by
  intro db
  obtain ⟨reader, hreader⟩ : ∃ reader, db.readerState = some reader :=
    Option.isSome_iff_exists.mp (by decide)
  obtain ⟨ready, hload, hlength, hpairwise, -⟩ :=
    readyBatches_schedule sampleDatabase_freshlyBound (by decide : ∀ op ∈ sampleTwoBatches, _)
      (by decide : (0 : UnixMilliseconds) ≤ 2) Nat.one_pos (by decide) hreader (by decide)
  exact ⟨by decide, reader, ready, hreader, hload, hlength, hpairwise⟩

end TransitGuard.Reader
