import TransitGuard.Reader.Replay

/-!
Attempt counters and the calls they count. A batch and its transactions count
the submissions of the batch, a transaction counts its own besides; no other
operation touches a counter. A submission that counts up to `2 ^ 32` is
committed and then not read back, so the call fails although it was counted.
-/

namespace TransitGuard.Reader

open Fallible

variable {codec : Json.Codec} {db db' : ReaderDatabase} {op : Operation}
  {reader : ReaderStateRow} {readerId : ReaderId} {t : UnixMilliseconds}

/-! ## Successful calls -/

/-- The time of a submission of the batch that succeeds. -/
def batchMarked (batchId : SynchronizationBatchId) (db : ReaderDatabase) :
    Operation → Option UnixMilliseconds
  | .markBatch readerId marked t =>
    if marked = batchId ∧ (markSynchronizationBatchInFlight db readerId marked t).result.isOk then
      some t
    else none
  | _ => none

/-- The time of a submission that succeeds on a batch with the transaction. -/
def memberMarked (transactionId : FareTransactionId) (db : ReaderDatabase) :
    Operation → Option UnixMilliseconds
  | .markBatch readerId marked t =>
    if transactionId ∈ (db.entriesOf marked).map (·.fareTransactionId) ∧
        (markSynchronizationBatchInFlight db readerId marked t).result.isOk then some t
    else none
  | _ => none

/-- The time of a `mark_offline_transaction_in_flight` that succeeds on the
transaction. -/
def transactionMarked (transactionId : FareTransactionId) (db : ReaderDatabase) :
    Operation → Option UnixMilliseconds
  | .markTransaction readerId marked t =>
    if marked = transactionId ∧ (markOfflineTransactionInFlight db readerId marked t).result.isOk
    then some t
    else none
  | _ => none

/-- The law of the counters after a run from `db₀`. -/
structure AttemptsCounted (codec : Json.Codec) (db₀ : ReaderDatabase) (ops : List Operation) :
    Prop where
  batches : ∀ batch ∈ (Runs.run (perform codec) db₀ ops).synchronizationBatches,
    batch.attemptCount = (Runs.trace (perform codec) (batchMarked batch.batchId) db₀ ops).length ∧
    batch.submittedAt = (Runs.trace (perform codec) (batchMarked batch.batchId) db₀ ops).head?
  transactions : ∀ row ∈ (Runs.run (perform codec) db₀ ops).offlineTransactions,
    row.attemptCount =
      (Runs.trace (perform codec) (memberMarked row.fareTransactionId) db₀ ops).length +
      (Runs.trace (perform codec) (transactionMarked row.fareTransactionId) db₀ ops).length

/-- The submission of a batch that is due and reaches all its transactions. -/
def ReaderDatabase.Submits (db : ReaderDatabase) (readerId : ReaderId)
    (batchId : SynchronizationBatchId) (t : UnixMilliseconds) (batch : SynchronizationBatchRow) :
    Prop :=
  batch ∈ db.synchronizationBatches ∧
    (batch.named readerId batchId && batch.updatedAt ≤ t && batch.readyAt t) = true ∧
    db.offlineTransactions.countP (db.inFlightEntry readerId batchId t) =
      (db.batchEntries readerId batchId).length

/-- No submission counts a batch up to `2 ^ 32`. -/
def Operation.keepsCounting (db : ReaderDatabase) : Operation → Prop
  | .markBatch readerId batchId t => ∀ batch, db.Submits readerId batchId t batch →
    batch.attemptCount < 2 ^ 32 - 1
  | _ => True

/-! ## What a submission does -/

/-- Nothing is loaded after a body that failed. -/
theorem thenLoad_error_of {batchId : SynchronizationBatchId}
    {body : Except ReaderSynchronizationStateError (Unit × ReaderDatabase)}
    (h : ∀ db', body ≠ .ok ((), db')) :
    ∃ e, thenLoad readerId batchId (transact db body) = ⟨db, .error e⟩ := by
  cases body with
  | error e => exact ⟨e, rfl⟩
  | ok out => exact absurd rfl (h out.2)

/-- A submission is committed, or it fails and changes nothing. -/
theorem Consistent.mark_cases (codec : Json.Codec) (inv : Consistent reader db)
    (readerId : ReaderId) (batchId : SynchronizationBatchId) (t : UnixMilliseconds) :
    (∃ batch, db.Submits readerId batchId t batch ∧
      Committed codec db (.markBatch readerId batchId t) (db.afterSubmission readerId batchId t) ∧
      markSynchronizationBatchInFlight db readerId batchId t =
        thenLoad readerId batchId ⟨db.afterSubmission readerId batchId t, .ok ()⟩) ∨
    ((∀ batch, ¬db.Submits readerId batchId t batch) ∧
      ∃ e, markSynchronizationBatchInFlight db readerId batchId t = ⟨db, .error e⟩) := by
  by_cases hsubmits : ∃ batch, db.Submits readerId batchId t batch
  · obtain ⟨batch, hbatch, hselected, hcount⟩ := hsubmits
    obtain ⟨hcommitted, hmark⟩ := inv.mark_eq codec hbatch hselected hcount
    exact .inl ⟨batch, ⟨hbatch, hselected, hcount⟩, hcommitted, hmark⟩
  · refine .inr ⟨fun batch h => hsubmits ⟨batch, h⟩, ?_⟩
    refine thenLoad_error_of fun db' hbody => ?_
    simp only [bind_eq_ok, updateOneBatch_ok, updateEntryTransactions_ok] at hbody
    obtain ⟨-, -, -, ⟨-, hone, -⟩, -, ⟨-, -, hcount, -⟩, -⟩ := hbody
    obtain ⟨batch, hbatch, hselected⟩ := List.countP_pos_iff.mp (hone ▸ Nat.one_pos)
    exact hsubmits ⟨batch, hbatch, hselected, hcount⟩

/-- A committed submission succeeds while its batch counts in 32 bits. -/
theorem Consistent.mark_isOk_iff (codec : Json.Codec) (inv : Consistent reader db)
    {batchId : SynchronizationBatchId} {batch : SynchronizationBatchRow}
    (h : db.Submits readerId batchId t batch) :
    (markSynchronizationBatchInFlight db readerId batchId t).result.isOk = true ↔
      batch.attemptCount < 2 ^ 32 - 1 := by
  obtain ⟨hbatch, hselected, hcount⟩ := h
  obtain ⟨hcommitted, hmark⟩ := inv.mark_eq codec hbatch hselected hcount
  obtain ⟨reader', inv', hfrozen⟩ := inv.step hcommitted
  have hreader : reader'.readerId = reader.readerId := congrArg (·.readerId) hfrozen
  have hrow : batch.submit t ∈ (db.afterSubmission readerId batchId t).synchronizationBatches :=
    Table.mem_updateWhere.mpr ⟨batch, hbatch, (if_pos hselected).symm⟩
  simp only [SynchronizationBatchRow.named, Bool.and_eq_true, beq_iff_eq] at hselected
  have howner : readerId = reader'.readerId :=
    hselected.1.1.2.symm.trans ((inv.batches.owned batch hbatch).trans hreader.symm)
  have hid : (batch.submit t).batchId = batchId := hselected.1.1.1
  have hattempts : (batch.submit t).attemptCount < 2 ^ 32 ↔ batch.attemptCount < 2 ^ 32 - 1 :=
    ⟨Nat.lt_sub_of_add_lt, Nat.add_lt_of_lt_sub⟩
  subst hid howner
  rw [hmark, isOk_iff, ← hattempts]
  simp only [thenLoad, ok_bind, mapError_eq_ok]
  constructor
  · rintro ⟨loaded, hloaded⟩
    exact inv'.attempts_of_load hrow hloaded
  · intro hbound
    obtain ⟨loaded, hloaded, -⟩ := inv'.load_ok hrow hbound
    exact ⟨loaded, hloaded⟩

/-! ## The counters of a batch -/

/-- The attempts of a batch and its submission time, as of a batch that was never
submitted where there is none. -/
def ReaderDatabase.submissionsOf (db : ReaderDatabase) (batchId : SynchronizationBatchId) :
    Nat × Option UnixMilliseconds :=
  ((db.synchronizationBatches.find? (·.batchId == batchId)).map fun row =>
    (row.attemptCount, row.submittedAt)).getD (0, none)

theorem submissionsOf_congr
    (h : (db'.synchronizationBatches.map fun row =>
        (row.batchId, row.attemptCount, row.submittedAt)) =
      db.synchronizationBatches.map fun row => (row.batchId, row.attemptCount, row.submittedAt))
    (batchId : SynchronizationBatchId) : db'.submissionsOf batchId = db.submissionsOf batchId := by
  rw [ReaderDatabase.submissionsOf, Table.map_find_congr h batchId]
  rfl

/-- One more submission at `t`. -/
def recordSubmission (submissions : Nat × Option UnixMilliseconds) (t : UnixMilliseconds) :
    Nat × Option UnixMilliseconds :=
  (submissions.1 + 1, some (submissions.2.getD t))

theorem foldl_recordSubmission (n : Nat) (first : Option UnixMilliseconds)
    (ts : List UnixMilliseconds) :
    ts.foldl recordSubmission (n, first) = (n + ts.length, first.or ts.head?) := by
  induction ts generalizing n first with
  | nil => rw [List.foldl_nil, List.length_nil, List.head?_nil, Option.or_none, Nat.add_zero]
  | cons t ts ih =>
    rw [List.foldl_cons, recordSubmission, ih, List.length_cons, List.head?_cons, Option.some_or]
    cases first <;> simp only [Option.getD_none, Option.getD_some, Option.none_or, Option.some_or,
      Prod.mk.injEq, and_true] <;> omega

/-- No other operation writes the counters of the batches. -/
theorem Committed.submissionsOf (h : Committed codec db op db')
    (hop : ∀ readerId batchId t, op ≠ .markBatch readerId batchId t)
    (batchId : SynchronizationBatchId) : db'.submissionsOf batchId = db.submissionsOf batchId := by
  cases h with
  | markBatch => exact absurd rfl (hop _ _ _)
  | bind | enqueue | markTransaction | retryTransaction | failTransaction | recoverQueue
  | storeAcknowledgement => rfl
  | retryBatch | failBatch | recoverBatches | applyAcknowledgement =>
    apply submissionsOf_congr
    apply Table.map_updateWhere
    exact fun _ => rfl
  | createBatch =>
    simp only [ReaderDatabase.submissionsOf, List.find?_append]
    cases db.synchronizationBatches.find? (·.batchId == batchId) with
    | some row => rfl
    | none =>
      rw [Option.none_or, List.find?_singleton]
      split <;> rfl

theorem submissionsOf_perform (hop : ∀ readerId batchId t, op ≠ .markBatch readerId batchId t)
    (batchId : SynchronizationBatchId) :
    (perform codec db op).submissionsOf batchId = db.submissionsOf batchId :=
  perform_invariant (P := fun db' => db'.submissionsOf batchId = db.submissionsOf batchId) rfl
    fun _ h => h.submissionsOf hop batchId

theorem batchMarked_eq_none {batchId : SynchronizationBatchId}
    (hop : ∀ readerId batchId t, op ≠ .markBatch readerId batchId t) :
    batchMarked batchId db op = none := by
  cases op with
  | markBatch => exact absurd rfl (hop _ _ _)
  | _ => rfl

theorem Consistent.submissionsOf_mem (inv : Consistent reader db)
    {batch : SynchronizationBatchRow} (hbatch : batch ∈ db.synchronizationBatches) :
    db.submissionsOf batch.batchId = (batch.attemptCount, batch.submittedAt) := by
  rw [ReaderDatabase.submissionsOf, Table.find_of_mem inv.batches.ids hbatch]
  rfl

/-- A submission is recorded on its own batch. -/
theorem Consistent.submissionsOf_afterSubmission (inv : Consistent reader db)
    {marked : SynchronizationBatchId} {batch : SynchronizationBatchRow}
    (h : db.Submits readerId marked t batch) (batchId : SynchronizationBatchId) :
    (db.afterSubmission readerId marked t).submissionsOf batchId =
      if marked = batchId then recordSubmission (db.submissionsOf batchId) t
      else db.submissionsOf batchId := by
  obtain ⟨hbatch, hselected, -⟩ := h
  have hid : batch.batchId = marked := by
    simp only [SynchronizationBatchRow.named, Bool.and_eq_true, beq_iff_eq] at hselected
    exact hselected.1.1.1
  have hfound : (db.afterSubmission readerId marked t).synchronizationBatches.find?
      (·.batchId == batchId) = (db.synchronizationBatches.find? (·.batchId == batchId)).map
        fun row => if row.named readerId marked && row.updatedAt ≤ t && row.readyAt t then
          row.submit t else row := by
    refine Table.find_updateWhere_of_keeps ?_ batchId
    exact fun _ => rfl
  rw [ReaderDatabase.submissionsOf, hfound]
  split
  · next hmarked =>
    subst hmarked hid
    rw [inv.submissionsOf_mem hbatch, Table.find_of_mem inv.batches.ids hbatch, Option.map_some,
      if_pos hselected]
    rfl
  · next hother =>
    rw [ReaderDatabase.submissionsOf]
    cases hfind : db.synchronizationBatches.find? (·.batchId == batchId) with
    | none => rfl
    | some row =>
      have hrow : row.batchId = batchId := Table.key_of_find hfind
      have hskipped :
          ¬(row.named readerId marked && row.updatedAt ≤ t && row.readyAt t) = true := by
        simp only [SynchronizationBatchRow.named, Bool.and_eq_true, beq_iff_eq, hrow]
        exact fun hp => hother hp.1.1.1.symm
      rw [Option.map_some, if_neg hskipped]

theorem submissionsOf_step (inv : Consistent reader db) (hmeets : op.keepsCounting db)
    (batchId : SynchronizationBatchId) :
    (perform codec db op).submissionsOf batchId =
      (batchMarked batchId db op).toList.foldl recordSubmission (db.submissionsOf batchId) := by
  by_cases hop : ∃ readerId marked t, op = .markBatch readerId marked t
  · obtain ⟨readerId, marked, t, rfl⟩ := hop
    rw [perform, batchMarked]
    rcases inv.mark_cases codec readerId marked t with ⟨batch, hsubmits, -, hmark⟩ | ⟨-, e, hmark⟩
    · have hok := (inv.mark_isOk_iff codec hsubmits).mpr (hmeets batch hsubmits)
      rw [hok, hmark, thenLoad_database, inv.submissionsOf_afterSubmission hsubmits]
      by_cases hmarked : marked = batchId
      · rw [if_pos hmarked, if_pos ⟨hmarked, rfl⟩]
        rfl
      · rw [if_neg hmarked, if_neg fun h => hmarked h.1]
        rfl
    · rw [hmark, if_neg fun h => Bool.false_ne_true h.2]
      rfl
  · have hop : ∀ readerId marked t, op ≠ .markBatch readerId marked t :=
      fun readerId marked t h => hop ⟨readerId, marked, t, h⟩
    rw [submissionsOf_perform hop, batchMarked_eq_none hop]
    rfl

/-! ## The counter of a transaction -/

/-- The attempts of a transaction, none where there is no such transaction. -/
def ReaderDatabase.attemptsOf (db : ReaderDatabase) (transactionId : FareTransactionId) : Nat :=
  ((db.offlineTransactions.find? (·.fareTransactionId == transactionId)).map
    (·.attemptCount)).getD 0

theorem attemptsOf_congr
    (h : (db'.offlineTransactions.map fun row => (row.fareTransactionId, row.attemptCount)) =
      db.offlineTransactions.map fun row => (row.fareTransactionId, row.attemptCount))
    (transactionId : FareTransactionId) :
    db'.attemptsOf transactionId = db.attemptsOf transactionId := by
  rw [ReaderDatabase.attemptsOf, Table.map_find_congr h transactionId]
  rfl

/-- The operations that count attempts. -/
def Operation.isAttempt : Operation → Bool
  | .markTransaction .. | .markBatch .. => true
  | _ => false

theorem Committed.attemptsOf (h : Committed codec db op db') (hop : op.isAttempt = false)
    (transactionId : FareTransactionId) :
    db'.attemptsOf transactionId = db.attemptsOf transactionId := by
  cases h with
  | markTransaction | markBatch => cases hop
  | bind | retryBatch | recoverBatches | storeAcknowledgement => rfl
  | retryTransaction | failTransaction | recoverQueue | failBatch =>
    apply attemptsOf_congr
    apply Table.map_updateWhere
    exact fun _ => rfl
  | createBatch _ _ _ _ _ _ reserved =>
    apply attemptsOf_congr
    exact Table.map_updateEach reserved fun _ _ => rfl
  | applyAcknowledgement _ _ _ _ _ applied =>
    apply attemptsOf_congr
    exact Table.map_updateEach applied fun _ _ => rfl
  | enqueue =>
    simp only [ReaderDatabase.attemptsOf, List.find?_append]
    cases db.offlineTransactions.find? (·.fareTransactionId == transactionId) with
    | some row => rfl
    | none =>
      rw [Option.none_or, List.find?_singleton]
      split <;> rfl

theorem Consistent.attemptsOf_mem (inv : Consistent reader db) {row : OfflineTransactionRow}
    (hrow : row ∈ db.offlineTransactions) :
    db.attemptsOf row.fareTransactionId = row.attemptCount := by
  rw [ReaderDatabase.attemptsOf, Table.find_of_mem inv.queue.ids hrow]
  rfl

/-- An update of the queue that adds an attempt to some rows, seen from one
transaction. -/
theorem attemptsOf_updateWhere {p : OfflineTransactionRow → Bool}
    {f : OfflineTransactionRow → OfflineTransactionRow}
    (h : db'.offlineTransactions = Table.updateWhere p f db.offlineTransactions)
    (hid : ∀ row, (f row).fareTransactionId = row.fareTransactionId)
    (hcount : ∀ row, (f row).attemptCount = row.attemptCount + 1)
    {transactionId : FareTransactionId} {counted : Bool}
    (hsome : counted = true →
      ∃ row ∈ db.offlineTransactions, row.fareTransactionId = transactionId)
    (hp : ∀ row ∈ db.offlineTransactions, row.fareTransactionId = transactionId →
      p row = counted) :
    db'.attemptsOf transactionId = db.attemptsOf transactionId + counted.toNat := by
  rw [ReaderDatabase.attemptsOf, ReaderDatabase.attemptsOf, h,
    Table.find_updateWhere_of_keeps hid]
  cases hfind : db.offlineTransactions.find? (·.fareTransactionId == transactionId) with
  | none =>
    cases counted with
    | false => rfl
    | true =>
      obtain ⟨row, hrow, hrowId⟩ := hsome rfl
      exact absurd hrowId (Table.find_eq_none.mp hfind row hrow)
  | some row =>
    rw [Option.map_some, hp row (List.mem_of_find?_eq_some hfind) (Table.key_of_find hfind)]
    cases counted with
    | false => rfl
    | true => exact hcount row

/-- A submission counts on the transactions of its batch. -/
theorem Consistent.attemptsOf_afterSubmission (inv : Consistent reader db)
    {marked : SynchronizationBatchId} {batch : SynchronizationBatchRow}
    (h : db.Submits readerId marked t batch) (transactionId : FareTransactionId) :
    (db.afterSubmission readerId marked t).attemptsOf transactionId =
      db.attemptsOf transactionId +
        (decide (transactionId ∈ (db.entriesOf marked).map (·.fareTransactionId))).toNat := by
  obtain ⟨hbatch, hselected, hcount⟩ := h
  simp only [SynchronizationBatchRow.named, Bool.and_eq_true, beq_iff_eq] at hselected
  obtain rfl : readerId = reader.readerId :=
    hselected.1.1.2.symm.trans (inv.batches.owned batch hbatch)
  refine attemptsOf_updateWhere (f := (·.countAttempt t)) rfl (fun _ => rfl) (fun _ => rfl)
    (fun hmember => ?_)
    fun row hrow hid => ?_
  · obtain ⟨entry, hentry, hid⟩ := List.mem_map.mp (of_decide_eq_true hmember)
    obtain ⟨row, hrow, hkey⟩ := inv.batches.entryQueued entry (List.mem_of_mem_filter hentry)
    exact ⟨row, hrow, (congrArg Prod.fst hkey).trans hid⟩
  · subst hid
    rw [Bool.eq_iff_iff, decide_eq_true_iff]
    constructor
    · intro hp
      simp only [ReaderDatabase.inFlightEntry, Bool.and_eq_true] at hp
      exact inv.batches.mem_inBatch.mp hp.2
    · exact inv.inFlightEntry_of_count hcount hrow

/-- A statement judged by the number of rows it changed. -/
theorem requireChangedRow_cases {body : Except ReaderQueueStateError (Nat × ReaderDatabase)}
    {transactionId : FareTransactionId} {transition : String} {updated : ReaderDatabase}
    {count : Nat}
    (h : ∀ affected db', body = .ok (affected, db') → affected = count ∧ db' = updated)
    (hother : count ≠ 1 → updated = db) :
    (count = 1 ∧ (transact db body).andThen (requireChangedRow transactionId transition) =
      ⟨updated, .ok ()⟩) ∨
    ∃ e, (transact db body).andThen (requireChangedRow transactionId transition) =
      ⟨db, .error e⟩ := by
  cases body with
  | error e => exact .inr ⟨e, rfl⟩
  | ok out =>
    obtain ⟨rfl, hdb⟩ := h out.1 out.2 rfl
    simp only [Outcome.andThen, transact, ok_bind, requireChangedRow, hdb]
    by_cases hone : out.1 = 1
    · rw [if_pos hone]
      exact .inl ⟨hone, rfl⟩
    · rw [if_neg hone, hother hone]
      exact .inr ⟨_, rfl⟩

/-- The mark of a transaction reaches its row, or it fails and changes nothing. -/
theorem Consistent.markTransaction_cases (inv : Consistent reader db) (readerId : ReaderId)
    (marked : FareTransactionId) (t : UnixMilliseconds) :
    ((∃ row ∈ db.offlineTransactions,
        (row.named readerId marked && row.updatedAt ≤ t && row.eligibleAt t) = true) ∧
      markOfflineTransactionInFlight db readerId marked t =
        ⟨{ db with
          offlineTransactions := Table.updateWhere
            (fun row => row.named readerId marked && row.updatedAt ≤ t && row.eligibleAt t)
            (·.markInFlight t) db.offlineTransactions }, .ok ()⟩) ∨
    ∃ e, markOfflineTransactionInFlight db readerId marked t = ⟨db, .error e⟩ := by
  have hnamed : ∀ row ∈ db.offlineTransactions,
      (row.named readerId marked && row.updatedAt ≤ t && row.eligibleAt t) = true →
        row.fareTransactionId = marked := by
    intro row _ hp
    simp only [OfflineTransactionRow.named, Bool.and_eq_true, beq_iff_eq] at hp
    exact hp.1.1.1
  rw [← Table.countP_eq_one_iff inv.queue.ids hnamed]
  refine requireChangedRow_cases (fun affected db' hbody => ?_) fun hcount => ?_
  · simp only [bind_eq_ok, updateTransactions_ok] at hbody
    obtain ⟨-, -, -, hcount, hdb⟩ := hbody
    exact ⟨hcount, hdb⟩
  · rw [Table.updateWhere_eq_self_of_count inv.queue.ids hnamed hcount]

theorem Consistent.attemptsOf_markTransaction (inv : Consistent reader db)
    {marked transactionId : FareTransactionId}
    (h : ∃ row ∈ db.offlineTransactions,
      (row.named readerId marked && row.updatedAt ≤ t && row.eligibleAt t) = true) :
    ({ db with
      offlineTransactions := Table.updateWhere
        (fun row => row.named readerId marked && row.updatedAt ≤ t && row.eligibleAt t)
        (·.markInFlight t) db.offlineTransactions } : ReaderDatabase).attemptsOf transactionId =
      db.attemptsOf transactionId + (decide (marked = transactionId)).toNat := by
  obtain ⟨row, hrow, hselected⟩ := h
  have hid : row.fareTransactionId = marked := by
    simp only [OfflineTransactionRow.named, Bool.and_eq_true, beq_iff_eq] at hselected
    exact hselected.1.1.1
  refine attemptsOf_updateWhere (f := (·.markInFlight t)) rfl (fun _ => rfl) (fun _ => rfl)
    (fun hmarked => ⟨row, hrow, hid.trans (of_decide_eq_true hmarked)⟩)
    fun other hother hotherId => ?_
  rw [Bool.eq_iff_iff, decide_eq_true_iff]
  constructor
  · intro hp
    simp only [OfflineTransactionRow.named, Bool.and_eq_true, beq_iff_eq] at hp
    exact hp.1.1.1.symm.trans hotherId
  · intro hmarked
    rwa [Table.eq_of_key_eq inv.queue.ids hother hrow
      (hotherId.trans (hmarked.symm.trans hid.symm))]

theorem attemptsOf_step (inv : Consistent reader db) (hmeets : op.keepsCounting db)
    (transactionId : FareTransactionId) :
    (perform codec db op).attemptsOf transactionId = db.attemptsOf transactionId +
      ((memberMarked transactionId db op).toList.length +
        (transactionMarked transactionId db op).toList.length) := by
  cases hop : op.isAttempt with
  | false =>
    have hsame : (perform codec db op).attemptsOf transactionId = db.attemptsOf transactionId :=
      perform_invariant (P := fun db' => db'.attemptsOf transactionId = db.attemptsOf transactionId)
        rfl fun _ h => h.attemptsOf hop transactionId
    rw [hsame]
    cases op with
    | markTransaction | markBatch => cases hop
    | _ => rfl
  | true =>
    cases op with
    | markBatch readerId marked t =>
      rw [perform, memberMarked]
      rcases inv.mark_cases codec readerId marked t with
        ⟨batch, hsubmits, -, hmark⟩ | ⟨-, e, hmark⟩
      · have hok := (inv.mark_isOk_iff codec hsubmits).mpr (hmeets batch hsubmits)
        rw [hok, hmark, thenLoad_database, inv.attemptsOf_afterSubmission hsubmits]
        by_cases hmember : transactionId ∈ (db.entriesOf marked).map (·.fareTransactionId)
        · rw [decide_eq_true hmember, if_pos ⟨hmember, rfl⟩]
          rfl
        · rw [decide_eq_false hmember, if_neg fun h => hmember h.1]
          rfl
      · rw [hmark, if_neg fun h => Bool.false_ne_true h.2]
        rfl
    | markTransaction readerId marked t =>
      rw [perform, transactionMarked]
      rcases inv.markTransaction_cases readerId marked t with ⟨hselected, hmark⟩ | ⟨e, hmark⟩
      · rw [hmark, inv.attemptsOf_markTransaction hselected]
        by_cases hmarked : marked = transactionId
        · rw [decide_eq_true hmarked, if_pos ⟨hmarked, rfl⟩]
          rfl
        · rw [decide_eq_false hmarked, if_neg fun h => hmarked h.1]
          rfl
      · rw [hmark, if_neg fun h => Bool.false_ne_true h.2]
        rfl
    | _ => cases hop

/-! ## Runs -/

theorem attemptsCounted_of_stepsMeet {db₀ : ReaderDatabase} (h : FreshlyBound db₀)
    {ops : List Operation}
    (hmeets : Runs.StepsMeet (perform codec) (fun db op => op.keepsCounting db) db₀ ops) :
    AttemptsCounted codec db₀ ops := by
  have hstep : ∀ db op, (∃ reader, Consistent reader db) →
      ∃ reader, Consistent reader (perform codec db op) := fun _ op ⟨_, inv⟩ => inv.perform op
  obtain ⟨reader, inv⟩ : ∃ reader, Consistent reader (Runs.run (perform codec) db₀ ops) :=
    consistent_run h ops
  obtain ⟨identity, -, hfresh⟩ := h.exists_identity
  constructor
  · intro batch hbatch
    have hcounted := Runs.fold_trace (·.submissionsOf batch.batchId) hstep
      (fun db op ⟨_, inv⟩ hmeet => submissionsOf_step inv hmeet batch.batchId) h.consistent hmeets
    have hnone : db₀.submissionsOf batch.batchId = (0, none) := by
      rw [hfresh]
      rfl
    rw [inv.submissionsOf_mem hbatch, hnone, foldl_recordSubmission, Nat.zero_add,
      Option.none_or, Prod.mk.injEq] at hcounted
    exact hcounted
  · intro row hrow
    have hcounted := Runs.add_trace (·.attemptsOf row.fareTransactionId) hstep
      (fun db op ⟨_, inv⟩ hmeet => attemptsOf_step inv hmeet row.fareTransactionId) h.consistent
      hmeets
    have hnone : db₀.attemptsOf row.fareTransactionId = 0 := by
      rw [hfresh]
      rfl
    rwa [inv.attemptsOf_mem hrow, hnone, Nat.zero_add] at hcounted

/-- A committed submission that is not read back is counted by its batch only,
so the law does not survive it. -/
theorem AttemptsCounted.keepsCounting {db₀ : ReaderDatabase} {ops : List Operation}
    (inv : Consistent reader (Runs.run (perform codec) db₀ ops))
    (hbefore : AttemptsCounted codec db₀ ops) (hafter : AttemptsCounted codec db₀ (ops ++ [op])) :
    op.keepsCounting (Runs.run (perform codec) db₀ ops) := by
  cases op with
  | markBatch readerId marked t =>
    intro batch hsubmits
    rw [← inv.mark_isOk_iff codec hsubmits]
    by_contra hfails
    obtain ⟨hbatch, hselected, hcount⟩ := hsubmits
    have hrow : batch.submit t ∈ (Runs.run (perform codec) db₀
        (ops ++ [.markBatch readerId marked t])).synchronizationBatches := by
      obtain ⟨-, hmark⟩ := inv.mark_eq codec hbatch hselected hcount
      rw [Runs.run_append, Runs.run_cons, Runs.run_nil, perform, hmark, thenLoad_database]
      exact Table.mem_updateWhere.mpr ⟨batch, hbatch, (if_pos hselected).symm⟩
    have hsilent : batchMarked batch.batchId (Runs.run (perform codec) db₀ ops)
        (.markBatch readerId marked t) = none := if_neg fun h => hfails h.2
    have hlater : batch.attemptCount + 1 = _ := (hafter.batches _ hrow).1
    rw [show (batch.submit t).batchId = batch.batchId from rfl, Runs.trace_concat, hsilent,
      Option.toList_none, List.append_nil, ← (hbefore.batches batch hbatch).1] at hlater
    exact Nat.succ_ne_self _ hlater
  | _ => trivial

/-- The counters of batches and transactions count the successful calls all
along a run exactly when no submission of the run counts a batch up to
`2 ^ 32`. -/
theorem attemptsCounted_iff {db₀ : ReaderDatabase} (h : FreshlyBound db₀) (ops : List Operation) :
    (∀ k, AttemptsCounted codec db₀ (ops.take k)) ↔
      Runs.StepsMeet (perform codec) (fun db op => op.keepsCounting db) db₀ ops := by
  constructor
  · intro hcounted
    refine Runs.stepsMeet_of_prefixes (P := fun db => ∃ reader, Consistent reader db)
      (fun _ op ⟨_, inv⟩ => inv.perform op) h.consistent ?_ hcounted
    rintro is op ⟨reader, inv⟩ hbefore hafter
    exact hbefore.keepsCounting inv hafter
  · intro hmeets k
    exact attemptsCounted_of_stepsMeet h (Runs.stepsMeet_take hmeets k)

theorem attemptsCounted_iff_submission :
    AttemptsCounted sampleCodec sampleDatabase sampleSubmission := by
  have hmeets : Runs.StepsMeet (perform sampleCodec) (fun db op => op.keepsCounting db)
      sampleDatabase sampleSubmission := by
    refine ⟨trivial, trivial, fun batch hsubmits => ?_, trivial⟩
    have hbounds : ∀ batch ∈ (Runs.run (perform sampleCodec) sampleDatabase
        (sampleSubmission.take 2)).synchronizationBatches, batch.attemptCount < 2 ^ 32 - 1 := by
      decide
    exact hbounds batch hsubmits.1
  exact (attemptsCounted_iff sampleDatabase_freshlyBound sampleSubmission).mpr hmeets 3

/-- The sample after `2 ^ 32 - 1` submissions, ready for one more. -/
def sampleManySubmissions : List Operation :=
  sampleStored ++ (List.replicate (2 ^ 32 - 2) sampleRound).flatten ++
    [.recoverBatches sampleReaderId 2]

theorem sampleManySubmissions_run :
    Runs.run (perform sampleCodec) sampleDatabase sampleManySubmissions =
      sampleRestarted (2 ^ 32 - 1) := by
  have hstored : Runs.run (perform sampleCodec) sampleDatabase sampleStored = sampleAttempts 1 := by
    rw [sampleStored_run]
    rfl
  have hcount : 1 + (2 ^ 32 - 2) = 2 ^ 32 - 1 := by decide
  rw [sampleManySubmissions, Runs.run_append, Runs.run_append, hstored, sampleRounds_run, hcount,
    Runs.run_cons, Runs.run_nil, sampleAttempts_recover]

/-- The next submission is counted, but the call fails. -/
theorem attempts_miscounted :
    ¬∀ (db₀ : ReaderDatabase) (ops : List Operation), FreshlyBound db₀ →
      AttemptsCounted sampleCodec db₀ ops := by
  intro hclaim
  obtain ⟨reader, inv⟩ : ∃ reader, Consistent reader
      (Runs.run (perform sampleCodec) sampleDatabase sampleManySubmissions) :=
    consistent_run sampleDatabase_freshlyBound _
  have hkeeps : (Operation.markBatch sampleReaderId sampleBatchId 2).keepsCounting
      (Runs.run (perform sampleCodec) sampleDatabase sampleManySubmissions) :=
    (hclaim _ _ sampleDatabase_freshlyBound).keepsCounting inv
      (hclaim _ _ sampleDatabase_freshlyBound)
  rw [sampleManySubmissions_run] at hkeeps
  have hbound := hkeeps _ ⟨List.mem_singleton_self _, rfl, rfl⟩
  exact absurd hbound (Nat.lt_irrefl _)

end TransitGuard.Reader
