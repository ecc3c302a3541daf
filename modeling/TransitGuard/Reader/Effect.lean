import TransitGuard.Reader.Operation

/-!
What a committed operation does to the tables. `Committed` lists, for each
operation, the guards it passed and the database it leaves; `perform_committed`
says that every call either changes nothing or does what the list says. The
invariants of the following modules are case analyses over this list.
-/

namespace TransitGuard.Reader

open Fallible

variable {ε α : Type}

/-! ## Statements -/

theorem updateTransactions_ok {db db' : ReaderDatabase} {operation : String}
    {p : OfflineTransactionRow → Bool} {f : OfflineTransactionRow → OfflineTransactionRow}
    {affected : Nat} :
    updateTransactions db operation p f = .ok (affected, db') ↔
      (∀ row ∈ db.offlineTransactions, p row = true → (f row).check = true) ∧
        affected = db.offlineTransactions.countP p ∧
          db' =
            { db with offlineTransactions := Table.updateWhere p f db.offlineTransactions } := by
  simp only [updateTransactions, bind_eq_ok, orFail_eq_ok, Table.update_eq_some, Prod.exists,
    Prod.mk.injEq, Except.ok.injEq]
  constructor
  · rintro ⟨rows, count, ⟨hcheck, rfl, rfl⟩, rfl, rfl⟩
    exact ⟨hcheck, rfl, rfl⟩
  · rintro ⟨hcheck, rfl, rfl⟩
    exact ⟨_, _, ⟨hcheck, rfl, rfl⟩, rfl, rfl⟩

theorem updateBatches_ok {db db' : ReaderDatabase} {operation : String}
    {p : SynchronizationBatchRow → Bool} {f : SynchronizationBatchRow → SynchronizationBatchRow}
    {affected : Nat} :
    updateBatches db operation p f = .ok (affected, db') ↔
      (∀ row ∈ db.synchronizationBatches, p row = true → (f row).check = true) ∧
        affected = db.synchronizationBatches.countP p ∧
          db' = { db with
            synchronizationBatches := Table.updateWhere p f db.synchronizationBatches } := by
  simp only [updateBatches, bind_eq_ok, orFail_eq_ok, Table.update_eq_some, Prod.exists,
    Prod.mk.injEq, Except.ok.injEq]
  constructor
  · rintro ⟨rows, count, ⟨hcheck, rfl, rfl⟩, rfl, rfl⟩
    exact ⟨hcheck, rfl, rfl⟩
  · rintro ⟨hcheck, rfl, rfl⟩
    exact ⟨_, _, ⟨hcheck, rfl, rfl⟩, rfl, rfl⟩

theorem updateOneBatch_ok {db : ReaderDatabase} {operation transition : String}
    {batchId : SynchronizationBatchId} {p : SynchronizationBatchRow → Bool}
    {f : SynchronizationBatchRow → SynchronizationBatchRow}
    {batches : List SynchronizationBatchRow} :
    updateOneBatch db operation transition batchId p f = .ok batches ↔
      (∀ row ∈ db.synchronizationBatches, p row = true → (f row).check = true) ∧
        db.synchronizationBatches.countP p = 1 ∧
          batches = Table.updateWhere p f db.synchronizationBatches := by
  simp only [updateOneBatch, bind_eq_ok, orFail_eq_ok, Table.update_eq_some, Prod.exists,
    Prod.mk.injEq, guard_eq_ok, Except.ok.injEq, ne_eq, not_not]
  constructor
  · rintro ⟨rows, affected, ⟨hcheck, rfl, rfl⟩, hone, rfl⟩
    exact ⟨hcheck, hone, rfl⟩
  · rintro ⟨hcheck, hone, rfl⟩
    exact ⟨_, _, ⟨hcheck, rfl, rfl⟩, hone, rfl⟩

theorem updateEntryTransactions_ok {db : ReaderDatabase} {operation : String}
    {readerId : ReaderId} {batchId : SynchronizationBatchId} {t : UnixMilliseconds}
    {f : OfflineTransactionRow → OfflineTransactionRow}
    {transactions : List OfflineTransactionRow} :
    updateEntryTransactions db operation readerId batchId t f = .ok transactions ↔
      (db.batchEntries readerId batchId).length ≠ 0 ∧
        (∀ row ∈ db.offlineTransactions,
          db.inFlightEntry readerId batchId t row = true → (f row).check = true) ∧
        db.offlineTransactions.countP (db.inFlightEntry readerId batchId t) =
          (db.batchEntries readerId batchId).length ∧
        transactions =
          Table.updateWhere (db.inFlightEntry readerId batchId t) f db.offlineTransactions := by
  simp only [updateEntryTransactions, bind_eq_ok, orFail_eq_ok, Table.update_eq_some,
    Prod.exists, Prod.mk.injEq, guard_eq_ok, Except.ok.injEq, ne_eq, not_not]
  constructor
  · rintro ⟨hne, rows, affected, ⟨hcheck, rfl, rfl⟩, hall, rfl⟩
    exact ⟨hne, hcheck, hall, rfl⟩
  · rintro ⟨hne, hcheck, hall, rfl⟩
    exact ⟨hne, _, _, ⟨hcheck, rfl, rfl⟩, hall, rfl⟩

theorem advanceReader_ok {readerState out : Option ReaderStateRow} {readerId : ReaderId}
    {current advanced : Nat} {t : UnixMilliseconds} :
    advanceReader readerState readerId current advanced t = .ok out ↔
      (advanced ≤ current ∧ out = readerState) ∨
        (current < advanced ∧ advanced ≤ i64Max ∧
          ∃ row, readerState = some row ∧ row.readerId = readerId ∧
            row.lastAcknowledgedSequence ≤ advanced ∧ advanced < row.nextLocalSequence ∧
            (row.advance advanced t).check = true ∧ out = some (row.advance advanced t)) := by
  unfold advanceReader
  by_cases h : advanced ≤ current
  · rw [if_pos h, Except.ok.injEq, eq_comm]
    exact ⟨fun hout => .inl ⟨h, hout⟩, fun hout => hout.elim And.right fun hlt => by omega⟩
  · rw [if_neg h]
    simp only [bind_eq_ok, guard_eq_ok, orFail_eq_ok, Option.filter_eq_some_iff,
      Bool.and_eq_true, beq_iff_eq, decide_eq_true_eq, Except.ok.injEq, Nat.not_lt,
      Bool.not_eq_eq_eq_not, Bool.not_true, Bool.not_eq_false]
    constructor
    · rintro ⟨hmax, row, ⟨hrow, ⟨hid, hlast⟩, hnext⟩, hcheck, rfl⟩
      exact .inr ⟨Nat.lt_of_not_le h, hmax, row, hrow, hid, hlast, hnext, hcheck, rfl⟩
    · rintro (⟨hle, -⟩ | ⟨-, hmax, row, hrow, hid, hlast, hnext, hcheck, rfl⟩)
      · exact absurd hle h
      · exact ⟨hmax, row, ⟨hrow, ⟨hid, hlast⟩, hnext⟩, hcheck, rfl⟩

/-! ## Committed operations -/

variable (codec : Json.Codec)

/-- What an operation that changed the database did to it. -/
inductive Committed (db : ReaderDatabase) : Operation → ReaderDatabase → Prop
  | bind {identity : ReaderDatabaseIdentity} (unbound : db.readerState = none) :
    Committed db (.bind identity) { db with readerState := some identity.initialRow }
  | enqueue {readerId : ReaderId} {draft : OfflineTransactionDraft} {reader : ReaderStateRow}
      (bound : db.readerState = some reader) (owner : reader.readerId = readerId)
      (available : reader.nextLocalSequence < i64Max)
      (readerCheck : (reader.assignSequence draft.createdAt).check = true)
      (check : (draft.toRow codec readerId reader.nextLocalSequence).check = true)
      (fresh : ∀ other ∈ db.offlineTransactions,
        (draft.toRow codec readerId reader.nextLocalSequence).conflicts other = false) :
    Committed db (.enqueue readerId draft)
      { db with
        readerState := some (reader.assignSequence draft.createdAt)
        offlineTransactions :=
          db.offlineTransactions ++ [draft.toRow codec readerId reader.nextLocalSequence] }
  | markTransaction {readerId : ReaderId} {transactionId : FareTransactionId}
      {t : UnixMilliseconds}
      (check : ∀ row ∈ db.offlineTransactions,
        (row.named readerId transactionId && row.updatedAt ≤ t && row.eligibleAt t) = true →
          (row.markInFlight t).check = true) :
    Committed db (.markTransaction readerId transactionId t)
      { db with
        offlineTransactions := Table.updateWhere
          (fun row => row.named readerId transactionId && row.updatedAt ≤ t && row.eligibleAt t)
          (·.markInFlight t) db.offlineTransactions }
  | retryTransaction {readerId : ReaderId} {transactionId : FareTransactionId}
      {failureCategory : String} {t retryAt : UnixMilliseconds}
      (check : ∀ row ∈ db.offlineTransactions,
        (row.named readerId transactionId && row.inFlightBy t) = true →
          (row.resolve .retryableFailure (some retryAt) (some (Text.trim failureCategory))
            t).check = true)
      (category : Text.trim failureCategory ≠ "") :
    Committed db (.retryTransaction readerId transactionId failureCategory t retryAt)
      { db with
        offlineTransactions := Table.updateWhere
          (fun row => row.named readerId transactionId && row.inFlightBy t)
          (·.resolve .retryableFailure (some retryAt) (some (Text.trim failureCategory)) t)
          db.offlineTransactions }
  | failTransaction {readerId : ReaderId} {transactionId : FareTransactionId}
      {failureCategory : String} {t : UnixMilliseconds} {target : FinalState}
      (check : ∀ row ∈ db.offlineTransactions,
        (row.named readerId transactionId && row.inFlightBy t) = true →
          (row.resolve target.queueState none (some (Text.trim failureCategory)) t).check =
            true)
      (category : Text.trim failureCategory ≠ "") :
    Committed db (.failTransaction readerId transactionId failureCategory t target)
      { db with
        offlineTransactions := Table.updateWhere
          (fun row => row.named readerId transactionId && row.inFlightBy t)
          (·.resolve target.queueState none (some (Text.trim failureCategory)) t)
          db.offlineTransactions }
  | recoverQueue {readerId : ReaderId} {t : UnixMilliseconds}
      (check : ∀ row ∈ db.offlineTransactions,
        (row.readerId == readerId && row.inFlightBy t && !db.inOpenBatch row) = true →
          (row.resolve .retryableFailure (some t) (some restartFailureCategory) t).check =
            true) :
    Committed db (.recoverQueue readerId t)
      { db with
        offlineTransactions := Table.updateWhere
          (fun row => row.readerId == readerId && row.inFlightBy t && !db.inOpenBatch row)
          (·.resolve .retryableFailure (some t) (some restartFailureCategory) t)
          db.offlineTransactions }
  | createBatch {readerId : ReaderId} {protocolVersion : DeviceProtocolVersion}
      {t : UnixMilliseconds} {limit : Nat} {generated : SynchronizationBatchId}
      {entries : List SynchronizationBatchEntry} {first last : SynchronizationBatchEntry}
      {transactions : List OfflineTransactionRow}
      (candidates : entries.map (·.key) =
        (batchCandidates db readerId t limit).map (·.key))
      (head : entries.head? = some first) (getLast : entries.getLast? = some last)
      (owner : db.hasReader readerId = true)
      (check : (preparedBatch readerId protocolVersion t generated first.localSequenceNumber
        last.localSequenceNumber).check = true)
      (fresh : ∀ batch ∈ db.synchronizationBatches, generated ≠ batch.batchId)
      (reserved : reserveTransactions readerId t entries db.offlineTransactions =
        .ok transactions) :
    Committed db (.createBatch readerId protocolVersion t limit generated)
      { db with
        offlineTransactions := transactions
        synchronizationBatches := db.synchronizationBatches ++
          [preparedBatch readerId protocolVersion t generated first.localSequenceNumber
            last.localSequenceNumber]
        synchronizationEntries :=
          db.synchronizationEntries ++ entryRows readerId generated 0 entries }
  | markBatch {readerId : ReaderId} {batchId : SynchronizationBatchId} {t : UnixMilliseconds}
      (check : ∀ row ∈ db.synchronizationBatches,
        (row.named readerId batchId && row.updatedAt ≤ t && row.readyAt t) = true →
          (row.submit t).check = true)
      (queueCheck : ∀ row ∈ db.offlineTransactions,
        db.inFlightEntry readerId batchId t row = true → (row.countAttempt t).check = true)
      (all : db.offlineTransactions.countP (db.inFlightEntry readerId batchId t) =
        (db.batchEntries readerId batchId).length) :
    Committed db (.markBatch readerId batchId t)
      { db with
        synchronizationBatches := Table.updateWhere
          (fun row => row.named readerId batchId && row.updatedAt ≤ t && row.readyAt t)
          (·.submit t) db.synchronizationBatches
        offlineTransactions := Table.updateWhere (db.inFlightEntry readerId batchId t)
          (·.countAttempt t) db.offlineTransactions }
  | retryBatch {readerId : ReaderId} {batchId : SynchronizationBatchId}
      {failureCategory : String} {t retryAt : UnixMilliseconds}
      (check : ∀ row ∈ db.synchronizationBatches,
        (row.named readerId batchId && row.inFlightBy t) = true →
          (row.leave .retryableFailure (some retryAt) (some (Text.trim failureCategory))
            t).check = true) :
    Committed db (.retryBatch readerId batchId failureCategory t retryAt)
      { db with
        synchronizationBatches := Table.updateWhere
          (fun row => row.named readerId batchId && row.inFlightBy t)
          (·.leave .retryableFailure (some retryAt) (some (Text.trim failureCategory)) t)
          db.synchronizationBatches }
  | failBatch {readerId : ReaderId} {batchId : SynchronizationBatchId}
      {failureCategory : String} {t : UnixMilliseconds} {target : FinalState}
      (check : ∀ row ∈ db.synchronizationBatches,
        (row.named readerId batchId && row.inFlightBy t) = true →
          (row.leave target.batchState none (some (Text.trim failureCategory)) t).check = true)
      (one : db.synchronizationBatches.countP
        (fun row => row.named readerId batchId && row.inFlightBy t) = 1)
      (queueCheck : ∀ row ∈ db.offlineTransactions,
        db.inFlightEntry readerId batchId t row = true →
          (row.resolve target.queueState none (some (Text.trim failureCategory)) t).check = true)
      (all : db.offlineTransactions.countP (db.inFlightEntry readerId batchId t) =
        (db.batchEntries readerId batchId).length)
      (category : Text.trim failureCategory ≠ "") :
    Committed db (.failBatch readerId batchId failureCategory t target)
      { db with
        synchronizationBatches := Table.updateWhere
          (fun row => row.named readerId batchId && row.inFlightBy t)
          (·.leave target.batchState none (some (Text.trim failureCategory)) t)
          db.synchronizationBatches
        offlineTransactions := Table.updateWhere (db.inFlightEntry readerId batchId t)
          (·.resolve target.queueState none (some (Text.trim failureCategory)) t)
          db.offlineTransactions }
  | recoverBatches {readerId : ReaderId} {t : UnixMilliseconds}
      (check : ∀ row ∈ db.synchronizationBatches,
        (row.readerId == readerId && row.inFlightBy t) = true →
          (row.leave .retryableFailure (some t) (some restartFailureCategory) t).check = true) :
    Committed db (.recoverBatches readerId t)
      { db with
        synchronizationBatches := Table.updateWhere
          (fun row => row.readerId == readerId && row.inFlightBy t)
          (·.leave .retryableFailure (some t) (some restartFailureCategory) t)
          db.synchronizationBatches }
  | storeAcknowledgement {acknowledgement : SynchronizationAcknowledgement}
      {batch : SynchronizationBatch} {row : SynchronizationBatchRow}
      (loaded : loadSynchronizationBatch db acknowledgement.readerId acknowledgement.batchId =
        .ok batch)
      (valid : validateAgainstBatch acknowledgement batch = .ok ())
      (found : db.findBatch acknowledgement.readerId acknowledgement.batchId = some row)
      (inFlight : row.batchState = .inFlight)
      (check : (acknowledgement.toRow codec).check = true)
      (fresh : ∀ other ∈ db.synchronizationAcknowledgements,
        acknowledgement.batchId ≠ other.batchId)
      (entryChecks : ∀ entry ∈ acknowledgement.entryRows 0 acknowledgement.entries,
        entry.check = true) :
    Committed db (.storeAcknowledgement acknowledgement)
      { db with
        synchronizationAcknowledgements :=
          db.synchronizationAcknowledgements ++ [acknowledgement.toRow codec]
        synchronizationAcknowledgementEntries := db.synchronizationAcknowledgementEntries ++
          acknowledgement.entryRows 0 acknowledgement.entries }
  | applyAcknowledgement {readerId : ReaderId} {batchId : SynchronizationBatchId}
      {t : UnixMilliseconds} {acknowledgement : SynchronizationAcknowledgementRow}
      {entries : List DecodedAcknowledgementEntry} {reader : ReaderStateRow}
      {readerState : Option ReaderStateRow} {transactions : List OfflineTransactionRow}
      {advanced : Nat}
      (found : db.findAcknowledgement readerId batchId = some acknowledgement)
      (unapplied : acknowledgement.appliedAt = none)
      (decoded : decodeAcknowledgementEntries acknowledgement.receivedAt 0
        (Table.orderBy (·.entryPosition)
          (db.synchronizationAcknowledgementEntries.filter fun row =>
            row.batchId == batchId && row.readerId == readerId)) = .ok entries)
      (bound : db.readerState = some reader) (owner : reader.readerId = readerId)
      (applied : applyEntries readerId t entries db.offlineTransactions = .ok transactions)
      (check : ∀ row ∈ db.synchronizationBatches,
        (row.named readerId batchId && row.inFlightBy t) = true →
          (row.leave .acknowledged none none t).check = true)
      (one : db.synchronizationBatches.countP
        (fun row => row.named readerId batchId && row.inFlightBy t) = 1)
      (contiguous : contiguousResolvedSequence reader.lastAcknowledgedSequence
        (Table.orderBy (·.localSequenceNumber) (transactions.filter fun row =>
          row.readerId == readerId &&
            reader.lastAcknowledgedSequence < row.localSequenceNumber)) = .ok advanced)
      (advance : advanceReader db.readerState readerId reader.lastAcknowledgedSequence advanced
        t = .ok readerState)
      (acknowledgementCheck : ∀ row ∈ db.synchronizationAcknowledgements,
        (row.batchId == batchId && row.readerId == readerId && row.appliedAt.isNone) = true →
          (SynchronizationAcknowledgementRow.check { row with appliedAt := some t }) = true) :
    Committed db (.applyAcknowledgement readerId batchId t)
      { db with
        readerState
        offlineTransactions := transactions
        synchronizationBatches := Table.updateWhere
          (fun row => row.named readerId batchId && row.inFlightBy t)
          (·.leave .acknowledged none none t) db.synchronizationBatches
        synchronizationAcknowledgements := Table.updateWhere
          (fun row => row.batchId == batchId && row.readerId == readerId && row.appliedAt.isNone)
          (fun row => { row with appliedAt := some t }) db.synchronizationAcknowledgements }

variable {codec}

/-- The form of the spec of one operation: a committed body did what the list
says. -/
theorem committed_of_body {db : ReaderDatabase} {op : Operation}
    {body : Except ε (α × ReaderDatabase)}
    (h : ∀ value db', body = .ok (value, db') → db' = db ∨ Committed codec db op db') :
    (transact db body).database = db ∨ Committed codec db op (transact db body).database := by
  cases body with
  | error e => exact .inl rfl
  | ok out => exact h out.1 out.2 rfl

theorem bind_committed {db : ReaderDatabase} {identity : ReaderDatabaseIdentity} :
    (bindReaderDatabase db identity).database = db ∨
      Committed codec db (.bind identity) (bindReaderDatabase db identity).database := by
  unfold bindReaderDatabase
  refine committed_of_body fun value db' h => ?_
  simp only [bindStatements, guard_eq_ok, bind_eq_ok, Except.ok.injEq, Prod.mk.injEq] at h
  obtain ⟨-, state, -, -, -, -, rfl⟩ := h
  cases hs : db.readerState with
  | none => exact .inr (.bind hs)
  | some row =>
    left
    rw [Option.getD_some, ← hs]

theorem enqueue_committed {db : ReaderDatabase} {readerId : ReaderId}
    {draft : OfflineTransactionDraft} :
    (enqueueOfflineTransaction codec db readerId draft).database = db ∨
      Committed codec db (.enqueue readerId draft)
        (enqueueOfflineTransaction codec db readerId draft).database := by
  refine committed_of_body fun value db' h => .inr ?_
  simp only [enqueueStatements, guard_eq_ok, bind_eq_ok, Except.ok.injEq, Prod.mk.injEq,
    orFail_eq_ok, Option.filter_eq_some_iff, mapError_eq_ok, Table.insert_eq_ok,
    Bool.and_eq_true, beq_iff_eq, decide_eq_true_eq, Bool.not_eq_eq_eq_not, Bool.not_true,
    Bool.not_eq_false] at h
  obtain ⟨reader, ⟨hreader, howner, hnext⟩, hcheck, sequence, -, -, rows,
    ⟨hrow, hfresh, -, rfl⟩, -, rfl⟩ := h
  exact .enqueue hreader howner hnext hcheck hrow hfresh

theorem markTransaction_committed {db : ReaderDatabase} {readerId : ReaderId}
    {transactionId : FareTransactionId} {t : UnixMilliseconds} :
    (markOfflineTransactionInFlight db readerId transactionId t).database = db ∨
      Committed codec db (.markTransaction readerId transactionId t)
        (markOfflineTransactionInFlight db readerId transactionId t).database := by
  rw [markOfflineTransactionInFlight, Outcome.andThen_database]
  refine committed_of_body fun value db' h => .inr ?_
  simp only [bind_eq_ok, updateTransactions_ok] at h
  obtain ⟨-, -, hcheck, -, rfl⟩ := h
  exact .markTransaction hcheck

theorem retryTransaction_committed {db : ReaderDatabase} {readerId : ReaderId}
    {transactionId : FareTransactionId} {failureCategory : String}
    {t retryAt : UnixMilliseconds} :
    (recordRetryableQueueFailure db readerId transactionId failureCategory t retryAt).database =
        db ∨
      Committed codec db (.retryTransaction readerId transactionId failureCategory t retryAt)
        (recordRetryableQueueFailure db readerId transactionId failureCategory t
          retryAt).database := by
  rw [recordRetryableQueueFailure, Outcome.andThen_database]
  refine committed_of_body fun value db' h => .inr ?_
  simp only [bind_eq_ok, guard_eq_ok, validateCategory_ok, updateTransactions_ok] at h
  obtain ⟨-, -, -, -, -, category, ⟨rfl, hcategory⟩, hcheck, -, rfl⟩ := h
  exact .retryTransaction hcheck hcategory

theorem failTransaction_committed {db : ReaderDatabase} {readerId : ReaderId}
    {transactionId : FareTransactionId} {failureCategory : String} {t : UnixMilliseconds}
    {target : FinalState} :
    (recordFinalFailure db readerId transactionId failureCategory t target).database = db ∨
      Committed codec db (.failTransaction readerId transactionId failureCategory t target)
        (recordFinalFailure db readerId transactionId failureCategory t target).database := by
  rw [recordFinalFailure, Outcome.andThen_database]
  refine committed_of_body fun value db' h => .inr ?_
  simp only [bind_eq_ok, validateCategory_ok, updateTransactions_ok] at h
  obtain ⟨-, -, category, ⟨rfl, hcategory⟩, hcheck, -, rfl⟩ := h
  exact .failTransaction hcheck hcategory

theorem recoverQueue_committed {db : ReaderDatabase} {readerId : ReaderId}
    {t : UnixMilliseconds} :
    (recoverInterruptedOfflineQueue db readerId t).database = db ∨
      Committed codec db (.recoverQueue readerId t)
        (recoverInterruptedOfflineQueue db readerId t).database := by
  refine committed_of_body fun value db' h => .inr ?_
  simp only [bind_eq_ok, updateTransactions_ok] at h
  obtain ⟨-, -, hcheck, -, rfl⟩ := h
  exact .recoverQueue hcheck

theorem createBatch_committed {db : ReaderDatabase} {readerId : ReaderId}
    {protocolVersion : DeviceProtocolVersion} {t : UnixMilliseconds} {limit : Nat}
    {generated : SynchronizationBatchId} :
    (createSynchronizationBatch db readerId protocolVersion t limit generated).database = db ∨
      Committed codec db (.createBatch readerId protocolVersion t limit generated)
        (createSynchronizationBatch db readerId protocolVersion t limit generated).database := by
  refine committed_of_body fun value db' h => .inr ?_
  simp only [bind_eq_ok, guard_eq_ok, mapM_eq_ok, decodeCandidate_ok] at h
  obtain ⟨-, -, -, -, -, entries, hentries, h⟩ := h
  split at h
  · next first last hfirst hlast =>
    simp only [bind_eq_ok, guard_eq_ok, mapError_eq_ok, Table.insert_eq_ok, Except.ok.injEq,
      Prod.mk.injEq] at h
    obtain ⟨-, batches, ⟨hcheck, hfresh, howner, rfl⟩, db'', hreserve, -, rfl⟩ := h
    obtain ⟨transactions, heach, rfl⟩ := reserveEntries_ok hreserve
    have hkeys : entries.map (·.key) = (batchCandidates db readerId t limit).map (·.key) := by
      rw [← List.forall₂_eq_eq_eq, List.forall₂_map_left_iff, List.forall₂_map_right_iff]
      exact hentries.flip
    refine .createBatch hkeys hfirst hlast howner hcheck (fun batch hbatch => ?_) heach
    simpa [SynchronizationBatchRow.conflicts, preparedBatch] using hfresh batch hbatch
  · cases h

theorem markBatch_committed {db : ReaderDatabase} {readerId : ReaderId}
    {batchId : SynchronizationBatchId} {t : UnixMilliseconds} :
    (markSynchronizationBatchInFlight db readerId batchId t).database = db ∨
      Committed codec db (.markBatch readerId batchId t)
        (markSynchronizationBatchInFlight db readerId batchId t).database := by
  rw [markSynchronizationBatchInFlight, thenLoad_database]
  refine committed_of_body fun value db' h => .inr ?_
  simp only [bind_eq_ok, updateOneBatch_ok, updateEntryTransactions_ok, Except.ok.injEq,
    Prod.mk.injEq] at h
  obtain ⟨-, -, batches, ⟨hcheck, -, rfl⟩, transactions, ⟨-, hqueue, hall, rfl⟩, -, rfl⟩ := h
  exact .markBatch hcheck hqueue hall

theorem retryBatch_committed {db : ReaderDatabase} {readerId : ReaderId}
    {batchId : SynchronizationBatchId} {failureCategory : String}
    {t retryAt : UnixMilliseconds} :
    (recordSynchronizationRetryableFailure db readerId batchId failureCategory t
        retryAt).database = db ∨
      Committed codec db (.retryBatch readerId batchId failureCategory t retryAt)
        (recordSynchronizationRetryableFailure db readerId batchId failureCategory t
          retryAt).database := by
  rw [recordSynchronizationRetryableFailure, thenLoad_database, Outcome.andThen_database]
  refine committed_of_body fun value db' h => .inr ?_
  simp only [bind_eq_ok, guard_eq_ok, validateCategory_ok, updateBatches_ok] at h
  obtain ⟨-, -, -, -, -, category, ⟨rfl, -⟩, hcheck, -, rfl⟩ := h
  exact .retryBatch hcheck

theorem failBatch_committed {db : ReaderDatabase} {readerId : ReaderId}
    {batchId : SynchronizationBatchId} {failureCategory transition : String}
    {t : UnixMilliseconds} {target : FinalState} :
    (recordFinalSynchronizationFailure db readerId batchId failureCategory t target
        transition).database = db ∨
      Committed codec db (.failBatch readerId batchId failureCategory t target)
        (recordFinalSynchronizationFailure db readerId batchId failureCategory t target
          transition).database := by
  rw [recordFinalSynchronizationFailure, thenLoad_database]
  refine committed_of_body fun value db' h => .inr ?_
  simp only [bind_eq_ok, validateCategory_ok, updateOneBatch_ok, updateEntryTransactions_ok,
    Except.ok.injEq, Prod.mk.injEq] at h
  obtain ⟨-, -, category, ⟨rfl, hcategory⟩, batches, ⟨hcheck, hone, rfl⟩, transactions,
    ⟨-, hqueue, hall, rfl⟩, -, rfl⟩ := h
  exact .failBatch hcheck hone hqueue hall hcategory

theorem recoverBatches_committed {db : ReaderDatabase} {readerId : ReaderId}
    {t : UnixMilliseconds} :
    (recoverInterruptedSynchronizationBatches db readerId t).database = db ∨
      Committed codec db (.recoverBatches readerId t)
        (recoverInterruptedSynchronizationBatches db readerId t).database := by
  refine committed_of_body fun value db' h => .inr ?_
  simp only [bind_eq_ok, updateBatches_ok] at h
  obtain ⟨-, -, hcheck, -, rfl⟩ := h
  exact .recoverBatches hcheck

theorem storeAcknowledgement_committed {db : ReaderDatabase}
    {acknowledgement : SynchronizationAcknowledgement} :
    (storeSynchronizationAcknowledgement codec db acknowledgement).database = db ∨
      Committed codec db (.storeAcknowledgement acknowledgement)
        (storeSynchronizationAcknowledgement codec db acknowledgement).database := by
  refine committed_of_body fun value db' h => ?_
  simp only [bind_eq_ok, mapError_eq_ok] at h
  obtain ⟨batch, hbatch, ⟨⟩, hvalid, h⟩ := h
  split at h
  · rw [ite_error_eq_ok, Except.ok.injEq, Prod.mk.injEq] at h
    exact .inl h.2.2.symm
  · simp only [insertAcknowledgement, bind_eq_ok, guard_eq_ok, orFail_eq_ok, mapError_eq_ok,
      Table.insert_eq_ok, Except.ok.injEq, Prod.mk.injEq, ne_eq, not_not] at h
    obtain ⟨row, hrow, hstate, -, -, -, -, rows, ⟨hcheck, hfresh, -, rfl⟩, entries, hentries, -,
      rfl⟩ := h
    obtain ⟨hchecks, rfl⟩ := insertAcknowledgementEntries_ok hentries
    refine .inr (.storeAcknowledgement hbatch hvalid hrow hstate hcheck (fun other hother => ?_)
      hchecks)
    simpa [SynchronizationAcknowledgementRow.conflicts,
      SynchronizationAcknowledgement.toRow] using hfresh other hother

/-- An application that returned either found the acknowledgement applied and
changed nothing, or applied it. -/
theorem applyAcknowledgement_ok {db : ReaderDatabase} {readerId : ReaderId}
    {batchId : SynchronizationBatchId} {t : UnixMilliseconds}
    {application : SynchronizationAcknowledgementApplication}
    (h : (applySynchronizationAcknowledgement db readerId batchId t).result = .ok application) :
    (application.appliedNow = false ∧
        (applySynchronizationAcknowledgement db readerId batchId t).database = db) ∨
      (application.appliedNow = true ∧
        Committed codec db (.applyAcknowledgement readerId batchId t)
          (applySynchronizationAcknowledgement db readerId batchId t).database) := by
  obtain ⟨db', hbody, hdb⟩ := transact_of_ok h
  rw [applySynchronizationAcknowledgement, hdb]
  simp only [bind_eq_ok, guard_eq_ok, orFail_eq_ok, Option.filter_eq_some_iff, beq_iff_eq]
    at hbody
  obtain ⟨-, -, acknowledgement, hfound, -, entries, hentries, -, reader, ⟨hreader, howner⟩,
    hbody⟩ := hbody
  split at hbody
  · rw [ite_error_eq_ok, Except.ok.injEq, Prod.mk.injEq] at hbody
    obtain ⟨-, rfl, rfl⟩ := hbody
    exact .inl ⟨rfl, rfl⟩
  · next hunapplied =>
    simp only [ite_error_eq_ok, applyStatements, bind_eq_ok, guard_eq_ok, orFail_eq_ok,
      Table.update_eq_some, Except.ok.injEq, Prod.mk.injEq, Prod.exists, ne_eq, not_not]
      at hbody
    obtain ⟨-, _, _, ⟨batch, hbatch, hstate, transactions, happlied, batches, completed,
      ⟨hcheck, rfl, rfl⟩, hone, advanced, hcontiguous, readerState, hadvance, acks, marked,
      ⟨hack, rfl, -⟩, -, rfl, rfl⟩, rfl, rfl⟩ := hbody
    exact .inr ⟨rfl, .applyAcknowledgement hfound hunapplied hentries hreader howner happlied
      hcheck hone hcontiguous hadvance hack⟩

theorem applyAcknowledgement_committed {db : ReaderDatabase} {readerId : ReaderId}
    {batchId : SynchronizationBatchId} {t : UnixMilliseconds} :
    (applySynchronizationAcknowledgement db readerId batchId t).database = db ∨
      Committed codec db (.applyAcknowledgement readerId batchId t)
        (applySynchronizationAcknowledgement db readerId batchId t).database := by
  cases hresult : (applySynchronizationAcknowledgement db readerId batchId t).result with
  | ok application => exact (applyAcknowledgement_ok hresult).imp And.right And.right
  | error e => exact .inl (transact_of_error hresult)

/-- Every call changes nothing or does what the list of committed operations
says. -/
theorem perform_committed (db : ReaderDatabase) (op : Operation) :
    perform codec db op = db ∨ Committed codec db op (perform codec db op) := by
  cases op with
  | bind => exact bind_committed
  | enqueue => exact enqueue_committed
  | markTransaction => exact markTransaction_committed
  | retryTransaction => exact retryTransaction_committed
  | failTransaction _ _ _ _ target => cases target <;> exact failTransaction_committed
  | recoverQueue => exact recoverQueue_committed
  | createBatch => exact createBatch_committed
  | markBatch => exact markBatch_committed
  | retryBatch => exact retryBatch_committed
  | failBatch _ _ _ _ target => cases target <;> exact failBatch_committed
  | recoverBatches => exact recoverBatches_committed
  | storeAcknowledgement => exact storeAcknowledgement_committed
  | applyAcknowledgement => exact applyAcknowledgement_committed

/-- The rule for invariants: what every committed operation keeps, every call
keeps. -/
theorem perform_invariant {P : ReaderDatabase → Prop} {db : ReaderDatabase} {op : Operation}
    (hdb : P db) (h : ∀ db', Committed codec db op db' → P db') : P (perform codec db op) := by
  rcases perform_committed db op with hsame | hcommitted
  · rw [hsame]
    exact hdb
  · exact h _ hcommitted

end TransitGuard.Reader
