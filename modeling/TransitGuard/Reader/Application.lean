import TransitGuard.Reader.BatchState
import TransitGuard.Reader.Acknowledgement

/-!
Application of a stored acknowledgement. Queue outcomes, completion of the
batch, the marker on the acknowledgement and the advance of the contiguous
reader sequence commit in one SQLite transaction.
-/

namespace TransitGuard.Reader

open Fallible

/-- `ReaderAcknowledgementApplicationError`. -/
inductive ReaderAcknowledgementApplicationError
  | negativeApplicationTime (unixMilliseconds : UnixMilliseconds)
  | acknowledgementNotFound (batchId : SynchronizationBatchId) (readerId : ReaderId)
  | applicationBeforeReceipt (batchId : SynchronizationBatchId)
      (appliedAt receivedAt : UnixMilliseconds)
  | batchNotInFlight (batchId : SynchronizationBatchId)
  | entryStateConflict (transactionId : FareTransactionId)
  | acknowledgementUpdateConflict (batchId : SynchronizationBatchId)
  | readerStateNotFound (readerId : ReaderId)
  | invalidStoredValue (field : String)
  | database (operation : String)
  deriving DecidableEq

/-! ## Decoding -/

/-- `validated_failure_category`. -/
def validatedFailureCategory (failureCategory : Option String) :
    Except ReaderAcknowledgementApplicationError String := do
  let category ← orFail (.invalidStoredValue "failure_category") failureCategory
  validateCategory (.invalidStoredValue "failure_category") category

/-- `decode_resolution`. `AppliedResolution` repeats the variants of
`SynchronizationEntryResolution`. -/
def decodeResolution (outcome : Protocol.EntryOutcome) (failureCategory : Option String)
    (retryAt : Option UnixMilliseconds) (receivedAt : UnixMilliseconds) :
    Except ReaderAcknowledgementApplicationError SynchronizationEntryResolution :=
  match outcome with
  | .acknowledged =>
    if failureCategory.isSome || retryAt.isSome then
      .error (.invalidStoredValue "acknowledgement_outcome")
    else .ok .acknowledged
  | .retryableFailure => do
    let category ← validatedFailureCategory failureCategory
    let retryAt ← orFail (.invalidStoredValue "retry_at_unix_milliseconds") retryAt
    if retryAt < receivedAt then .error (.invalidStoredValue "retry_at_unix_milliseconds")
    else .ok (.retryableFailure category retryAt)
  | .permanentFailure =>
    if retryAt.isSome then .error (.invalidStoredValue "retry_at_unix_milliseconds")
    else (validatedFailureCategory failureCategory).map .permanentFailure
  | .manualReview =>
    if retryAt.isSome then .error (.invalidStoredValue "retry_at_unix_milliseconds")
    else (validatedFailureCategory failureCategory).map .manualReview

structure DecodedAcknowledgementEntry where
  transactionId : FareTransactionId
  localSequenceNumber : Nat
  resolution : SynchronizationEntryResolution
  deriving DecidableEq

def DecodedAcknowledgementEntry.key (entry : DecodedAcknowledgementEntry) :
    FareTransactionId × Nat :=
  (entry.transactionId, entry.localSequenceNumber)

/-- `decode_entries`, from the position of the first entry on. -/
def decodeAcknowledgementEntries (receivedAt : UnixMilliseconds) (expectedPosition : Nat) :
    List SynchronizationAcknowledgementEntryRow →
      Except ReaderAcknowledgementApplicationError (List DecodedAcknowledgementEntry)
  | [] => .ok []
  | stored :: rest => do
    if stored.entryPosition ≠ expectedPosition then .error (.invalidStoredValue "entry_position")
    if stored.localSequenceNumber = 0 then .error (.invalidStoredValue "local_sequence_number")
    let resolution ← decodeResolution stored.outcome stored.failureCategory stored.retryAt
      receivedAt
    let entries ← decodeAcknowledgementEntries receivedAt (expectedPosition + 1) rest
    .ok (⟨stored.fareTransactionId, stored.localSequenceNumber, resolution⟩ :: entries)

theorem decodeAcknowledgementEntries_ok {receivedAt : UnixMilliseconds} {position : Nat}
    {rows : List SynchronizationAcknowledgementEntryRow}
    {entries : List DecodedAcknowledgementEntry} :
    decodeAcknowledgementEntries receivedAt position rows = .ok entries ↔
      rows.map (·.entryPosition) = List.range' position rows.length ∧
        List.Forall₂ (fun row entry => row.localSequenceNumber ≠ 0 ∧ entry.key = row.key ∧
          decodeResolution row.outcome row.failureCategory row.retryAt receivedAt =
            .ok entry.resolution) rows entries := by
  induction rows generalizing position entries with
  | nil =>
    simp only [decodeAcknowledgementEntries, Except.ok.injEq, List.map_nil, List.length_nil,
      List.range'_zero, true_and, List.forall₂_nil_left_iff]
    exact eq_comm
  | cons row rows ih =>
    simp only [decodeAcknowledgementEntries, guard_eq_ok, bind_eq_ok, ih, Except.ok.injEq,
      ne_eq, not_not, List.map_cons, List.length_cons, List.range'_succ, List.cons.injEq,
      List.forall₂_cons_left_iff]
    constructor
    · rintro ⟨hpos, hseq, resolution, hres, rest, ⟨hposs, hrest⟩, rfl⟩
      exact ⟨⟨hpos, hposs⟩, _, rest, ⟨hseq, rfl, hres⟩, hrest, rfl⟩
    · rintro ⟨⟨hpos, hposs⟩, entry, rest, ⟨hseq, hkey, hres⟩, hrest, rfl⟩
      refine ⟨hpos, hseq, entry.resolution, hres, rest, ⟨hposs, hrest⟩, ?_⟩
      obtain ⟨id, seq, resolution⟩ := entry
      cases hkey
      rfl

/-! ## Queue outcomes -/

/-- `AppliedResolution::queue_values`. -/
def SynchronizationEntryResolution.queueValues :
    SynchronizationEntryResolution →
      OfflineQueueState × Option String × Option UnixMilliseconds
  | .acknowledged => (.acknowledged, none, none)
  | .retryableFailure category retryAt => (.retryableFailure, some category, some retryAt)
  | .permanentFailure category => (.permanentFailure, some category, none)
  | .manualReview category => (.manualReview, some category, none)

/-- The resolution read from a row is of the kind of its outcome, and asks for
no retry before the acknowledgement was received. -/
theorem decodeResolution_ok {outcome : Protocol.EntryOutcome}
    {failureCategory : Option String} {retryAt : Option UnixMilliseconds}
    {receivedAt : UnixMilliseconds} {resolution : SynchronizationEntryResolution}
    (h : decodeResolution outcome failureCategory retryAt receivedAt = .ok resolution) :
    (storedResolution resolution).1 = outcome ∧
      resolution.queueValues.2.2.all (receivedAt ≤ ·) = true := by
  cases outcome with
  | acknowledged =>
    simp only [decodeResolution, ite_error_eq_ok, Except.ok.injEq] at h
    rw [← h.2]
    exact ⟨rfl, rfl⟩
  | retryableFailure =>
    simp only [decodeResolution, bind_eq_ok, ite_error_eq_ok, Except.ok.injEq] at h
    obtain ⟨category, -, retry, -, hretry, rfl⟩ := h
    exact ⟨rfl, decide_eq_true (by grind)⟩
  | permanentFailure | manualReview =>
    simp only [decodeResolution, map_eq_ok, ite_error_eq_ok] at h
    obtain ⟨-, category, -, rfl⟩ := h
    exact ⟨rfl, rfl⟩

/-- The WHERE clause of the update for one entry. -/
def DecodedAcknowledgementEntry.selects (readerId : ReaderId) (t : UnixMilliseconds)
    (entry : DecodedAcknowledgementEntry) (row : OfflineTransactionRow) : Bool :=
  row.named readerId entry.transactionId &&
    row.localSequenceNumber == entry.localSequenceNumber && row.inFlightBy t

/-- The assignments of the update for one entry. -/
def DecodedAcknowledgementEntry.settle (t : UnixMilliseconds)
    (entry : DecodedAcknowledgementEntry) (row : OfflineTransactionRow) :
    OfflineTransactionRow :=
  let (state, category, retryAt) := entry.resolution.queueValues
  row.resolve state retryAt category t

/-- The loop over the entries, one conditional UPDATE each. -/
def applyEntries (readerId : ReaderId) (t : UnixMilliseconds)
    (entries : List DecodedAcknowledgementEntry) (transactions : List OfflineTransactionRow) :
    Except ReaderAcknowledgementApplicationError (List OfflineTransactionRow) :=
  Table.updateEach OfflineTransactionRow.check (DecodedAcknowledgementEntry.selects readerId t)
    (DecodedAcknowledgementEntry.settle t) (.database "apply acknowledgement entry")
    (fun entry => .entryStateConflict entry.transactionId) entries transactions

theorem DecodedAcknowledgementEntry.selects_eq_true {readerId : ReaderId} {t : UnixMilliseconds}
    {entry : DecodedAcknowledgementEntry} {row : OfflineTransactionRow} :
    entry.selects readerId t row = true ↔
      row.fareTransactionId = entry.transactionId ∧ row.readerId = readerId ∧
        row.localSequenceNumber = entry.localSequenceNumber ∧ row.inFlightBy t = true := by
  simp only [selects, OfflineTransactionRow.named, Bool.and_eq_true, beq_iff_eq, and_assoc]

theorem applyEntries_eq_ok {readerId : ReaderId} {t : UnixMilliseconds}
    {entries : List DecodedAcknowledgementEntry} {rows out : List OfflineTransactionRow}
    (hrows : (rows.map (·.fareTransactionId)).Nodup)
    (hentries : (entries.map (·.transactionId)).Nodup) :
    applyEntries readerId t entries rows = .ok out ↔
      (∀ entry ∈ entries, ∃ row ∈ rows,
        entry.selects readerId t row = true ∧ (entry.settle t row).check = true) ∧
      out = rows.map (Table.assignEach (·.fareTransactionId) (·.transactionId)
        (DecodedAcknowledgementEntry.settle t) entries) := by
  refine Table.updateEach_eq_ok ?_ ?_ hrows hentries
  · exact fun entry row hsel => (DecodedAcknowledgementEntry.selects_eq_true.mp hsel).1
  · exact fun _ _ => rfl

structure ResolutionCounts where
  acknowledged : Nat
  retryableFailure : Nat
  permanentFailure : Nat
  manualReview : Nat
  deriving DecidableEq

def ResolutionCounts.record (counts : ResolutionCounts) :
    SynchronizationEntryResolution → ResolutionCounts
  | .acknowledged => { counts with acknowledged := counts.acknowledged + 1 }
  | .retryableFailure .. => { counts with retryableFailure := counts.retryableFailure + 1 }
  | .permanentFailure _ => { counts with permanentFailure := counts.permanentFailure + 1 }
  | .manualReview _ => { counts with manualReview := counts.manualReview + 1 }

/-- `resolution_counts`. -/
def resolutionCounts (entries : List DecodedAcknowledgementEntry) : ResolutionCounts :=
  entries.foldl (fun counts entry => counts.record entry.resolution) ⟨0, 0, 0, 0⟩

/-! ## The contiguous sequence -/

/-- The loop of `contiguous_resolved_sequence`: it stops at the first gap and
at the first unresolved transaction. -/
def contiguousFrom (last expected : Nat) :
    List OfflineTransactionRow → Except ReaderAcknowledgementApplicationError Nat
  | [] => .ok last
  | row :: rest =>
    if row.localSequenceNumber = 0 then .error (.invalidStoredValue "local_sequence_number")
    else if row.localSequenceNumber ≠ expected then .ok last
    else if !row.queueState.isResolved then .ok last
    else if 2 ^ 64 ≤ row.localSequenceNumber + 1 then
      .error (.invalidStoredValue "last_acknowledged_sequence")
    else contiguousFrom row.localSequenceNumber (row.localSequenceNumber + 1) rest

/-- `contiguous_resolved_sequence`. -/
def contiguousResolvedSequence (current : Nat) (rows : List OfflineTransactionRow) :
    Except ReaderAcknowledgementApplicationError Nat :=
  if 2 ^ 64 ≤ current + 1 then .error (.invalidStoredValue "last_acknowledged_sequence")
  else contiguousFrom current (current + 1) rows

def ReaderStateRow.advance (row : ReaderStateRow) (sequence : Nat) (t : UnixMilliseconds) :
    ReaderStateRow :=
  { row with lastAcknowledgedSequence := sequence, updatedAt := max row.updatedAt t }

/-- The UPDATE of `reader_state`, run only when the sequence advanced. -/
def advanceReader (readerState : Option ReaderStateRow) (readerId : ReaderId)
    (current advanced : Nat) (t : UnixMilliseconds) :
    Except ReaderAcknowledgementApplicationError (Option ReaderStateRow) :=
  if advanced ≤ current then .ok readerState
  else do
    if i64Max < advanced then .error (.invalidStoredValue "last_acknowledged_sequence")
    let row ← orFail (.invalidStoredValue "last_acknowledged_sequence")
      (readerState.filter fun row => row.readerId == readerId &&
        row.lastAcknowledgedSequence ≤ advanced && advanced < row.nextLocalSequence)
    if !(row.advance advanced t).check then .error (.database "advance acknowledged sequence")
    .ok (some (row.advance advanced t))

/-! ## The operation -/

structure SynchronizationAcknowledgementApplication where
  batchId : SynchronizationBatchId
  appliedNow : Bool
  appliedAt : UnixMilliseconds
  counts : ResolutionCounts
  lastAcknowledgedSequence : Nat
  deriving DecidableEq

/-- The statements that run for an acknowledgement not yet applied. -/
def applyStatements (db : ReaderDatabase) (readerId : ReaderId)
    (batchId : SynchronizationBatchId) (appliedAt : UnixMilliseconds)
    (entries : List DecodedAcknowledgementEntry) (current : Nat) :
    Except ReaderAcknowledgementApplicationError (Nat × ReaderDatabase) := do
  let batch ← orFail (.batchNotInFlight batchId) (db.findBatch readerId batchId)
  if batch.batchState ≠ .inFlight then .error (.batchNotInFlight batchId)
  let transactions ← applyEntries readerId appliedAt entries db.offlineTransactions
  let (batches, completed) ← orFail (.database "complete acknowledged batch")
    (Table.update SynchronizationBatchRow.check
      (fun row => row.named readerId batchId && row.inFlightBy appliedAt)
      (·.leave .acknowledged none none appliedAt) db.synchronizationBatches)
  if completed ≠ 1 then .error (.batchNotInFlight batchId)
  let advanced ← contiguousResolvedSequence current
    (Table.orderBy (·.localSequenceNumber) (transactions.filter fun row =>
      row.readerId == readerId && current < row.localSequenceNumber))
  let readerState ← advanceReader db.readerState readerId current advanced appliedAt
  let (acknowledgements, marked) ← orFail (.database "mark acknowledgement applied")
    (Table.update SynchronizationAcknowledgementRow.check
      (fun row => row.batchId == batchId && row.readerId == readerId && row.appliedAt.isNone)
      (fun row => { row with appliedAt := some appliedAt }) db.synchronizationAcknowledgements)
  if marked ≠ 1 then .error (.acknowledgementUpdateConflict batchId)
  .ok (advanced,
    { db with
      readerState
      offlineTransactions := transactions
      synchronizationBatches := batches
      synchronizationAcknowledgements := acknowledgements })

/-- `apply_synchronization_acknowledgement`. -/
def applySynchronizationAcknowledgement (db : ReaderDatabase) (readerId : ReaderId)
    (batchId : SynchronizationBatchId) (appliedAt : UnixMilliseconds) :
    Outcome ReaderAcknowledgementApplicationError SynchronizationAcknowledgementApplication :=
  transact db do
    validateTime .negativeApplicationTime appliedAt
    let acknowledgement ← orFail (.acknowledgementNotFound batchId readerId)
      (db.findAcknowledgement readerId batchId)
    if acknowledgement.receivedAt < 0 then
      .error (.invalidStoredValue "received_at_unix_milliseconds")
    let entries ← decodeAcknowledgementEntries acknowledgement.receivedAt 0
      (Table.orderBy (·.entryPosition) (db.synchronizationAcknowledgementEntries.filter fun row =>
        row.batchId == batchId && row.readerId == readerId))
    if entries.isEmpty then .error (.invalidStoredValue "acknowledgement_entries")
    let reader ← orFail (.readerStateNotFound readerId)
      (db.readerState.filter (·.readerId == readerId))
    match acknowledgement.appliedAt with
    | some storedAppliedAt =>
      if storedAppliedAt < 0 then .error (.invalidStoredValue "applied_at_unix_milliseconds")
      else .ok (⟨batchId, false, storedAppliedAt, resolutionCounts entries,
        reader.lastAcknowledgedSequence⟩, db)
    | none =>
      if appliedAt < acknowledgement.receivedAt then
        .error (.applicationBeforeReceipt batchId appliedAt acknowledgement.receivedAt)
      else do
        let (advanced, committed) ← applyStatements db readerId batchId appliedAt entries
          reader.lastAcknowledgedSequence
        .ok (⟨batchId, true, appliedAt, resolutionCounts entries, advanced⟩, committed)

end TransitGuard.Reader
