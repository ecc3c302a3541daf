import TransitGuard.Reader.Effect

/-!
What no operation ever takes back. Rows are never deleted, and each table has
columns that are written once: `frozen` resets all others, so two forms of one
row over time have the same frozen row. `Grows` collects what a later database
has kept of an earlier one; it holds between any two points of a run.
-/

namespace TransitGuard.Reader

variable {codec : Json.Codec} {db db' : ReaderDatabase} {op : Operation}

/-! ## Columns written once -/

/-- The reader row without its counters and its update time. -/
def ReaderStateRow.frozen (row : ReaderStateRow) : ReaderStateRow :=
  { row with nextLocalSequence := 0, lastAcknowledgedSequence := 0, updatedAt := row.createdAt }

/-- The transaction row without its place in the queue. -/
def OfflineTransactionRow.frozen (row : OfflineTransactionRow) : OfflineTransactionRow :=
  { row with
    queueState := .pending
    attemptCount := 0
    nextRetryAt := none
    lastFailureCategory := none
    updatedAt := row.createdAt }

/-- The batch row without its lifecycle. -/
def SynchronizationBatchRow.frozen (row : SynchronizationBatchRow) : SynchronizationBatchRow :=
  { row with
    batchState := .prepared
    attemptCount := 0
    submittedAt := none
    nextRetryAt := none
    lastFailureCategory := none
    updatedAt := row.createdAt }

def SynchronizationAcknowledgementRow.frozen (row : SynchronizationAcknowledgementRow) :
    SynchronizationAcknowledgementRow :=
  { row with appliedAt := none }

/-- The states no transition leaves. -/
def OfflineQueueState.isFinal : OfflineQueueState → Bool
  | .acknowledged | .permanentFailure | .manualReview => true
  | .pending | .inFlight | .retryableFailure => false

/-! ## Rows over time -/

/-- What a later form of the reader row has kept. -/
structure ReaderStateRow.Kept (row row' : ReaderStateRow) : Prop where
  frozen : row'.frozen = row.frozen
  next : row.nextLocalSequence ≤ row'.nextLocalSequence
  acknowledged : row.lastAcknowledgedSequence ≤ row'.lastAcknowledgedSequence

structure OfflineTransactionRow.Kept (row row' : OfflineTransactionRow) : Prop where
  frozen : row'.frozen = row.frozen
  final : row.queueState.isFinal = true → row'.queueState = row.queueState

structure SynchronizationBatchRow.Kept (row row' : SynchronizationBatchRow) : Prop where
  frozen : row'.frozen = row.frozen
  submitted : row.submittedAt.isSome = true → row'.submittedAt = row.submittedAt
  closed : row.batchState.isOpen = false → row'.batchState = row.batchState

structure SynchronizationAcknowledgementRow.Kept
    (row row' : SynchronizationAcknowledgementRow) : Prop where
  frozen : row'.frozen = row.frozen
  applied : row.appliedAt.isSome = true → row'.appliedAt = row.appliedAt

theorem ReaderStateRow.Kept.refl (row : ReaderStateRow) : row.Kept row :=
  ⟨rfl, le_rfl, le_rfl⟩

theorem OfflineTransactionRow.Kept.refl (row : OfflineTransactionRow) : row.Kept row :=
  ⟨rfl, fun _ => rfl⟩

theorem SynchronizationBatchRow.Kept.refl (row : SynchronizationBatchRow) : row.Kept row :=
  ⟨rfl, fun _ => rfl, fun _ => rfl⟩

theorem SynchronizationAcknowledgementRow.Kept.refl (row : SynchronizationAcknowledgementRow) :
    row.Kept row :=
  ⟨rfl, fun _ => rfl⟩

theorem ReaderStateRow.Kept.trans {a b c : ReaderStateRow} (hab : a.Kept b) (hbc : b.Kept c) :
    a.Kept c :=
  ⟨hbc.frozen.trans hab.frozen, hab.next.trans hbc.next, hab.acknowledged.trans hbc.acknowledged⟩

theorem OfflineTransactionRow.Kept.trans {a b c : OfflineTransactionRow} (hab : a.Kept b)
    (hbc : b.Kept c) : a.Kept c where
  frozen := hbc.frozen.trans hab.frozen
  final h := by
    have hb := hab.final h
    rw [hbc.final (by rw [hb]; exact h), hb]

theorem SynchronizationBatchRow.Kept.trans {a b c : SynchronizationBatchRow} (hab : a.Kept b)
    (hbc : b.Kept c) : a.Kept c where
  frozen := hbc.frozen.trans hab.frozen
  submitted h := by
    have hb := hab.submitted h
    rw [hbc.submitted (by rw [hb]; exact h), hb]
  closed h := by
    have hb := hab.closed h
    rw [hbc.closed (by rw [hb]; exact h), hb]

theorem SynchronizationAcknowledgementRow.Kept.trans {a b c : SynchronizationAcknowledgementRow}
    (hab : a.Kept b) (hbc : b.Kept c) : a.Kept c where
  frozen := hbc.frozen.trans hab.frozen
  applied h := by
    have hb := hab.applied h
    rw [hbc.applied (by rw [hb]; exact h), hb]

/-! ## Assignments -/

theorem OfflineTransactionRow.Kept.of_eligible {row row' : OfflineTransactionRow}
    {t : UnixMilliseconds} (h : row.eligibleAt t = true) (hf : row'.frozen = row.frozen) :
    row.Kept row' where
  frozen := hf
  final hfinal := by
    unfold OfflineTransactionRow.eligibleAt at h
    cases hs : row.queueState <;> simp_all [OfflineQueueState.isFinal]

theorem OfflineTransactionRow.Kept.of_inFlight {row row' : OfflineTransactionRow}
    {t : UnixMilliseconds} (h : row.inFlightBy t = true) (hf : row'.frozen = row.frozen) :
    row.Kept row' where
  frozen := hf
  final hfinal := by
    simp only [OfflineTransactionRow.inFlightBy, Bool.and_eq_true, beq_iff_eq] at h
    rw [h.1] at hfinal
    cases hfinal

theorem SynchronizationBatchRow.Kept.submit {row : SynchronizationBatchRow}
    {t : UnixMilliseconds} (h : row.readyAt t = true) : row.Kept (row.submit t) where
  frozen := rfl
  submitted hs := by
    obtain ⟨at_, ha⟩ := Option.isSome_iff_exists.mp hs
    simp [SynchronizationBatchRow.submit, ha]
  closed hclosed := by
    unfold SynchronizationBatchRow.readyAt at h
    cases hs : row.batchState <;> simp_all [SynchronizationBatchState.isOpen]

theorem SynchronizationBatchRow.Kept.leave {row : SynchronizationBatchRow}
    {state : SynchronizationBatchState} {retryAt : Option UnixMilliseconds}
    {category : Option String} {t : UnixMilliseconds} (h : row.inFlightBy t = true) :
    row.Kept (row.leave state retryAt category t) where
  frozen := rfl
  submitted _ := rfl
  closed hclosed := by
    simp only [SynchronizationBatchRow.inFlightBy, Bool.and_eq_true, beq_iff_eq] at h
    rw [h.1] at hclosed
    cases hclosed

/-! ## Databases over time -/

/-- What a later database has kept of an earlier one. -/
structure Grows (db db' : ReaderDatabase) : Prop where
  reader : ∀ row, db.readerState = some row → ∃ row', db'.readerState = some row' ∧ row.Kept row'
  queue : ∀ row ∈ db.offlineTransactions, ∃ row' ∈ db'.offlineTransactions, row.Kept row'
  batches : ∀ row ∈ db.synchronizationBatches,
    ∃ row' ∈ db'.synchronizationBatches, row.Kept row'
  entries : ∀ row ∈ db.synchronizationBatches,
    (db'.synchronizationEntries.filter (·.batchId == row.batchId)) =
      db.synchronizationEntries.filter (·.batchId == row.batchId)
  acknowledgements : ∀ row ∈ db.synchronizationAcknowledgements,
    ∃ row' ∈ db'.synchronizationAcknowledgements, row.Kept row'
  acknowledgementEntries : ∀ row ∈ db.synchronizationAcknowledgements,
    (db'.synchronizationAcknowledgementEntries.filter (·.batchId == row.batchId)) =
      db.synchronizationAcknowledgementEntries.filter (·.batchId == row.batchId)

theorem Grows.refl (db : ReaderDatabase) : Grows db db where
  reader row h := ⟨row, h, .refl row⟩
  queue row h := ⟨row, h, .refl row⟩
  batches row h := ⟨row, h, .refl row⟩
  entries _ _ := rfl
  acknowledgements row h := ⟨row, h, .refl row⟩
  acknowledgementEntries _ _ := rfl

theorem Grows.trans {a b c : ReaderDatabase} (hab : Grows a b) (hbc : Grows b c) : Grows a c where
  reader row h := by
    obtain ⟨row', h', hk⟩ := hab.reader row h
    obtain ⟨row'', h'', hk'⟩ := hbc.reader row' h'
    exact ⟨row'', h'', hk.trans hk'⟩
  queue row h := by
    obtain ⟨row', h', hk⟩ := hab.queue row h
    obtain ⟨row'', h'', hk'⟩ := hbc.queue row' h'
    exact ⟨row'', h'', hk.trans hk'⟩
  batches row h := by
    obtain ⟨row', h', hk⟩ := hab.batches row h
    obtain ⟨row'', h'', hk'⟩ := hbc.batches row' h'
    exact ⟨row'', h'', hk.trans hk'⟩
  entries row h := by
    obtain ⟨row', h', hk⟩ := hab.batches row h
    have hid : row'.batchId = row.batchId := congrArg (·.batchId) hk.frozen
    rw [← hab.entries row h, ← hid, hbc.entries row' h']
  acknowledgements row h := by
    obtain ⟨row', h', hk⟩ := hab.acknowledgements row h
    obtain ⟨row'', h'', hk'⟩ := hbc.acknowledgements row' h'
    exact ⟨row'', h'', hk.trans hk'⟩
  acknowledgementEntries row h := by
    obtain ⟨row', h', hk⟩ := hab.acknowledgements row h
    have hid : row'.batchId = row.batchId := congrArg (·.batchId) hk.frozen
    rw [← hab.acknowledgementEntries row h, ← hid, hbc.acknowledgementEntries row' h']

/-! ## Operations -/

theorem mem_entryRows {readerId : ReaderId} {batchId : SynchronizationBatchId} {position : Nat}
    {entries : List SynchronizationBatchEntry} {row : SynchronizationEntryRow}
    (h : row ∈ entryRows readerId batchId position entries) :
    row.batchId = batchId ∧ row.readerId = readerId := by
  obtain ⟨pair, -, rfl⟩ := List.mem_map.mp h
  exact ⟨rfl, rfl⟩

theorem mem_acknowledgementEntryRows {acknowledgement : SynchronizationAcknowledgement}
    {position : Nat} {entries : List SynchronizationAcknowledgementEntry}
    {row : SynchronizationAcknowledgementEntryRow}
    (h : row ∈ acknowledgement.entryRows position entries) :
    row.batchId = acknowledgement.batchId ∧ row.readerId = acknowledgement.readerId := by
  obtain ⟨pair, -, rfl⟩ := List.mem_map.mp h
  exact ⟨rfl, rfl⟩

/-- A statement on the queue alone. -/
theorem Grows.of_queue {p : OfflineTransactionRow → Bool}
    {f : OfflineTransactionRow → OfflineTransactionRow}
    (hf : ∀ row ∈ db.offlineTransactions, p row = true → row.Kept (f row)) :
    Grows db { db with offlineTransactions := Table.updateWhere p f db.offlineTransactions } :=
  { Grows.refl db with queue := Table.exists_updateWhere .refl hf }

/-- A statement on the batches alone. -/
theorem Grows.of_batches {p : SynchronizationBatchRow → Bool}
    {f : SynchronizationBatchRow → SynchronizationBatchRow}
    (hf : ∀ row ∈ db.synchronizationBatches, p row = true → row.Kept (f row)) :
    Grows db
      { db with synchronizationBatches := Table.updateWhere p f db.synchronizationBatches } :=
  { Grows.refl db with batches := Table.exists_updateWhere .refl hf }

theorem OfflineTransactionRow.Kept.of_selects {readerId : ReaderId} {t : UnixMilliseconds}
    {entry : DecodedAcknowledgementEntry} {row : OfflineTransactionRow}
    (h : entry.selects readerId t row = true) : row.Kept (entry.settle t row) := by
  simp only [DecodedAcknowledgementEntry.selects, Bool.and_eq_true] at h
  exact of_inFlight h.2 rfl

theorem OfflineTransactionRow.Kept.of_reservable {readerId : ReaderId} {t : UnixMilliseconds}
    {entry : SynchronizationBatchEntry} {row : OfflineTransactionRow}
    (h : row.reservableFor readerId entry t = true) : row.Kept (row.reserve t) := by
  simp only [OfflineTransactionRow.reservableFor, Bool.and_eq_true] at h
  exact of_eligible h.2 rfl

/-- Every operation keeps what the database had. -/
theorem Committed.grows (h : Committed codec db op db') : Grows db db' := by
  cases h with
  | bind unbound =>
    refine { Grows.refl db with reader := fun row hrow => ?_ }
    rw [unbound] at hrow
    cases hrow
  | @enqueue readerId draft reader bound =>
    refine { Grows.refl db with reader := fun row hrow => ?_, queue := fun row hrow => ?_ }
    · rw [bound, Option.some.injEq] at hrow
      subst hrow
      exact ⟨_, rfl, rfl, Nat.le_succ _, le_rfl⟩
    · exact ⟨row, List.mem_append_left _ hrow, .refl row⟩
  | markTransaction =>
    refine .of_queue fun row _ hp => ?_
    simp only [Bool.and_eq_true] at hp
    exact .of_eligible hp.2 rfl
  | retryTransaction | failTransaction =>
    refine .of_queue fun row _ hp => ?_
    simp only [Bool.and_eq_true] at hp
    exact .of_inFlight hp.2 rfl
  | recoverQueue =>
    refine .of_queue fun row _ hp => ?_
    simp only [Bool.and_eq_true] at hp
    exact .of_inFlight hp.1.2 rfl
  | createBatch candidates head getLast owner check fresh reserved =>
    refine { Grows.refl db with
      queue := Table.exists_updateEach (R := OfflineTransactionRow.Kept) reserved .refl
        (fun _ _ _ => .trans) fun _ _ hp => .of_reservable hp
      batches := fun row hrow => ⟨row, List.mem_append_left _ hrow, .refl row⟩
      entries := fun row hrow => Table.filter_append_of_ne fun entry hentry => ?_ }
    rw [(mem_entryRows hentry).1]
    exact fresh row hrow
  | markBatch =>
    refine { Grows.refl db with
      queue := Table.exists_updateWhere .refl fun row _ hp => ?_
      batches := Table.exists_updateWhere .refl fun row _ hp => ?_ }
    · simp only [ReaderDatabase.inFlightEntry, Bool.and_eq_true] at hp
      exact .of_inFlight hp.1.2 rfl
    · simp only [Bool.and_eq_true] at hp
      exact .submit hp.2
  | retryBatch | recoverBatches =>
    refine .of_batches fun row _ hp => ?_
    simp only [Bool.and_eq_true] at hp
    exact .leave hp.2
  | failBatch =>
    refine { Grows.refl db with
      queue := Table.exists_updateWhere .refl fun row _ hp => ?_
      batches := Table.exists_updateWhere .refl fun row _ hp => ?_ }
    · simp only [ReaderDatabase.inFlightEntry, Bool.and_eq_true] at hp
      exact .of_inFlight hp.1.2 rfl
    · simp only [Bool.and_eq_true] at hp
      exact .leave hp.2
  | storeAcknowledgement loaded valid found inFlight check fresh entryChecks =>
    refine { Grows.refl db with
      acknowledgements := fun row hrow => ⟨row, List.mem_append_left _ hrow, .refl row⟩
      acknowledgementEntries := fun row hrow =>
        Table.filter_append_of_ne fun entry hentry => ?_ }
    rw [(mem_acknowledgementEntryRows hentry).1]
    exact fresh row hrow
  | applyAcknowledgement found unapplied decoded bound owner applied check one contiguous
      advance =>
    refine { Grows.refl db with
      reader := fun row hrow => ?_
      queue := Table.exists_updateEach (R := OfflineTransactionRow.Kept) applied .refl
        (fun _ _ _ => .trans) fun _ _ hp => .of_selects hp
      batches := Table.exists_updateWhere .refl fun row _ hp => ?_
      acknowledgements := Table.exists_updateWhere .refl fun row _ hp => ?_ }
    · rcases advanceReader_ok.mp advance with ⟨-, rfl⟩ | ⟨-, -, old, hold, -, hlast, -, -, rfl⟩
      · exact ⟨row, hrow, .refl row⟩
      · rw [hold, Option.some.injEq] at hrow
        subst hrow
        exact ⟨_, rfl, rfl, le_rfl, hlast⟩
    · simp only [Bool.and_eq_true] at hp
      exact .leave hp.2
    · simp only [Bool.and_eq_true, Option.isNone_iff_eq_none] at hp
      exact ⟨rfl, fun happlied => by simp [hp.2] at happlied⟩

/-- The database after any further operations has kept everything. -/
theorem grows_run (db : ReaderDatabase) (ops : List Operation) :
    Grows db (Runs.run (perform codec) db ops) := by
  refine Runs.relation (P := fun _ => True) .refl (fun _ _ _ => .trans) (fun _ _ _ => trivial)
    (fun s op _ => ?_) trivial ops
  exact perform_invariant (.refl s) fun db' h => h.grows

end TransitGuard.Reader
