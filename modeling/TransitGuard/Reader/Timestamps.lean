import TransitGuard.Reader.Growth
import TransitGuard.Reader.Reachable

/-!
Update times. Every table protects its `updated_at` column in its own way: the
queue and the batches by a condition in the WHERE clause, the advance of the
acknowledged sequence by `MAX`. The statement that assigns a local sequence has
neither, so it moves the reader row back to the creation time of any older
draft; only the CHECK against `created_at` bounds it.
-/

namespace TransitGuard.Reader

variable {codec : Json.Codec} {db db' : ReaderDatabase} {op : Operation}

/-! ## Stamped tables -/

/-- The columns of a table that tell when a row was written. The creation time
is one of the columns written once. -/
structure Stamps (α : Type) where
  frozen : α → α
  createdAt : α → UnixMilliseconds
  updatedAt : α → UnixMilliseconds
  createdAt_frozen : ∀ row, createdAt (frozen row) = createdAt row

namespace Stamps

variable {α β : Type} {stamps : Stamps α} {rows rows' rows'' : List α}

/-- `row'` is a later form of `row`. -/
def Later (stamps : Stamps α) (row row' : α) : Prop :=
  stamps.frozen row' = stamps.frozen row ∧ stamps.updatedAt row ≤ stamps.updatedAt row'

theorem Later.refl (row : α) : stamps.Later row row := ⟨rfl, Int64.le_refl _⟩

theorem Later.trans {a b c : α} (hab : stamps.Later a b) (hbc : stamps.Later b c) :
    stamps.Later a c :=
  ⟨hbc.1.trans hab.1, Int64.le_trans hab.2 hbc.2⟩

theorem Later.createdAt_eq {row row' : α} (h : stamps.Later row row') :
    stamps.createdAt row' = stamps.createdAt row := by
  rw [← stamps.createdAt_frozen row', h.1, stamps.createdAt_frozen]

/-- `updated_at` is not smaller than `created_at`. -/
def Ordered (stamps : Stamps α) (row : α) : Prop := stamps.createdAt row ≤ stamps.updatedAt row

theorem Ordered.later {row row' : α} (h : stamps.Ordered row) (hl : stamps.Later row row') :
    stamps.Ordered row' := by
  unfold Ordered
  rw [hl.createdAt_eq]
  exact Int64.le_trans h hl.2

/-- Every row lives on with a time no smaller, and what has no earlier form is
a new row in order. -/
structure Follows (stamps : Stamps α) (rows rows' : List α) : Prop where
  later : ∀ row ∈ rows, ∃ row' ∈ rows', stamps.Later row row'
  origin : ∀ row' ∈ rows', stamps.Ordered row' ∨ ∃ row ∈ rows, stamps.Later row row'

theorem Follows.refl (rows : List α) : stamps.Follows rows rows where
  later row h := ⟨row, h, .refl row⟩
  origin row h := .inr ⟨row, h, .refl row⟩

theorem Follows.trans (h : stamps.Follows rows rows') (h' : stamps.Follows rows' rows'') :
    stamps.Follows rows rows'' where
  later row hrow := by
    obtain ⟨row', hrow', hl⟩ := h.later row hrow
    obtain ⟨row'', hrow'', hl'⟩ := h'.later row' hrow'
    exact ⟨row'', hrow'', hl.trans hl'⟩
  origin row'' hrow'' := by
    rcases h'.origin row'' hrow'' with hord | ⟨row', hrow', hl'⟩
    · exact .inl hord
    rcases h.origin row' hrow' with hord | ⟨row, hrow, hl⟩
    · exact .inl (hord.later hl')
    · exact .inr ⟨row, hrow, hl.trans hl'⟩

theorem Follows.ordered (h : stamps.Follows rows rows')
    (hrows : ∀ row ∈ rows, stamps.Ordered row) :
    ∀ row ∈ rows', stamps.Ordered row := by
  intro row' hrow'
  rcases h.origin row' hrow' with hord | ⟨row, hrow, hl⟩
  · exact hord
  · exact (hrows row hrow).later hl

theorem Follows.append {row : α} (h : stamps.Ordered row) :
    stamps.Follows rows (rows ++ [row]) where
  later old hold := ⟨old, List.mem_append_left _ hold, .refl old⟩
  origin row' hrow' := by
    rcases List.mem_append.mp hrow' with hold | hnew
    · exact .inr ⟨row', hold, .refl row'⟩
    · rw [List.mem_singleton.mp hnew]
      exact .inl h

theorem Follows.updateWhere {p : α → Bool} {f : α → α}
    (hf : ∀ row ∈ rows, p row = true → stamps.Later row (f row)) :
    stamps.Follows rows (Table.updateWhere p f rows) where
  later := Table.exists_updateWhere .refl hf
  origin row' hrow' := .inr (Table.origin_updateWhere .refl hf row' hrow')

theorem Follows.updateEach {ε : Type} {check : α → Bool} {p : β → α → Bool} {f : β → α → α}
    {refused : ε} {conflict : β → ε} {items : List β}
    (h : Table.updateEach check p f refused conflict items rows = .ok rows')
    (hf : ∀ item row, p item row = true → stamps.Later row (f item row)) :
    stamps.Follows rows rows' where
  later := Table.exists_updateEach h .refl (fun _ _ _ => .trans) hf
  origin row' hrow' :=
    .inr (Table.origin_updateEach h .refl (fun _ _ _ => .trans) (fun item _ => hf item) row' hrow')

end Stamps

def ReaderStateRow.stamps : Stamps ReaderStateRow where
  frozen := ReaderStateRow.frozen
  createdAt := ReaderStateRow.createdAt
  updatedAt := ReaderStateRow.updatedAt
  createdAt_frozen _ := rfl

def OfflineTransactionRow.stamps : Stamps OfflineTransactionRow where
  frozen := OfflineTransactionRow.frozen
  createdAt := OfflineTransactionRow.createdAt
  updatedAt := OfflineTransactionRow.updatedAt
  createdAt_frozen _ := rfl

def SynchronizationBatchRow.stamps : Stamps SynchronizationBatchRow where
  frozen := SynchronizationBatchRow.frozen
  createdAt := SynchronizationBatchRow.createdAt
  updatedAt := SynchronizationBatchRow.updatedAt
  createdAt_frozen _ := rfl

/-! ## Databases over time -/

/-- The three tables with an update time, at two points of a run. -/
structure InTime (db db' : ReaderDatabase) : Prop where
  reader : ReaderStateRow.stamps.Follows db.readerState.toList db'.readerState.toList
  queue : OfflineTransactionRow.stamps.Follows db.offlineTransactions db'.offlineTransactions
  batches :
    SynchronizationBatchRow.stamps.Follows db.synchronizationBatches db'.synchronizationBatches

theorem InTime.refl (db : ReaderDatabase) : InTime db db := ⟨.refl _, .refl _, .refl _⟩

theorem InTime.trans {a b c : ReaderDatabase} (hab : InTime a b) (hbc : InTime b c) :
    InTime a c :=
  ⟨hab.reader.trans hbc.reader, hab.queue.trans hbc.queue, hab.batches.trans hbc.batches⟩

/-- An enqueued draft is not older than the last update of the reader row, or
so old that it lies before the creation of that row and is refused. -/
def Operation.notBackdated (db : ReaderDatabase) : Operation → Prop
  | .enqueue readerId draft =>
    ∀ reader, db.readerState = some reader → reader.readerId = readerId →
      reader.createdAt ≤ draft.createdAt → reader.updatedAt ≤ draft.createdAt
  | _ => True

theorem OfflineTransactionRow.later_of_inFlight {row row' : OfflineTransactionRow}
    {t : UnixMilliseconds} (h : row.inFlightBy t = true) (hf : row'.frozen = row.frozen)
    (ht : row'.updatedAt = t) : OfflineTransactionRow.stamps.Later row row' := by
  simp only [OfflineTransactionRow.inFlightBy, Bool.and_eq_true, decide_eq_true_eq] at h
  exact ⟨hf, by rw [← ht] at h; exact h.2⟩

theorem SynchronizationBatchRow.later_leave {row : SynchronizationBatchRow}
    {state : SynchronizationBatchState} {retryAt : Option UnixMilliseconds}
    {category : Option String} {t : UnixMilliseconds} (h : row.inFlightBy t = true) :
    SynchronizationBatchRow.stamps.Later row (row.leave state retryAt category t) := by
  simp only [SynchronizationBatchRow.inFlightBy, Bool.and_eq_true, decide_eq_true_eq] at h
  exact ⟨rfl, h.2⟩

theorem ReaderDatabase.later_of_inFlightEntry {readerId : ReaderId}
    {batchId : SynchronizationBatchId} {t : UnixMilliseconds} {row row' : OfflineTransactionRow}
    (h : db.inFlightEntry readerId batchId t row = true) (hf : row'.frozen = row.frozen)
    (ht : row'.updatedAt = t) : OfflineTransactionRow.stamps.Later row row' := by
  simp only [ReaderDatabase.inFlightEntry, Bool.and_eq_true] at h
  exact OfflineTransactionRow.later_of_inFlight h.1.2 hf ht

theorem ReaderStateRow.ordered_of_check {row : ReaderStateRow} (h : row.check = true) :
    ReaderStateRow.stamps.Ordered row := by
  simp only [ReaderStateRow.check, Bool.and_eq_true, decide_eq_true_eq] at h
  exact h.2

/-- The one UPDATE of the reader row that takes the larger of the two times. -/
theorem ReaderStateRow.later_advance (row : ReaderStateRow) (sequence : Nat)
    (t : UnixMilliseconds) : ReaderStateRow.stamps.Later row (row.advance sequence t) := by
  refine ⟨rfl, ?_⟩
  show row.updatedAt ≤ max row.updatedAt t
  rw [UnixMilliseconds.max_def]
  split
  · assumption
  · exact Int64.le_refl _

/-- Two forms of the one reader row. -/
theorem ReaderStateRow.follows_of_later {row row' : ReaderStateRow}
    (h : ReaderStateRow.stamps.Later row row') :
    ReaderStateRow.stamps.Follows [row] [row'] where
  later _ hold := ⟨row', List.mem_singleton_self _, List.mem_singleton.mp hold ▸ h⟩
  origin _ hnew := .inr ⟨row, List.mem_singleton_self _, List.mem_singleton.mp hnew ▸ h⟩

/-- Every committed operation keeps the times in order, an enqueue because its
draft is not backdated, all others by what their statements check. -/
theorem Committed.inTime (h : Committed codec db op db') (hop : op.notBackdated db) :
    InTime db db' := by
  cases h with
  | bind unbound =>
    refine { InTime.refl db with reader := ?_ }
    rw [unbound]
    exact .append (Int64.le_refl _)
  | @enqueue readerId draft reader bound owner available readerCheck =>
    have hcreated : reader.createdAt ≤ draft.createdAt :=
      ReaderStateRow.ordered_of_check readerCheck
    refine { InTime.refl db with reader := ?_, queue := .append (Int64.le_refl _) }
    rw [bound]
    exact ReaderStateRow.follows_of_later ⟨rfl, hop reader bound owner hcreated⟩
  | markTransaction =>
    refine { InTime.refl db with queue := .updateWhere fun row _ hp => ?_ }
    simp only [Bool.and_eq_true, decide_eq_true_eq] at hp
    exact ⟨rfl, hp.1.2⟩
  | retryTransaction | failTransaction =>
    refine { InTime.refl db with queue := .updateWhere fun row _ hp => ?_ }
    simp only [Bool.and_eq_true] at hp
    exact OfflineTransactionRow.later_of_inFlight hp.2 rfl rfl
  | recoverQueue =>
    refine { InTime.refl db with queue := .updateWhere fun row _ hp => ?_ }
    simp only [Bool.and_eq_true] at hp
    exact OfflineTransactionRow.later_of_inFlight hp.1.2 rfl rfl
  | createBatch candidates head getLast owner check fresh reserved =>
    refine { InTime.refl db with
      queue := .updateEach reserved fun entry row hp => ?_
      batches := .append (Int64.le_refl _) }
    simp only [OfflineTransactionRow.reservableFor, Bool.and_eq_true, decide_eq_true_eq] at hp
    exact ⟨rfl, hp.1.2⟩
  | markBatch =>
    refine { InTime.refl db with
      queue := .updateWhere fun row _ hp => ReaderDatabase.later_of_inFlightEntry hp rfl rfl
      batches := .updateWhere fun row _ hp => ?_ }
    simp only [Bool.and_eq_true, decide_eq_true_eq] at hp
    exact ⟨rfl, hp.1.2⟩
  | retryBatch | recoverBatches =>
    refine { InTime.refl db with batches := .updateWhere fun row _ hp => ?_ }
    simp only [Bool.and_eq_true] at hp
    exact SynchronizationBatchRow.later_leave hp.2
  | failBatch =>
    refine { InTime.refl db with
      queue := .updateWhere fun row _ hp => ReaderDatabase.later_of_inFlightEntry hp rfl rfl
      batches := .updateWhere fun row _ hp => ?_ }
    simp only [Bool.and_eq_true] at hp
    exact SynchronizationBatchRow.later_leave hp.2
  | storeAcknowledgement => exact ⟨.refl _, .refl _, .refl _⟩
  | applyAcknowledgement found unapplied decoded bound owner applied check one contiguous
      advance =>
    refine ⟨?_, .updateEach applied fun entry row hp => ?_, .updateWhere fun row _ hp => ?_⟩
    · rcases advanceReader_ok.mp advance with ⟨-, rfl⟩ | ⟨-, -, old, hold, -, -, -, -, rfl⟩
      · exact .refl _
      · rw [hold]
        exact ReaderStateRow.follows_of_later (old.later_advance _ _)
    · simp only [DecodedAcknowledgementEntry.selects, Bool.and_eq_true] at hp
      exact OfflineTransactionRow.later_of_inFlight hp.2 rfl rfl
    · simp only [Bool.and_eq_true] at hp
      exact SynchronizationBatchRow.later_leave hp.2

theorem inTime_run {ops : List Operation}
    (h : Runs.StepsMeet (perform codec) Operation.notBackdated db ops) :
    InTime db (Runs.run (perform codec) db ops) := by
  refine Runs.relation_of_stepsMeet .refl (fun _ _ _ => .trans) (fun s op hop => ?_) h
  exact perform_invariant (.refl s) fun db' hc => hc.inTime hop

/-! ## Runs -/

/-- In a run from the empty database without backdated drafts, no update time
is smaller than the creation time of its row, and no row is found with a
smaller one later. -/
theorem updatedAt_never_decreases {ops more : List Operation}
    (h : Runs.StepsMeet (perform codec) Operation.notBackdated .empty (ops ++ more)) :
    let db := Runs.run (perform codec) .empty ops
    let later := Runs.run (perform codec) db more
    (∀ row, db.readerState = some row → row.createdAt ≤ row.updatedAt ∧
      ∃ row', later.readerState = some row' ∧ row'.frozen = row.frozen ∧
        row.updatedAt ≤ row'.updatedAt) ∧
    (∀ row ∈ db.offlineTransactions, row.createdAt ≤ row.updatedAt ∧
      ∃ row' ∈ later.offlineTransactions, row'.frozen = row.frozen ∧
        row.updatedAt ≤ row'.updatedAt) ∧
    ∀ row ∈ db.synchronizationBatches, row.createdAt ≤ row.updatedAt ∧
      ∃ row' ∈ later.synchronizationBatches, row'.frozen = row.frozen ∧
        row.updatedAt ≤ row'.updatedAt := by
  intro db later
  obtain ⟨hops, hmore⟩ := Runs.stepsMeet_append.mp h
  have hdb : InTime .empty db := inTime_run hops
  have hlater : InTime db later := inTime_run hmore
  refine ⟨fun row hrow => ?_, fun row hrow => ?_, fun row hrow => ?_⟩
  · have hmem : row ∈ db.readerState.toList := Option.mem_toList.mpr hrow
    obtain ⟨row', hrow', hl⟩ := hlater.reader.later row hmem
    exact ⟨hdb.reader.ordered (fun _ hnil => absurd hnil List.not_mem_nil) row hmem, row',
      Option.mem_toList.mp hrow', hl⟩
  · exact ⟨hdb.queue.ordered (fun _ hnil => absurd hnil List.not_mem_nil) row hrow,
      hlater.queue.later row hrow⟩
  · exact ⟨hdb.batches.ordered (fun _ hnil => absurd hnil List.not_mem_nil) row hrow,
      hlater.batches.later row hrow⟩

/-- The sample submission, with the reader bound first. -/
theorem updatedAt_never_decreases_submission :
    Runs.StepsMeet (perform sampleCodec) Operation.notBackdated .empty
        ([.bind sampleIdentity] ++ sampleSubmission) ∧
      ∀ row, (Runs.run (perform sampleCodec) .empty [.bind sampleIdentity]).readerState =
          some row → row.createdAt ≤ row.updatedAt := by
  have h : Runs.StepsMeet (perform sampleCodec) Operation.notBackdated .empty
      ([.bind sampleIdentity] ++ sampleSubmission) := by
    refine ⟨trivial, fun reader hreader _ _ => ?_, trivial, trivial, trivial⟩
    cases hreader
    exact Int64.le_refl _
  exact ⟨h, fun row hrow => ((updatedAt_never_decreases h).1 row hrow).1⟩

/-- The sample draft under another identifier and creation time. -/
def sampleDraftAt (transactionId : FareTransactionId) (createdAt : UnixMilliseconds)
    (h : 0 ≤ createdAt) : OfflineTransactionDraft :=
  { sampleDraft (.object []) with transactionId, createdAt, createdAt_nonneg := h }

/-- A bound reader that enqueues a draft created at 5. -/
def sampleEnqueue : List Operation :=
  [.bind sampleIdentity,
    .enqueue sampleReaderId (sampleDraftAt sampleTransactionId 5 (by decide))]

/-- Then a draft created at 3 is enqueued. -/
def sampleBackdated : List Operation :=
  [.enqueue sampleReaderId
    (sampleDraftAt ⟨⟨0x70008000000000000005#128, by decide⟩⟩ 3 (by decide))]

/-- The reader row goes back from 5 to 3. -/
theorem updatedAt_decreases_of_backdated :
    ¬ ∀ (ops more : List Operation) (row row' : ReaderStateRow),
      (Runs.run (perform sampleCodec) .empty ops).readerState = some row →
      (Runs.run (perform sampleCodec) .empty (ops ++ more)).readerState = some row' →
        row.updatedAt ≤ row'.updatedAt := by
  intro h
  have hbefore : (Runs.run (perform sampleCodec) .empty sampleEnqueue).readerState.map
      (·.updatedAt) = some 5 := by decide +kernel
  have hafter : (Runs.run (perform sampleCodec) .empty
      (sampleEnqueue ++ sampleBackdated)).readerState.map (·.updatedAt) = some 3 := by
    decide +kernel
  obtain ⟨row, hrow, h5⟩ := Option.map_eq_some_iff.mp hbefore
  obtain ⟨row', hrow', h3⟩ := Option.map_eq_some_iff.mp hafter
  have hle := h _ _ row row' hrow hrow'
  rw [h5, h3] at hle
  exact absurd hle (by decide)

end TransitGuard.Reader
