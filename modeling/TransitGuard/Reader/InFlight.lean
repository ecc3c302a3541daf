import TransitGuard.Reader.Reachable

/-!
Transactions in flight and open batches. The batch row and its transactions
are written by different statements with their own guards; the two agree as
long as nobody uses the operations on single transactions for the members of
an open batch, which those operations do not check.
-/

namespace TransitGuard.Reader

open Fallible

variable {codec : Json.Codec} {db db' : ReaderDatabase} {op : Operation}
  {reader : ReaderStateRow}

/-- Every transaction of an open batch is in flight. -/
def ReaderDatabase.Held (db : ReaderDatabase) : Prop :=
  ∀ row ∈ db.offlineTransactions, db.inOpenBatch row = true → row.queueState = .inFlight

/-- Every transaction in flight is in an open batch. -/
def ReaderDatabase.Grounded (db : ReaderDatabase) : Prop :=
  ∀ row ∈ db.offlineTransactions, row.queueState = .inFlight → db.inOpenBatch row = true

theorem Consistent.inOpenBatch_iff (inv : Consistent reader db) {row : OfflineTransactionRow}
    (hrow : row ∈ db.offlineTransactions) :
    db.inOpenBatch row = true ↔ ∃ entry ∈ db.synchronizationEntries,
      entry.fareTransactionId = row.fareTransactionId ∧ db.IsOpen entry.batchId :=
  inv.batches.inOpenBatch_iff (inv.queue.owned row hrow)

/-! ## Closing a batch -/

/-- A step that closes one open batch and takes exactly its transactions out of
flight. -/
structure Closes (db db' : ReaderDatabase) (batchId : SynchronizationBatchId) : Prop where
  entries : db'.synchronizationEntries = db.synchronizationEntries
  wasOpen : db.IsOpen batchId
  isOpen : ∀ other, db'.IsOpen other ↔ db.IsOpen other ∧ other ≠ batchId
  origin : ∀ row' ∈ db'.offlineTransactions, ∃ row ∈ db.offlineTransactions,
    row'.fareTransactionId = row.fareTransactionId ∧
    ((row.fareTransactionId ∈ (db.entriesOf batchId).map (·.fareTransactionId) ∧
        row'.queueState ≠ .inFlight) ∨
      (row.fareTransactionId ∉ (db.entriesOf batchId).map (·.fareTransactionId) ∧ row' = row))

theorem ReaderDatabase.mem_entriesOf {batchId : SynchronizationBatchId}
    {entry : SynchronizationEntryRow} :
    entry ∈ db.entriesOf batchId ↔ entry ∈ db.synchronizationEntries ∧ entry.batchId = batchId := by
  simp [ReaderDatabase.entriesOf]

theorem Closes.held (inv : Consistent reader db) (inv' : ∃ reader, Consistent reader db')
    {batchId : SynchronizationBatchId} (h : Closes db db' batchId) (hheld : db.Held) :
    db'.Held := by
  intro row' hrow' hopen'
  obtain ⟨reader', inv'⟩ := inv'
  obtain ⟨entry, hentry, hid, hisopen⟩ := (inv'.inOpenBatch_iff hrow').mp hopen'
  rw [h.entries] at hentry
  obtain ⟨hisopen, hne⟩ := (h.isOpen _).mp hisopen
  obtain ⟨row, hrow, hrowid, ⟨hmem, -⟩ | ⟨-, rfl⟩⟩ := h.origin row' hrow'
  · obtain ⟨other, hother, hotherid⟩ := List.mem_map.mp hmem
    obtain ⟨hother, hbatch⟩ := ReaderDatabase.mem_entriesOf.mp hother
    refine absurd ?_ hne
    rw [← hbatch]
    exact inv.batches.oneOpen entry hentry other hother
      ((hid.trans hrowid).trans hotherid.symm) hisopen (hbatch ▸ h.wasOpen)
  · exact hheld row' hrow ((inv.inOpenBatch_iff hrow).mpr ⟨entry, hentry, hid, hisopen⟩)

theorem Closes.grounded (inv : Consistent reader db) (inv' : ∃ reader, Consistent reader db')
    {batchId : SynchronizationBatchId} (h : Closes db db' batchId) (hground : db.Grounded) :
    db'.Grounded := by
  intro row' hrow' hstate
  obtain ⟨reader', inv'⟩ := inv'
  obtain ⟨row, hrow, -, ⟨-, hleft⟩ | ⟨hnotin, rfl⟩⟩ := h.origin row' hrow'
  · exact absurd hstate hleft
  · obtain ⟨entry, hentry, hid, hisopen⟩ := (inv.inOpenBatch_iff hrow).mp (hground row' hrow hstate)
    refine (inv'.inOpenBatch_iff hrow').mpr ⟨entry, h.entries ▸ hentry, hid, ?_⟩
    refine (h.isOpen _).mpr ⟨hisopen, fun hbatch => hnotin (List.mem_map.mpr ⟨entry, ?_, hid⟩)⟩
    exact ReaderDatabase.mem_entriesOf.mpr ⟨hentry, hbatch⟩

/-- The update of the one batch that leaves the in-flight state. -/
theorem BatchInvariant.isOpen_leave {r : ReaderId} (inv : BatchInvariant r db)
    {readerId : ReaderId} {batchId : SynchronizationBatchId} {t : UnixMilliseconds}
    {state : SynchronizationBatchState} {category : Option String}
    (hstate : state.isOpen = false)
    (hone : db.synchronizationBatches.countP
      (fun row => row.named readerId batchId && row.inFlightBy t) = 1)
    (hbatches : db'.synchronizationBatches = Table.updateWhere
      (fun row => row.named readerId batchId && row.inFlightBy t)
      (·.leave state none category t) db.synchronizationBatches) :
    db.IsOpen batchId ∧ readerId = r ∧
      ∀ other, db'.IsOpen other ↔ db.IsOpen other ∧ other ≠ batchId := by
  have hselected : ∀ row ∈ db.synchronizationBatches,
      (row.named readerId batchId && row.inFlightBy t) = true → row.batchId = batchId := by
    intro row _ hp
    simp only [SynchronizationBatchRow.named, Bool.and_eq_true, beq_iff_eq] at hp
    exact hp.1.1
  obtain ⟨found, hfound, hp⟩ := (Table.countP_eq_one_iff inv.ids hselected).mp hone
  have hfoundid := hselected found hfound hp
  refine ⟨⟨found, hfound, hfoundid, ?_⟩, ?_, fun other => ?_⟩
  · simp only [SynchronizationBatchRow.inFlightBy, Bool.and_eq_true, beq_iff_eq] at hp
    rw [hp.2.1]
    rfl
  · simp only [SynchronizationBatchRow.named, Bool.and_eq_true, beq_iff_eq] at hp
    exact hp.1.2.symm.trans (inv.owned found hfound)
  · constructor
    · rintro ⟨row', hrow', rfl, hopen⟩
      rw [hbatches] at hrow'
      obtain ⟨row, hrow, rfl⟩ := Table.mem_updateWhere.mp hrow'
      by_cases hsel : (row.named readerId batchId && row.inFlightBy t) = true
      · rw [if_pos hsel] at hopen
        exact absurd hopen (by rw [SynchronizationBatchRow.leave, hstate]; exact Bool.false_ne_true)
      · rw [if_neg hsel] at hopen ⊢
        refine ⟨⟨row, hrow, rfl, hopen⟩, fun hid => hsel ?_⟩
        rwa [Table.eq_of_key_eq inv.ids hrow hfound (hid.trans hfoundid.symm)]
    · rintro ⟨⟨row, hrow, rfl, hopen⟩, hne⟩
      refine ⟨row, ?_, rfl, hopen⟩
      rw [hbatches, Table.mem_updateWhere]
      exact ⟨row, hrow, by rw [if_neg fun hsel => hne (hselected row hrow hsel)]⟩

theorem BatchInvariant.mem_inBatch {r : ReaderId} (inv : BatchInvariant r db)
    {batchId : SynchronizationBatchId} {row : OfflineTransactionRow} :
    db.inBatch r batchId row = true ↔
      row.fareTransactionId ∈ (db.entriesOf batchId).map (·.fareTransactionId) := by
  simp only [ReaderDatabase.inBatch, inv.batchEntries_eq, List.any_eq_true, beq_iff_eq,
    List.mem_map]

/-- An update that reaches as many transactions as the batch has entries
reaches every one of them. -/
theorem Consistent.inFlightEntry_of_count (inv : Consistent reader db)
    {batchId : SynchronizationBatchId} {t : UnixMilliseconds}
    (hall : db.offlineTransactions.countP (db.inFlightEntry reader.readerId batchId t) =
      (db.batchEntries reader.readerId batchId).length)
    {row : OfflineTransactionRow} (hrow : row ∈ db.offlineTransactions)
    (hmem : row.fareTransactionId ∈ (db.entriesOf batchId).map (·.fareTransactionId)) :
    db.inFlightEntry reader.readerId batchId t row = true := by
  have hkeys : ∀ row ∈ db.offlineTransactions,
      db.inFlightEntry reader.readerId batchId t row = true →
        row.fareTransactionId ∈ (db.entriesOf batchId).map (·.fareTransactionId) := by
    intro row _ hp
    simp only [ReaderDatabase.inFlightEntry, Bool.and_eq_true] at hp
    exact inv.batches.mem_inBatch.mp hp.2
  rw [inv.batches.batchEntries_eq, ← List.length_map (·.fareTransactionId)] at hall
  obtain ⟨found, hfound, hp, hid⟩ := Table.exists_of_countP_eq inv.queue.ids hkeys hall hmem
  rwa [← Table.eq_of_key_eq inv.queue.ids hfound hrow hid]

/-- A final failure commits only when it reached every transaction of the
batch, so none of them is left in flight. -/
theorem Consistent.closes_failBatch (inv : Consistent reader db) {readerId : ReaderId}
    {batchId : SynchronizationBatchId} {category : String} {t : UnixMilliseconds}
    {target : FinalState}
    (h : Committed codec db (.failBatch readerId batchId category t target) db') :
    Closes db db' batchId := by
  obtain ⟨hone, hall, hbatches, hqueue, hentries⟩ :
      db.synchronizationBatches.countP
        (fun row => row.named readerId batchId && row.inFlightBy t) = 1 ∧
      db.offlineTransactions.countP (db.inFlightEntry readerId batchId t) =
        (db.batchEntries readerId batchId).length ∧
      db'.synchronizationBatches = Table.updateWhere
        (fun row => row.named readerId batchId && row.inFlightBy t)
        (·.leave target.batchState none (some (Text.trim category)) t)
        db.synchronizationBatches ∧
      db'.offlineTransactions = Table.updateWhere (db.inFlightEntry readerId batchId t)
        (·.resolve target.queueState none (some (Text.trim category)) t)
        db.offlineTransactions ∧
      db'.synchronizationEntries = db.synchronizationEntries := by
    cases h with
    | failBatch check one queueCheck all => exact ⟨one, all, rfl, rfl, rfl⟩
  obtain ⟨hopen, rfl, hisopen⟩ :=
    inv.batches.isOpen_leave (by cases target <;> rfl) hone hbatches
  refine ⟨hentries, hopen, hisopen, fun row' hrow' => ?_⟩
  rw [hqueue] at hrow'
  obtain ⟨row, hrow, rfl⟩ := Table.mem_updateWhere.mp hrow'
  by_cases hp : db.inFlightEntry reader.readerId batchId t row = true
  · rw [if_pos hp]
    simp only [ReaderDatabase.inFlightEntry, Bool.and_eq_true] at hp
    refine ⟨row, hrow, rfl, .inl ⟨inv.batches.mem_inBatch.mp hp.2, fun hflight => ?_⟩⟩
    cases target <;> cases hflight
  · rw [if_neg hp]
    exact ⟨row, hrow, rfl, .inr ⟨fun hmem => hp (inv.inFlightEntry_of_count hall hrow hmem), rfl⟩⟩

/-- What an application does to the queue: each entry found its transaction in
flight, and each transaction of the batch took the outcome of its entry. -/
theorem Consistent.applied (inv : Consistent reader db) {readerId : ReaderId}
    {batchId : SynchronizationBatchId} {t : UnixMilliseconds}
    (h : Committed codec db (.applyAcknowledgement readerId batchId t) db') :
    ∃ entries : List DecodedAcknowledgementEntry,
      entries.map (·.key) = (db.entriesOf batchId).map (·.key) ∧
      (∀ entry ∈ entries, ∃ row ∈ db.offlineTransactions,
        entry.selects reader.readerId t row = true) ∧
      db'.offlineTransactions = db.offlineTransactions.map
        (Table.assignEach (·.fareTransactionId) (·.transactionId)
          (DecodedAcknowledgementEntry.settle t) entries) := by
  cases h with
  | @applyAcknowledgement _ _ _ acknowledgement entries row readerState transactions advanced
      found unapplied decoded bound owner applied =>
    have hrow : row = reader := Option.some.inj (bound.symm.trans inv.queue.bound)
    subst hrow owner
    obtain ⟨hack, hackid, -⟩ := ReaderDatabase.findAcknowledgement_eq_some found
    have hkeys := inv.acknowledgements.decoded_keys inv.batches hack hackid decoded
    obtain ⟨batch, hbatch, hbatchid⟩ := inv.acknowledgements.known acknowledgement hack
    have hids : entries.map (·.transactionId) =
        (db.entriesOf batchId).map (·.fareTransactionId) := map_fst_of_keys hkeys
    have hnodup : (entries.map (·.transactionId)).Nodup := by
      rw [hids, ← hackid, ← hbatchid]
      exact inv.batches.nodup_transactions inv.queue hbatch
    obtain ⟨hfound, rfl⟩ := (applyEntries_eq_ok inv.queue.ids hnodup).mp applied
    refine ⟨entries, hkeys, fun entry hentry => ?_, rfl⟩
    obtain ⟨queued, hqueued, hsel, -⟩ := hfound entry hentry
    exact ⟨queued, hqueued, hsel⟩

theorem SynchronizationEntryResolution.queueValues_ne_inFlight
    (resolution : SynchronizationEntryResolution) : resolution.queueValues.1 ≠ .inFlight := by
  cases resolution <;> exact nofun

theorem Consistent.closes_apply (inv : Consistent reader db) {readerId : ReaderId}
    {batchId : SynchronizationBatchId} {t : UnixMilliseconds}
    (h : Committed codec db (.applyAcknowledgement readerId batchId t) db') :
    Closes db db' batchId := by
  obtain ⟨entries, hkeys, -, hqueue⟩ := inv.applied h
  obtain ⟨hone, hbatches, hentries⟩ :
      db.synchronizationBatches.countP
        (fun row => row.named readerId batchId && row.inFlightBy t) = 1 ∧
      db'.synchronizationBatches = Table.updateWhere
        (fun row => row.named readerId batchId && row.inFlightBy t)
        (·.leave .acknowledged none none t) db.synchronizationBatches ∧
      db'.synchronizationEntries = db.synchronizationEntries := by
    cases h with
    | applyAcknowledgement _ _ _ _ _ _ _ one => exact ⟨one, rfl, rfl⟩
  obtain ⟨hopen, -, hisopen⟩ := inv.batches.isOpen_leave rfl hone hbatches
  refine ⟨hentries, hopen, hisopen, fun row' hrow' => ?_⟩
  rw [hqueue] at hrow'
  obtain ⟨row, hrow, rfl⟩ := List.mem_map.mp hrow'
  have hids : entries.map (·.transactionId) =
      (db.entriesOf batchId).map (·.fareTransactionId) := map_fst_of_keys hkeys
  rw [← hids]
  rcases Table.assignEach_cases (·.fareTransactionId) (·.transactionId)
      (DecodedAcknowledgementEntry.settle t) entries row with
    ⟨entry, hentry, hid, heq⟩ | ⟨hnotin, heq⟩
  · rw [heq]
    exact ⟨row, hrow, rfl, .inl ⟨hid ▸ List.mem_map_of_mem hentry,
      entry.resolution.queueValues_ne_inFlight⟩⟩
  · rw [heq]
    exact ⟨row, hrow, rfl, .inr ⟨hnotin, rfl⟩⟩

/-! ## Steps that close nothing -/

/-- A step that leaves the open batches and the states of the queue. -/
structure Steady (db db' : ReaderDatabase) : Prop where
  entries : db'.synchronizationEntries = db.synchronizationEntries
  isOpen : ∀ batchId, db'.IsOpen batchId ↔ db.IsOpen batchId
  origin : ∀ row' ∈ db'.offlineTransactions, ∃ row ∈ db.offlineTransactions,
    row'.fareTransactionId = row.fareTransactionId ∧ row'.queueState = row.queueState

theorem Steady.inOpenBatch (inv : Consistent reader db) (inv' : ∃ reader, Consistent reader db')
    (h : Steady db db') {row row' : OfflineTransactionRow} (hrow : row ∈ db.offlineTransactions)
    (hrow' : row' ∈ db'.offlineTransactions)
    (hid : row'.fareTransactionId = row.fareTransactionId) :
    db'.inOpenBatch row' = true ↔ db.inOpenBatch row = true := by
  obtain ⟨reader', inv'⟩ := inv'
  simp only [inv.inOpenBatch_iff hrow, inv'.inOpenBatch_iff hrow', h.entries, h.isOpen, hid]

theorem Steady.held (inv : Consistent reader db) (inv' : ∃ reader, Consistent reader db')
    (h : Steady db db') (hheld : db.Held) : db'.Held := by
  intro row' hrow' hopen
  obtain ⟨row, hrow, hid, hstate⟩ := h.origin row' hrow'
  rw [hstate]
  exact hheld row hrow ((h.inOpenBatch inv inv' hrow hrow' hid).mp hopen)

theorem Steady.grounded (inv : Consistent reader db) (inv' : ∃ reader, Consistent reader db')
    (h : Steady db db') (hground : db.Grounded) : db'.Grounded := by
  intro row' hrow' hflight
  obtain ⟨row, hrow, hid, hstate⟩ := h.origin row' hrow'
  exact (h.inOpenBatch inv inv' hrow hrow' hid).mpr (hground row hrow (hstate ▸ hflight))

/-- An update of batches that are open before and after. -/
theorem isOpen_updateWhere {p : SynchronizationBatchRow → Bool}
    {f : SynchronizationBatchRow → SynchronizationBatchRow}
    (h : db'.synchronizationBatches = Table.updateWhere p f db.synchronizationBatches)
    (hid : ∀ row, (f row).batchId = row.batchId)
    (hopen : ∀ row, p row = true →
      row.batchState.isOpen = true ∧ (f row).batchState.isOpen = true)
    (batchId : SynchronizationBatchId) : db'.IsOpen batchId ↔ db.IsOpen batchId := by
  constructor
  · rintro ⟨row', hrow', rfl, hstate⟩
    rw [h] at hrow'
    obtain ⟨row, hrow, rfl⟩ := Table.mem_updateWhere.mp hrow'
    by_cases hp : p row = true
    · rw [if_pos hp]
      exact ⟨row, hrow, (hid row).symm, (hopen row hp).1⟩
    · rw [if_neg hp] at hstate ⊢
      exact ⟨row, hrow, rfl, hstate⟩
  · rintro ⟨row, hrow, rfl, hstate⟩
    refine ⟨_, h ▸ Table.mem_updateWhere.mpr ⟨row, hrow, rfl⟩, ?_⟩
    by_cases hp : p row = true
    · rw [if_pos hp]
      exact ⟨hid row, (hopen row hp).2⟩
    · rw [if_neg hp]
      exact ⟨rfl, hstate⟩

theorem SynchronizationBatchRow.isOpen_of_readyAt {row : SynchronizationBatchRow}
    {t : UnixMilliseconds} (h : row.readyAt t = true) : row.batchState.isOpen = true := by
  unfold readyAt at h
  cases hs : row.batchState <;> simp_all [SynchronizationBatchState.isOpen]

theorem SynchronizationBatchRow.isOpen_of_inFlightBy {row : SynchronizationBatchRow}
    {t : UnixMilliseconds} (h : row.inFlightBy t = true) : row.batchState.isOpen = true := by
  simp only [inFlightBy, Bool.and_eq_true, beq_iff_eq] at h
  rw [h.1]
  rfl

theorem Committed.steady_markBatch {readerId : ReaderId} {batchId : SynchronizationBatchId}
    {t : UnixMilliseconds} (h : Committed codec db (.markBatch readerId batchId t) db') :
    Steady db db' := by
  cases h with
  | markBatch =>
    refine ⟨rfl, isOpen_updateWhere rfl (fun _ => rfl) fun row hp => ?_, fun row' hrow' => ?_⟩
    · simp only [Bool.and_eq_true] at hp
      exact ⟨SynchronizationBatchRow.isOpen_of_readyAt hp.2, rfl⟩
    · obtain ⟨row, hrow, rfl⟩ := Table.mem_updateWhere.mp hrow'
      refine ⟨row, hrow, ?_⟩
      split <;> exact ⟨rfl, rfl⟩

theorem Steady.of_batches {p : SynchronizationBatchRow → Bool}
    {retryAt : Option UnixMilliseconds} {category : Option String} {t : UnixMilliseconds}
    (hp : ∀ row, p row = true → row.inFlightBy t = true) :
    Steady db { db with
      synchronizationBatches := Table.updateWhere p (·.leave .retryableFailure retryAt category t)
        db.synchronizationBatches } where
  entries := rfl
  isOpen := isOpen_updateWhere rfl (fun _ => rfl) fun row hrow =>
    ⟨SynchronizationBatchRow.isOpen_of_inFlightBy (hp row hrow), rfl⟩
  origin row hrow := ⟨row, hrow, rfl, rfl⟩

/-! ## Steps on the queue alone -/

section Queue

variable {p : OfflineTransactionRow → Bool} {f : OfflineTransactionRow → OfflineTransactionRow}

/-- The columns by which a row is found in a batch. -/
theorem inOpenBatch_congr {row row' : OfflineTransactionRow} (hframe : row'.frozen = row.frozen) :
    db.inOpenBatch row' = db.inOpenBatch row := by
  have hid : row'.fareTransactionId = row.fareTransactionId :=
    congrArg (·.fareTransactionId) hframe
  have howner : row'.readerId = row.readerId := congrArg (·.readerId) hframe
  simp only [ReaderDatabase.inOpenBatch, hid, howner]

theorem Held.updateWhere (hf : ∀ row, (f row).frozen = row.frozen)
    (hspared : ∀ row ∈ db.offlineTransactions, p row = true → db.inOpenBatch row = true →
      (f row).queueState = .inFlight)
    (hheld : db.Held) :
    ReaderDatabase.Held
      { db with offlineTransactions := Table.updateWhere p f db.offlineTransactions } := by
  intro row' hrow' hopen
  change db.inOpenBatch row' = true at hopen
  obtain ⟨row, hrow, rfl⟩ := Table.mem_updateWhere.mp hrow'
  by_cases hp : p row = true
  · rw [if_pos hp] at hopen ⊢
    rw [inOpenBatch_congr (hf row)] at hopen
    exact hspared row hrow hp hopen
  · rw [if_neg hp] at hopen ⊢
    exact hheld row hrow hopen

theorem Grounded.updateWhere (hf : ∀ row, (f row).queueState ≠ .inFlight)
    (hground : db.Grounded) :
    ReaderDatabase.Grounded
      { db with offlineTransactions := Table.updateWhere p f db.offlineTransactions } := by
  intro row' hrow' hflight
  show db.inOpenBatch row' = true
  obtain ⟨row, hrow, rfl⟩ := Table.mem_updateWhere.mp hrow'
  by_cases hp : p row = true
  · rw [if_pos hp] at hflight
    exact absurd hflight (hf row)
  · rw [if_neg hp] at hflight ⊢
    exact hground row hrow hflight

end Queue

/-- A new transaction is in no batch: the entries name queued transactions. -/
theorem Consistent.inOpenBatch_of_fresh (inv : Consistent reader db) {row : OfflineTransactionRow}
    (howner : row.readerId = reader.readerId)
    (hfresh : ∀ other ∈ db.offlineTransactions, row.conflicts other = false) :
    db.inOpenBatch row = false := by
  rw [← Bool.not_eq_true, inv.batches.inOpenBatch_iff howner]
  rintro ⟨entry, hentry, hid, -⟩
  obtain ⟨other, hother, hkey⟩ := inv.batches.entryQueued entry hentry
  have hconflict := hfresh other hother
  simp only [OfflineTransactionRow.conflicts, Bool.or_eq_false_iff, beq_eq_false_iff_ne]
    at hconflict
  exact hconflict.1 (hid.symm.trans (congrArg Prod.fst hkey).symm)

theorem Consistent.enqueued (inv : Consistent reader db) {readerId : ReaderId}
    {draft : OfflineTransactionDraft} (h : Committed codec db (.enqueue readerId draft) db') :
    (∀ row, db'.inOpenBatch row = db.inOpenBatch row) ∧
      ∀ row ∈ db'.offlineTransactions, row ∈ db.offlineTransactions ∨
        (row.queueState = .pending ∧ db.inOpenBatch row = false) := by
  cases h with
  | @enqueue _ _ bound hbound owner _ _ _ fresh =>
    have hreader : bound = reader := Option.some.inj (hbound.symm.trans inv.queue.bound)
    refine ⟨fun _ => rfl, fun row hrow => ?_⟩
    rcases List.mem_append.mp hrow with hrow | hrow
    · exact .inl hrow
    · rw [List.mem_singleton] at hrow
      rw [hrow]
      refine .inr ⟨rfl, inv.inOpenBatch_of_fresh ?_ fresh⟩
      rw [← hreader]
      exact owner.symm

/-! ## The creation of a batch -/

theorem Creates.held (inv : Consistent reader db) (inv' : ∃ reader, Consistent reader db')
    {batch : SynchronizationBatchRow} {added : List SynchronizationEntryRow}
    (h : Creates reader db db' batch added) (hheld : db.Held) : db'.Held := by
  intro row' hrow' hopen
  obtain ⟨reader', inv'⟩ := inv'
  obtain ⟨entry, hentry, hid, found, hfound, hfoundid, hstate⟩ :=
    (inv'.inOpenBatch_iff hrow').mp hopen
  obtain ⟨row, hrow, hrowid, ⟨-, hflight⟩ | ⟨hnotin, rfl⟩⟩ := h.origin row' hrow'
  · exact hflight
  · rw [h.entries, List.mem_append] at hentry
    rcases hentry with hentry | hentry
    · refine hheld row' hrow ((inv.inOpenBatch_iff hrow).mpr ⟨entry, hentry, hid, ?_⟩)
      rw [h.batches, List.mem_append, List.mem_singleton] at hfound
      rcases hfound with hfound | rfl
      · exact ⟨found, hfound, hfoundid, hstate⟩
      · obtain ⟨known, hknown, hknownid⟩ := inv.batches.entryBatch entry hentry
        exact absurd (hfoundid.trans hknownid.symm) (h.fresh known hknown)
    · exact absurd (List.mem_map.mpr ⟨entry, hentry, hid⟩) hnotin

theorem Creates.grounded (inv : Consistent reader db) (inv' : ∃ reader, Consistent reader db')
    {batch : SynchronizationBatchRow} {added : List SynchronizationEntryRow}
    (h : Creates reader db db' batch added) (hground : db.Grounded) : db'.Grounded := by
  intro row' hrow' hflight
  obtain ⟨reader', inv'⟩ := inv'
  refine (inv'.inOpenBatch_iff hrow').mpr ?_
  rw [h.entries]
  obtain ⟨row, hrow, hrowid, ⟨hmem, -⟩ | ⟨-, rfl⟩⟩ := h.origin row' hrow'
  · obtain ⟨entry, hentry, hid⟩ := List.mem_map.mp hmem
    refine ⟨entry, List.mem_append_right _ hentry, hid.trans hrowid.symm, batch, ?_,
      (h.member entry hentry).1.symm, by rw [h.prepared]; rfl⟩
    rw [h.batches]
    exact List.mem_append_right _ (List.mem_singleton_self batch)
  · obtain ⟨entry, hentry, hid, found, hfound, hfoundid, hstate⟩ :=
      (inv.inOpenBatch_iff hrow).mp (hground row' hrow hflight)
    refine ⟨entry, List.mem_append_left _ hentry, hid, found, ?_, hfoundid, hstate⟩
    rw [h.batches]
    exact List.mem_append_left _ hfound

/-! ## Every step -/

/-- The call does not take a transaction out of a batch that is still open.
Only the failures recorded for a single transaction can, and only under a
category that is not blank. -/
def Operation.sparesOpenBatches (db : ReaderDatabase) : Operation → Bool
  | .retryTransaction readerId transactionId failureCategory t _
  | .failTransaction readerId transactionId failureCategory t _ =>
    Text.trim failureCategory == "" || db.offlineTransactions.all fun row =>
      !(row.named readerId transactionId && row.inFlightBy t && db.inOpenBatch row)
  | _ => true

theorem Operation.sparesOpenBatches_of_not_onTransaction (h : op.onTransaction = false) :
    op.sparesOpenBatches db = true := by
  cases op <;> first | rfl | cases h

theorem Consistent.held_step (inv : Consistent reader db) (h : Committed codec db op db')
    (hspares : op.sparesOpenBatches db = true) (hheld : db.Held) : db'.Held := by
  have inv' : ∃ reader, Consistent reader db' := (inv.step h).imp fun _ h => h.1
  cases op with
  | bind =>
    cases h with
    | bind unbound =>
      rw [inv.queue.bound] at unbound
      cases unbound
  | enqueue =>
    obtain ⟨hsame, hrows⟩ := inv.enqueued h
    intro row hrow hopen
    rw [hsame] at hopen
    rcases hrows row hrow with hrow | ⟨-, hclosed⟩
    · exact hheld row hrow hopen
    · rw [hclosed] at hopen
      cases hopen
  | markTransaction =>
    cases h with
    | markTransaction => exact Held.updateWhere (fun _ => rfl) (fun _ _ _ _ => rfl) hheld
  | retryTransaction =>
    cases h with
    | retryTransaction check category =>
      refine Held.updateWhere (fun _ => rfl) (fun row hrow hp hopen => ?_) hheld
      have hall := (Bool.or_eq_true _ _ ▸ hspares).resolve_left fun hblank =>
        category (eq_of_beq hblank)
      have hrow := List.all_eq_true.mp hall row hrow
      rw [hp, hopen] at hrow
      cases hrow
  | failTransaction =>
    cases h with
    | failTransaction check category =>
      refine Held.updateWhere (fun _ => rfl) (fun row hrow hp hopen => ?_) hheld
      have hall := (Bool.or_eq_true _ _ ▸ hspares).resolve_left fun hblank =>
        category (eq_of_beq hblank)
      have hrow := List.all_eq_true.mp hall row hrow
      rw [hp, hopen] at hrow
      cases hrow
  | recoverQueue =>
    cases h with
    | recoverQueue =>
      refine Held.updateWhere (fun _ => rfl) (fun row hrow hp hopen => ?_) hheld
      rw [hopen, Bool.not_true, Bool.and_false] at hp
      cases hp
  | createBatch =>
    obtain ⟨batch, added, hcreates, -⟩ := inv.queue.creates h
    exact hcreates.held inv inv' hheld
  | markBatch => exact h.steady_markBatch.held inv inv' hheld
  | retryBatch =>
    cases h with
    | retryBatch =>
      refine (Steady.of_batches fun row hp => ?_).held inv inv' hheld
      exact (Bool.and_eq_true _ _ ▸ hp).2
  | failBatch => exact (inv.closes_failBatch h).held inv inv' hheld
  | recoverBatches =>
    cases h with
    | recoverBatches =>
      refine (Steady.of_batches fun row hp => ?_).held inv inv' hheld
      exact (Bool.and_eq_true _ _ ▸ hp).2
  | storeAcknowledgement =>
    cases h with
    | storeAcknowledgement => exact hheld
  | applyAcknowledgement => exact (inv.closes_apply h).held inv inv' hheld

/-- Without the operations on single transactions, nothing is in flight on its
own. -/
theorem Consistent.grounded_step (inv : Consistent reader db) (h : Committed codec db op db')
    (hop : op.onTransaction = false) (hground : db.Grounded) : db'.Grounded := by
  have inv' : ∃ reader, Consistent reader db' := (inv.step h).imp fun _ h => h.1
  cases op with
  | markTransaction | retryTransaction | failTransaction => cases hop
  | bind =>
    cases h with
    | bind unbound =>
      rw [inv.queue.bound] at unbound
      cases unbound
  | enqueue =>
    obtain ⟨hsame, hrows⟩ := inv.enqueued h
    intro row hrow hflight
    rw [hsame]
    rcases hrows row hrow with hrow | ⟨hpending, -⟩
    · exact hground row hrow hflight
    · rw [hpending] at hflight
      cases hflight
  | recoverQueue =>
    cases h with
    | recoverQueue => exact Grounded.updateWhere (fun _ => nofun) hground
  | createBatch =>
    obtain ⟨batch, added, hcreates, -⟩ := inv.queue.creates h
    exact hcreates.grounded inv inv' hground
  | markBatch => exact h.steady_markBatch.grounded inv inv' hground
  | retryBatch =>
    cases h with
    | retryBatch =>
      refine (Steady.of_batches fun row hp => ?_).grounded inv inv' hground
      exact (Bool.and_eq_true _ _ ▸ hp).2
  | failBatch => exact (inv.closes_failBatch h).grounded inv inv' hground
  | recoverBatches =>
    cases h with
    | recoverBatches =>
      refine (Steady.of_batches fun row hp => ?_).grounded inv inv' hground
      exact (Bool.and_eq_true _ _ ▸ hp).2
  | storeAcknowledgement =>
    cases h with
    | storeAcknowledgement => exact hground
  | applyAcknowledgement => exact (inv.closes_apply h).grounded inv inv' hground

/-! ## Runs -/

theorem FreshlyBound.held (h : FreshlyBound db) : db.Held := by
  obtain ⟨identity, -, rfl⟩ := h.exists_identity
  exact fun row hrow => absurd hrow List.not_mem_nil

theorem FreshlyBound.grounded (h : FreshlyBound db) : db.Grounded := by
  obtain ⟨identity, -, rfl⟩ := h.exists_identity
  exact fun row hrow => absurd hrow List.not_mem_nil

theorem held_run (h : FreshlyBound db) {ops : List Operation}
    (hspares : Runs.StepsMeet (perform codec) (fun db op => op.sparesOpenBatches db = true)
      db ops) :
    (Runs.run (perform codec) db ops).Held := by
  refine (Runs.invariant_of_stepsMeet
    (P := fun db => (∃ reader, Consistent reader db) ∧ db.Held) ?_
    ⟨h.consistent, h.held⟩ hspares).2
  rintro db op hspares ⟨⟨reader, inv⟩, hheld⟩
  exact ⟨inv.perform op, perform_invariant hheld fun _ h => inv.held_step h hspares hheld⟩

theorem grounded_run (h : FreshlyBound db) {ops : List Operation}
    (hops : ∀ op ∈ ops, op.onTransaction = false) :
    (Runs.run (perform codec) db ops).Grounded := by
  refine (Runs.invariant_of_stepsMeet
    (P := fun db => (∃ reader, Consistent reader db) ∧ db.Grounded) ?_
    ⟨h.consistent, h.grounded⟩ (Runs.stepsMeet_of_forall _ _ hops)).2
  rintro db op hop ⟨⟨reader, inv⟩, hground⟩
  exact ⟨inv.perform op, perform_invariant hground fun _ h => inv.grounded_step h hop hground⟩

end TransitGuard.Reader
