import TransitGuard.Reader.Invariant

/-!
Batches and their entries. A batch holds a nonempty list of entries in the
order of their sequences, every entry names a queued transaction, and no
transaction is an entry of two open batches. The schema stopped enforcing the
last of these with its fifth migration; it rests on the filter of the batch
creation and on closed batches staying closed.
-/

namespace TransitGuard.Reader

open Fallible

variable {codec : Json.Codec} {db db' : ReaderDatabase} {op : Operation}
  {reader : ReaderStateRow} {r : ReaderId}

/-- The batch is prepared, in flight or retryable. -/
def ReaderDatabase.IsOpen (db : ReaderDatabase) (batchId : SynchronizationBatchId) : Prop :=
  ∃ row ∈ db.synchronizationBatches, row.batchId = batchId ∧ row.batchState.isOpen = true

/-- The entries of a batch, in insertion order. -/
def ReaderDatabase.entriesOf (db : ReaderDatabase) (batchId : SynchronizationBatchId) :
    List SynchronizationEntryRow :=
  db.synchronizationEntries.filter (·.batchId == batchId)

/-- The entries a batch row describes by its range. -/
structure SynchronizationBatchRow.Holds (row : SynchronizationBatchRow)
    (entries : List SynchronizationEntryRow) : Prop where
  positions : entries.map (·.entryPosition) = List.range' 0 entries.length
  increasing : (entries.map (·.localSequenceNumber)).Pairwise (· < ·)
  first : entries.head?.map (·.localSequenceNumber) = some row.firstLocalSequenceNumber
  last : entries.getLast?.map (·.localSequenceNumber) = some row.lastLocalSequenceNumber

structure BatchInvariant (r : ReaderId) (db : ReaderDatabase) : Prop where
  ids : (db.synchronizationBatches.map (·.batchId)).Nodup
  owned : ∀ row ∈ db.synchronizationBatches, row.readerId = r
  valid : ∀ row ∈ db.synchronizationBatches, row.Valid
  entryOwned : ∀ entry ∈ db.synchronizationEntries, entry.readerId = r
  entryBatch : ∀ entry ∈ db.synchronizationEntries,
    ∃ row ∈ db.synchronizationBatches, row.batchId = entry.batchId
  entryQueued : ∀ entry ∈ db.synchronizationEntries,
    ∃ row ∈ db.offlineTransactions, row.key = entry.key
  holds : ∀ row ∈ db.synchronizationBatches, row.Holds (db.entriesOf row.batchId)
  oneOpen : ∀ entry ∈ db.synchronizationEntries, ∀ other ∈ db.synchronizationEntries,
    entry.fareTransactionId = other.fareTransactionId → db.IsOpen entry.batchId →
      db.IsOpen other.batchId → entry.batchId = other.batchId

/-! ## Reading the invariant -/

theorem BatchInvariant.batchEntries_eq (inv : BatchInvariant r db)
    (batchId : SynchronizationBatchId) : db.batchEntries r batchId = db.entriesOf batchId := by
  refine List.filter_congr fun entry hentry => ?_
  rw [inv.entryOwned entry hentry]
  simp

theorem BatchInvariant.inOpenBatch_iff (inv : BatchInvariant r db) {row : OfflineTransactionRow}
    (hrow : row.readerId = r) :
    db.inOpenBatch row = true ↔ ∃ entry ∈ db.synchronizationEntries,
      entry.fareTransactionId = row.fareTransactionId ∧ db.IsOpen entry.batchId := by
  simp only [ReaderDatabase.inOpenBatch, List.any_eq_true, Bool.and_eq_true, beq_iff_eq,
    ReaderDatabase.IsOpen]
  constructor
  · rintro ⟨entry, hentry, ⟨hid, -⟩, batch, hbatch, ⟨hbid, -⟩, hopen⟩
    exact ⟨entry, hentry, hid, batch, hbatch, hbid, hopen⟩
  · rintro ⟨entry, hentry, hid, batch, hbatch, hbid, hopen⟩
    have hentryOwner := inv.entryOwned entry hentry
    exact ⟨entry, hentry, ⟨hid, hentryOwner.trans hrow.symm⟩, batch, hbatch,
      ⟨hbid, (inv.owned batch hbatch).trans hentryOwner.symm⟩, hopen⟩

theorem ReaderDatabase.findBatch_eq_some {readerId : ReaderId} {batchId : SynchronizationBatchId}
    {row : SynchronizationBatchRow} (h : db.findBatch readerId batchId = some row) :
    row ∈ db.synchronizationBatches ∧ row.batchId = batchId ∧ row.readerId = readerId := by
  have hp := List.find?_some h
  simp only [Bool.and_eq_true, beq_iff_eq] at hp
  exact ⟨List.mem_of_find?_eq_some h, hp.1, hp.2⟩

theorem BatchInvariant.findBatch (inv : BatchInvariant r db) {row : SynchronizationBatchRow}
    (hrow : row ∈ db.synchronizationBatches) : db.findBatch r row.batchId = some row := by
  cases hfind : db.findBatch r row.batchId with
  | none =>
    have h := List.find?_eq_none.mp hfind row hrow
    simp [inv.owned row hrow] at h
  | some found =>
    obtain ⟨hfound, hid, -⟩ := ReaderDatabase.findBatch_eq_some hfind
    rw [Table.eq_of_key_eq inv.ids hfound hrow hid]

theorem BatchInvariant.orderBy_entryPosition (inv : BatchInvariant r db)
    {row : SynchronizationBatchRow} (hrow : row ∈ db.synchronizationBatches) :
    Table.orderBy (·.entryPosition) (db.batchEntries r row.batchId) =
      db.entriesOf row.batchId := by
  rw [inv.batchEntries_eq]
  refine Table.orderBy_of_sorted ?_
  rw [(inv.holds row hrow).positions]
  exact (List.pairwise_lt_range' 1).imp Nat.le_of_lt

/-- What a loaded batch repeats of its stored rows. -/
theorem loadSynchronizationBatch_ok {readerId : ReaderId} {batchId : SynchronizationBatchId}
    {batch : SynchronizationBatch} (h : loadSynchronizationBatch db readerId batchId = .ok batch) :
    ∃ row, db.findBatch readerId batchId = some row ∧
      batch.protocolVersion.value = row.protocolVersion ∧
      batch.firstLocalSequenceNumber.value = row.firstLocalSequenceNumber ∧
      batch.lastLocalSequenceNumber.value = row.lastLocalSequenceNumber ∧
      batch.entries.map (·.key) =
        (Table.orderBy (·.entryPosition) (db.batchEntries readerId batchId)).map (·.key) := by
  simp only [loadSynchronizationBatch, bind_eq_ok, orFail_eq_ok, decodeStoredBatch,
    decodeProtocolVersion_ok, decodeSequence_ok, guard_eq_ok, decodeBatchEntries_ok] at h
  obtain ⟨row, hrow, version, hversion, first, hfirst, last, hlast, -, -, -, -, -, -, entries,
    ⟨-, hentries⟩, h⟩ := h
  split at h
  · rw [ite_error_eq_ok, Except.ok.injEq] at h
    obtain ⟨-, rfl⟩ := h
    exact ⟨row, hrow, hversion, hfirst, hlast, hentries⟩
  · cases h

/-! ## Steps that create no batch -/

theorem BatchFrame.isOpen (h : BatchFrame db db') {batchId : SynchronizationBatchId}
    (hopen : db'.IsOpen batchId) : db.IsOpen batchId := by
  obtain ⟨row', hrow', hid, hstate⟩ := hopen
  obtain ⟨row, hrow, hkept⟩ := h.origin row' hrow'
  have hid' : row'.batchId = row.batchId := congrArg (·.batchId) hkept.frozen
  refine ⟨row, hrow, hid'.symm.trans hid, ?_⟩
  by_contra hclosed
  rw [hkept.closed (Bool.not_eq_true _ ▸ hclosed)] at hstate
  exact hclosed hstate

theorem BatchFrame.entriesOf (h : BatchFrame db db') (batchId : SynchronizationBatchId) :
    db'.entriesOf batchId = db.entriesOf batchId := by
  simp only [ReaderDatabase.entriesOf, h.entries]

/-- The transaction of an entry keeps its frozen columns, so its key. -/
theorem Grows.entryQueued (h : Grows db db') {entry : SynchronizationEntryRow}
    (hentry : ∃ row ∈ db.offlineTransactions, row.key = entry.key) :
    ∃ row ∈ db'.offlineTransactions, row.key = entry.key := by
  obtain ⟨row, hrow, hkey⟩ := hentry
  obtain ⟨row', hrow', hkept⟩ := h.queue row hrow
  exact ⟨row', hrow', (congrArg (·.key) hkept.frozen).trans hkey⟩

theorem BatchInvariant.of_frame (inv : BatchInvariant r db) (h : BatchFrame db db')
    (hgrows : Grows db db') : BatchInvariant r db' where
  ids := by
    have hids : db'.synchronizationBatches.map (·.batchId) =
        db.synchronizationBatches.map (·.batchId) :=
      Table.map_eq_of_map_eq h.batches fun _ => rfl
    rw [hids]
    exact inv.ids
  owned row' hrow' := by
    obtain ⟨row, hrow, hkept⟩ := h.origin row' hrow'
    exact (congrArg (·.readerId) hkept.frozen).trans (inv.owned row hrow)
  valid := h.valid inv.valid
  entryOwned := h.entries ▸ inv.entryOwned
  entryBatch entry hentry := by
    obtain ⟨row, hrow, hid⟩ := inv.entryBatch entry (h.entries ▸ hentry)
    obtain ⟨row', hrow', hkept⟩ := hgrows.batches row hrow
    exact ⟨row', hrow', (congrArg (·.batchId) hkept.frozen).trans hid⟩
  entryQueued entry hentry := hgrows.entryQueued (inv.entryQueued entry (h.entries ▸ hentry))
  holds row' hrow' := by
    obtain ⟨row, hrow, hkept⟩ := h.origin row' hrow'
    have hid : row'.batchId = row.batchId := congrArg (·.batchId) hkept.frozen
    have hholds := inv.holds row hrow
    rw [h.entriesOf, hid]
    exact
      { positions := hholds.positions
        increasing := hholds.increasing
        first := hholds.first.trans
          (congrArg (fun x => some x.firstLocalSequenceNumber) hkept.frozen).symm
        last := hholds.last.trans
          (congrArg (fun x => some x.lastLocalSequenceNumber) hkept.frozen).symm }
  oneOpen entry hentry other hother hid hopen hopen' :=
    inv.oneOpen entry (h.entries ▸ hentry) other (h.entries ▸ hother) hid (h.isOpen hopen)
      (h.isOpen hopen')

/-! ## The creation of a batch -/

/-- The candidates are queued transactions outside every open batch. -/
theorem mem_batchCandidates {readerId : ReaderId} {t : UnixMilliseconds} {limit : Nat}
    {row : OfflineTransactionRow} (h : row ∈ batchCandidates db readerId t limit) :
    row ∈ db.offlineTransactions ∧ row.readerId = readerId ∧ row.eligibleAt t = true ∧
      db.inOpenBatch row = false := by
  have hmem := Table.mem_orderBy.mp (List.mem_of_mem_take h)
  simp only [List.mem_filter, Bool.and_eq_true, beq_iff_eq, Bool.not_eq_eq_eq_not,
    Bool.not_true] at hmem
  exact ⟨hmem.1, hmem.2.1.1, hmem.2.1.2, hmem.2.2⟩

theorem QueueInvariant.sequences_increasing (inv : QueueInvariant reader db) :
    (db.offlineTransactions.map (·.localSequenceNumber)).Pairwise (· < ·) := by
  rw [inv.sequences]
  exact List.pairwise_lt_range' 1

theorem QueueInvariant.batchCandidates_sublist (inv : QueueInvariant reader db)
    (readerId : ReaderId) (t : UnixMilliseconds) (limit : Nat) :
    (batchCandidates db readerId t limit).Sublist db.offlineTransactions := by
  have hfilter := List.filter_sublist (l := db.offlineTransactions)
    (p := fun row => row.readerId == readerId && row.eligibleAt t && !db.inOpenBatch row)
  have hsorted := inv.sequences_increasing.sublist (hfilter.map (·.localSequenceNumber))
  rw [batchCandidates, Table.orderBy_of_sorted (hsorted.imp Nat.le_of_lt)]
  exact (List.take_sublist ..).trans hfilter

theorem map_entryPosition_entryRows (readerId : ReaderId) (batchId : SynchronizationBatchId)
    (position : Nat) (entries : List SynchronizationBatchEntry) :
    (entryRows readerId batchId position entries).map (·.entryPosition) =
      List.range' position entries.length := by
  rw [entryRows, List.map_map]
  exact List.zipIdx_map_snd position entries

theorem map_key_entryRows (readerId : ReaderId) (batchId : SynchronizationBatchId)
    (position : Nat) (entries : List SynchronizationBatchEntry) :
    (entryRows readerId batchId position entries).map (·.key) = entries.map (·.key) := by
  induction entries generalizing position with
  | nil => rfl
  | cons entry entries ih =>
    simp only [entryRows, List.zipIdx_cons, List.map_cons] at ih ⊢
    rw [ih]
    rfl

theorem map_fst_of_keys {α β γ δ : Type} {xs : List α} {ys : List β} {f : α → γ × δ}
    {g : β → γ × δ} (h : xs.map f = ys.map g) :
    (xs.map fun x => (f x).1) = ys.map fun y => (g y).1 := by
  have h := congrArg (List.map Prod.fst) h
  rw [List.map_map, List.map_map] at h
  exact h

theorem map_snd_of_keys {α β γ δ : Type} {xs : List α} {ys : List β} {f : α → γ × δ}
    {g : β → γ × δ} (h : xs.map f = ys.map g) :
    (xs.map fun x => (f x).2) = ys.map fun y => (g y).2 := by
  have h := congrArg (List.map Prod.snd) h
  rw [List.map_map, List.map_map] at h
  exact h

/-- The entries of a new batch are well formed. -/
theorem preparedBatch_holds {readerId : ReaderId} {version : DeviceProtocolVersion}
    {t : UnixMilliseconds} {generated : SynchronizationBatchId}
    {entries : List SynchronizationBatchEntry} {first last : SynchronizationBatchEntry}
    (hincreasing : (entries.map (·.localSequenceNumber.value)).Pairwise (· < ·))
    (hfirst : entries.head? = some first) (hlast : entries.getLast? = some last) :
    (preparedBatch readerId version t generated first.localSequenceNumber
      last.localSequenceNumber).Holds (entryRows readerId generated 0 entries) := by
  have hsequences : (entryRows readerId generated 0 entries).map (·.localSequenceNumber) =
      entries.map (·.localSequenceNumber.value) := map_snd_of_keys (map_key_entryRows ..)
  have hlength : (entryRows readerId generated 0 entries).length = entries.length := by
    simp [entryRows]
  exact
    { positions := by rw [map_entryPosition_entryRows, hlength]
      increasing := by rw [hsequences]; exact hincreasing
      first := by rw [← List.head?_map, hsequences, List.head?_map, hfirst]; rfl
      last := by rw [← List.getLast?_map, hsequences, List.getLast?_map, hlast]; rfl }

/-- What the creation adds: a prepared batch under a fresh identifier, and
entries for queued transactions that no open batch holds. It reserves exactly
the transactions of the entries. -/
structure Creates (reader : ReaderStateRow) (db db' : ReaderDatabase)
    (batch : SynchronizationBatchRow) (added : List SynchronizationEntryRow) : Prop where
  batches : db'.synchronizationBatches = db.synchronizationBatches ++ [batch]
  entries : db'.synchronizationEntries = db.synchronizationEntries ++ added
  owner : batch.readerId = reader.readerId
  prepared : batch.batchState = .prepared
  check : batch.check = true
  holds : batch.Holds added
  fresh : ∀ row ∈ db.synchronizationBatches, batch.batchId ≠ row.batchId
  member : ∀ entry ∈ added, entry.batchId = batch.batchId ∧
    entry.readerId = reader.readerId ∧
    ∃ row ∈ db.offlineTransactions, row.key = entry.key ∧ db.inOpenBatch row = false
  origin : ∀ row' ∈ db'.offlineTransactions, ∃ row ∈ db.offlineTransactions,
    row'.fareTransactionId = row.fareTransactionId ∧
    ((row.fareTransactionId ∈ added.map (·.fareTransactionId) ∧ row'.queueState = .inFlight) ∨
      (row.fareTransactionId ∉ added.map (·.fareTransactionId) ∧ row' = row))

theorem QueueInvariant.creates (queue : QueueInvariant reader db) {readerId : ReaderId}
    {version : DeviceProtocolVersion} {t : UnixMilliseconds} {limit : Nat}
    {generated : SynchronizationBatchId}
    (h : Committed codec db (.createBatch readerId version t limit generated) db') :
    ∃ batch entries, Creates reader db db' batch entries ∧ batch.batchId = generated ∧
      batch.protocolVersion = version.value ∧ entries.map (·.key) =
        (batchCandidates db readerId t limit).map (·.key) := by
  cases h with
  | @createBatch _ _ _ _ _ entries first last transactions candidates head getLast owner check
      fresh reserved =>
    have howner : reader.readerId = readerId := by
      simpa [ReaderDatabase.hasReader, queue.bound] using owner
    subst howner
    have hsublist := queue.batchCandidates_sublist reader.readerId t limit
    have hkeys := (map_key_entryRows reader.readerId generated 0 entries).trans candidates
    refine ⟨_, _, ⟨rfl, rfl, rfl, rfl, check, preparedBatch_holds ?_ head getLast, fresh,
      fun entry hentry => ?_, fun row' hrow' => ?_⟩, rfl, rfl, hkeys⟩
    · have hsequences : entries.map (·.localSequenceNumber.value) =
          (batchCandidates db reader.readerId t limit).map (·.localSequenceNumber) :=
        map_snd_of_keys candidates
      rw [hsequences]
      exact queue.sequences_increasing.sublist (hsublist.map _)
    · have hmem := List.mem_map_of_mem (f := (·.key)) hentry
      rw [hkeys] at hmem
      obtain ⟨row, hrow, hkey⟩ := List.mem_map.mp hmem
      obtain ⟨hqueued, -, -, hclosed⟩ := mem_batchCandidates hrow
      exact ⟨(mem_entryRows hentry).1, (mem_entryRows hentry).2, row, hqueued, hkey, hclosed⟩
    · have hcandidates : entries.map (·.transactionId) =
          (batchCandidates db reader.readerId t limit).map (·.fareTransactionId) :=
        map_fst_of_keys candidates
      have hnodup : (entries.map (·.transactionId)).Nodup := by
        rw [hcandidates]
        exact queue.ids.sublist (hsublist.map _)
      obtain ⟨-, rfl⟩ := (reserveTransactions_eq_ok queue.ids hnodup).mp reserved
      have hids : (entryRows reader.readerId generated 0 entries).map (·.fareTransactionId) =
          entries.map (·.transactionId) := map_fst_of_keys (map_key_entryRows ..)
      obtain ⟨row, hrow, rfl⟩ := List.mem_map.mp hrow'
      rw [hids]
      rcases Table.assignEach_cases (·.fareTransactionId) (·.transactionId)
          (fun _ row => OfflineTransactionRow.reserve t row) entries row with
        ⟨entry, hentry, hid, heq⟩ | ⟨hnotin, heq⟩
      · rw [heq]
        exact ⟨row, hrow, rfl, .inl ⟨hid ▸ List.mem_map_of_mem hentry, rfl⟩⟩
      · rw [heq]
        exact ⟨row, hrow, rfl, .inr ⟨hnotin, rfl⟩⟩

theorem BatchInvariant.create (inv : BatchInvariant reader.readerId db)
    (queue : QueueInvariant reader db) {readerId : ReaderId} {version : DeviceProtocolVersion}
    {t : UnixMilliseconds} {limit : Nat} {generated : SynchronizationBatchId}
    (h : Committed codec db (.createBatch readerId version t limit generated) db') :
    BatchInvariant reader.readerId db' := by
  have hgrows := h.grows
  obtain ⟨batch, entries, ⟨hbatches, hentries, howner, hprepared, hcheck, hholds, hfresh, hnew,
    -⟩, -, -, -⟩ := queue.creates h
  have hold : ∀ entry ∈ db.synchronizationEntries, entry.batchId ≠ batch.batchId := by
    intro entry hentry hid
    obtain ⟨row, hrow, hrowid⟩ := inv.entryBatch entry hentry
    exact hfresh row hrow (hrowid.trans hid).symm
  have hopen : ∀ batchId, batchId ≠ batch.batchId → db'.IsOpen batchId → db.IsOpen batchId := by
    rintro batchId hne ⟨row, hrow, hid, hstate⟩
    rw [hbatches, List.mem_append, List.mem_singleton] at hrow
    rcases hrow with hrow | rfl
    · exact ⟨row, hrow, hid, hstate⟩
    · exact absurd hid.symm hne
  -- an entry of the new batch and an entry of another open batch name different transactions
  have hapart : ∀ entry ∈ entries, ∀ other ∈ db.synchronizationEntries,
      entry.fareTransactionId = other.fareTransactionId → ¬db'.IsOpen other.batchId := by
    intro entry hentry other hother hid hother'
    obtain ⟨-, -, row, hrow, hkey, hclosed⟩ := hnew entry hentry
    have hisopen : db.inOpenBatch row = true := by
      refine (inv.inOpenBatch_iff (queue.owned row hrow)).mpr ⟨other, hother, ?_, ?_⟩
      · exact hid.symm.trans (congrArg Prod.fst hkey).symm
      · exact hopen _ (hold other hother) hother'
    rw [hclosed] at hisopen
    cases hisopen
  refine
    { ids := hbatches ▸ Table.nodup_map_append inv.ids hfresh
      owned := fun row hrow => ?_
      valid := fun row hrow => ?_
      entryOwned := fun entry hentry => ?_
      entryBatch := fun entry hentry => ?_
      entryQueued := fun entry hentry => ?_
      holds := fun row hrow => ?_
      oneOpen := fun entry hentry other hother hid hopened hopened' => ?_ }
  · rw [hbatches, List.mem_append, List.mem_singleton] at hrow
    rcases hrow with hrow | rfl
    · exact inv.owned row hrow
    · exact howner
  · rw [hbatches, List.mem_append, List.mem_singleton] at hrow
    rcases hrow with hrow | rfl
    · exact inv.valid row hrow
    · exact ⟨hcheck, fun hne => absurd hprepared hne⟩
  · rw [hentries, List.mem_append] at hentry
    rcases hentry with hentry | hentry
    · exact inv.entryOwned entry hentry
    · exact (hnew entry hentry).2.1
  · rw [hentries, List.mem_append] at hentry
    rw [hbatches]
    rcases hentry with hentry | hentry
    · obtain ⟨row, hrow, hid⟩ := inv.entryBatch entry hentry
      exact ⟨row, List.mem_append_left _ hrow, hid⟩
    · exact ⟨batch, by simp, (hnew entry hentry).1.symm⟩
  · rw [hentries, List.mem_append] at hentry
    rcases hentry with hentry | hentry
    · exact hgrows.entryQueued (inv.entryQueued entry hentry)
    · obtain ⟨-, -, row, hrow, hkey, -⟩ := hnew entry hentry
      exact hgrows.entryQueued ⟨row, hrow, hkey⟩
  · rw [hbatches, List.mem_append, List.mem_singleton] at hrow
    rcases hrow with hrow | rfl
    · have hentriesOf : db'.entriesOf row.batchId = db.entriesOf row.batchId :=
        hgrows.entries row hrow
      rw [hentriesOf]
      exact inv.holds row hrow
    · have hentriesOf : db'.entriesOf row.batchId = entries := by
        rw [ReaderDatabase.entriesOf, hentries]
        exact Table.filter_append_of_fresh hold fun entry hentry => (hnew entry hentry).1
      rw [hentriesOf]
      exact hholds
  · rw [hentries, List.mem_append] at hentry hother
    rcases hentry with hentry | hentry <;> rcases hother with hother | hother
    · exact inv.oneOpen entry hentry other hother hid
        (hopen _ (hold entry hentry) hopened) (hopen _ (hold other hother) hopened')
    · exact absurd hopened (hapart other hother entry hentry hid.symm)
    · exact absurd hopened' (hapart entry hentry other hother hid)
    · rw [(hnew entry hentry).1, (hnew other hother).1]

theorem BatchInvariant.step (inv : BatchInvariant reader.readerId db)
    (queue : QueueInvariant reader db) (h : Committed codec db op db') :
    BatchInvariant reader.readerId db' := by
  rcases h.batchFrame with ⟨readerId, version, t, limit, generated, rfl⟩ | hframe
  · exact inv.create queue h
  · exact inv.of_frame hframe h.grows

end TransitGuard.Reader
