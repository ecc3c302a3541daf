import TransitGuard.Reader.Progress
import TransitGuard.Reader.Ready
import TransitGuard.Reader.Timestamps

/-!
When the creation of a batch succeeds. The loop of reservations and insertions
goes through as long as every reservation finds its row, which is the case for a
candidate unless it was last updated after the time of the creation: the
candidates are selected without that comparison, so one such row among them
makes the whole creation fail.
-/

namespace TransitGuard.Reader

open Fallible

variable {codec : Json.Codec} {db : ReaderDatabase} {reader : ReaderStateRow}
  {readerId : ReaderId} {batchId : SynchronizationBatchId} {t : UnixMilliseconds}
  {limit position : Nat} {entries : List SynchronizationBatchEntry}

/-! ## The loop -/

/-- What keeps the loop of the creation going. -/
structure ReaderDatabase.Reserves (db : ReaderDatabase) (readerId : ReaderId)
    (batchId : SynchronizationBatchId) (t : UnixMilliseconds) (position : Nat)
    (entries : List SynchronizationBatchEntry) : Prop where
  batch : (db.findBatch readerId batchId).isSome = true
  reserved : ∃ out, reserveTransactions readerId t entries db.offlineTransactions = .ok out
  distinct : entries.Pairwise fun a b => a.transactionId ≠ b.transactionId ∧
    a.localSequenceNumber.value ≠ b.localSequenceNumber.value
  fresh : ∀ stored ∈ db.synchronizationEntries, stored.batchId = batchId →
    stored.entryPosition < position ∧ ∀ entry ∈ entries,
      stored.fareTransactionId ≠ entry.transactionId ∧
        stored.localSequenceNumber ≠ entry.localSequenceNumber.value
  representable : ∀ entry ∈ entries, entry.localSequenceNumber.value ≤ i64Max
  length_le : position + entries.length ≤ i64Max + 1

/-- One entry reserved and inserted leaves what the rest of the loop needs. -/
theorem ReaderDatabase.Reserves.tail {entry : SynchronizationBatchEntry}
    (h : db.Reserves readerId batchId t position (entry :: entries)) :
    ReaderDatabase.Reserves { db with
      offlineTransactions := Table.updateWhere (·.reservableFor readerId entry t) (·.reserve t)
        db.offlineTransactions
      synchronizationEntries := db.synchronizationEntries ++
        [⟨batchId, readerId, entry.transactionId, entry.localSequenceNumber.value, position⟩] }
      readerId batchId t (position + 1) entries where
  batch := h.batch
  reserved := by
    obtain ⟨out, hout⟩ := h.reserved
    exact ⟨out, (Table.updateEach_cons_eq_ok.mp hout).2.2⟩
  distinct := (List.pairwise_cons.mp h.distinct).2
  fresh := by
    intro stored hstored hbatch
    rcases List.mem_append.mp hstored with hstored | hstored
    · obtain ⟨hposition, hentries⟩ := h.fresh stored hstored hbatch
      exact ⟨by omega, fun later hlater => hentries later (List.mem_cons_of_mem _ hlater)⟩
    · rw [List.mem_singleton.mp hstored]
      exact ⟨Nat.lt_succ_self _, (List.pairwise_cons.mp h.distinct).1⟩
  representable later hlater := h.representable later (List.mem_cons_of_mem _ hlater)
  length_le := by
    have hlength := h.length_le
    rw [List.length_cons] at hlength
    omega

/-- The entry meets the constraints of its table, and the reserved transaction
is there to refer to. -/
theorem ReaderDatabase.Reserves.insert {entry : SynchronizationBatchEntry}
    (h : db.Reserves readerId batchId t position (entry :: entries)) :
    Table.insert SynchronizationEntryRow.check SynchronizationEntryRow.conflicts
      ((db.findBatch readerId batchId).isSome &&
        (Table.updateWhere (·.reservableFor readerId entry t) (·.reserve t)
          db.offlineTransactions).any fun row => row.named readerId entry.transactionId &&
            row.localSequenceNumber == entry.localSequenceNumber.value)
      ⟨batchId, readerId, entry.transactionId, entry.localSequenceNumber.value, position⟩
      db.synchronizationEntries =
        .ok (db.synchronizationEntries ++
          [⟨batchId, readerId, entry.transactionId, entry.localSequenceNumber.value,
            position⟩]) := by
  refine Table.insert_eq_ok.mpr
    ⟨decide_eq_true entry.localSequenceNumber.pos, fun other hother => ?_, ?_, rfl⟩
  · by_cases hbatch : other.batchId = batchId
    · obtain ⟨hposition, hentries⟩ := h.fresh other hother hbatch
      obtain ⟨hid, hsequence⟩ := hentries entry (List.mem_cons_self ..)
      simp only [SynchronizationEntryRow.conflicts, Bool.and_eq_false_iff, Bool.or_eq_false_iff,
        beq_eq_false_iff_ne]
      exact .inr ⟨⟨hid.symm, hsequence.symm⟩, by omega⟩
    · simp only [SynchronizationEntryRow.conflicts, Bool.and_eq_false_iff, beq_eq_false_iff_ne]
      exact .inl fun hsame => hbatch hsame.symm
  · obtain ⟨out, hout⟩ := h.reserved
    obtain ⟨-, hone, -⟩ := Table.updateEach_cons_eq_ok.mp hout
    obtain ⟨row, hrow, hp⟩ := List.countP_pos_iff.mp (hone ▸ Nat.one_pos)
    obtain ⟨hid, howner, hsequence, -⟩ := OfflineTransactionRow.reservableFor_eq_true.mp hp
    rw [h.batch, Bool.true_and, List.any_eq_true]
    refine ⟨row.reserve t, Table.mem_updateWhere.mpr ⟨row, hrow, by rw [if_pos hp]⟩, ?_⟩
    simp only [OfflineTransactionRow.named, OfflineTransactionRow.reserve, hid, howner, hsequence,
      beq_self_eq_true, Bool.and_self]

theorem reserveEntries_succeeds (h : db.Reserves readerId batchId t position entries) :
    ∃ db', reserveEntries readerId batchId t position entries db = .ok db' := by
  induction entries generalizing position db with
  | nil => exact ⟨db, rfl⟩
  | cons entry entries ih =>
    obtain ⟨out, hout⟩ := h.reserved
    obtain ⟨hcheck, hone, -⟩ := Table.updateEach_cons_eq_ok.mp hout
    obtain ⟨db', hrest⟩ := ih h.tail
    have hposition : ¬i64Max < position := by
      have hlength := h.length_le
      rw [List.length_cons] at hlength
      omega
    have hsequence : ¬i64Max < entry.localSequenceNumber.value :=
      Nat.not_lt.mpr (h.representable entry (List.mem_cons_self ..))
    have hupdate : Table.update OfflineTransactionRow.check (·.reservableFor readerId entry t)
        (·.reserve t) db.offlineTransactions = some (Table.updateWhere
          (·.reservableFor readerId entry t) (·.reserve t) db.offlineTransactions, 1) :=
      Table.update_eq_some.mpr ⟨hcheck, by rw [hone]⟩
    refine ⟨db', ?_⟩
    rw [reserveEntries, if_neg hposition, if_neg hsequence, hupdate]
    simp only [orFail, ok_bind, h.insert, Except.mapError]
    exact hrest

/-! ## The whole creation -/

/-- The eligible transactions of the reader outside every open batch. -/
def ReaderDatabase.available (db : ReaderDatabase) (readerId : ReaderId) (t : UnixMilliseconds) :
    List OfflineTransactionRow :=
  db.offlineTransactions.filter fun row =>
    row.readerId == readerId && row.eligibleAt t && !db.inOpenBatch row

theorem ReaderDatabase.mem_available {row : OfflineTransactionRow} :
    row ∈ db.available readerId t ↔ row ∈ db.offlineTransactions ∧ row.readerId = readerId ∧
      row.eligibleAt t = true ∧ db.inOpenBatch row = false := by
  simp only [ReaderDatabase.available, List.mem_filter, Bool.and_eq_true, beq_iff_eq,
    Bool.not_eq_true', and_assoc]

theorem QueueInvariant.batchCandidates_available (inv : QueueInvariant reader db)
    (readerId : ReaderId) (t : UnixMilliseconds) (limit : Nat) :
    batchCandidates db readerId t limit = (db.available readerId t).take limit := by
  rw [batchCandidates, inv.orderBy_filter]
  rfl

theorem OfflineTransactionRow.reserve_check {row : OfflineTransactionRow} (h : row.check = true)
    (hupdated : row.updatedAt ≤ t) : (row.reserve t).check = true := by
  simp only [check, reserve, Bool.and_eq_true, decide_eq_true_eq] at h ⊢
  grind

/-- Rows of the queue are the keys of entries, which are distinct and stand in
the order of their sequences. -/
theorem QueueInvariant.candidateEntries (inv : QueueInvariant reader db)
    {rows : List OfflineTransactionRow} (hrows : rows.Sublist db.offlineTransactions) :
    ∃ entries, rows.mapM (fun row =>
        decodeCandidate row.fareTransactionId row.localSequenceNumber) = .ok entries ∧
      entries.map (·.key) = rows.map (·.key) ∧
      entries.Pairwise (fun a b => a.transactionId ≠ b.transactionId ∧
        a.localSequenceNumber.value < b.localSequenceNumber.value) := by
  have hnext := inv.next_le
  unfold i64Max at hnext
  obtain ⟨entries, hentries⟩ : ∃ entries, List.Forall₂ (fun row entry =>
      decodeCandidate row.fareTransactionId row.localSequenceNumber = .ok entry) rows entries := by
    refine exists_forall₂ fun row hrow => ?_
    obtain ⟨hpos, hlt⟩ := inv.sequence_bounds (hrows.subset hrow)
    exact ⟨⟨row.fareTransactionId, ⟨row.localSequenceNumber, hpos, by omega⟩⟩,
      decodeCandidate_ok.mpr rfl⟩
  have hkeys : entries.map (·.key) = rows.map (·.key) :=
    map_eq_of_forall₂ hentries decodeCandidate_ok.mp
  refine ⟨entries, mapM_eq_ok.mpr hentries, hkeys, ?_⟩
  have hids : rows.Pairwise fun a b => a.fareTransactionId ≠ b.fareTransactionId :=
    List.pairwise_map.mp (inv.ids.sublist (hrows.map _))
  have hsequences : rows.Pairwise fun a b => a.localSequenceNumber < b.localSequenceNumber := by
    have hsorted : (db.offlineTransactions.map (·.localSequenceNumber)).Pairwise (· < ·) := by
      rw [inv.sequences]
      exact List.pairwise_lt_range'
    exact List.pairwise_map.mp (hsorted.sublist (hrows.map _))
  have hdistinct : (rows.map (·.key)).Pairwise fun a b => a.1 ≠ b.1 ∧ a.2 < b.2 :=
    List.pairwise_map.mpr (hids.and hsequences)
  rw [← hkeys] at hdistinct
  exact List.pairwise_map.mp hdistinct

/-- In an ordered list the first element is not above the last. -/
theorem first_le_last {first last : SynchronizationBatchEntry}
    (hordered : entries.Pairwise fun a b =>
      a.localSequenceNumber.value < b.localSequenceNumber.value)
    (hfirst : entries.head? = some first) (hlast : entries.getLast? = some last) :
    first.localSequenceNumber.value ≤ last.localSequenceNumber.value := by
  obtain ⟨rest, rfl⟩ := List.head?_eq_some_iff.mp hfirst
  rcases List.mem_cons.mp (List.mem_of_getLast? hlast) with rfl | hmem
  · exact le_refl _
  · exact ((List.pairwise_cons.mp hordered).1 last hmem).le

/-- A candidate last updated by the time of the creation can be reserved. -/
theorem QueueInvariant.reserves (inv : QueueInvariant reader db)
    {rows : List OfflineTransactionRow} (hrows : rows.Sublist db.offlineTransactions)
    (hkeys : entries.map (·.key) = rows.map (·.key)) :
    (∃ out, reserveTransactions readerId t entries db.offlineTransactions = .ok out) ↔
      ∀ row ∈ rows, row.readerId = readerId ∧ row.updatedAt ≤ t ∧ row.eligibleAt t = true := by
  have hids : entries.map (·.transactionId) = rows.map (·.fareTransactionId) :=
    map_fst_of_keys hkeys
  have hnodup : (entries.map (·.transactionId)).Nodup := by
    rw [hids]
    exact inv.ids.sublist (hrows.map _)
  simp only [reserveTransactions_eq_ok inv.ids hnodup, exists_and_left, exists_eq, and_true,
    OfflineTransactionRow.reservableFor_eq_true]
  constructor
  · intro hfound row hrow
    have hmem : row.key ∈ entries.map (·.key) := hkeys ▸ List.mem_map_of_mem hrow
    obtain ⟨entry, hentry, hkey⟩ := List.mem_map.mp hmem
    obtain ⟨queued, hqueued, ⟨hid, howner, -, hupdated, heligible⟩, -⟩ := hfound entry hentry
    have hsame : queued = row := Table.eq_of_key_eq inv.ids hqueued (hrows.subset hrow)
      (hid.trans (congrArg Prod.fst hkey))
    rw [← hsame]
    exact ⟨howner, hupdated, heligible⟩
  · intro hready entry hentry
    have hmem : entry.key ∈ rows.map (·.key) := hkeys ▸ List.mem_map_of_mem hentry
    obtain ⟨row, hrow, hkey⟩ := List.mem_map.mp hmem
    obtain ⟨howner, hupdated, heligible⟩ := hready row hrow
    have hqueued := hrows.subset hrow
    exact ⟨row, hqueued, ⟨congrArg Prod.fst hkey, howner, congrArg Prod.snd hkey, hupdated,
      heligible⟩, OfflineTransactionRow.reserve_check (inv.checks row hqueued) hupdated⟩

/-- What a creation that returned passed: its limit, and its reservations. -/
theorem createSynchronizationBatch_reserved {version : DeviceProtocolVersion}
    {generated : SynchronizationBatchId} {batch : SynchronizationBatch}
    (h : (createSynchronizationBatch db readerId version t limit generated).result = .ok batch) :
    limit ≤ i64Max ∧ ∃ entries,
      entries.map (·.key) = (batchCandidates db readerId t limit).map (·.key) ∧
      ∃ out, reserveTransactions readerId t entries db.offlineTransactions = .ok out := by
  obtain ⟨db', hbody, -⟩ := transact_of_ok h
  simp only [bind_eq_ok, guard_eq_ok, mapM_eq_ok, decodeCandidate_ok, Nat.not_lt] at hbody
  obtain ⟨-, -, -, hlimit, -, entries, hentries, hbody⟩ := hbody
  refine ⟨hlimit, entries, map_eq_of_forall₂ hentries fun h => h, ?_⟩
  split at hbody
  · simp only [bind_eq_ok, guard_eq_ok] at hbody
    obtain ⟨-, _, -, _, hreserved, -⟩ := hbody
    obtain ⟨out, hout, -⟩ := reserveEntries_ok hreserved
    exact ⟨out, hout⟩
  · cases hbody

/-- The entries of a created batch name transactions that are in flight now. -/
theorem QueueInvariant.creation_reserves (inv : QueueInvariant reader db)
    {version : DeviceProtocolVersion} {generated : SynchronizationBatchId}
    {batch : SynchronizationBatch}
    (h : (createSynchronizationBatch db readerId version t limit generated).result = .ok batch) :
    ∀ entry ∈ batch.entries,
      ∃ row ∈ (createSynchronizationBatch db readerId version t limit
        generated).database.offlineTransactions,
        row.fareTransactionId = entry.transactionId ∧ row.queueState = .inFlight := by
  have hkeys := createSynchronizationBatch_ok h
  have hids : batch.entries.map (·.transactionId) =
      (batchCandidates db readerId t limit).map (·.fareTransactionId) := map_fst_of_keys hkeys
  have hnodup : (batch.entries.map (·.transactionId)).Nodup := by
    rw [hids]
    exact inv.ids.sublist ((inv.batchCandidates_sublist readerId t limit).map _)
  obtain ⟨db', hbody, hdb'⟩ := transact_of_ok h
  rw [← createSynchronizationBatch] at hdb'
  rw [hdb']
  simp only [bind_eq_ok, guard_eq_ok] at hbody
  obtain ⟨-, -, -, -, -, entries, -, hbody⟩ := hbody
  split at hbody
  · simp only [bind_eq_ok, guard_eq_ok, Except.ok.injEq, Prod.mk.injEq] at hbody
    obtain ⟨-, _, -, _, hreserved, rfl, rfl⟩ := hbody
    obtain ⟨transactions, hout, rfl⟩ := reserveEntries_ok hreserved
    obtain ⟨hfound, rfl⟩ := (reserveTransactions_eq_ok inv.ids hnodup).mp hout
    intro entry hentry
    obtain ⟨row, hrow, hselected, -⟩ := hfound entry hentry
    have hid := (OfflineTransactionRow.reservableFor_eq_true.mp hselected).1
    refine ⟨_, List.mem_map_of_mem hrow, ?_⟩
    rcases Table.assignEach_cases (·.fareTransactionId) (·.transactionId)
        (fun _ row => OfflineTransactionRow.reserve t row) entries row with
      ⟨-, -, -, heq⟩ | ⟨hnotin, -⟩
    · rw [heq]
      exact ⟨hid, rfl⟩
    · exact absurd (hid ▸ List.mem_map_of_mem hentry) hnotin
  · cases hbody

/-- The row of a new batch is accepted. -/
theorem Consistent.insert_preparedBatch (inv : Consistent reader db)
    {version : DeviceProtocolVersion} {generated : SynchronizationBatchId}
    {first last : LocalSequenceNumber} (ht : 0 ≤ t)
    (hfresh : ∀ batch ∈ db.synchronizationBatches, batch.batchId ≠ generated)
    (hle : first.value ≤ last.value) :
    Table.insert SynchronizationBatchRow.check SynchronizationBatchRow.conflicts
      (db.hasReader reader.readerId)
      (preparedBatch reader.readerId version t generated first last) db.synchronizationBatches =
        .ok (db.synchronizationBatches ++
          [preparedBatch reader.readerId version t generated first last]) := by
  refine Table.insert_eq_ok.mpr ⟨?_, fun other hother => ?_, ?_, rfl⟩
  · have hversion := version.pos
    have hversion' := version.lt
    have hfirst := first.pos
    simp only [SynchronizationBatchRow.check, Bool.and_eq_true, decide_eq_true_eq]
    exact ⟨⟨⟨⟨⟨⟨⟨hversion, by show version.value ≤ 65535; omega⟩, hfirst⟩, hle⟩, rfl⟩, rfl⟩, ht⟩,
      Int64.le_refl t⟩
  · exact beq_eq_false_iff_ne.mpr fun hsame => hfresh other hother hsame.symm
  · rw [ReaderDatabase.hasReader, inv.queue.bound, Option.any_some, beq_self_eq_true]

/-- Sequences of queued transactions fit a SQLite integer. -/
theorem QueueInvariant.representable (inv : QueueInvariant reader db)
    {rows : List OfflineTransactionRow} (hrows : rows.Sublist db.offlineTransactions)
    (hkeys : entries.map (·.key) = rows.map (·.key)) :
    ∀ entry ∈ entries, entry.localSequenceNumber.value ≤ i64Max := by
  intro entry hentry
  have hmem : entry.key ∈ rows.map (·.key) := hkeys ▸ List.mem_map_of_mem hentry
  obtain ⟨row, hrow, hkey⟩ := List.mem_map.mp hmem
  have hsequence : row.localSequenceNumber = entry.localSequenceNumber.value :=
    congrArg Prod.snd hkey
  have hbounds := inv.sequence_bounds (hrows.subset hrow)
  have hnext := inv.next_le
  omega

/-- The loop starts right after the row of a new batch was inserted. -/
theorem Consistent.reserves_new (inv : Consistent reader db) {version : DeviceProtocolVersion}
    {generated : SynchronizationBatchId} {first last : LocalSequenceNumber}
    {rows : List OfflineTransactionRow}
    (hfresh : ∀ batch ∈ db.synchronizationBatches, batch.batchId ≠ generated)
    (hrows : rows.Sublist db.offlineTransactions)
    (hkeys : entries.map (·.key) = rows.map (·.key))
    (hordered : entries.Pairwise fun a b => a.transactionId ≠ b.transactionId ∧
      a.localSequenceNumber.value < b.localSequenceNumber.value)
    (hlength : rows.length ≤ i64Max)
    (hready : ∀ row ∈ rows, row.readerId = reader.readerId ∧ row.updatedAt ≤ t ∧
      row.eligibleAt t = true) :
    ReaderDatabase.Reserves { db with
      synchronizationBatches := db.synchronizationBatches ++
        [preparedBatch reader.readerId version t generated first last] }
      reader.readerId generated t 0 entries where
  batch := by
    rw [ReaderDatabase.findBatch, List.find?_isSome]
    refine ⟨_, List.mem_append_right _ (List.mem_singleton_self _), ?_⟩
    simp only [preparedBatch, beq_self_eq_true, Bool.and_self]
  reserved := (inv.queue.reserves hrows hkeys).mpr hready
  distinct := hordered.imp fun h => ⟨h.1, Nat.ne_of_lt h.2⟩
  fresh := by
    intro stored hstored hbatch
    obtain ⟨batch, hmem, hid⟩ := inv.batches.entryBatch stored hstored
    exact absurd (hid.trans hbatch) (hfresh batch hmem)
  representable := inv.queue.representable hrows hkeys
  length_le := by
    have hsame : entries.length = rows.length := by
      simpa only [List.length_map] using congrArg List.length hkeys
    omega

theorem Consistent.creation_succeeds (inv : Consistent reader db) {version : DeviceProtocolVersion}
    {generated : SynchronizationBatchId} {rows : List OfflineTransactionRow} (ht : 0 ≤ t)
    (hpos : 0 < limit) (hlimit : limit ≤ i64Max)
    (hfresh : ∀ batch ∈ db.synchronizationBatches, batch.batchId ≠ generated)
    (hrows : batchCandidates db reader.readerId t limit = rows)
    (hsublist : rows.Sublist db.offlineTransactions) (hnonempty : rows ≠ [])
    (hlength : rows.length ≤ limit)
    (hready : ∀ row ∈ rows, row.readerId = reader.readerId ∧ row.updatedAt ≤ t ∧
      row.eligibleAt t = true) :
    ∃ batch, (createSynchronizationBatch db reader.readerId version t limit generated).result =
      .ok batch ∧ batch.entries ≠ [] := by
  obtain ⟨entries, hentries, hkeys, hordered⟩ := inv.queue.candidateEntries hsublist
  have hsomeEntries : entries ≠ [] := by
    rintro rfl
    exact hnonempty (List.map_eq_nil_iff.mp hkeys.symm)
  obtain ⟨first, hfirst⟩ :=
    Option.ne_none_iff_exists'.mp (mt List.head?_eq_none_iff.mp hsomeEntries)
  obtain ⟨last, hlast⟩ :=
    Option.ne_none_iff_exists'.mp (mt List.getLast?_eq_none_iff.mp hsomeEntries)
  have hinsert : Table.insert _ _ _ (preparedBatch _ version _ _ _ _) _ = _ :=
    inv.insert_preparedBatch ht hfresh (first_le_last (hordered.imp And.right) hfirst hlast)
  obtain ⟨reserved, hreserved⟩ := reserveEntries_succeeds (inv.reserves_new hfresh hsublist hkeys
    hordered (hlength.trans hlimit) hready)
  have hin : ¬(i64Max < first.localSequenceNumber.value ∨
      i64Max < last.localSequenceNumber.value) := by
    have hrepresentable := inv.queue.representable hsublist hkeys
    have hfirstLe := hrepresentable first (List.mem_of_head? hfirst)
    have hlastLe := hrepresentable last (List.mem_of_getLast? hlast)
    omega
  have hcreated : ∃ batch, batch.entries = entries ∧
      createSynchronizationBatch db reader.readerId version t limit generated =
        ⟨reserved, .ok batch⟩ := by
    refine ⟨⟨generated, reader.readerId, version, first.localSequenceNumber,
      last.localSequenceNumber, .prepared, 0, none, none, none, t, t, entries⟩, rfl,
      transact_eq ?_⟩
    simp only [bind_eq_ok, guard_eq_ok]
    refine ⟨(), validateTime_ok.mpr ht, Nat.ne_of_gt hpos, Nat.not_lt.mpr hlimit, ?_, entries, ?_,
      ?_⟩
    · rw [hrows, List.isEmpty_iff]
      exact hnonempty
    · rw [hrows]
      exact hentries
    · rw [hfirst, hlast]
      simp only [bind_eq_ok, guard_eq_ok, mapError_eq_ok]
      exact ⟨hin, _, hinsert, reserved, hreserved, rfl⟩
  obtain ⟨batch, hbatch, hcreated⟩ := hcreated
  exact ⟨batch, by rw [hcreated], hbatch ▸ hsomeEntries⟩

/-- Creation with something available succeeds exactly when the limit fits a
SQLite integer and no selected transaction was updated later. -/
theorem Consistent.creation_iff (inv : Consistent reader db) (version : DeviceProtocolVersion)
    {generated : SynchronizationBatchId} (ht : 0 ≤ t) (hpos : 0 < limit)
    (hfresh : ∀ batch ∈ db.synchronizationBatches, batch.batchId ≠ generated)
    (hsome : db.available readerId t ≠ []) :
    (∃ batch, (createSynchronizationBatch db readerId version t limit generated).result =
        .ok batch ∧ batch.entries ≠ []) ↔
      limit ≤ i64Max ∧ ∀ row ∈ (db.available readerId t).take limit, row.updatedAt ≤ t := by
  obtain ⟨rows, hrows⟩ : ∃ rows, rows = (db.available readerId t).take limit := ⟨_, rfl⟩
  have hcandidates : batchCandidates db readerId t limit = rows :=
    (inv.queue.batchCandidates_available readerId t limit).trans hrows.symm
  have hsublist : rows.Sublist db.offlineTransactions := by
    rw [hrows]
    exact (List.take_sublist _ _).trans List.filter_sublist
  have havailable : ∀ row ∈ rows, row.readerId = readerId ∧ row.eligibleAt t = true := by
    intro row hrow
    rw [hrows] at hrow
    obtain ⟨-, howner, heligible, -⟩ := ReaderDatabase.mem_available.mp (List.mem_of_mem_take hrow)
    exact ⟨howner, heligible⟩
  have hnonempty : rows ≠ [] := by
    rw [hrows, ne_eq, List.take_eq_nil_iff]
    exact fun h => h.elim (Nat.ne_of_gt hpos) hsome
  rw [← hrows]
  constructor
  · rintro ⟨batch, hbatch, -⟩
    obtain ⟨hlimit, entries, hkeys, hreserved⟩ := createSynchronizationBatch_reserved hbatch
    rw [hcandidates] at hkeys
    exact ⟨hlimit, fun row hrow =>
      ((inv.queue.reserves hsublist hkeys).mp hreserved row hrow).2.1⟩
  · rintro ⟨hlimit, hstamps⟩
    have howner : readerId = reader.readerId := by
      obtain ⟨row, hrow⟩ := List.exists_mem_of_ne_nil rows hnonempty
      exact (havailable row hrow).1.symm.trans (inv.queue.owned row (hsublist.subset hrow))
    subst howner
    refine inv.creation_succeeds ht hpos hlimit hfresh hcandidates hsublist hnonempty ?_
      fun row hrow => ⟨(havailable row hrow).1, hstamps row hrow, (havailable row hrow).2⟩
    rw [hrows]
    exact List.length_take_le ..

/-- In every reachable database with work outside the open batches, a creation
at `t` succeeds, and reserves some of that work, exactly when the limit fits a
SQLite integer and none of the transactions it selects was updated after `t`. -/
theorem creation_progresses_iff {db₀ : ReaderDatabase} (h : FreshlyBound db₀)
    (ops : List Operation) {row : OfflineTransactionRow}
    (hrow : row ∈ (Runs.run (perform codec) db₀ ops).available readerId t)
    (version : DeviceProtocolVersion) (generated : SynchronizationBatchId)
    (hfresh : ∀ batch ∈ (Runs.run (perform codec) db₀ ops).synchronizationBatches,
      batch.batchId ≠ generated)
    (ht : 0 ≤ t) (hpos : 0 < limit) :
    let db := Runs.run (perform codec) db₀ ops
    let created := createSynchronizationBatch db readerId version t limit generated
    (∃ batch, created.result = .ok batch ∧ batch.entries ≠ [] ∧
      ∀ entry ∈ batch.entries, ∃ row ∈ created.database.offlineTransactions,
        row.fareTransactionId = entry.transactionId ∧ row.queueState = .inFlight) ↔
      limit ≤ i64Max ∧ ∀ row ∈ (db.available readerId t).take limit, row.updatedAt ≤ t := by
  intro db created
  obtain ⟨reader, inv⟩ : ∃ reader, Consistent reader db := consistent_run h ops
  rw [← inv.creation_iff version ht hpos hfresh (List.ne_nil_of_mem hrow)]
  constructor
  · rintro ⟨batch, hbatch, hnonempty, -⟩
    exact ⟨batch, hbatch, hnonempty⟩
  · rintro ⟨batch, hbatch, hnonempty⟩
    exact ⟨batch, hbatch, hnonempty, inv.queue.creation_reserves hbatch⟩

theorem creation_progresses_iff_queued :
    ∃ batch, (createSynchronizationBatch
      (Runs.run (perform sampleCodec) sampleDatabase sampleQueued) sampleReaderId .current 1 10
        sampleBatchId).result = .ok batch ∧ batch.entries ≠ [] := by
  have hrow : ∃ row, row ∈ (Runs.run (perform sampleCodec) sampleDatabase sampleQueued).available
      sampleReaderId 1 := List.exists_mem_of_ne_nil _ (by decide)
  obtain ⟨row, hrow⟩ := hrow
  obtain ⟨batch, hbatch, hnonempty, -⟩ := (creation_progresses_iff sampleDatabase_freshlyBound
    sampleQueued hrow .current sampleBatchId (by decide) (by decide) (by decide : 0 < 10)).mpr
      (by decide)
  exact ⟨batch, hbatch, hnonempty⟩

def sampleLaterTransactionId : FareTransactionId := ⟨⟨0x70008000000000000006#128, by decide⟩⟩

/-- Two drafts, the second one stamped by a clock that was set back later. -/
def sampleStampedAhead : List Operation :=
  [.enqueue sampleReaderId (sampleDraft (.object [])),
    .enqueue sampleReaderId (sampleDraftAt sampleLaterTransactionId 100 (by decide))]

/-- With both drafts pending and in no batch, a creation at 50 fails and takes
nothing, and so does one with a limit above `i64::MAX` at any later time. -/
theorem creation_fails_on_stamped_ahead :
    let db := Runs.run (perform sampleCodec) sampleDatabase sampleStampedAhead
    FreshlyBound sampleDatabase ∧
      (∃ row ∈ db.offlineTransactions, row.queueState = .pending ∧ row.updatedAt ≤ 50 ∧
        db.inOpenBatch row = false) ∧
      (createSynchronizationBatch db sampleReaderId .current 50 10 sampleBatchId).result =
        .error (.queueStateConflict sampleLaterTransactionId) ∧
      (createSynchronizationBatch db sampleReaderId .current 200 (i64Max + 1)
        sampleBatchId).result = .error (.batchLimitTooLarge (i64Max + 1)) := by
  refine ⟨sampleDatabase_freshlyBound, by decide, ?_, rfl⟩
  decide

end TransitGuard.Reader
