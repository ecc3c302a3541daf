import TransitGuard.Backend.Ledger

/-!
Identities in the ingest tables: a transaction belongs to one reader, one
sequence and one envelope for good, a sequence of a reader to one transaction,
and the entries of a batch are complete and in order.
-/

namespace TransitGuard.Backend

open Protocol Fallible

variable {codec : Json.Codec} {sha256 : Sha256} {db db' : IngestDatabase}
  {ledger : List PreparedIngest}

/-! ## The entries of a batch -/

theorem batchId_of_mem_entryRows {ingest : PreparedIngest} {row : IngestEntryRow}
    (h : row ∈ ingest.entryRows) : row.batchId = ingest.batchId := by
  obtain ⟨entry, -, rfl⟩ := List.mem_map.mp h
  rfl

/-- Batches of different identifiers do not share entries. -/
theorem filter_entryRows (hids : (ledger.map (·.batchId)).Nodup) {ingest : PreparedIngest}
    (h : ingest ∈ ledger) :
    (ledger.flatMap (·.entryRows)).filter (·.batchId == ingest.batchId) = ingest.entryRows := by
  induction ledger with
  | nil => cases h
  | cons first rest ih =>
    obtain ⟨hnotin, hrest⟩ := List.nodup_cons.mp hids
    rw [List.flatMap_cons]
    rcases List.mem_cons.mp h with rfl | hmem
    · have hothers : ∀ row ∈ rest.flatMap (·.entryRows), row.batchId ≠ ingest.batchId := by
        intro row hrow heq
        obtain ⟨other, hother, hrow⟩ := List.mem_flatMap.mp hrow
        refine hnotin (List.mem_map.mpr ⟨other, hother, ?_⟩)
        rw [← batchId_of_mem_entryRows hrow, heq]
      rw [Table.filter_append_of_ne hothers]
      exact List.filter_eq_self.mpr fun row hrow =>
        beq_iff_eq.mpr (batchId_of_mem_entryRows hrow)
    · have hfirst : ∀ row ∈ first.entryRows, ¬(row.batchId == ingest.batchId) = true := by
        intro row hrow heq
        refine hnotin (List.mem_map.mpr ⟨ingest, hmem, ?_⟩)
        exact (eq_of_beq heq).symm.trans (batchId_of_mem_entryRows hrow)
      rw [List.filter_append, List.filter_eq_nil_iff.mpr hfirst, List.nil_append, ih hrest hmem]

/-- The entries of a stored batch stand at the positions from zero on, with
growing sequences. -/
theorem Represents.entries_of_batch (h : Represents ledger db) {batch : IngestBatchRow}
    (hbatch : batch ∈ db.batches) :
    let rows := db.entries.filter (·.batchId == batch.batchId)
    rows.map (·.entryPosition) = List.range batch.entryCount ∧
      (rows.map (·.localSequenceNumber)).Pairwise (· < ·) ∧
      ∀ row ∈ rows, row.readerId = batch.readerId := by
  rw [h.batches] at hbatch
  obtain ⟨ingest, hingest, rfl⟩ := List.mem_map.mp hbatch
  intro rows
  have hrows : rows = ingest.entryRows := by
    have hfilter := filter_entryRows h.batchIds hingest
    rwa [← h.entries] at hfilter
  rw [hrows, PreparedIngest.entryRows, List.map_map, List.map_map]
  refine ⟨(h.wellFormed ingest hingest).positions, (h.wellFormed ingest hingest).sequences, ?_⟩
  intro row hrow
  obtain ⟨entry, -, rfl⟩ := List.mem_map.mp hrow
  rfl

/-! ## Identities stay -/

/-- A call keeps the identity of every transaction. -/
theorem identity_step (call : StoreCall codec sha256) :
    ∀ row ∈ db.transactions, ∃ row' ∈ (storeStep db call).transactions,
      row'.identity = row.identity := by
  intro row hrow
  cases call with
  | changeStatus readerId status => exact ⟨row, hrow, rfl⟩
  | store ingest =>
    unfold storeStep store
    dsimp only
    cases hstored : storeStatements db ingest.1 with
    | error e => exact ⟨row, hrow, rfl⟩
    | ok outcome =>
      obtain ⟨disposition, committed⟩ := outcome
      rcases storeStatements_ok hstored with ⟨rfl, -, hwrites⟩ | ⟨rfl, rfl, -⟩
      · exact hwrites.kept row hrow
      · exact ⟨row, hrow, rfl⟩

theorem identity_run (db : IngestDatabase) (calls : List (StoreCall codec sha256)) :
    ∀ row ∈ db.transactions, ∃ row' ∈ (Runs.run storeStep db calls).transactions,
      row'.identity = row.identity := by
  refine Runs.relation (P := fun _ => True)
    (R := fun db db' : IngestDatabase => ∀ row ∈ db.transactions, ∃ row' ∈ db'.transactions,
      row'.identity = row.identity)
    (fun db row hrow => ⟨row, hrow, rfl⟩) ?_ (fun _ _ _ => trivial)
    (fun db call _ => identity_step call) trivial calls
  intro first second third h h' row hrow
  obtain ⟨row', hrow', hid⟩ := h row hrow
  obtain ⟨row'', hrow'', hid'⟩ := h' row' hrow'
  exact ⟨row'', hrow'', hid'.trans hid⟩

/-- In every reachable state a transaction has one identity, which no later
call changes, and a sequence of a reader one transaction; the entries of every
batch are complete, in order, and refer to their transactions; and a store that
fails leaves the tables alone. -/
theorem ingest_identity (readerEquipment : List ReaderEquipmentRow)
    (calls : List (StoreCall codec sha256)) :
    let db := Runs.run storeStep (.initial readerEquipment) calls
    (db.transactions.map (·.fareTransactionId)).Nodup ∧
    (db.transactions.map fun row => (row.readerId, row.localSequenceNumber)).Nodup ∧
    (∀ later : List (StoreCall codec sha256), ∀ row ∈ db.transactions,
      ∃ row' ∈ (Runs.run storeStep db later).transactions, row'.identity = row.identity ∧
        ∀ other ∈ (Runs.run storeStep db later).transactions,
          other.fareTransactionId = row.fareTransactionId → other = row') ∧
    (∀ batch ∈ db.batches,
      (db.entries.filter (·.batchId == batch.batchId)).map (·.entryPosition) =
        List.range batch.entryCount ∧
      ((db.entries.filter (·.batchId == batch.batchId)).map (·.localSequenceNumber)).Pairwise
        (· < ·)) ∧
    (∀ entry ∈ db.entries, ∃ row ∈ db.transactions,
      row.fareTransactionId = entry.fareTransactionId ∧ row.readerId = entry.readerId ∧
        row.localSequenceNumber = entry.localSequenceNumber) ∧
    ∀ (ingest : Ingest codec sha256) (e : IngestPersistenceError),
      (store db ingest.1).1 = .error e → (store db ingest.1).2 = db := by
  intro db
  have h : Represents _ db := represents_run readerEquipment calls
  refine ⟨h.sound.ids, h.sound.sequences, fun later row hrow => ?_, fun batch hbatch => ?_,
    h.sound.refers, fun ingest e he => ?_⟩
  · obtain ⟨row', hrow', hidentity⟩ := identity_run db later row hrow
    refine ⟨row', hrow', hidentity, fun other hother hid => ?_⟩
    have hids := (h.run later).sound.ids
    have hsame : row'.fareTransactionId = row.fareTransactionId := congrArg Prod.fst hidentity
    exact Table.eq_of_key_eq hids hother hrow' (hid.trans hsame.symm)
  · obtain ⟨hpositions, hsequences, -⟩ := h.entries_of_batch hbatch
    exact ⟨hpositions, hsequences⟩
  · unfold store at he ⊢
    split at he
    · cases he
    · rfl

end TransitGuard.Backend
