import TransitGuard.Backend.Ledger

/-!
The resolution of a transaction in the ingest tables. Batches with the same
transaction may arrive in any order of their receipt times; the row of the
transaction ends with the latest of them.
-/

namespace TransitGuard.Backend

open Protocol Fallible

variable {codec : Json.Codec} {sha256 : Sha256} {db db' : IngestDatabase}
  {ledger ledger' : List PreparedIngest}

/-! ## The times of a history -/

/-- A batch resolves a transaction at most once, when it is received. -/
theorem PreparedIngest.WellFormed.times_sublist {ingest : PreparedIngest}
    (h : ingest.WellFormed) (transactionId : FareTransactionId) :
    ((ingest.entryRows.filter (·.fareTransactionId == transactionId)).map
      (·.resolvedAt)).Sublist [ingest.receivedAt] := by
  have hids : (ingest.entryRows.map (·.fareTransactionId)).Nodup := by
    rw [PreparedIngest.entryRows, List.map_map]
    exact h.ids
  by_cases hmem : ∃ row ∈ ingest.entryRows, row.fareTransactionId = transactionId
  · obtain ⟨row, hrow, rfl⟩ := hmem
    obtain ⟨entry, hentry, rfl⟩ := List.mem_map.mp hrow
    rw [Table.filter_eq_singleton hids hrow, List.map_singleton]
    rw [show (ingest.entryRow entry).resolvedAt = ingest.receivedAt from h.resolved entry hentry]
  · have hnone : ∀ row ∈ ingest.entryRows, ¬(row.fareTransactionId == transactionId) = true :=
      fun row hrow heq => hmem ⟨row, hrow, eq_of_beq heq⟩
    rw [List.filter_eq_nil_iff.mpr hnone]
    exact List.nil_sublist _

/-- The times at which a transaction is resolved are receipt times of different
batches. -/
theorem Represents.times_sublist (h : Represents ledger db) (transactionId : FareTransactionId) :
    ((db.historyOf transactionId).map (·.resolvedAt)).Sublist (ledger.map (·.receivedAt)) := by
  rw [IngestDatabase.historyOf, h.entries]
  have hwellFormed := h.wellFormed
  clear h
  induction ledger with
  | nil => exact .slnil
  | cons ingest rest ih =>
    rw [List.flatMap_cons, List.filter_append, List.map_append, List.map_cons]
    have hfirst := (hwellFormed ingest (List.mem_cons_self ..)).times_sublist transactionId
    exact hfirst.append (ih fun other hother => hwellFormed other (List.mem_cons_of_mem _ hother))

theorem Represents.historyOf_perm (h : Represents ledger db) (h' : Represents ledger' db')
    (hperm : ledger.Perm ledger') (transactionId : FareTransactionId) :
    (db.historyOf transactionId).Perm (db'.historyOf transactionId) := by
  rw [IngestDatabase.historyOf, IngestDatabase.historyOf, h.entries, h'.entries]
  exact (hperm.flatMap_right _).filter _

/-! ## The register of a transaction -/

/-- The row of a transaction holds the latest resolution of its history. -/
theorem Sound.resolution (hsound : Sound db) {row : IngestTransactionRow}
    (hrow : row ∈ db.transactions) :
    (∀ entry ∈ db.historyOf row.fareTransactionId, entry.resolvedAt ≤ row.lastResolvedAt) ∧
      ((db.historyOf row.fareTransactionId).filter
        (·.resolvedAt = row.lastResolvedAt)).getLast?.map (·.outcome) =
          some row.currentResolution := by
  obtain ⟨hbound, hlast⟩ := Register.ofWrites_eq_some (hsound.resolved row hrow)
  constructor
  · intro entry hentry
    exact hbound _ (List.mem_map_of_mem hentry)
  · rw [List.filter_map, List.getLast?_map] at hlast
    obtain ⟨entry, hentry, hresolution⟩ := Option.map_eq_some_iff.mp hlast
    refine Option.map_eq_some_iff.mpr ⟨entry, hentry, ?_⟩
    exact congrArg Prod.snd hresolution

/-- Two databases with the same batches, in whatever order, resolve a
transaction alike. -/
theorem Represents.resolution_perm (h : Represents ledger db) (h' : Represents ledger' db')
    (hperm : ledger.Perm ledger') (htimes : (ledger.map (·.receivedAt)).Nodup)
    {row : IngestTransactionRow} (hrow : row ∈ db.transactions) :
    ∃ row' ∈ db'.transactions, row'.fareTransactionId = row.fareTransactionId ∧
      row'.currentResolution = row.currentResolution ∧
      row'.lastResolvedAt = row.lastResolvedAt := by
  have hwrites := h.sound.resolved row hrow
  -- a row is there because of an entry, which the other ledger has as well
  obtain ⟨entry, hentry, -⟩ := List.mem_map.mp (Register.mem_of_ofWrites hwrites)
  have hhistory := h.historyOf_perm h' hperm row.fareTransactionId
  obtain ⟨hmem, hid⟩ := List.mem_filter.mp (hhistory.mem_iff.mp hentry)
  obtain ⟨row', hrow', hid', -⟩ := h'.sound.refers entry hmem
  have hsame : row'.fareTransactionId = row.fareTransactionId := hid'.trans (eq_of_beq hid)
  have hwrites' := h'.sound.resolved row' hrow'
  have hdistinct : (((db.historyOf row.fareTransactionId).map (·.resolution)).map
      Prod.fst).Nodup := by
    rw [List.map_map]
    exact htimes.sublist (h.times_sublist row.fareTransactionId)
  rw [hsame, ← Register.ofWrites_perm (hhistory.map _) hdistinct, hwrites] at hwrites'
  obtain ⟨htime, houtcome⟩ := Prod.mk.inj (Option.some.inj hwrites')
  exact ⟨row', hrow', hsame, houtcome.symm, htime.symm⟩

/-- In every reachable state a transaction was last resolved at the latest time
of its entries, with the outcome of the entry committed last among those of that
time, and first received with the batch it was first seen in; and with distinct
receipt times the order of the commits does not matter. -/
theorem resolution_history (readerEquipment : List ReaderEquipmentRow)
    (calls : List (StoreCall codec sha256)) :
    let db := Runs.run storeStep (.initial readerEquipment) calls
    let ledger := committed (.initial readerEquipment) calls
    (∀ row ∈ db.transactions,
      (∀ entry ∈ db.historyOf row.fareTransactionId, entry.resolvedAt ≤ row.lastResolvedAt) ∧
      ((db.historyOf row.fareTransactionId).filter
        (·.resolvedAt = row.lastResolvedAt)).getLast?.map (·.outcome) =
          some row.currentResolution ∧
      (db.findBatch row.firstSeenBatchId).map (·.receivedAt) = some row.firstReceivedAt) ∧
    ∀ (readerEquipment' : List ReaderEquipmentRow) (calls' : List (StoreCall codec sha256)),
      ledger.Perm (committed (.initial readerEquipment') calls') →
      (ledger.map (·.receivedAt)).Nodup →
      ∀ row ∈ db.transactions,
        ∃ row' ∈ (Runs.run storeStep (.initial readerEquipment') calls').transactions,
          row'.fareTransactionId = row.fareTransactionId ∧
          row'.currentResolution = row.currentResolution ∧
          row'.lastResolvedAt = row.lastResolvedAt := by
  intro db ledger
  have h : Represents ledger db := represents_run readerEquipment calls
  constructor
  · intro row hrow
    obtain ⟨hbound, hlast⟩ := h.sound.resolution hrow
    exact ⟨hbound, hlast, h.sound.first row hrow⟩
  · intro readerEquipment' calls' hperm htimes row hrow
    exact h.resolution_perm (represents_run readerEquipment' calls') hperm htimes hrow

end TransitGuard.Backend
