import TransitGuard.Library.Register
import TransitGuard.Library.Runs
import TransitGuard.Backend.Ingest

/-!
The ledger behind the ingest tables. The batches that were committed, in the
order of their commits, determine the batch and entry tables; a row of the
transaction table is a register to which the entries of the transaction write
their outcomes at the times they were resolved.
-/

namespace TransitGuard.Backend

open Protocol Fallible

/-! ## Runs of stores -/

section Runs

variable (codec : Json.Codec) (sha256 : Sha256)

/-- An ingest that was prepared; there is no other way to build one. -/
def Ingest : Type :=
  { ingest : PreparedIngest //
    ∃ request acknowledgement, prepare codec sha256 request acknowledgement = .ok ingest }

/-- A store of a prepared ingest, or a change of the status of a reader. -/
inductive StoreCall
  | store (ingest : Ingest codec sha256)
  | changeStatus (readerId : ReaderId) (status : ReaderStatus)

end Runs

variable {codec : Json.Codec} {sha256 : Sha256}

/-- Registered readers, and nothing ingested. -/
def IngestDatabase.initial (readerEquipment : List ReaderEquipmentRow) : IngestDatabase :=
  ⟨readerEquipment, [], [], []⟩

/-- The database after a call. -/
def storeStep (db : IngestDatabase) : StoreCall codec sha256 → IngestDatabase
  | .store ingest => (store db ingest.1).2
  | .changeStatus readerId status => db.changeStatus readerId status

/-- The batch the call commits, if it commits one. -/
def StoreCall.commits (db : IngestDatabase) : StoreCall codec sha256 → List PreparedIngest
  | .store ingest =>
    match (Backend.store db ingest.1).1 with
    | .ok .stored => [ingest.1]
    | _ => []
  | .changeStatus .. => []

/-- The batches the calls commit, in order. -/
def committed (db : IngestDatabase) : List (StoreCall codec sha256) → List PreparedIngest
  | [] => []
  | call :: rest => call.commits db ++ committed (storeStep db call) rest

/-! ## Prepared ingests -/

/-- What holds of every prepared ingest. -/
structure PreparedIngest.WellFormed (ingest : PreparedIngest) : Prop where
  positions : ingest.entries.map (·.entryPosition) = List.range ingest.entries.length
  sequences : (ingest.entries.map (·.localSequenceNumber.value)).Pairwise (· < ·)
  ids : (ingest.entries.map (·.transactionId)).Nodup
  resolved : ∀ entry ∈ ingest.entries, entry.resolvedAt = ingest.receivedAt

theorem Ingest.wellFormed (ingest : Ingest codec sha256) : ingest.1.WellFormed := by
  obtain ⟨ingest, request, acknowledgement, hprepared⟩ := ingest
  obtain ⟨hpositions, hsubmits, -⟩ := prepare_entries hprepared
  obtain ⟨-, -, -, -, -, hids, hsequences⟩ := RequestDefinition.validate_ok.mp request.valid
  have hreceived : ingest.receivedAt = acknowledgement.receivedAt := by
    rw [(prepare_ok.mp hprepared).2.2]
  refine ⟨hpositions, ?_, ?_, fun entry hentry => ?_⟩
  · rwa [map_eq_of_forall₂ hsubmits fun h => congrArg LocalSequenceNumber.value h.sequence]
  · rwa [map_eq_of_forall₂ hsubmits Submits.transactionId]
  · obtain ⟨submitted, -, hsubmit⟩ := exists_of_forall₂ hsubmits hentry
    rw [hsubmit.resolvedAt, hreceived]

/-! ## The transaction table -/

variable {db db' : IngestDatabase} {ingest : PreparedIngest} {entry : PreparedIngestEntry}

/-- The entries of a transaction, in the order of their commits. -/
def IngestDatabase.historyOf (db : IngestDatabase) (transactionId : FareTransactionId) :
    List IngestEntryRow :=
  db.entries.filter (·.fareTransactionId == transactionId)

/-- What an entry writes to its transaction. -/
def IngestEntryRow.resolution (row : IngestEntryRow) : UnixMilliseconds × EntryOutcome :=
  (row.resolvedAt, row.outcome)

structure Sound (db : IngestDatabase) : Prop where
  ids : (db.transactions.map (·.fareTransactionId)).Nodup
  sequences : (db.transactions.map fun row => (row.readerId, row.localSequenceNumber)).Nodup
  refers : ∀ entry ∈ db.entries, ∃ row ∈ db.transactions,
    row.fareTransactionId = entry.fareTransactionId ∧ row.readerId = entry.readerId ∧
      row.localSequenceNumber = entry.localSequenceNumber
  resolved : ∀ row ∈ db.transactions,
    Register.ofWrites ((db.historyOf row.fareTransactionId).map (·.resolution)) =
      some (row.lastResolvedAt, row.currentResolution)
  first : ∀ row ∈ db.transactions,
    (db.findBatch row.firstSeenBatchId).map (·.receivedAt) = some row.firstReceivedAt
  checked : ∀ row ∈ db.transactions, row.check = true

theorem PreparedIngest.meets_eq_false {row : IngestTransactionRow} :
    ingest.meets entry row = false ↔ row.fareTransactionId ≠ entry.transactionId ∧
      (row.readerId, row.localSequenceNumber) ≠
        (ingest.readerId, entry.localSequenceNumber.value) := by
  simp [PreparedIngest.meets]

/-- Resolving a row again is a write to its register. -/
theorem IngestTransactionRow.write_resolve (row : IngestTransactionRow) :
    Register.write (some (row.lastResolvedAt, row.currentResolution))
        (entry.resolvedAt, entry.outcome) =
      some ((row.resolve entry).lastResolvedAt, (row.resolve entry).currentResolution) := by
  rw [Register.write, resolve]
  dsimp only
  rw [UnixMilliseconds.max_def]
  split <;> rfl

theorem historyOf_append {added : IngestEntryRow} {transactionId : FareTransactionId}
    (hentries : db'.entries = db.entries ++ [added])
    (h : added.fareTransactionId = transactionId) :
    db'.historyOf transactionId = db.historyOf transactionId ++ [added] := by
  have hadded : [added].filter (·.fareTransactionId == transactionId) = [added] := by simp [h]
  rw [IngestDatabase.historyOf, hentries, List.filter_append, hadded, IngestDatabase.historyOf]

theorem historyOf_append_of_ne {added : IngestEntryRow} {transactionId : FareTransactionId}
    (hentries : db'.entries = db.entries ++ [added])
    (h : added.fareTransactionId ≠ transactionId) :
    db'.historyOf transactionId = db.historyOf transactionId := by
  rw [IngestDatabase.historyOf, hentries]
  exact Table.filter_append_of_ne fun row hrow => List.mem_singleton.mp hrow ▸ h

/-- Without a row for it, a transaction has no entries. -/
theorem Sound.historyOf_eq_nil (hsound : Sound db) {transactionId : FareTransactionId}
    (hnone : ∀ row ∈ db.transactions, row.fareTransactionId ≠ transactionId) :
    db.historyOf transactionId = [] := by
  rw [IngestDatabase.historyOf, List.filter_eq_nil_iff]
  intro entry hentry hid
  obtain ⟨row, hrow, hrowid, -⟩ := hsound.refers entry hentry
  exact hnone row hrow (hrowid.trans (eq_of_beq hid))

theorem findBatch_congr (hbatches : db'.batches = db.batches) (batchId : SynchronizationBatchId) :
    db'.findBatch batchId = db.findBatch batchId := by
  rw [IngestDatabase.findBatch, hbatches, IngestDatabase.findBatch]

section Entry

variable (hentries : db'.entries = db.entries ++ [ingest.entryRow entry])
  (hbatches : db'.batches = db.batches)

include hentries hbatches

/-- An entry of a new transaction. -/
theorem Sound.inserted (hsound : Sound db) {batch : IngestBatchRow}
    (hbatch : db.findBatch ingest.batchId = some batch)
    (hreceived : batch.receivedAt = ingest.receivedAt)
    (hfresh : ∀ row ∈ db.transactions, ingest.meets entry row = false)
    (hcheck : (ingest.transactionRow entry).check = true)
    (htransactions : db'.transactions = db.transactions ++ [ingest.transactionRow entry]) :
    Sound db' := by
  have hids : ∀ row ∈ db.transactions, entry.transactionId ≠ row.fareTransactionId :=
    fun row hrow => (PreparedIngest.meets_eq_false.mp (hfresh row hrow)).1.symm
  constructor
  · rw [htransactions]
    exact Table.nodup_map_append hsound.ids hids
  · rw [htransactions]
    exact Table.nodup_map_append hsound.sequences fun row hrow =>
      (PreparedIngest.meets_eq_false.mp (hfresh row hrow)).2.symm
  · rw [hentries, htransactions]
    intro other hother
    rcases List.mem_append.mp hother with hother | hother
    · obtain ⟨row, hrow, hrefers⟩ := hsound.refers other hother
      exact ⟨row, List.mem_append_left _ hrow, hrefers⟩
    · rw [List.mem_singleton.mp hother]
      exact ⟨_, List.mem_append_right _ (List.mem_singleton_self _), rfl, rfl, rfl⟩
  · rw [htransactions]
    intro row hrow
    rcases List.mem_append.mp hrow with hrow | hrow
    · rw [historyOf_append_of_ne hentries (hids row hrow)]
      exact hsound.resolved row hrow
    · obtain rfl := List.mem_singleton.mp hrow
      have hnil : db.historyOf entry.transactionId = [] :=
        hsound.historyOf_eq_nil fun row hrow => (hids row hrow).symm
      have hhistory : db'.historyOf (ingest.transactionRow entry).fareTransactionId =
          [ingest.entryRow entry] :=
        (historyOf_append hentries rfl).trans (congrArg (· ++ [_]) hnil)
      rw [hhistory]
      rfl
  · rw [htransactions]
    intro row hrow
    rw [findBatch_congr hbatches]
    rcases List.mem_append.mp hrow with hrow | hrow
    · exact hsound.first row hrow
    · obtain rfl := List.mem_singleton.mp hrow
      exact (congrArg (Option.map _) hbatch).trans (congrArg some hreceived)
  · rw [htransactions]
    exact List.forall_mem_append.mpr ⟨hsound.checked, List.forall_mem_singleton.mpr hcheck⟩

/-- Another entry of a transaction. -/
theorem Sound.updated (hsound : Sound db) {stored : IngestTransactionRow}
    (hstored : stored ∈ db.transactions) (hidentity : stored.identity = ingest.identity entry)
    (hchecks : ∀ row ∈ db.transactions, (row.fareTransactionId == entry.transactionId) = true →
      (row.resolve entry).check = true)
    (htransactions : db'.transactions = Table.updateWhere
      (·.fareTransactionId == entry.transactionId) (·.resolve entry) db.transactions) :
    Sound db' := by
  have hkept : ∀ {κ : Type} (column : IngestTransactionRow → κ),
      (∀ row, column (row.resolve entry) = column row) →
        db'.transactions.map column = db.transactions.map column := by
    intro κ column hcolumn
    rw [htransactions, Table.map_updateWhere hcolumn]
  have hnext : ∀ row ∈ db.transactions, ∃ row' ∈ db'.transactions,
      row'.identity = row.identity := by
    rw [htransactions]
    exact Table.exists_updateWhere
      (R := fun row row' : IngestTransactionRow => row'.identity = row.identity)
      (fun _ => rfl) fun _ _ _ => rfl
  constructor
  · rw [hkept _ fun _ => rfl]
    exact hsound.ids
  · rw [hkept _ fun _ => rfl]
    exact hsound.sequences
  · rw [hentries]
    intro other hother
    have hrow : ∃ row ∈ db.transactions, row.fareTransactionId = other.fareTransactionId ∧
        row.readerId = other.readerId ∧ row.localSequenceNumber = other.localSequenceNumber := by
      rcases List.mem_append.mp hother with hother | hother
      · exact hsound.refers other hother
      · rw [List.mem_singleton.mp hother]
        simp only [IngestTransactionRow.identity, PreparedIngest.identity, Prod.mk.injEq]
          at hidentity
        exact ⟨stored, hstored, hidentity.1, hidentity.2.1, hidentity.2.2.1⟩
    obtain ⟨row, hrow, hid, hreader, hsequence⟩ := hrow
    obtain ⟨row', hrow', hsame⟩ := hnext row hrow
    simp only [IngestTransactionRow.identity, Prod.mk.injEq] at hsame
    exact ⟨row', hrow', hsame.1.trans hid, hsame.2.1.trans hreader, hsame.2.2.1.trans hsequence⟩
  · rw [htransactions]
    intro row hrow
    obtain ⟨old, hold, rfl⟩ := Table.mem_updateWhere.mp hrow
    have hresolved := hsound.resolved old hold
    by_cases hid : old.fareTransactionId = entry.transactionId
    · rw [if_pos (beq_iff_eq.mpr hid)]
      have hhistory : db'.historyOf (old.resolve entry).fareTransactionId =
          db.historyOf old.fareTransactionId ++ [ingest.entryRow entry] :=
        historyOf_append hentries hid.symm
      rw [hhistory, List.map_append, List.map_singleton, Register.ofWrites_append, hresolved]
      exact old.write_resolve
    · rw [if_neg (by simpa using hid), historyOf_append_of_ne hentries fun h => hid h.symm]
      exact hresolved
  · rw [htransactions]
    refine Table.forall_updateWhere ?_ ?_
    · intro row hrow
      rw [findBatch_congr hbatches]
      exact hsound.first row hrow
    · intro row hrow _
      rw [findBatch_congr hbatches]
      exact hsound.first row hrow
  · rw [htransactions]
    exact Table.forall_updateWhere hsound.checked hchecks

end Entry

/-- The batch row is written before the entries. -/
theorem Sound.insertBatch (hsound : Sound db) (batch : IngestBatchRow) :
    Sound { db with batches := db.batches ++ [batch] } := by
  refine ⟨hsound.ids, hsound.sequences, hsound.refers, hsound.resolved, ?_, hsound.checked⟩
  intro row hrow
  obtain ⟨first, hfirst, hreceived⟩ := Option.map_eq_some_iff.mp (hsound.first row hrow)
  rw [IngestDatabase.findBatch_append hfirst rfl, Option.map_some, hreceived]

/-- One round of the loop over the entries of a batch. -/
theorem Sound.storeEntry (hsound : Sound db) {batch : IngestBatchRow}
    (hbatch : db.findBatch ingest.batchId = some batch)
    (hreceived : batch.receivedAt = ingest.receivedAt) {transactions : List IngestTransactionRow}
    (hstored : storeTransaction db ingest entry = .ok transactions) :
    Sound { db with transactions, entries := db.entries ++ [ingest.entryRow entry] } := by
  rcases storeTransaction_cases hstored with ⟨hfresh, hcheck, rfl⟩ |
    ⟨stored, hfound, hidentity, hchecks, rfl⟩
  · exact Sound.inserted rfl rfl hsound hbatch hreceived hfresh hcheck rfl
  · have hstored : stored ∈ db.transactions :=
      List.mem_of_mem_filter (hfound ▸ List.mem_singleton_self stored)
    exact Sound.updated rfl rfl hsound hstored hidentity hchecks rfl

theorem Sound.storeEntries {entries : List PreparedIngestEntry} (hsound : Sound db)
    {batch : IngestBatchRow} (hbatch : db.findBatch ingest.batchId = some batch)
    (hreceived : batch.receivedAt = ingest.receivedAt)
    (h : storeEntries ingest entries db = .ok db') : Sound db' := by
  induction entries generalizing db with
  | nil =>
    cases h
    exact hsound
  | cons entry rest ih =>
    obtain ⟨transactions, hstored, hrest⟩ := storeEntries_cons h
    exact ih (hsound.storeEntry hbatch hreceived hstored) hbatch hrest

/-! ## The ledger -/

/-- The rows a batch adds to the entry table. -/
def PreparedIngest.entryRows (ingest : PreparedIngest) : List IngestEntryRow :=
  ingest.entries.map ingest.entryRow

/-- The tables hold the batches of the ledger and nothing else. -/
structure Represents (ledger : List PreparedIngest) (db : IngestDatabase) : Prop where
  wellFormed : ∀ ingest ∈ ledger, ingest.WellFormed
  batches : db.batches = ledger.map (·.batchRow)
  entries : db.entries = ledger.flatMap (·.entryRows)
  batchIds : (ledger.map (·.batchId)).Nodup
  sound : Sound db

theorem represents_initial (readerEquipment : List ReaderEquipmentRow) :
    Represents [] (.initial readerEquipment) := by
  refine ⟨fun _ h => absurd h List.not_mem_nil, rfl, rfl, .nil, ?_⟩
  constructor <;> simp [IngestDatabase.initial]

/-- A new batch is written after all others. -/
theorem Represents.stored {ledger : List PreparedIngest} (h : Represents ledger db)
    (hwellFormed : ingest.WellFormed)
    (hfresh : ∀ row ∈ db.batches, row.batchId ≠ ingest.batchId)
    (hstored : storeEntries ingest ingest.entries
      { db with batches := db.batches ++ [ingest.batchRow] } = .ok db') :
    Represents (ledger ++ [ingest]) db' := by
  have hwrites := storeEntries_ok hstored
  constructor
  · exact List.forall_mem_append.mpr ⟨h.wellFormed, List.forall_mem_singleton.mpr hwellFormed⟩
  · rw [hwrites.batches, List.map_append, ← h.batches]
    rfl
  · rw [hwrites.entries, List.flatMap_append, ← h.entries, List.flatMap_singleton]
    rfl
  · refine Table.nodup_map_append h.batchIds fun other hother heq => ?_
    exact hfresh other.batchRow (h.batches ▸ List.mem_map_of_mem hother) heq.symm
  · have hfound : IngestDatabase.findBatch { db with batches := db.batches ++ [ingest.batchRow] }
        ingest.batchId = some ingest.batchRow :=
      IngestDatabase.findBatch_appended ingest.batchRow hfresh rfl
    exact (h.sound.insertBatch ingest.batchRow).storeEntries hfound rfl hstored

theorem Represents.changeStatus {ledger : List PreparedIngest} (h : Represents ledger db)
    (readerId : ReaderId) (status : ReaderStatus) :
    Represents ledger (db.changeStatus readerId status) :=
  ⟨h.wellFormed, h.batches, h.entries, h.batchIds, h.sound.ids, h.sound.sequences, h.sound.refers,
    h.sound.resolved, h.sound.first, h.sound.checked⟩

theorem Represents.withEquipment {ledger : List PreparedIngest} (h : Represents ledger db)
    (readerEquipment : List ReaderEquipmentRow) :
    Represents ledger { db with readerEquipment } :=
  ⟨h.wellFormed, h.batches, h.entries, h.batchIds, h.sound.ids, h.sound.sequences, h.sound.refers,
    h.sound.resolved, h.sound.first, h.sound.checked⟩

theorem Represents.step {ledger : List PreparedIngest} (h : Represents ledger db)
    (call : StoreCall codec sha256) :
    Represents (ledger ++ call.commits db) (storeStep db call) := by
  cases call with
  | changeStatus readerId status =>
    rw [StoreCall.commits, List.append_nil]
    exact h.changeStatus readerId status
  | store ingest =>
    unfold StoreCall.commits storeStep store
    dsimp only
    cases hstored : storeStatements db ingest.1 with
    | error e =>
      rw [List.append_nil]
      exact h
    | ok outcome =>
      obtain ⟨disposition, committed⟩ := outcome
      rcases storeStatements_cases hstored with ⟨rfl, hfresh, hentries⟩ | ⟨rfl, rfl, -⟩
      · exact h.stored ingest.wellFormed hfresh hentries
      · rw [List.append_nil]
        exact h

/-- Every run keeps the tables in step with the ledger. -/
theorem Represents.run {ledger : List PreparedIngest} (h : Represents ledger db)
    (calls : List (StoreCall codec sha256)) :
    Represents (ledger ++ committed db calls) (Runs.run storeStep db calls) := by
  induction calls generalizing ledger db with
  | nil =>
    rw [committed, List.append_nil]
    exact h
  | cons call calls ih =>
    rw [committed, ← List.append_assoc, Runs.run_cons]
    exact ih (h.step call)

theorem represents_run (readerEquipment : List ReaderEquipmentRow)
    (calls : List (StoreCall codec sha256)) :
    Represents (committed (.initial readerEquipment) calls)
      (Runs.run storeStep (.initial readerEquipment) calls) :=
  (represents_initial readerEquipment).run calls

end TransitGuard.Backend
