import TransitGuard.Backend.Locking

/-!
Concurrent ingest is serializable. While a transaction of the store is under
way, its locks keep the reader, its batch and the transactions it has found or
stored as they were, and its unique keys keep others from storing them. So the
statements it has run would run the same way on every database the others may
commit beside it, the last of which is the one it commits to.
-/

namespace TransitGuard.Backend

open Protocol Fallible Isolation

/-! ## Serial runs of the store -/

section Serial

variable {db db' : IngestDatabase} {ingest : PreparedIngest} {entry : PreparedIngestEntry}

/-- The unique keys of the transactions. -/
structure UniqueTransactions (transactions : List IngestTransactionRow) : Prop where
  ids : (transactions.map (·.fareTransactionId)).Nodup
  sequences : (transactions.map fun row => (row.readerId, row.localSequenceNumber)).Nodup

theorem UniqueTransactions.storeTransaction (h : UniqueTransactions db.transactions)
    {transactions : List IngestTransactionRow}
    (hstored : storeTransaction db ingest entry = .ok transactions) :
    UniqueTransactions transactions := by
  rcases storeTransaction_cases hstored with ⟨hfree, -, rfl⟩ | ⟨stored, -, -, -, rfl⟩
  · have hne : ∀ row ∈ db.transactions, row.fareTransactionId ≠ entry.transactionId ∧
        ¬(row.readerId = ingest.readerId ∧
          row.localSequenceNumber = entry.localSequenceNumber.value) := by
      intro row hrow
      simpa [PreparedIngest.meets] using hfree row hrow
    refine ⟨Table.nodup_map_append h.ids fun row hrow hid => (hne row hrow).1 hid.symm,
      Table.nodup_map_append h.sequences fun row hrow hsame => (hne row hrow).2 ?_⟩
    exact ⟨(congrArg Prod.fst hsame).symm, (congrArg Prod.snd hsame).symm⟩
  · constructor
    · rw [Table.map_updateWhere (f := IngestTransactionRow.resolve entry) fun _ => rfl]
      exact h.ids
    · rw [Table.map_updateWhere (f := IngestTransactionRow.resolve entry) fun _ => rfl]
      exact h.sequences

theorem UniqueTransactions.storeEntries {entries : List PreparedIngestEntry}
    (h : UniqueTransactions db.transactions)
    (hstored : storeEntries ingest entries db = .ok db') : UniqueTransactions db'.transactions := by
  induction entries generalizing db with
  | nil => cases hstored; exact h
  | cons entry rest ih =>
    obtain ⟨transactions, htransactions, hrest⟩ := storeEntries_cons hstored
    exact ih (h.storeTransaction htransactions) hrest

theorem storeEntries_append {done rest : List PreparedIngestEntry}
    (h : storeEntries ingest done db = .ok db') :
    storeEntries ingest (done ++ rest) db = storeEntries ingest rest db' := by
  induction done generalizing db with
  | nil => cases h; rfl
  | cons entry done ih =>
    simp only [storeEntries, bind_eq_ok] at h
    obtain ⟨transactions, htransactions, entries, hentries, h⟩ := h
    simp only [List.cons_append, storeEntries, htransactions, ok_bind, hentries]
    exact ih h

end Serial

/-- The statements up to the entries `done`, run on `db` alone, lead to
`stored`. -/
structure StoresUpTo (ingest : PreparedIngest) (done : List PreparedIngestEntry)
    (db stored : BackendDatabase) : Prop where
  reader : validateReader db.ingest ingest = .ok ()
  fresh : db.ingest.findBatch ingest.batchId = none
  batch : insertBatch db.ingest ingest = .ok (db.batches ++ [ingest.batchRow])
  entries : storeEntries ingest done
    { db.ingest with batches := db.batches ++ [ingest.batchRow] } = .ok stored.ingest
  equipment : stored.equipment = db.equipment

namespace StoresUpTo

variable {ingest : PreparedIngest} {done : List PreparedIngestEntry} {db stored : BackendDatabase}

theorem batches (h : StoresUpTo ingest done db stored) :
    stored.batches = db.batches ++ [ingest.batchRow] :=
  (storeEntries_ok h.entries).batches

theorem unique (h : StoresUpTo ingest done db stored) (hdb : Keyed db) :
    UniqueTransactions stored.transactions := by
  have hunique : UniqueTransactions db.transactions := ⟨hdb.transactions, hdb.sequences⟩
  exact hunique.storeEntries h.entries

/-- The foreign keys to the reader and the batch. -/
theorem references (h : StoresUpTo ingest done db stored) :
    (stored.ingest.batches.any fun row =>
        row.batchId == ingest.batchId && row.readerId == ingest.readerId) = true ∧
      stored.ingest.readerEquipment.any (·.id == ingest.readerId) = true := by
  constructor
  · change stored.batches.any _ = true
    rw [h.batches]
    simp [PreparedIngest.batchRow]
  · change (stored.equipment.map EquipmentRow.reader).any _ = true
    rw [h.equipment]
    have hreader := validateReader_ok.mp h.reader
    rw [IngestDatabase.operational, Option.any_eq_true] at hreader
    obtain ⟨row, hrow, -⟩ := hreader
    exact List.any_eq_true.mpr ⟨row, List.mem_of_find?_eq_some hrow, by
      simpa using List.find?_some hrow⟩

/-- The whole store. -/
theorem store (h : StoresUpTo ingest ingest.entries db stored) :
    store db.ingest ingest = (.ok .stored, stored.ingest) := by
  have hstatements : storeStatements db.ingest ingest = .ok (.stored, stored.ingest) := by
    rw [storeStatements, h.reader, ok_bind, h.fresh]
    change (insertBatch db.ingest ingest >>= _) = _
    rw [h.batch, ok_bind, h.entries]
    rfl
  rw [Backend.store, hstatements]

end StoresUpTo

/-! ## Statements on databases that agree -/

section Congruence

variable {ingest : PreparedIngest} {entry : PreparedIngestEntry} {db db' : BackendDatabase}

/-- An insert that was accepted is accepted wherever its keys are as they were
and its foreign keys hold, and the search before it would have found nothing. -/
theorem insertTransaction_congr {rows : List IngestTransactionRow}
    (h : insertTransaction db.ingest ingest entry = .ok rows)
    (hid : db'.findTransaction entry.transactionId = db.findTransaction entry.transactionId)
    (hsequence : db'.occupied ingest.readerId entry.localSequenceNumber.value =
      db.occupied ingest.readerId entry.localSequenceNumber.value)
    (hreferences : (db'.ingest.batches.any fun row =>
        row.batchId == ingest.batchId && row.readerId == ingest.readerId) = true ∧
      db'.ingest.readerEquipment.any (·.id == ingest.readerId) = true) :
    (∀ row ∈ db'.transactions, ingest.meets entry row = false) ∧
      insertTransaction db'.ingest ingest entry =
        .ok (db'.transactions ++ [ingest.transactionRow entry]) := by
  simp only [insertTransaction, guard_eq_ok, mapError_eq_ok, Table.insert_eq_ok] at h ⊢
  obtain ⟨hstorable, hcheck, hfree, -, -⟩ := h
  have hfree' : ∀ row ∈ db.transactions, row.fareTransactionId ≠ entry.transactionId ∧
      (row.readerId == ingest.readerId &&
        row.localSequenceNumber == entry.localSequenceNumber.value) = false := by
    intro row hrow
    have hconflict := hfree row hrow
    simp only [IngestTransactionRow.conflicts, PreparedIngest.transactionRow,
      Bool.or_eq_false_iff, beq_eq_false_iff_ne] at hconflict
    refine ⟨Ne.symm hconflict.1, ?_⟩
    rw [← hconflict.2, Bool.beq_comm, Bool.beq_comm (a := row.localSequenceNumber)]
  have hnone : db'.findTransaction entry.transactionId = none :=
    hid.trans (Table.find_eq_none.mpr fun row hrow => (hfree' row hrow).1)
  have hvacant : db'.occupied ingest.readerId entry.localSequenceNumber.value = false :=
    hsequence.trans (List.any_eq_false.mpr fun row hrow => by simp [(hfree' row hrow).2])
  have hmeets : ∀ row ∈ db'.transactions, ingest.meets entry row = false := by
    intro row hrow
    have hsequence' := List.any_eq_false.mp hvacant row hrow
    rw [Bool.not_eq_true] at hsequence'
    rw [PreparedIngest.meets, hsequence', Bool.or_false]
    exact beq_eq_false_iff_ne.mpr (Table.find_eq_none.mp hnone row hrow)
  refine ⟨hmeets, hstorable, hcheck, fun row hrow => ?_, by simp [hreferences], rfl⟩
  have hmeet := hmeets row hrow
  simp only [PreparedIngest.meets] at hmeet
  simp only [IngestTransactionRow.conflicts, PreparedIngest.transactionRow]
  rw [← hmeet, Bool.beq_comm, Bool.beq_comm (a := ingest.readerId),
    Bool.beq_comm (a := entry.localSequenceNumber.value)]

/-- A transaction stored under the identity of the entry is the only one that
meets it. -/
theorem filter_meets_eq_singleton {stored : IngestTransactionRow}
    (hunique : UniqueTransactions db.transactions)
    (hfind : db.findTransaction entry.transactionId = some stored)
    (hidentity : transactionIdentityMatches stored ingest entry = true) :
    db.transactions.filter (ingest.meets entry) = [stored] := by
  have hstored : stored ∈ db.transactions := List.mem_of_find?_eq_some hfind
  simp only [transactionIdentityMatches, Bool.and_eq_true, beq_iff_eq, and_assoc] at hidentity
  obtain ⟨hid, hreader, hsequence, -⟩ := hidentity
  have hmeets : ∀ row ∈ db.transactions,
      ingest.meets entry row = (row.fareTransactionId == stored.fareTransactionId) := by
    intro row hrow
    rw [Bool.eq_iff_iff, PreparedIngest.meets, Bool.or_eq_true, Bool.and_eq_true, beq_iff_eq,
      beq_iff_eq, beq_iff_eq, beq_iff_eq, ← hid]
    refine ⟨?_, .inl⟩
    rintro (hsame | ⟨hreader', hsequence'⟩)
    · exact hsame
    · have hrow' : row = stored := Table.eq_of_key_eq hunique.sequences hrow hstored
        (by rw [hreader', hsequence', hreader, hsequence])
      rw [hrow']
  rw [List.filter_congr hmeets]
  exact Table.filter_eq_singleton hunique.ids hstored

/-- An update that was accepted is accepted wherever its row is as it was, and
the search before it would have found that row. -/
theorem updateTransaction_congr {rows : List IngestTransactionRow} {stored : IngestTransactionRow}
    {sequence : Nat} (h : updateTransaction db.ingest entry = .ok rows)
    (hfind : db.findTransaction entry.transactionId = some stored)
    (hfind' : db'.findTransaction entry.transactionId = some stored)
    (hidentity : transactionIdentityMatches stored ingest entry = true)
    (hunique' : UniqueTransactions db'.transactions)
    (hsequence : sequenceToI64 entry.localSequenceNumber
      "synchronization_ingest_transactions.local_sequence_number" = .ok sequence) :
    storeTransaction db'.ingest ingest entry = .ok (db'.apply (.resolveTransaction
      entry.transactionId (stored.resolve entry).currentResolution
      (stored.resolve entry).lastResolvedAt)).transactions := by
  have hstored : stored ∈ db.transactions := List.mem_of_find?_eq_some hfind
  have hstored' : stored ∈ db'.transactions := List.mem_of_find?_eq_some hfind'
  have hid : stored.fareTransactionId = entry.transactionId := Table.key_of_find hfind
  have honly : ∀ row ∈ db'.transactions,
      (row.fareTransactionId == entry.transactionId) = true → row = stored := fun row hrow hrowId =>
    Table.eq_of_key_eq hunique'.ids hrow hstored' ((beq_iff_eq.mp hrowId).trans hid.symm)
  simp only [updateTransaction, bind_eq_ok, orFail_eq_ok, guard_eq_ok, Table.update_eq_some,
    Prod.exists, Prod.mk.injEq] at h
  obtain ⟨-, -, ⟨hcheck, -, -⟩, -, -⟩ := h
  have hchecked : (stored.resolve entry).check = true := hcheck stored hstored (by simp [hid])
  have hcount : db'.transactions.countP (·.fareTransactionId == entry.transactionId) = 1 := by
    rw [List.countP_eq_length_filter, ← hid, Table.filter_eq_singleton hunique'.ids hstored']
    rfl
  have hrows : Table.updateWhere (·.fareTransactionId == entry.transactionId)
      (IngestTransactionRow.resolve entry) db'.transactions =
        (db'.apply (.resolveTransaction entry.transactionId
          (stored.resolve entry).currentResolution
          (stored.resolve entry).lastResolvedAt)).transactions := by
    refine List.map_congr_left fun row hrow => ?_
    by_cases hrowId : (row.fareTransactionId == entry.transactionId) = true
    · rw [if_pos hrowId, if_pos hrowId, honly row hrow hrowId]
      rfl
    · rw [if_neg hrowId, if_neg hrowId]
  rw [← hrows]
  simp only [storeTransaction, hsequence, ok_bind]
  rw [show db'.ingest.transactions.filter (ingest.meets entry) = [stored] from
    filter_meets_eq_singleton hunique' hfind' hidentity]
  simp only [hidentity, if_true, updateTransaction, bind_eq_ok, orFail_eq_ok, guard_eq_ok,
    Table.update_eq_some, Prod.exists, Prod.mk.injEq]
  exact ⟨_, _, ⟨fun row hrow hrowId => by rw [honly row hrow hrowId]; exact hchecked, rfl, rfl⟩,
    not_not_intro hcount, rfl⟩

/-- An entry that was accepted is accepted wherever the entries of its batch are
as they were and its foreign keys hold. -/
theorem insertEntry_congr {rows : List IngestEntryRow}
    (h : insertEntry db.ingest ingest entry = .ok rows)
    (hentries : db'.entriesOf ingest.batchId = db.entriesOf ingest.batchId)
    (hbatch : (db'.ingest.batches.any fun row =>
      row.batchId == ingest.batchId && row.readerId == ingest.readerId) = true)
    (htransaction : ∃ row ∈ db'.transactions, row.identity = ingest.identity entry) :
    insertEntry db'.ingest ingest entry = .ok (db'.entries ++ [ingest.entryRow entry]) := by
  simp only [insertEntry, guard_eq_ok, bind_eq_ok, mapError_eq_ok, Table.insert_eq_ok] at h ⊢
  obtain ⟨hposition, sequence, hsequence, hcheck, hfree, -, -⟩ := h
  refine ⟨hposition, sequence, hsequence, hcheck, fun other hother => ?_, ?_, rfl⟩
  · by_cases hsame : other.batchId = ingest.batchId
    · have hmem : other ∈ db'.entriesOf ingest.batchId :=
        List.mem_filter.mpr ⟨hother, by simp [hsame]⟩
      rw [hentries] at hmem
      exact hfree other (List.mem_filter.mp hmem).1
    · simp [IngestEntryRow.conflicts, PreparedIngest.entryRow, Ne.symm hsame]
  · obtain ⟨row, hrow, hidentity⟩ := htransaction
    simp only [IngestTransactionRow.identity, PreparedIngest.identity, Prod.mk.injEq] at hidentity
    obtain ⟨hid, hreader, hsequence', -⟩ := hidentity
    rw [hbatch, Bool.true_and]
    exact List.any_eq_true.mpr ⟨row, hrow, by simp [hid, hreader, hsequence']⟩

end Congruence

/-! ## The store under way -/

section Store

variable {ingest : PreparedIngest} {done : List PreparedIngestEntry} {entry : PreparedIngestEntry}
  {p q : Point BackendDatabase BackendWrite BackendKey}
  {post : Unit → Point BackendDatabase BackendWrite BackendKey → Prop}

/-- Every write is under its locks. -/
def Guarded (p : Point BackendDatabase BackendWrite BackendKey) : Prop :=
  ∀ write ∈ p.pending, ∀ key ∈ write.touches, (⟨key, .exclusive⟩ : Lock BackendKey) ∈ p.held

/-- The store is through with the entries `done`, and would be on every database
that the others may commit. -/
structure Ready (ingest : PreparedIngest) (done : List PreparedIngestEntry)
    (p : Point BackendDatabase BackendWrite BackendKey) : Prop where
  serial : ∀ db, backendDiscipline.Rely p.held p.database db →
    StoresUpTo ingest done db (view BackendDatabase.apply p.pending db)
  batch : ⟨.batch ingest.batchId, .exclusive⟩ ∈ p.held
  guarded : Guarded p

theorem Ready.later (h : Ready ingest done p) (hlater : p.Later backendDiscipline q) :
    Ready ingest done q where
  serial db hrely := hlater.pending ▸ h.serial db (hlater.rely db hrely)
  batch := hlater.held h.batch
  guarded write hwrite key hkey := by
    rw [hlater.pending] at hwrite
    exact hlater.held (h.guarded write hwrite key hkey)

theorem Guarded.write {write : BackendWrite} {locks : List (Lock BackendKey)}
    {db : BackendDatabase} (h : Guarded p)
    (hlocks : ∀ key ∈ write.touches, (⟨key, .exclusive⟩ : Lock BackendKey) ∈ locks ++ p.held) :
    Guarded ⟨db, p.pending ++ [write], locks ++ p.held⟩ := by
  intro other hother key hkey
  rcases List.mem_append.mp hother with hother | hother
  · exact List.mem_append_right _ (h other hother key hkey)
  · rw [List.mem_singleton.mp hother] at hkey
    exact hlocks key hkey

theorem wp_ingestWrite {α : Type} {locks : List (Lock BackendKey)}
    {check : IngestDatabase → Except IngestPersistenceError α}
    {writes : BackendDatabase → List BackendWrite}
    (h : ∀ db, backendDiscipline.Rely p.held p.database db → ∀ a,
      check (view BackendDatabase.apply p.pending db).ingest = .ok a →
        post () ⟨db, p.pending ++ writes (view BackendDatabase.apply p.pending db),
          locks ++ p.held⟩) :
    wp backendDiscipline BackendDatabase.apply post (ingestWrite locks check writes) p := by
  intro db hrely written hwritten
  simp only [map_eq_ok, mapError_eq_ok] at hwritten
  obtain ⟨a, hcheck, rfl⟩ := hwritten
  exact h db hrely a hcheck

/-- What a lock keeps stays as it is under the writes of its holder. -/
theorem agree_of_rely (pending : List BackendWrite) {key : BackendKey} {mode : Mode}
    {held : List (Lock BackendKey)} {db db' : BackendDatabase}
    (hrely : backendDiscipline.Rely held db db') (hkey : ∀ id, key ≠ .equipmentKey id)
    (hlock : ⟨key, mode⟩ ∈ held) :
    BackendDatabase.agree key (view BackendDatabase.apply pending db)
      (view BackendDatabase.apply pending db') :=
  agree_view_congr hkey (hrely.key hlock)

/-- The rows that the search returns are locked, and stay as they are. -/
theorem wp_lockTransactions (ids : List FareTransactionId) :
    wp backendDiscipline BackendDatabase.apply
      (fun rows q => p.Later backendDiscipline q ∧ ∀ row ∈ rows, ∀ db,
        backendDiscipline.Rely q.held q.database db →
          (view BackendDatabase.apply q.pending db).findTransaction row.fareTransactionId =
            some row)
      (lockTransactions ingest entry ids) p := by
  induction ids generalizing p with
  | nil => exact ⟨.refl, fun row hrow => absurd hrow List.not_mem_nil⟩
  | cons id rest ih =>
    refine wp_bind.mpr (wp_selectFor.mpr fun db hrely => ?_)
    refine wp_bind.mpr (wp_mono ?_ ih)
    rintro rows q ⟨hlater, hrows⟩
    refine ⟨(Point.Later.read hrely).trans hlater, fun row hrow db' hrely' => ?_⟩
    rcases List.mem_append.mp hrow with hrow | hrow
    · obtain ⟨hfind, -⟩ := Option.filter_eq_some_iff.mp (Option.mem_toList.mp hrow)
      obtain rfl : row.fareTransactionId = id := Table.key_of_find hfind
      have hagree : BackendDatabase.agree (.transaction row.fareTransactionId) _ _ :=
        agree_of_rely p.pending (hlater.rely db' hrely') nofun
          (List.mem_cons_self ..)
      rw [hlater.pending]
      exact Eq.trans hagree hfind
    · exact hrows row hrow db' hrely'

/-- The store is through with the entries `done` and has stored the transaction
of the next one. -/
structure Halfway (ingest : PreparedIngest) (done : List PreparedIngestEntry)
    (entry : PreparedIngestEntry) (p : Point BackendDatabase BackendWrite BackendKey) : Prop where
  serial : ∀ db, backendDiscipline.Rely p.held p.database db → ∃ stored,
    StoresUpTo ingest done db stored ∧
      storeTransaction stored.ingest ingest entry =
        .ok (view BackendDatabase.apply p.pending db).transactions ∧
      view BackendDatabase.apply p.pending db =
        { stored with transactions := (view BackendDatabase.apply p.pending db).transactions }
  batch : ⟨.batch ingest.batchId, .exclusive⟩ ∈ p.held
  guarded : Guarded p

theorem wp_insertTransaction {sequence : Nat} (hready : Ready ingest done p)
    (hsequence : sequenceToI64 entry.localSequenceNumber
      "synchronization_ingest_transactions.local_sequence_number" = .ok sequence) :
    wp backendDiscipline BackendDatabase.apply (fun _ q => Halfway ingest done entry q)
      (insertTransactionScript ingest entry) p := by
  refine wp_ingestWrite fun db hrely rows hinserted => ⟨fun db' hrely' => ?_, ?_, ?_⟩
  · have hserial := hready.serial db' (hrely.trans (hrely'.mono (List.subset_append_right ..)))
    have hid : BackendDatabase.agree (.transaction entry.transactionId) _ _ :=
      agree_of_rely p.pending hrely' nofun (List.mem_cons_self ..)
    have hvacant : BackendDatabase.agree
        (.sequence ingest.readerId entry.localSequenceNumber.value) _ _ :=
      agree_of_rely p.pending hrely' nofun
        (List.mem_cons_of_mem _ (List.mem_cons_self ..))
    obtain ⟨hmeets, haccepted⟩ :=
      insertTransaction_congr hinserted hid hvacant hserial.references
    rw [view_append]
    refine ⟨_, hserial, ?_, rfl⟩
    simp only [storeTransaction, hsequence, ok_bind]
    rw [show (view BackendDatabase.apply p.pending db').ingest.transactions.filter
      (ingest.meets entry) = [] from List.filter_eq_nil_iff.mpr fun row hrow => by
        simp [hmeets row hrow]]
    exact haccepted
  · exact List.mem_append_right _ hready.batch
  · refine hready.guarded.write fun key hkey => List.mem_append_left _ ?_
    simpa [BackendWrite.touches, PreparedIngest.transactionRow] using hkey

theorem wp_updateTransaction {sequence : Nat} {stored : IngestTransactionRow}
    (hready : Ready ingest done p)
    (hsequence : sequenceToI64 entry.localSequenceNumber
      "synchronization_ingest_transactions.local_sequence_number" = .ok sequence)
    (hidentity : transactionIdentityMatches stored ingest entry = true)
    (hcurrent : ∀ db, backendDiscipline.Rely p.held p.database db →
      (view BackendDatabase.apply p.pending db).findTransaction stored.fareTransactionId =
        some stored) :
    wp backendDiscipline BackendDatabase.apply (fun _ q => Halfway ingest done entry q)
      (updateTransactionScript entry) p := by
  have hid : stored.fareTransactionId = entry.transactionId := by
    simp only [transactionIdentityMatches, Bool.and_eq_true, beq_iff_eq] at hidentity
    exact hidentity.1.1.1
  rw [hid] at hcurrent
  refine wp_ingestWrite fun db hrely rows hupdated => ?_
  -- the rows that the statement finds are the locked one
  have hunique := (hready.serial db hrely).unique hrely.invariant
  have hfound : (view BackendDatabase.apply p.pending db).transactions.filter
      (·.fareTransactionId == entry.transactionId) = [stored] := by
    rw [← hid]
    exact Table.filter_eq_singleton hunique.ids (List.mem_of_find?_eq_some (hcurrent db hrely))
  rw [hfound, List.map_singleton]
  refine ⟨fun db' hrely' => ?_, List.mem_append_right _ hready.batch, ?_⟩
  · have hrely'' := hrely.trans (hrely'.mono (List.subset_append_right ..))
    have hserial := hready.serial db' hrely''
    rw [view_append]
    exact ⟨_, hserial, updateTransaction_congr hupdated (hcurrent db hrely) (hcurrent db' hrely'')
      hidentity (hserial.unique hrely''.invariant) hsequence, rfl⟩
  · refine hready.guarded.write fun key hkey => List.mem_append_left _ ?_
    simpa [BackendWrite.touches] using hkey

theorem wp_storeTransaction (hready : Ready ingest done p) :
    wp backendDiscipline BackendDatabase.apply (fun _ q => Halfway ingest done entry q)
      (storeTransactionScript ingest entry) p := by
  refine wp_bind.mpr (wp_ofExcept.mpr fun sequence hsequence => ?_)
  rw [mapError_eq_ok] at hsequence
  refine wp_bind.mpr (wp_bind.mpr (wp_select.mpr fun db hrely => wp_mono ?_
    (wp_lockTransactions _)))
  rintro rows q ⟨hlater, hrows⟩
  have hsearched : p.Later backendDiscipline ⟨db, p.pending, [] ++ p.held⟩ := .read hrely
  have hready' := hready.later (hsearched.trans hlater)
  match rows with
  | [] => exact wp_insertTransaction hready' hsequence
  | [stored] =>
    by_cases hidentity : transactionIdentityMatches stored ingest entry = true
    · simp only [hidentity, if_true]
      exact wp_updateTransaction hready' hsequence hidentity
        (hrows stored (List.mem_singleton_self stored))
    · simp only [hidentity]
      trivial
  | _ :: _ :: _ => trivial

theorem wp_insertEntry (hhalfway : Halfway ingest done entry p) :
    wp backendDiscipline BackendDatabase.apply (fun _ q => Ready ingest (done ++ [entry]) q)
      (insertEntryScript ingest entry) p := by
  refine wp_ingestWrite fun db hrely rows hinserted => ⟨fun db' hrely' => ?_, ?_, ?_⟩
  · obtain ⟨stored, hserial, htransaction, hview⟩ :=
      hhalfway.serial db' (hrely.trans (hrely'.mono (List.subset_append_right ..)))
    have hagree : BackendDatabase.agree (.batch ingest.batchId) _ _ :=
      agree_of_rely p.pending hrely' nofun (List.mem_append_right _ hhalfway.batch)
    have hbatches : (view BackendDatabase.apply p.pending db').batches = stored.batches := by
      rw [hview]
    have haccepted := insertEntry_congr hinserted hagree.2
      (by
        change (view BackendDatabase.apply p.pending db').batches.any _ = true
        rw [hbatches]
        exact hserial.references.1)
      (storeTransaction_ok htransaction).2
    have hingest : { stored.ingest with
        transactions := (view BackendDatabase.apply p.pending db').transactions } =
          (view BackendDatabase.apply p.pending db').ingest :=
      (congrArg BackendDatabase.ingest hview).symm
    rw [view_append]
    refine ⟨hserial.reader, hserial.fresh, hserial.batch, ?_, ?_⟩
    · rw [storeEntries_append hserial.entries]
      simp only [storeEntries, htransaction, ok_bind, hingest, haccepted]
      exact congrArg (fun rest : IngestDatabase => Except.ok { rest with
        entries := (view BackendDatabase.apply p.pending db').entries ++
          [ingest.entryRow entry] }) hingest
    · exact (congrArg BackendDatabase.equipment hview).trans hserial.equipment
  · exact List.mem_append_right _ hhalfway.batch
  · refine hhalfway.guarded.write fun key hkey => List.mem_append_right _ ?_
    simp only [BackendWrite.touches, List.mem_singleton] at hkey
    exact hkey ▸ hhalfway.batch

theorem wp_storeEntries {entries : List PreparedIngestEntry} (hready : Ready ingest done p) :
    wp backendDiscipline BackendDatabase.apply (fun _ q => Ready ingest (done ++ entries) q)
      (storeEntriesScript ingest entries) p := by
  induction entries generalizing done p with
  | nil =>
    rw [List.append_nil]
    exact hready
  | cons entry rest ih =>
    refine wp_bind.mpr (wp_mono (fun _ q hhalfway => ?_) (wp_storeTransaction hready))
    refine wp_bind.mpr (wp_mono (fun _ r hready' => ?_) (wp_insertEntry hhalfway))
    have hrest := ih hready'
    rwa [List.append_assoc, List.singleton_append] at hrest

theorem validateReader_eq (db : BackendDatabase) :
    validateReader db.ingest ingest =
      checkReader ingest.readerId (db.readerOperational ingest.readerId) := by
  have hfind : db.ingest.readerEquipment.find? (·.id == ingest.readerId) =
      (db.equipment.find? (·.id == ingest.readerId)).map EquipmentRow.reader := by
    rw [BackendDatabase.ingest, List.find?_map]
    rfl
  rw [validateReader, hfind, BackendDatabase.readerOperational]
  cases db.equipment.find? (·.id == ingest.readerId) with
  | none => rfl
  | some row =>
    simp only [Option.map_some, EquipmentRow.reader, EquipmentRow.isOperational_readerStatus]
    cases row.operational <;> rfl

/-- The reader stays operational while it is locked. -/
theorem wp_validateReader (hpending : p.pending = []) :
    wp backendDiscipline BackendDatabase.apply
      (fun _ q => q.pending = [] ∧ ∀ db, backendDiscipline.Rely q.held q.database db →
        validateReader db.ingest ingest = .ok ())
      (validateReaderScript ingest) p := by
  refine wp_bind.mpr (wp_selectFor.mpr fun db hrely => ?_)
  rw [hpending, view_nil]
  refine wp_ofExcept.mpr fun u hchecked => ⟨rfl, fun db' hrely' => ?_⟩
  have hagree : BackendDatabase.agree (.reader ingest.readerId) db db' :=
    hrely'.key (List.mem_cons_self ..)
  have hsame : db'.readerOperational ingest.readerId = db.readerOperational ingest.readerId :=
    congrArg (Option.map EquipmentRow.operational) hagree
  rw [validateReader_eq, hsame]
  exact mapError_eq_ok.mp hchecked

theorem wp_insertBatch (hpending : p.pending = [])
    (hreader : ∀ db, backendDiscipline.Rely p.held p.database db →
      validateReader db.ingest ingest = .ok ()) :
    wp backendDiscipline BackendDatabase.apply (fun _ q => Ready ingest [] q)
      (insertBatchScript ingest) p := by
  refine wp_ingestWrite fun db hrely batches hinserted => ?_
  rw [hpending, view_nil] at hinserted
  rw [hpending, List.nil_append]
  simp only [insertBatch, bind_eq_ok, guard_eq_ok, mapError_eq_ok, Table.insert_eq_ok] at hinserted
  obtain ⟨first, hfirst, last, hlast, hcount, hstorable, hcheck, hfree, -, -⟩ := hinserted
  refine ⟨fun db' hrely' => ?_, List.mem_cons_self .., ?_⟩
  · have hvalid := hreader db' (hrely.trans (hrely'.mono (List.subset_append_right ..)))
    have hagree : BackendDatabase.agree (.batch ingest.batchId) db db' :=
      hrely'.key (List.mem_cons_self ..)
    have hnone : db'.findBatch ingest.batchId = none := by
      rw [hagree.1]
      refine Table.find_eq_none.mpr fun row hrow hid => ?_
      have hconflict := hfree row hrow
      simp [IngestBatchRow.conflicts, PreparedIngest.batchRow, hid] at hconflict
    refine ⟨hvalid, hnone, ?_, rfl, rfl⟩
    have hregistered : db'.ingest.readerEquipment.any (·.id == ingest.readerId) = true := by
      have hoperational := validateReader_ok.mp hvalid
      rw [IngestDatabase.operational, Option.any_eq_true] at hoperational
      obtain ⟨row, hrow, -⟩ := hoperational
      exact List.any_eq_true.mpr ⟨row, List.mem_of_find?_eq_some hrow, by
        simpa using List.find?_some hrow⟩
    simp only [insertBatch, bind_eq_ok, guard_eq_ok, mapError_eq_ok, Table.insert_eq_ok]
    refine ⟨first, hfirst, last, hlast, hcount, hstorable, hcheck, fun row hrow => ?_, hregistered,
      rfl⟩
    have hne := Table.find_eq_none.mp hnone row hrow
    simp [IngestBatchRow.conflicts, PreparedIngest.batchRow, Ne.symm hne]
  · intro write hwrite key hkey
    rw [List.mem_singleton.mp hwrite] at hkey
    rw [List.mem_singleton.mp hkey]
    exact List.mem_cons_self ..

/-- The store has found its batch and only compares it, or is ready to commit
it. -/
theorem wp_store (hpending : p.pending = []) :
    wp backendDiscipline BackendDatabase.apply
      (fun disposition q =>
        (q.pending = [] ∧ ∀ db, backendDiscipline.Rely q.held q.database db →
          store db.ingest ingest = (.ok disposition, db.ingest)) ∨
        (disposition = .stored ∧ Ready ingest ingest.entries q))
      (storeScript ingest) p := by
  refine wp_bind.mpr (wp_mono ?_ (wp_validateReader hpending))
  rintro _ q ⟨hpending', hreader⟩
  refine wp_bind.mpr (wp_select.mpr fun db hrely => ?_)
  rw [hpending', view_nil]
  have hreader' : ∀ db', backendDiscipline.Rely q.held db db' →
      validateReader db'.ingest ingest = .ok () := fun db' hrely' =>
    hreader db' (hrely.trans hrely')
  cases hfound : db.batches.find? (·.batchId == ingest.batchId) with
  | some existing =>
    refine wp_ofExcept.mpr fun disposition hvalid => .inl ⟨rfl, fun db' hrely' => ?_⟩
    rw [mapError_eq_ok] at hvalid
    obtain ⟨more, hmore⟩ := hrely'.grows.batches
    have hfound' : db'.ingest.findBatch ingest.batchId = some existing := by
      change db'.batches.find? (·.batchId == ingest.batchId) = some existing
      rw [← hmore, List.find?_append, hfound, Option.some_or]
    have hstatements : storeStatements db'.ingest ingest = .ok (disposition, db'.ingest) := by
      rw [storeStatements, hreader' db' hrely', ok_bind, hfound']
      change (validateExistingBatch existing ingest >>= _) = _
      rw [hvalid]
      rfl
    rw [store, hstatements]
  | none =>
    refine wp_bind.mpr (wp_mono (fun _ r hready => ?_) (wp_insertBatch rfl hreader'))
    refine wp_bind.mpr (wp_mono (fun _ r hready => ?_) (wp_storeEntries hready))
    exact .inr ⟨rfl, hready⟩

end Store

/-! ## Changes of equipment -/

section Change

variable {id : ReaderId} {operations : List ReaderEquipment.Operation} {db : BackendDatabase}

/-- The reader is stored as `row`, and nobody else has the key of `changed`, so
the version check and the constraints accept `changed` in its place. -/
theorem updateEquipment_ok {row changed : EquipmentRow} (hdb : Keyed db)
    (hrow : db.findReader id = some row) (hid : changed.id = id) (hcheck : changed.check = true)
    (hkey : ∀ other ∈ db.equipment, other.equipmentKeyId = changed.equipmentKeyId →
      other.id = id) :
    db.updateEquipment changed row.aggregateVersion = .ok () := by
  have hmem : row ∈ db.equipment := List.mem_of_find?_eq_some hrow
  have hrowId : row.id = id := Table.key_of_find hrow
  have hselected : ∀ other ∈ db.equipment, (other.id == changed.id &&
      other.aggregateVersion == row.aggregateVersion) = true ↔ other.id = id := by
    intro other hother
    rw [Bool.and_eq_true, beq_iff_eq, beq_iff_eq, hid]
    refine ⟨And.left, fun hsame => ⟨hsame, ?_⟩⟩
    rw [Table.eq_of_key_eq hdb.readers hother hmem (hsame.trans hrowId.symm)]
  refine updateStatement_eq_ok.mpr ⟨hcheck, fun other hother hskipped => ?_, rfl, ?_⟩
  · have hne : other.id ≠ id := fun hsame => by
      rw [(hselected other hother).mpr hsame] at hskipped
      cases hskipped
    simp only [EquipmentRow.conflicts, Bool.or_eq_false_iff, beq_eq_false_iff_ne]
    exact ⟨fun hsame => hne (hsame.symm.trans hid), fun hsame => hne (hkey other hother hsame.symm)⟩
  · refine (Table.countP_eq_one_iff hdb.readers fun other hother =>
      (hselected other hother).mp).mpr ⟨row, hmem, (hselected row hmem).mpr hrowId⟩

/-- A change of equipment writes the next version of the row it has locked, and
would write it on every database that the others may commit. -/
theorem wp_changeReader :
    wp backendDiscipline BackendDatabase.apply
      (fun _ q => ∃ (row : EquipmentRow) (reader : ReaderEquipment), reader.id = id ∧
        q.pending = [.updateEquipment (.fromDomain reader (row.aggregateVersion + 1))] ∧
        Guarded q ∧ ∀ db, backendDiscipline.Rely q.held q.database db →
          db.findReader id = some row ∧
            backendSystem.execute db (.changeReader id operations) =
              (.ok .changed, view BackendDatabase.apply q.pending db))
      (changeReaderEquipment id operations) ⟨db, [], []⟩ := by
  simp only [changeReaderEquipment, findReaderEquipment, saveReaderEquipment, wp_bind, wp_select,
    wp_ofExcept, mapError_eq_ok, orFail_eq_ok, view_nil]
  intro db₀ hrely₀ found hload loaded hfound reader hreader encoded hencoded
  subst hfound
  obtain ⟨current, next⟩ := encoded
  obtain ⟨row, hrow, hloaded⟩ := loadRow_eq_some hload
  obtain ⟨hloadedId, hloadedVersion⟩ := EquipmentRow.intoVersioned_ok hloaded
  obtain ⟨rfl, rfl, hlt⟩ := encodeNextVersion_ok hencoded
  have hrowId : row.id = id := Table.key_of_find hrow
  have hreaderId : reader.id = id :=
    (ReaderEquipment.performAll_id hreader).trans (hloadedId.trans hrowId)
  intro db₁ hrely₁ writes hwrites
  simp only [map_eq_ok, mapError_eq_ok, view_nil] at hwrites
  obtain ⟨u, hupdated, rfl⟩ := hwrites
  obtain ⟨hcheck, hothers, -, hcount⟩ := updateStatement_eq_ok.mp hupdated
  -- the version check finds the row that was loaded
  have hrow₁ : db₁.findReader id = some row := by
    obtain ⟨stored, hstored, hselected⟩ := List.countP_pos_iff.mp (hcount ▸ Nat.one_pos)
    rw [Bool.and_eq_true, beq_iff_eq, beq_iff_eq] at hselected
    obtain ⟨row', hrow', hid', -, hsame⟩ :=
      hrely₁.grows.equipment row (List.mem_of_find?_eq_some hrow)
    obtain rfl : stored = row' := Table.eq_of_key_eq hrely₁.invariant.readers hstored hrow'
      (hselected.1.trans (hreaderId.trans (hrowId.symm.trans hid'.symm)))
    rw [← hsame (hselected.2.trans hloadedVersion), ← hid'.trans hrowId]
    exact Table.find_of_mem hrely₁.invariant.readers hstored
  rw [hloadedVersion] at hupdated ⊢
  refine ⟨row, reader, hreaderId, rfl, ?_, fun db' hrely' => ?_⟩
  · intro write hwrite key hkey
    rw [List.mem_singleton.mp hwrite] at hkey
    refine List.mem_append_left _ ?_
    simpa [BackendWrite.touches] using hkey
  · have hreader' : BackendDatabase.agree (.reader reader.id) db₁ db' :=
      hrely'.key (List.mem_cons_self ..)
    have hkey' : BackendDatabase.agree (.equipmentKey reader.identity.keyId) db₁ db' :=
      hrely'.key (List.mem_cons_of_mem _ (List.mem_cons_self ..))
    rw [hreaderId] at hreader'
    have hrow' : db'.findReader id = some row := Eq.trans hreader' hrow₁
    have hupdated' : db'.updateEquipment (.fromDomain reader (row.aggregateVersion + 1))
        row.aggregateVersion = .ok () := by
      refine updateEquipment_ok hrely'.invariant hrow' hreaderId hcheck fun other hother hkey => ?_
      obtain ⟨old, hold, holdId, holdKey⟩ := hkey' other hother hkey
      by_contra hne
      have hfree := hothers old hold (by simp [EquipmentRow.fromDomain, hreaderId, holdId, hne])
      simp [EquipmentRow.conflicts, EquipmentRow.fromDomain, holdKey] at hfree
    have hload' : loadRow EquipmentRow.intoVersioned (db'.equipment.find? (·.id == id)) =
        .ok (some loaded) := by
      rw [show db'.equipment.find? (·.id == id) = some row from hrow', loadRow, hloaded]
      rfl
    refine ⟨hrow', ?_⟩
    change backendSystem.executeFrom db' (BackendCall.changeReader id operations).script [] = _
    simp only [BackendCall.script, changeReaderEquipment, findReaderEquipment, saveReaderEquipment,
      Script.bind_assoc, System.executeFrom_select, view_nil, hload', Except.mapError,
      System.executeFrom_ofExcept_ok, orFail, hreader, hencoded, hloadedVersion]
    refine (backendSystem.executeFrom_write (?_ : _ = Except.ok [BackendWrite.updateEquipment
      (.fromDomain reader (row.aggregateVersion + 1))])).trans (backendSystem.executeFrom_pure rfl)
    rw [view_nil, hupdated']
    rfl

end Change

/-! ## The commits -/

/-- The tables of the store, replaced. -/
def BackendDatabase.withIngest (db : BackendDatabase) (ingest : IngestDatabase) : BackendDatabase :=
  { db with
    batches := ingest.batches
    transactions := ingest.transactions
    entries := ingest.entries }

/-- A call as one step: `store`, or the change of equipment with nothing beside
it. -/
def BackendDatabase.perform (db : BackendDatabase) :
    BackendCall → Except BackendError BackendResult × BackendDatabase
  | .store ingest =>
    match store db.ingest ingest with
    | (.ok disposition, stored) => (.ok (.ingested disposition), db.withIngest stored)
    | (.error e, _) => (.error (.ingest e), db)
  | .changeReader id operations => backendSystem.execute db (.changeReader id operations)

/-- The call commits what it commits as one step; a change of equipment leaves
the tables of the store alone. -/
structure Commits (db : BackendDatabase) (call : BackendCall) (result : BackendResult)
    (db' : BackendDatabase) : Prop where
  performed : db.perform call = (.ok result, db')
  kept : ∀ id operations, call = .changeReader id operations →
    db'.batches = db.batches ∧ db'.transactions = db.transactions ∧ db'.entries = db.entries

section Commits

variable {ingest : PreparedIngest} {db stored : BackendDatabase} {disposition : IngestDisposition}
  {p : Point BackendDatabase BackendWrite BackendKey}

theorem perform_store_ok {result : BackendResult}
    (h : db.perform (.store ingest) = (.ok result, stored)) :
    ∃ disposition committed, storeStatements db.ingest ingest = .ok (disposition, committed) ∧
      result = .ingested disposition ∧ stored = db.withIngest committed := by
  rw [BackendDatabase.perform, store] at h
  cases hstatements : storeStatements db.ingest ingest with
  | error e => rw [hstatements] at h; cases h
  | ok out =>
    rw [hstatements] at h
    cases h
    exact ⟨out.1, out.2, rfl, rfl, rfl⟩

theorem perform_store (h : store db.ingest ingest = (.ok disposition, stored.ingest))
    (hequipment : stored.equipment = db.equipment) :
    db.perform (.store ingest) = (.ok (.ingested disposition), stored) := by
  rw [BackendDatabase.perform, h]
  change (_, BackendDatabase.mk db.equipment _ _ _) = _
  rw [← hequipment]
  rfl

/-- The writes stay within what the locks promise. -/
theorem Guarded.agree (h : Guarded p) (key : BackendKey) (hkey : ⟨key, .exclusive⟩ ∉ p.held) :
    BackendDatabase.agree key db (view BackendDatabase.apply p.pending db) :=
  agree_view fun write hwrite hmem => hkey (h write hwrite key hmem)

theorem Ready.guarantee (h : Ready ingest ingest.entries p)
    (hrely : backendDiscipline.Rely p.held p.database db) :
    backendDiscipline.Guarantee p.held db (view BackendDatabase.apply p.pending db) := by
  have hserial := h.serial db hrely
  have hunique := hserial.unique hrely.invariant
  refine ⟨⟨?_, ?_, ?_, hunique.ids, hunique.sequences⟩, ⟨?_, ?_⟩, h.guarded.agree⟩
  · rw [hserial.equipment]
    exact hrely.invariant.readers
  · rw [hserial.equipment]
    exact hrely.invariant.loads
  · rw [hserial.batches]
    exact Table.nodup_map_append hrely.invariant.batches fun row hrow hid =>
      IngestDatabase.findBatch_eq_none.mp hserial.fresh row hrow hid.symm
  · rw [hserial.equipment]
    exact .refl _ _ _
  · rw [hserial.batches]
    exact List.prefix_append _ _

theorem changeReader_guarantee {id : ReaderId} {row : EquipmentRow} {reader : ReaderEquipment}
    (hid : reader.id = id)
    (hpending : p.pending = [.updateEquipment (.fromDomain reader (row.aggregateVersion + 1))])
    (hguarded : Guarded p) (hrow : db.findReader id = some row) (hdb : Keyed db) :
    backendDiscipline.Guarantee p.held db (view BackendDatabase.apply p.pending db) := by
  have hagree : ∀ key, ⟨key, .exclusive⟩ ∉ p.held →
      BackendDatabase.agree key db (view BackendDatabase.apply p.pending db) := hguarded.agree
  rw [hpending] at hagree ⊢
  refine ⟨⟨?_, ?_, hdb.batches, hdb.transactions, hdb.sequences⟩, ⟨?_, List.prefix_refl _⟩, hagree⟩
  · have hids := Table.map_replaced EquipmentRow.id (.fromDomain reader (row.aggregateVersion + 1))
      db.equipment
    exact hids ▸ hdb.readers
  · refine Table.forall_updateWhere hdb.loads fun _ _ _ => ?_
    exact ⟨reader, row.aggregateVersion + 1, rfl⟩
  · refine Table.Ages.replaced (k := EquipmentRow.id) fun old hold hold' => ?_
    have hsame : old = row := Table.eq_of_key_eq hdb.readers hold (List.mem_of_find?_eq_some hrow)
      (hold'.trans (hid.trans (Table.key_of_find hrow).symm))
    rw [hsame]
    exact Nat.lt_succ_self row.aggregateVersion

/-- Every call commits what it commits as one step, whatever runs beside it. -/
theorem backendSystem_allSafe : AllSafe backendSystem backendDiscipline Commits := by
  intro call db hdb
  cases call with
  | store ingest =>
    refine wp_bind.mpr (wp_mono ?_ (wp_store rfl))
    rintro disposition q (⟨hpending, hreplayed⟩ | ⟨rfl, hready⟩) db' hrely -
    · change Commits db' _ _ (view BackendDatabase.apply q.pending db') ∧
        backendDiscipline.Guarantee _ _ (view BackendDatabase.apply q.pending db')
      rw [hpending]
      exact ⟨⟨perform_store (hreplayed db' hrely) rfl, nofun⟩, .refl hrely.invariant⟩
    · have hserial := hready.serial db' hrely
      exact ⟨⟨perform_store hserial.store hserial.equipment, nofun⟩, hready.guarantee hrely⟩
  | changeReader id operations =>
    refine wp_bind.mpr (wp_mono ?_ wp_changeReader)
    rintro _ q ⟨row, reader, hid, hpending, hguarded, hserial⟩ db' hrely -
    obtain ⟨hrow, hexecute⟩ := hserial db' hrely
    refine ⟨⟨hexecute, fun _ _ _ => ?_⟩,
      changeReader_guarantee hid hpending hguarded hrow hrely.invariant⟩
    change (view BackendDatabase.apply q.pending db').batches = _ ∧
      (view BackendDatabase.apply q.pending db').transactions = _ ∧
      (view BackendDatabase.apply q.pending db').entries = _
    rw [hpending]
    exact ⟨rfl, rfl, rfl⟩

end Commits

end TransitGuard.Backend
