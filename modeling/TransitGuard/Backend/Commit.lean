import TransitGuard.Backend.Ledger
import TransitGuard.Backend.Replay

/-!
Which requests the service commits. A request may be in order for the protocol
and still hold a value that the tables do not: a sequence beyond `BIGINT`, or a
NUL character in an envelope, which `JSONB` refuses. Both end as an error of the
database, which the service reports as temporary.
-/

namespace TransitGuard.Backend

open Protocol Fallible

variable {codec : Json.Codec} {sha256 : Sha256} {environmentId : EnvironmentId}
  {db db' : IngestDatabase} {ingest : PreparedIngest} {entry : PreparedIngestEntry}

/-! ## One entry -/

/-- A row for the transaction is there. -/
def IngestDatabase.knows (db : IngestDatabase) (transactionId : FareTransactionId) : Bool :=
  db.transactions.any (·.fareTransactionId == transactionId)

/-- The envelope of an entry is written with the row of a new transaction only. -/
def IngestDatabase.accepts (db : IngestDatabase) (entry : PreparedIngestEntry) : Bool :=
  db.knows entry.transactionId || entry.canonicalTransactionEnvelope.storableAsJsonb

/-- The rows that the rows of the ingest refer to are there. -/
structure PreparedIngest.Registered (ingest : PreparedIngest) (db : IngestDatabase) : Prop where
  reader : (db.readerEquipment.any (·.id == ingest.readerId)) = true
  batch : db.findBatch ingest.batchId = some ingest.batchRow

/-- What the statements for an entry ask of it, its envelope apart. -/
structure PreparedIngest.Fits (ingest : PreparedIngest) (db : IngestDatabase)
    (entry : PreparedIngestEntry) : Prop where
  sequence : entry.localSequenceNumber.value ≤ i64Max
  transactionRow : (ingest.transactionRow entry).check = true
  entryRow : (ingest.entryRow entry).check = true
  identity : ∀ row ∈ db.transactions, ingest.meets entry row = true →
    row.identity = ingest.identity entry
  fresh : ∀ row ∈ db.entries, (ingest.entryRow entry).conflicts row = false

theorem sequenceToI64_ok {sequence : LocalSequenceNumber} (h : sequence.value ≤ i64Max)
    (field : String) : sequenceToI64 sequence field = .ok sequence.value :=
  if_neg (Nat.not_lt.mpr h)

theorem PreparedIngest.Registered.batch_any (h : ingest.Registered db) :
    (db.batches.any fun row => row.batchId == ingest.batchId &&
      row.readerId == ingest.readerId) = true := by
  obtain ⟨hrow, -⟩ := IngestDatabase.findBatch_eq_some h.batch
  refine List.any_eq_true.mpr ⟨ingest.batchRow, hrow, ?_⟩
  simp [PreparedIngest.batchRow]

/-- The keys of the transaction table are what the lookup goes by. -/
theorem PreparedIngest.conflicts_transactionRow (row : IngestTransactionRow) :
    (ingest.transactionRow entry).conflicts row = ingest.meets entry row := by
  rw [Bool.eq_iff_iff]
  simp only [IngestTransactionRow.conflicts, PreparedIngest.meets, PreparedIngest.transactionRow,
    Bool.or_eq_true, Bool.and_eq_true, beq_iff_eq]
  exact or_congr eq_comm (and_congr eq_comm eq_comm)

/-- A row that is found for the entry is the only one. -/
theorem PreparedIngest.Fits.filter_meets (h : ingest.Fits db entry) (hsound : Sound db)
    {row : IngestTransactionRow} (hrow : row ∈ db.transactions)
    (hmeets : ingest.meets entry row = true) :
    db.transactions.filter (ingest.meets entry) = [row] := by
  have hid : row.fareTransactionId = entry.transactionId :=
    congrArg Prod.fst (h.identity row hrow hmeets)
  have hsame : ∀ other ∈ db.transactions,
      ingest.meets entry other = (other.fareTransactionId == row.fareTransactionId) := by
    intro other hother
    rw [Bool.eq_iff_iff, beq_iff_eq, hid]
    constructor
    · intro hmeets'
      exact congrArg Prod.fst (h.identity other hother hmeets')
    · intro heq
      simp [PreparedIngest.meets, heq]
  rw [List.filter_congr hsame, Table.filter_eq_singleton hsound.ids hrow]

/-- A later resolution does not take a row out of its constraints. -/
theorem IngestTransactionRow.check_resolve {row : IngestTransactionRow}
    (h : row.check = true) (entry : PreparedIngestEntry) : (row.resolve entry).check = true := by
  simp only [IngestTransactionRow.check, Bool.and_eq_true, decide_eq_true_eq] at h ⊢
  refine ⟨h.1, ?_⟩
  change row.firstReceivedAt ≤ max row.lastResolvedAt entry.resolvedAt
  rw [UnixMilliseconds.max_def]
  split
  · next hle => exact Int64.le_trans h.2 hle
  · exact h.2

theorem storeTransaction_of_accepted (hsound : Sound db) (hregistered : ingest.Registered db)
    (h : ingest.Fits db entry) (haccepts : db.accepts entry = true) :
    ∃ transactions, storeTransaction db ingest entry = .ok transactions := by
  simp only [storeTransaction, sequenceToI64_ok h.sequence, ok_bind]
  by_cases hmet : ∃ row ∈ db.transactions, ingest.meets entry row = true
  · obtain ⟨row, hrow, hmeets⟩ := hmet
    have hidentity := h.identity row hrow hmeets
    have hid : row.fareTransactionId = entry.transactionId := congrArg Prod.fst hidentity
    have hone : db.transactions.countP (·.fareTransactionId == entry.transactionId) = 1 := by
      rw [List.countP_eq_length_filter, ← hid, Table.filter_eq_singleton hsound.ids hrow]
      rfl
    simp only [h.filter_meets hsound hrow hmeets,
      if_pos (transactionIdentityMatches_iff.mpr hidentity), updateTransaction, bind_eq_ok,
      orFail_eq_ok, guard_eq_ok, Table.update_eq_some, Prod.exists, Prod.mk.injEq,
      Except.ok.injEq]
    exact ⟨_, _, _, ⟨fun row hrow _ => IngestTransactionRow.check_resolve
      (hsound.checked row hrow) entry, rfl, rfl⟩, not_not.mpr hone, rfl⟩
  · have hnone : ∀ row ∈ db.transactions, ingest.meets entry row = false := by
      simpa using hmet
    have hunknown : db.knows entry.transactionId = false := by
      refine List.any_eq_false.mpr fun row hrow hid => ?_
      exact (PreparedIngest.meets_eq_false.mp (hnone row hrow)).1 (eq_of_beq hid)
    have hnil : db.transactions.filter (ingest.meets entry) = [] :=
      List.filter_eq_nil_iff.mpr fun row hrow => by simp [hnone row hrow]
    rw [IngestDatabase.accepts, hunknown, Bool.false_or] at haccepts
    simp only [hnil, insertTransaction, guard_eq_ok, mapError_eq_ok, Table.insert_eq_ok]
    refine ⟨_, not_not.mpr haccepts, h.transactionRow, fun row hrow => ?_, ?_, rfl⟩
    · rw [PreparedIngest.conflicts_transactionRow, hnone row hrow]
    · rw [hregistered.batch_any, hregistered.reader, Bool.and_self]

theorem storeTransaction_of_refused (h : ingest.Fits db entry)
    (hrefuses : db.accepts entry = false) :
    ∃ e, storeTransaction db ingest entry = .error (.persistence e) := by
  rw [IngestDatabase.accepts, Bool.or_eq_false_iff] at hrefuses
  have hnil : db.transactions.filter (ingest.meets entry) = [] := by
    refine List.filter_eq_nil_iff.mpr fun row hrow hmeets => ?_
    have hid := congrArg Prod.fst (h.identity row hrow hmeets)
    exact List.any_eq_false.mp hrefuses.1 row hrow (beq_iff_eq.mpr hid)
  refine ⟨.database "insert synchronization ingest transaction", ?_⟩
  simp only [storeTransaction, sequenceToI64_ok h.sequence, ok_bind, hnil, insertTransaction,
    guard_eq_error]
  exact .inl ⟨by simp [hrefuses.2], trivial⟩

/-! ## The loop over the entries -/

/-- The rows after an entry was stored are the rows before it, under the same
identities, and perhaps a row for the entry. -/
theorem storeTransaction_origin {transactions : List IngestTransactionRow}
    (h : storeTransaction db ingest entry = .ok transactions) :
    ∀ row' ∈ transactions, (∃ row ∈ db.transactions, row'.identity = row.identity) ∨
      row'.identity = ingest.identity entry := by
  intro row' hrow'
  rcases storeTransaction_cases h with ⟨-, -, rfl⟩ | ⟨-, -, -, -, rfl⟩
  · rcases List.mem_append.mp hrow' with hrow | hrow
    · exact .inl ⟨row', hrow, rfl⟩
    · rw [List.mem_singleton.mp hrow]
      exact .inr rfl
  · obtain ⟨row, hrow, rfl⟩ := Table.mem_updateWhere.mp hrow'
    refine .inl ⟨row, hrow, ?_⟩
    split <;> rfl

/-- Two entries of one batch. -/
structure PreparedIngestEntry.Apart (a b : PreparedIngestEntry) : Prop where
  position : a.entryPosition ≠ b.entryPosition
  transactionId : a.transactionId ≠ b.transactionId
  sequence : a.localSequenceNumber.value ≠ b.localSequenceNumber.value

section Round

variable {later : PreparedIngestEntry} {transactions : List IngestTransactionRow}
  (hstored : storeTransaction db ingest entry = .ok transactions) (hapart : entry.Apart later)

include hstored hapart

theorem PreparedIngest.Fits.next (h : ingest.Fits db later) :
    ingest.Fits { db with transactions, entries := db.entries ++ [ingest.entryRow entry] }
      later := by
  refine ⟨h.sequence, h.transactionRow, h.entryRow, fun row' hrow' hmeets => ?_, ?_⟩
  · rcases storeTransaction_origin hstored row' hrow' with ⟨row, hrow, hidentity⟩ | hidentity
    · rw [hidentity]
      refine h.identity row hrow ?_
      simp only [IngestTransactionRow.identity, Prod.mk.injEq] at hidentity
      simpa only [PreparedIngest.meets, hidentity] using hmeets
    · simp only [IngestTransactionRow.identity, PreparedIngest.identity, Prod.mk.injEq]
        at hidentity
      simp only [PreparedIngest.meets, hidentity, Bool.or_eq_true, Bool.and_eq_true,
        beq_iff_eq] at hmeets
      rcases hmeets with hid | ⟨-, hsequence⟩
      · exact absurd hid hapart.transactionId
      · exact absurd hsequence hapart.sequence
  · refine List.forall_mem_append.mpr ⟨h.fresh, List.forall_mem_singleton.mpr ?_⟩
    simp [IngestEntryRow.conflicts, PreparedIngest.entryRow, hapart.position.symm,
      hapart.transactionId.symm, hapart.sequence.symm]

theorem accepts_next :
    IngestDatabase.accepts
      { db with transactions, entries := db.entries ++ [ingest.entryRow entry] } later =
      db.accepts later := by
  have hknows : IngestDatabase.knows
      { db with transactions, entries := db.entries ++ [ingest.entryRow entry] }
      later.transactionId = db.knows later.transactionId := by
    rw [Bool.eq_iff_iff]
    simp only [IngestDatabase.knows, List.any_eq_true, beq_iff_eq]
    constructor
    · rintro ⟨row', hrow', hid⟩
      rcases storeTransaction_origin hstored row' hrow' with ⟨row, hrow, hidentity⟩ | hidentity
      · exact ⟨row, hrow, (congrArg Prod.fst hidentity).symm.trans hid⟩
      · have hentry : row'.fareTransactionId = entry.transactionId := congrArg Prod.fst hidentity
        exact absurd (hentry.symm.trans hid) hapart.transactionId
    · rintro ⟨row, hrow, hid⟩
      obtain ⟨row', hrow', hidentity⟩ := (storeTransaction_ok hstored).1 row hrow
      exact ⟨row', hrow', (congrArg Prod.fst hidentity).trans hid⟩
  rw [IngestDatabase.accepts, hknows, IngestDatabase.accepts]

end Round

theorem insertEntry_of_fits (hregistered : ingest.Registered db) (h : ingest.Fits db entry)
    {transactions : List IngestTransactionRow}
    (hstored : storeTransaction db ingest entry = .ok transactions) :
    insertEntry { db with transactions } ingest entry =
      .ok (db.entries ++ [ingest.entryRow entry]) := by
  obtain ⟨-, row, hrow, hidentity⟩ := storeTransaction_ok hstored
  simp only [IngestTransactionRow.identity, PreparedIngest.identity, Prod.mk.injEq] at hidentity
  have hposition : entry.entryPosition < 256 := by
    have hcheck := h.entryRow
    simp only [IngestEntryRow.check, Bool.and_eq_true, decide_eq_true_eq] at hcheck
    exact hcheck.1.1.1.1
  simp only [insertEntry, guard_eq_ok, bind_eq_ok, mapError_eq_ok, Table.insert_eq_ok]
  refine ⟨by omega, _, sequenceToI64_ok h.sequence _, h.entryRow, h.fresh, ?_, trivial⟩
  rw [hregistered.batch_any, Bool.true_and]
  exact List.any_eq_true.mpr ⟨row, hrow, by simp [hidentity]⟩

/-- The loop stores all entries unless an envelope is refused. -/
theorem storeEntries_of_fits {entries : List PreparedIngestEntry} (hsound : Sound db)
    (hregistered : ingest.Registered db) (hfits : ∀ entry ∈ entries, ingest.Fits db entry)
    (hapart : entries.Pairwise PreparedIngestEntry.Apart) :
    ((∀ entry ∈ entries, db.accepts entry = true) ∧
      ∃ stored, storeEntries ingest entries db = .ok stored) ∨
    ((∃ entry ∈ entries, db.accepts entry = false) ∧
      ∃ e, storeEntries ingest entries db = .error (.persistence e)) := by
  induction entries generalizing db with
  | nil => exact .inl ⟨fun _ h => absurd h List.not_mem_nil, db, rfl⟩
  | cons entry rest ih =>
    obtain ⟨hfirst, hrest⟩ := List.forall_mem_cons.mp hfits
    obtain ⟨hothers, hapart⟩ := List.pairwise_cons.mp hapart
    cases haccepts : db.accepts entry with
    | false =>
      obtain ⟨e, he⟩ := storeTransaction_of_refused hfirst haccepts
      refine .inr ⟨⟨entry, List.mem_cons_self .., haccepts⟩, e, ?_⟩
      rw [storeEntries, he]
      rfl
    | true =>
      obtain ⟨transactions, hstored⟩ :=
        storeTransaction_of_accepted hsound hregistered hfirst haccepts
      have hloop : storeEntries ingest (entry :: rest) db = storeEntries ingest rest
          { db with transactions, entries := db.entries ++ [ingest.entryRow entry] } := by
        simp only [storeEntries, hstored, ok_bind, insertEntry_of_fits hregistered hfirst hstored]
      have hnext := ih (hsound.storeEntry hregistered.batch rfl hstored)
        ⟨hregistered.reader, hregistered.batch⟩
        (fun later hlater => (hrest later hlater).next hstored (hothers later hlater)) hapart
      rw [hloop]
      refine hnext.imp (And.imp_left fun hall => ?_) (And.imp_left fun hany => ?_)
      · refine List.forall_mem_cons.mpr ⟨haccepts, fun later hlater => ?_⟩
        rw [← accepts_next hstored (hothers later hlater)]
        exact hall later hlater
      · obtain ⟨later, hlater, hrefuses⟩ := hany
        refine ⟨later, List.mem_cons_of_mem _ hlater, ?_⟩
        rw [← accepts_next hstored (hothers later hlater)]
        exact hrefuses

/-! ## The rows of a prepared request -/

/-- A sequence beyond `BIGINT` is found before anything is written. -/
theorem insertBatch_of_large (hlarge : i64Max < ingest.lastLocalSequenceNumber.value) :
    ∃ e, insertBatch db ingest = .error (.persistence e) := by
  by_cases hfirst : i64Max < ingest.firstLocalSequenceNumber.value
  · refine ⟨.numericValueOutOfRange
      "synchronization_ingest_batches.first_local_sequence_number", ?_⟩
    rw [insertBatch, sequenceToI64, if_pos hfirst]
    rfl
  · refine ⟨.numericValueOutOfRange
      "synchronization_ingest_batches.last_local_sequence_number", ?_⟩
    rw [insertBatch, sequenceToI64_ok (Nat.le_of_not_lt hfirst), sequenceToI64, if_pos hlarge]
    rfl

theorem boundedText_asStr (text : BoundedText 128) : boundedText text.asStr = true := by
  rw [boundedText, Bool.and_eq_true, decide_eq_true_eq, decide_eq_true_eq]
  exact ⟨text.sqlTrim_ne_empty, text.bounded⟩

theorem Acknowledgement.receivedAt_nonneg (acknowledgement : Acknowledgement) :
    0 ≤ acknowledgement.receivedAt := by
  have hvalid := acknowledgement.valid
  simp only [AcknowledgementDefinition.validate, validateTimestamp, bind_eq_ok,
    ite_error_eq_ok] at hvalid
  obtain ⟨-, ⟨hnonneg, -⟩, -⟩ := hvalid
  grind

section Prepared

variable {request : Request} {acknowledgement : Acknowledgement}
  (hprepared : prepare codec sha256 request acknowledgement = .ok ingest)

include hprepared

theorem length_prepared : ingest.entries.length = request.entries.length :=
  (prepare_entries hprepared).2.1.length_eq.symm

theorem batchRow_check : ingest.batchRow.check = true := by
  obtain ⟨hsubmitted, hlength, hrange, hhead, -⟩ := RequestDefinition.validate_ok.mp request.valid
  have hnonempty : 0 < request.entries.length := by
    refine List.length_pos_iff.mpr fun hnil => ?_
    rw [hnil] at hhead
    cases hhead
  have hcount := length_prepared hprepared
  have hversion := request.protocolVersion.lt
  rw [maxSynchronizationBatchEntries] at hlength
  obtain ⟨-, -, hingest⟩ := prepare_ok.mp hprepared
  rw [hingest]
  simp only [IngestBatchRow.check, PreparedIngest.batchRow, Bool.and_eq_true, decide_eq_true_eq,
    hcount]
  exact ⟨⟨⟨⟨⟨⟨⟨⟨⟨request.protocolVersion.pos, by omega⟩, boundedText_asStr request.environmentId⟩,
    boundedText_asStr request.readerSoftwareVersion⟩, request.firstLocalSequenceNumber.pos⟩,
    hrange⟩, hsubmitted⟩, Acknowledgement.receivedAt_nonneg acknowledgement⟩, hnonempty⟩, hlength⟩

theorem entryRow_check (hentry : entry ∈ ingest.entries) :
    (ingest.entryRow entry).check = true := by
  obtain ⟨hpositions, hsubmits, hresolves⟩ := prepare_entries hprepared
  obtain ⟨submitted, -, hsubmit⟩ := exists_of_forall₂ hsubmits hentry
  obtain ⟨resolved, -, hresolve⟩ := exists_of_forall₂ hresolves hentry
  have hposition : entry.entryPosition < 256 := by
    have hmem : entry.entryPosition ∈ List.range ingest.entries.length :=
      hpositions ▸ List.mem_map_of_mem hentry
    have hlength := (RequestDefinition.validate_ok.mp request.valid).2.1
    rw [List.mem_range, length_prepared hprepared] at hmem
    rw [maxSynchronizationBatchEntries] at hlength
    omega
  have hreceived : 0 ≤ entry.resolvedAt := by
    rw [hsubmit.resolvedAt]
    exact Acknowledgement.receivedAt_nonneg acknowledgement
  have hsequence := entry.localSequenceNumber.pos
  obtain ⟨houtcome, hcategory, hretry⟩ := hresolve
  rcases resolved.metadata with ⟨ho, hc, hr⟩ | ⟨category, retryAt, ho, hc, hr, hnonneg⟩ |
    ⟨category, ho | ho, hc, hr⟩
  all_goals
    rw [ho] at houtcome
    rw [hc] at hcategory
    rw [hr] at hretry
    simp_all [IngestEntryRow.check, PreparedIngest.entryRow]

theorem transactionRow_check (hentry : entry ∈ ingest.entries)
    (hobject : entry.canonicalTransactionEnvelope.isObject = true) :
    (ingest.transactionRow entry).check = true := by
  obtain ⟨-, hsubmits, -⟩ := prepare_entries hprepared
  obtain ⟨submitted, -, hsubmit⟩ := exists_of_forall₂ hsubmits hentry
  have hreceived : ingest.receivedAt = acknowledgement.receivedAt := by
    rw [(prepare_ok.mp hprepared).2.2]
  simp only [IngestTransactionRow.check, PreparedIngest.transactionRow, hobject, hreceived,
    hsubmit.resolvedAt, Bool.and_eq_true, decide_eq_true_eq]
  exact ⟨⟨⟨entry.localSequenceNumber.pos, trivial⟩,
    Acknowledgement.receivedAt_nonneg acknowledgement⟩, Int64.le_refl _⟩

theorem insertBatch_of_prepared
    (hprintable : ∀ entry ∈ request.entries, Json.Printable entry.transactionEnvelope.asStr)
    (hlast : ingest.lastLocalSequenceNumber.value ≤ i64Max)
    (hreader : (db.readerEquipment.any (·.id == ingest.readerId)) = true)
    (hfresh : ∀ row ∈ db.batches, row.batchId ≠ ingest.batchId) :
    insertBatch db ingest = .ok (db.batches ++ [ingest.batchRow]) := by
  obtain ⟨-, hlength, hrange, -⟩ := RequestDefinition.validate_ok.mp request.valid
  have hcount := length_prepared hprepared
  rw [maxSynchronizationBatchEntries] at hlength
  obtain ⟨-, -, hingest⟩ := prepare_ok.mp hprepared
  have hfirst : ingest.firstLocalSequenceNumber.value ≤ i64Max := by
    rw [hingest] at hlast ⊢
    exact hrange.trans hlast
  have hrequest : ingest.canonicalRequest = request := by rw [hingest]
  simp only [insertBatch, bind_eq_ok, guard_eq_ok, mapError_eq_ok, Table.insert_eq_ok]
  refine ⟨_, sequenceToI64_ok hfirst _, _, sequenceToI64_ok hlast _, by omega, ?_,
    batchRow_check hprepared, fun row hrow => ?_, hreader, trivial⟩
  · rw [hrequest, Request.storableAsJsonb_toJson hprintable,
      Acknowledgement.storableAsJsonb_toJson]
    decide
  · exact beq_eq_false_iff_ne.mpr (hfresh row hrow).symm

end Prepared

/-! ## The store -/

theorem IngestDatabase.any_of_operational {readerId : ReaderId}
    (h : db.operational readerId = true) : (db.readerEquipment.any (·.id == readerId)) = true := by
  unfold IngestDatabase.operational at h
  cases hfound : db.readerEquipment.find? (·.id == readerId) with
  | none =>
    rw [hfound] at h
    cases h
  | some row =>
    exact List.any_eq_true.mpr
      ⟨row, List.mem_of_find?_eq_some hfound, by simpa using List.find?_some hfound⟩

theorem PreparedIngest.WellFormed.apart (h : ingest.WellFormed) :
    ingest.entries.Pairwise PreparedIngestEntry.Apart := by
  have hpositions : (ingest.entries.map (·.entryPosition)).Nodup :=
    h.positions ▸ List.nodup_range
  have hall := ((List.pairwise_map.mp hpositions).and (List.pairwise_map.mp h.ids)).and
    (List.pairwise_map.mp h.sequences)
  exact hall.imp fun ⟨⟨hposition, hid⟩, hsequence⟩ => ⟨hposition, hid, Nat.ne_of_lt hsequence⟩

theorem Represents.entries_fresh {ledger : List PreparedIngest} (h : Represents ledger db)
    {batchId : SynchronizationBatchId} (hfresh : ∀ row ∈ db.batches, row.batchId ≠ batchId) :
    ∀ row ∈ db.entries, row.batchId ≠ batchId := by
  intro row hrow
  rw [h.entries] at hrow
  obtain ⟨ingest, hingest, hrow⟩ := List.mem_flatMap.mp hrow
  obtain ⟨entry, -, rfl⟩ := List.mem_map.mp hrow
  exact hfresh ingest.batchRow (h.batches ▸ List.mem_map_of_mem hingest)

/-- A new batch is stored unless one of its envelopes is refused. -/
theorem storeStatements_of_fits (hsound : Sound db) (hwellFormed : ingest.WellFormed)
    (hoperational : db.operational ingest.readerId = true)
    (hfresh : ∀ row ∈ db.batches, row.batchId ≠ ingest.batchId)
    (hbatch : insertBatch db ingest = .ok (db.batches ++ [ingest.batchRow]))
    (hfits : ∀ entry ∈ ingest.entries, ingest.Fits db entry) :
    ((∀ entry ∈ ingest.entries, db.accepts entry = true) ∧
      ∃ stored, storeStatements db ingest = .ok (.stored, stored)) ∨
    ((∃ entry ∈ ingest.entries, db.accepts entry = false) ∧
      ∃ e, storeStatements db ingest = .error (.persistence e)) := by
  have hnone := IngestDatabase.findBatch_eq_none.mpr hfresh
  have hregistered :
      ingest.Registered { db with batches := db.batches ++ [ingest.batchRow] } :=
    ⟨IngestDatabase.any_of_operational hoperational,
      IngestDatabase.findBatch_appended ingest.batchRow hfresh rfl⟩
  have hfits' : ∀ entry ∈ ingest.entries,
      ingest.Fits { db with batches := db.batches ++ [ingest.batchRow] } entry :=
    fun entry hentry =>
      have h := hfits entry hentry
      ⟨h.sequence, h.transactionRow, h.entryRow, h.identity, h.fresh⟩
  have hentries := storeEntries_of_fits (hsound.insertBatch ingest.batchRow) hregistered hfits'
    hwellFormed.apart
  simp only [storeStatements, validateReader_ok.mpr hoperational, ok_bind, hnone, hbatch]
  rcases hentries with ⟨haccepts, stored, hstored⟩ | ⟨hrefuses, e, herror⟩
  · exact .inl ⟨haccepts, stored, by rw [hstored]; rfl⟩
  · exact .inr ⟨hrefuses, e, by rw [herror]; rfl⟩

/-! ## The service -/

/-- Only the store writes, so the databases of the service are databases of the
store. -/
theorem serve_cases (db : IngestDatabase) (call : ServiceCall) :
    serve codec sha256 environmentId db call = db ∨ ∃ stored : StoreCall codec sha256,
      serve codec sha256 environmentId db call = storeStep db stored := by
  cases call with
  | changeStatus readerId status => exact .inr ⟨.changeStatus readerId status, rfl⟩
  | process request receivedAt =>
    unfold serve
    dsimp only
    split
    · next acknowledgement committed hprocess =>
      obtain ⟨-, built, ingest, -, hprepared, h⟩ := process_eq_ok.mp hprocess
      refine .inr ⟨.store ⟨ingest, request, built, hprepared⟩, ?_⟩
      rcases h with ⟨hstored, -⟩ | ⟨hstored, -⟩ <;> simp only [storeStep, store, hstored]
    · exact .inl rfl

theorem exists_represents_serve (readerEquipment : List ReaderEquipmentRow)
    (calls : List ServiceCall) :
    ∃ ledger, Represents ledger
      (Runs.run (serve codec sha256 environmentId) (.initial readerEquipment) calls) := by
  refine Runs.invariant (P := fun db => ∃ ledger, Represents ledger db) ?_
    ⟨[], represents_initial readerEquipment⟩ calls
  rintro db call ⟨ledger, h⟩
  rcases serve_cases db call with hsame | ⟨stored, hstored⟩
  · rw [hsame]
    exact ⟨ledger, h⟩
  · rw [hstored]
    exact ⟨_, h.step stored⟩

/-- The request was deserialized, and nothing about its version, environment,
reader, batch or transactions speaks against it. -/
structure Admissible (codec : Json.Codec) (sha256 : Sha256) (environmentId : EnvironmentId)
    (db : IngestDatabase) (request : Request) : Prop where
  deserialized : ∀ entry ∈ request.entries, ∃ value,
    CanonicalTransactionEnvelope.fromJson codec value = .ok entry.transactionEnvelope
  version : request.protocolVersion = .current
  environment : request.environmentId = environmentId
  reader : db.operational request.readerId = true
  batch : ∀ row, db.findBatch request.batchId = some row →
    row.readerId = request.readerId ∧ row.requestFingerprint = request.fingerprint sha256
  transactions : ∀ entry ∈ request.entries, ∀ row ∈ db.transactions,
    row.fareTransactionId = entry.transactionId ∨
      (row.readerId = request.readerId ∧
        row.localSequenceNumber = entry.localSequenceNumber.value) →
    row.identity = storedIdentity sha256 request entry

/-- What is new about the request fits the columns it goes to. -/
def Writable (codec : Json.Codec) (db : IngestDatabase) (request : Request) : Prop :=
  (db.findBatch request.batchId).isSome = true ∨
    (∀ entry ∈ request.entries, entry.localSequenceNumber.value ≤ i64Max) ∧
      ∀ entry ∈ request.entries, db.knows entry.transactionId = true ∨
        ∀ envelope, codec.parse entry.transactionEnvelope.asStr = some envelope →
          envelope.storableAsJsonb = true

variable {request : Request} {receivedAt : UnixMilliseconds}

theorem Admissible.acceptable (h : Admissible codec sha256 environmentId db request)
    (hrereads : codec.Rereads) : ∀ entry ∈ request.entries, ∃ envelope,
      codec.parse entry.transactionEnvelope.asStr = some envelope ∧ envelope.isObject = true := by
  intro entry hentry
  obtain ⟨value, hvalue⟩ := h.deserialized entry hentry
  exact CanonicalTransactionEnvelope.parse_asStr hrereads hvalue

/-- The entries of an admissible request fit, if its sequences do. -/
theorem Admissible.fits (h : Admissible codec sha256 environmentId db request)
    (hrereads : codec.Rereads) {acknowledgement : Acknowledgement}
    (hprepared : prepare codec sha256 request acknowledgement = .ok ingest)
    {ledger : List PreparedIngest} (hrepresents : Represents ledger db)
    (hfresh : ∀ row ∈ db.batches, row.batchId ≠ ingest.batchId)
    (hsequences : ∀ entry ∈ request.entries, entry.localSequenceNumber.value ≤ i64Max) :
    ∀ entry ∈ ingest.entries, ingest.Fits db entry := by
  intro entry hentry
  obtain ⟨-, hsubmits, -⟩ := prepare_entries hprepared
  obtain ⟨submitted, hsubmitted, hsubmit⟩ := exists_of_forall₂ hsubmits hentry
  obtain ⟨envelope, hparsed, hobject⟩ := h.acceptable hrereads submitted hsubmitted
  have henvelope : envelope = entry.canonicalTransactionEnvelope :=
    Option.some.inj (hparsed.symm.trans hsubmit.envelope)
  have hreader : ingest.readerId = request.readerId := by
    rw [(prepare_ok.mp hprepared).2.2]
  refine ⟨?_, transactionRow_check hprepared hentry (henvelope ▸ hobject),
    entryRow_check hprepared hentry, fun row hrow hmeets => ?_, fun row hrow => ?_⟩
  · rw [hsubmit.sequence]
    exact hsequences submitted hsubmitted
  · simp only [PreparedIngest.meets, Bool.or_eq_true, Bool.and_eq_true, beq_iff_eq, hreader,
      hsubmit.transactionId, hsubmit.sequence] at hmeets
    rw [h.transactions submitted hsubmitted row hrow hmeets]
    simp only [storedIdentity, PreparedIngest.identity, hsubmit.transactionId, hsubmit.sequence,
      hsubmit.fingerprint, hreader]
  · have hbatch : (ingest.entryRow entry).batchId ≠ row.batchId :=
      (hrepresents.entries_fresh hfresh row hrow).symm
    rw [IngestEntryRow.conflicts, beq_eq_false_iff_ne.mpr hbatch, Bool.false_and]

/-- All sequences fit if the last one does. -/
theorem sequences_le_iff : request.lastLocalSequenceNumber.value ≤ i64Max ↔
    ∀ entry ∈ request.entries, entry.localSequenceNumber.value ≤ i64Max := by
  obtain ⟨-, -, -, -, hlast, -, hsequences⟩ := RequestDefinition.validate_ok.mp request.valid
  obtain ⟨final, hfinal, hvalue⟩ := Option.map_eq_some_iff.mp hlast
  constructor
  · intro hle entry hentry
    obtain ⟨before, hentries⟩ := List.getLast?_eq_some_iff.mp hfinal
    rw [hentries, List.mem_append, List.mem_singleton] at hentry
    rcases hentry with hentry | rfl
    · rw [hentries, List.map_append, List.pairwise_append] at hsequences
      have hlt := hsequences.2.2 _ (List.mem_map_of_mem hentry) _
        (List.mem_map_of_mem (List.mem_singleton_self final))
      rw [← hvalue] at hle
      exact Nat.le_of_lt (Nat.lt_of_lt_of_le hlt hle)
    · rw [hvalue]
      exact hle
  · intro hall
    rw [← hvalue]
    exact hall final (List.mem_of_getLast? hfinal)

/-- The envelopes of the request are those of the prepared entries. -/
theorem accepts_iff {acknowledgement : Acknowledgement}
    (hprepared : prepare codec sha256 request acknowledgement = .ok ingest) :
    (∀ entry ∈ ingest.entries, db.accepts entry = true) ↔
      ∀ entry ∈ request.entries, db.knows entry.transactionId = true ∨
        ∀ envelope, codec.parse entry.transactionEnvelope.asStr = some envelope →
          envelope.storableAsJsonb = true := by
  obtain ⟨-, hsubmits, -⟩ := prepare_entries hprepared
  simp only [IngestDatabase.accepts, Bool.or_eq_true]
  constructor
  · intro hall submitted hsubmitted
    obtain ⟨entry, hentry, hsubmit⟩ := exists_of_forall₂ hsubmits.flip hsubmitted
    rw [← hsubmit.transactionId, hsubmit.envelope]
    exact (hall entry hentry).imp_right fun hstorable envelope heq =>
      Option.some.inj heq ▸ hstorable
  · intro hall entry hentry
    obtain ⟨submitted, hsubmitted, hsubmit⟩ := exists_of_forall₂ hsubmits hentry
    rw [hsubmit.transactionId]
    exact (hall submitted hsubmitted).imp_right fun hstorable => hstorable _ hsubmit.envelope

/-- An admissible request is stored, or the database refuses it. -/
theorem Admissible.process (h : Admissible codec sha256 environmentId db request)
    (hrereads : codec.Rereads) (hfloat : ∀ bits, Json.Printable (codec.formatFloat bits))
    {ledger : List PreparedIngest} (hrepresents : Represents ledger db)
    (hreceived : 0 ≤ receivedAt) :
    (Writable codec db request ∧ ∃ acknowledgement committed,
      process codec sha256 environmentId db request receivedAt =
        .ok (acknowledgement, committed)) ∨
    (¬Writable codec db request ∧ process codec sha256 environmentId db request receivedAt =
      .error .backendTemporarilyUnavailable) := by
  obtain ⟨built, hbuilt⟩ := exists_buildAcknowledgement request hreceived
  have henvelopes : ∀ entry ∈ request.entries,
      (codec.parse entry.transactionEnvelope.asStr).isSome = true := by
    intro entry hentry
    obtain ⟨envelope, hparsed, -⟩ := h.acceptable hrereads entry hentry
    rw [hparsed]
    rfl
  obtain ⟨ingest, hprepared⟩ : ∃ ingest, prepare codec sha256 request built = .ok ingest :=
    exists_prepare (buildAcknowledgement_fits hbuilt) henvelopes
  have hcontext := validateRequestContext_ok.mpr ⟨h.version, h.environment⟩
  obtain ⟨-, -, hingest⟩ := prepare_ok.mp hprepared
  have hreader : ingest.readerId = request.readerId := by rw [hingest]
  have hbatchId : ingest.batchId = request.batchId := by rw [hingest]
  have hlast : ingest.lastLocalSequenceNumber = request.lastLocalSequenceNumber := by rw [hingest]
  have hfingerprint : ingest.requestFingerprint = request.fingerprint sha256 := by rw [hingest]
  have hoperational : db.operational ingest.readerId = true := hreader ▸ h.reader
  have hrefused : ∀ {e}, storeStatements db ingest = .error (.persistence e) →
      Backend.process codec sha256 environmentId db request receivedAt =
        .error .backendTemporarilyUnavailable := by
    intro e he
    simp only [Backend.process, hcontext, hbuilt, hprepared, he, Except.mapError, ok_bind]
    rfl
  cases hfound : db.findBatch request.batchId with
  | some row =>
    -- a replay asks nothing of the columns
    refine .inl ⟨.inl (by rw [hfound]; rfl), ?_⟩
    have hstored := storeStatements_of_found hoperational (hbatchId ▸ hfound)
    rw [hreader, hfingerprint, if_pos (h.batch row hfound)] at hstored
    exact ⟨_, db, process_eq_ok.mpr
      ⟨hcontext, built, ingest, hbuilt, hprepared, .inr ⟨hstored, row, hfound, rfl⟩⟩⟩
  | none =>
    have hfresh : ∀ row ∈ db.batches, row.batchId ≠ ingest.batchId :=
      hbatchId ▸ IngestDatabase.findBatch_eq_none.mp hfound
    have hwritable : Writable codec db request ↔
        (∀ entry ∈ request.entries, entry.localSequenceNumber.value ≤ i64Max) ∧
          ∀ entry ∈ ingest.entries, db.accepts entry = true := by
      rw [accepts_iff hprepared, Writable, hfound]
      simp
    rw [hwritable, ← sequences_le_iff, ← hlast]
    by_cases hsequences : ingest.lastLocalSequenceNumber.value ≤ i64Max
    · have hprintable : ∀ entry ∈ request.entries,
          Json.Printable entry.transactionEnvelope.asStr := by
        intro entry hentry
        obtain ⟨value, hvalue⟩ := h.deserialized entry hentry
        exact CanonicalTransactionEnvelope.printable hfloat hvalue
      have hbatch := insertBatch_of_prepared hprepared hprintable hsequences
        (IngestDatabase.any_of_operational hoperational) hfresh
      have hfits := h.fits hrereads hprepared hrepresents hfresh
        (sequences_le_iff.mp (hlast ▸ hsequences))
      have hwellFormed := Ingest.wellFormed ⟨ingest, request, built, hprepared⟩
      rcases storeStatements_of_fits hrepresents.sound hwellFormed hoperational hfresh hbatch
        hfits with ⟨haccepts, stored, hstored⟩ | ⟨⟨entry, hentry, hrefuses⟩, e, he⟩
      · exact .inl ⟨⟨hsequences, haccepts⟩, built, stored, process_eq_ok.mpr
          ⟨hcontext, built, ingest, hbuilt, hprepared, .inl ⟨hstored, rfl⟩⟩⟩
      · refine .inr ⟨fun hall => ?_, hrefused he⟩
        rw [hall.2 entry hentry] at hrefuses
        cases hrefuses
    · obtain ⟨e, he⟩ : ∃ e, insertBatch db ingest = .error (.persistence e) :=
        insertBatch_of_large (Nat.lt_of_not_le hsequences)
      refine .inr ⟨fun hall => hsequences hall.1, hrefused (e := e) ?_⟩
      simp only [storeStatements, validateReader_ok.mpr hoperational, ok_bind,
        IngestDatabase.findBatch_eq_none.mpr hfresh, he]
      rfl

/-- In every reachable state the service commits an admissible request exactly
if its new values fit their columns, and answers with the temporary error
otherwise. -/
theorem process_commits_iff (hrereads : codec.Rereads)
    (hfloat : ∀ bits, Json.Printable (codec.formatFloat bits))
    (readerEquipment : List ReaderEquipmentRow) (calls : List ServiceCall) :
    let db := Runs.run (serve codec sha256 environmentId) (.initial readerEquipment) calls
    ∀ request receivedAt, 0 ≤ receivedAt → Admissible codec sha256 environmentId db request →
      ((∃ acknowledgement committed, process codec sha256 environmentId db request receivedAt =
          .ok (acknowledgement, committed)) ↔ Writable codec db request) ∧
      (process codec sha256 environmentId db request receivedAt =
          .error .backendTemporarilyUnavailable ↔ ¬Writable codec db request) := by
  intro db request receivedAt hreceived hadmissible
  obtain ⟨ledger, hrepresents⟩ : ∃ ledger, Represents ledger db :=
    exists_represents_serve readerEquipment calls
  rcases hadmissible.process hrereads hfloat hrepresents hreceived with
    ⟨hwritable, acknowledgement, committed, hok⟩ | ⟨hnot, herror⟩
  · refine ⟨⟨fun _ => hwritable, fun _ => ⟨acknowledgement, committed, hok⟩⟩, ?_⟩
    rw [hok]
    exact ⟨nofun, fun hnot => absurd hwritable hnot⟩
  · refine ⟨⟨?_, fun hwritable => absurd hwritable hnot⟩, ⟨fun _ => hnot, fun _ => herror⟩⟩
    rw [herror]
    rintro ⟨_, _, h⟩
    cases h

/-- `sampleRequest` with another sequence. -/
def sampleRequestAt (sequence : LocalSequenceNumber) : Request where
  protocolVersion := .current
  environmentId := sampleEnvironmentId
  readerId := sampleReaderId
  readerSoftwareVersion := sampleSoftwareVersion
  batchId := sampleBatchId
  firstLocalSequenceNumber := sequence
  lastLocalSequenceNumber := sequence
  submittedAt := 2
  entries := [⟨sampleTransactionId, sequence, sampleEnvelope⟩]
  valid := RequestDefinition.validate_ok.mpr (by simp [maxSynchronizationBatchEntries])

theorem sampleRequestAt_admissible (sequence : LocalSequenceNumber) :
    Admissible sampleCodec Sha256.digest sampleEnvironmentId sampleBackend
      (sampleRequestAt sequence) := by
  have hreader : sampleBackend.operational sampleReaderId = true := by decide
  refine ⟨?_, rfl, rfl, hreader, nofun, fun _ _ row hrow => absurd hrow List.not_mem_nil⟩
  intro entry hentry
  rw [List.mem_singleton.mp hentry]
  exact ⟨"\x7b\x7d", sampleEnvelope_fromJson⟩

theorem process_commits_first :
    ∃ acknowledgement committed, process sampleCodec Sha256.digest sampleEnvironmentId
      sampleBackend (sampleRequestAt ⟨1, by decide, by decide⟩) 5 =
        .ok (acknowledgement, committed) := by
  refine (process_commits_iff sampleCodec_reprints.rereads sampleCodec_printable
    [⟨sampleReaderId, .active⟩] [] (sampleRequestAt ⟨1, by decide, by decide⟩) 5 (by decide)
    (sampleRequestAt_admissible _)).1.mpr (.inr ⟨?_, ?_⟩)
  · intro entry hentry
    rw [List.mem_singleton.mp hentry]
    decide
  · intro entry hentry
    rw [List.mem_singleton.mp hentry]
    refine .inr fun envelope henvelope => ?_
    obtain rfl := Option.some.inj (sampleCodec_parse.symm.trans henvelope)
    rfl

theorem process_of_large_sequence_refused :
    ¬∀ (calls : List ServiceCall) (request : Request) (receivedAt : UnixMilliseconds),
      0 ≤ receivedAt →
      Admissible sampleCodec Sha256.digest sampleEnvironmentId
        (Runs.run (serve sampleCodec Sha256.digest sampleEnvironmentId)
          (.initial [⟨sampleReaderId, .active⟩]) calls) request →
      ∃ acknowledgement committed,
        process sampleCodec Sha256.digest sampleEnvironmentId
          (Runs.run (serve sampleCodec Sha256.digest sampleEnvironmentId)
            (.initial [⟨sampleReaderId, .active⟩]) calls) request receivedAt =
          .ok (acknowledgement, committed) := by
  intro hall
  obtain ⟨acknowledgement, committed, hok⟩ := hall []
    (sampleRequestAt ⟨2 ^ 63, by decide, by decide⟩) 5 (by decide) (sampleRequestAt_admissible _)
  have herror : (process sampleCodec Sha256.digest sampleEnvironmentId sampleBackend
      (sampleRequestAt ⟨2 ^ 63, by decide, by decide⟩) 5).isOk = false := by decide +kernel
  rw [Runs.run_nil] at hok
  change process sampleCodec Sha256.digest sampleEnvironmentId sampleBackend _ _ = _ at hok
  rw [hok] at herror
  cases herror

end TransitGuard.Backend
