import TransitGuard.Reader.Storable

/-!
Acknowledgements that are stored and wait for their application. Storing and
applying are two transactions, and in between anything can happen to the batch:
a restart makes it retryable, and a final failure closes it for good without a
look at the acknowledgement.
-/

namespace TransitGuard.Reader

open Fallible

variable {codec : Json.Codec} {db db' : ReaderDatabase} {op : Operation}
  {reader : ReaderStateRow} {t : UnixMilliseconds}

/-! ## The application of a waiting acknowledgement -/

/-- The scan behind the mark ends below the next sequence. -/
theorem QueueInvariant.contiguous_ok (inv : QueueInvariant reader db)
    {transactions : List OfflineTransactionRow}
    (hsequences : transactions.map (·.localSequenceNumber) =
      db.offlineTransactions.map (·.localSequenceNumber)) :
    ∃ advanced, contiguousResolvedSequence reader.lastAcknowledgedSequence
        (Table.orderBy (·.localSequenceNumber) (transactions.filter fun row =>
          row.readerId == reader.readerId &&
            reader.lastAcknowledgedSequence < row.localSequenceNumber)) = .ok advanced ∧
      advanced < reader.nextLocalSequence := by
  have hnext := inv.next_le
  have hmark := ReaderStateRow.check_acknowledged_lt inv.readerCheck
  have hbounds : ∀ row ∈ transactions,
      1 ≤ row.localSequenceNumber ∧ row.localSequenceNumber < reader.nextLocalSequence := by
    intro row hrow
    have hmem := List.mem_map_of_mem (f := (·.localSequenceNumber)) hrow
    rw [hsequences, inv.sequences, List.mem_range'_1] at hmem
    omega
  unfold i64Max at hnext
  rw [contiguousResolvedSequence, if_neg (by omega)]
  generalize hrows : Table.orderBy (·.localSequenceNumber) (transactions.filter fun row =>
    row.readerId == reader.readerId &&
      reader.lastAcknowledgedSequence < row.localSequenceNumber) = rows
  have hscanned : ∀ row ∈ rows,
      1 ≤ row.localSequenceNumber ∧ row.localSequenceNumber < reader.nextLocalSequence := by
    intro row hrow
    rw [← hrows] at hrow
    exact hbounds row (List.mem_of_mem_filter (Table.mem_orderBy.mp hrow))
  obtain ⟨advanced, hscan, hend⟩ : ∃ advanced, contiguousFrom reader.lastAcknowledgedSequence
      (reader.lastAcknowledgedSequence + 1) rows = .ok advanced ∧ _ :=
    contiguousFrom_ok fun row hrow => by
      have hbound := hscanned row hrow
      omega
  refine ⟨advanced, hscan, ?_⟩
  rcases hend with rfl | ⟨row, hrow, rfl⟩
  · exact hmark
  · exact (hscanned row hrow).2

theorem ReaderStateRow.advance_check (h : reader.check = true) {advanced : Nat}
    (hadvanced : advanced < reader.nextLocalSequence) :
    (reader.advance advanced t).check = true := by
  simp only [check, advance, Bool.and_eq_true, decide_eq_true_eq, UnixMilliseconds.max_def] at h ⊢
  grind

theorem QueueInvariant.advanceReader_ok (inv : QueueInvariant reader db) {advanced : Nat}
    (hadvanced : advanced < reader.nextLocalSequence) (t : UnixMilliseconds) :
    ∃ readerState, advanceReader db.readerState reader.readerId reader.lastAcknowledgedSequence
      advanced t = .ok readerState := by
  by_cases hle : advanced ≤ reader.lastAcknowledgedSequence
  · exact ⟨db.readerState, if_pos hle⟩
  · have hnext := inv.next_le
    exact ⟨some (reader.advance advanced t), Reader.advanceReader_ok.mpr (.inr
      ⟨Nat.lt_of_not_le hle, by omega, reader, inv.bound, rfl, by omega, hadvanced,
        ReaderStateRow.advance_check inv.readerCheck hadvanced, rfl⟩)⟩

theorem SynchronizationAcknowledgementRow.apply_check {row : SynchronizationAcknowledgementRow}
    (h : row.check = true) (hreceived : row.receivedAt ≤ t) :
    SynchronizationAcknowledgementRow.check { row with appliedAt := some t } = true := by
  simp only [SynchronizationAcknowledgementRow.check, Bool.and_eq_true, decide_eq_true_eq,
    Option.all_some] at h ⊢
  exact ⟨h.1, hreceived⟩

section Applies

variable {batch : SynchronizationBatchRow} (hbatch : batch ∈ db.synchronizationBatches)
  (hupdated : batch.updatedAt ≤ t) {acknowledgement : SynchronizationAcknowledgementRow}
  (hrow : acknowledgement ∈ db.synchronizationAcknowledgements)
  (hid : acknowledgement.batchId = batch.batchId) (hunapplied : acknowledgement.appliedAt = none)
  (hreceived : acknowledgement.receivedAt ≤ t)
include hbatch hupdated hrow hid hunapplied hreceived

/-- Once the queue is updated, nothing else can stop the application of an
acknowledgement to a batch in flight. -/
theorem Consistent.applyStatements_ok (inv : Consistent reader db)
    (hrecorded : Recorded codec db) (hflight : batch.batchState = .inFlight)
    {entries : List DecodedAcknowledgementEntry} {transactions : List OfflineTransactionRow}
    (hentries : applyEntries reader.readerId t entries db.offlineTransactions = .ok transactions) :
    ∃ out, applyStatements db reader.readerId batch.batchId t entries
      reader.lastAcknowledgedSequence = .ok out := by
  obtain ⟨advanced, hscan, hadvanced⟩ := inv.queue.contiguous_ok
    (Table.map_updateEach hentries fun _ _ => rfl)
  obtain ⟨readerState, hadvance⟩ := inv.queue.advanceReader_ok hadvanced t
  have hcompleted : db.synchronizationBatches.countP
      (fun row => row.named reader.readerId batch.batchId && row.inFlightBy t) = 1 := by
    refine (Table.countP_eq_one_iff inv.batches.ids
      fun row _ hp => (?_ : row.batchId = batch.batchId)).mpr ⟨batch, hbatch, ?_⟩
    · simp only [SynchronizationBatchRow.named, Bool.and_eq_true, beq_iff_eq] at hp
      exact hp.1.1
    · simp [SynchronizationBatchRow.named, SynchronizationBatchRow.inFlightBy, hflight, hupdated,
        inv.batches.owned batch hbatch]
  have hmarked : db.synchronizationAcknowledgements.countP (fun row =>
      row.batchId == batch.batchId && row.readerId == reader.readerId && row.appliedAt.isNone) =
        1 := by
    refine (Table.countP_eq_one_iff inv.acknowledgements.ids
      fun row _ hp => (?_ : row.batchId = batch.batchId)).mpr ⟨acknowledgement, hrow, ?_⟩
    · simp only [Bool.and_eq_true, beq_iff_eq] at hp
      exact hp.1.1
    · simp [hid, hunapplied, inv.acknowledgements.owned acknowledgement hrow]
  simp only [applyStatements, bind_eq_ok, orFail_eq_ok, guard_eq_ok, Table.update_eq_some,
    Prod.exists, Prod.mk.injEq, ne_eq, not_not]
  refine ⟨advanced, _, batch, inv.batches.findBatch hbatch, hflight, transactions, hentries, _, _,
    ⟨fun row hbatchRow hp => ?_, rfl, rfl⟩, hcompleted, advanced, hscan, readerState, hadvance,
    _, _, ⟨fun row hackRow hp => ?_, rfl, rfl⟩, hmarked, rfl⟩
  · simp only [SynchronizationBatchRow.inFlightBy, Bool.and_eq_true, decide_eq_true_eq] at hp
    exact SynchronizationBatchRow.leave_check (inv.batches.valid row hbatchRow).check hp.2.2
  · simp only [Bool.and_eq_true, beq_iff_eq] at hp
    have hsame := Table.eq_of_key_eq inv.acknowledgements.ids hackRow hrow
      (hp.1.1.trans hid.symm)
    rw [hsame]
    exact SynchronizationAcknowledgementRow.apply_check (hrecorded.checks _ hrow) hreceived

/-- A waiting acknowledgement of an open batch with all its transactions in
flight can be applied exactly while the batch itself is in flight. -/
theorem Consistent.apply_ok_iff (inv : Consistent reader db) (hrecorded : Recorded codec db)
    (hall : db.AllInFlight reader.readerId batch.batchId)
    (hlate : ∀ row ∈ db.offlineTransactions,
      db.inBatch reader.readerId batch.batchId row = true → row.updatedAt ≤ t) :
    (∃ application, (applySynchronizationAcknowledgement db reader.readerId batch.batchId
      t).result = .ok application) ↔ batch.batchState = .inFlight := by
  obtain ⟨origin, hrecords⟩ := hrecorded.origin acknowledgement hrow
  have hdecoded := hrecords.decode inv
  have hfound := inv.acknowledgements.findAcknowledgement hrow
  have hnonneg : 0 ≤ acknowledgement.receivedAt := by
    have horigin : acknowledgement.receivedAt = origin.receivedAt :=
      congrArg (·.receivedAt) hrecords.columns
    rw [horigin]
    exact origin.valid_parts.1
  rw [hid] at hdecoded hfound
  constructor
  · rintro ⟨application, happlication⟩
    obtain ⟨db', hbody, -⟩ := transact_of_ok happlication
    simp only [bind_eq_ok, orFail_eq_ok, guard_eq_ok, hfound, Option.some.injEq,
      exists_eq_left', hunapplied, ite_error_eq_ok, applyStatements, Prod.exists, ne_eq,
      not_not] at hbody
    obtain ⟨-, -, -, entries, -, -, _, -, -, _, _, ⟨row, hrow', hflight, -⟩, -⟩ := hbody
    rw [inv.batches.findBatch hbatch, Option.some.injEq] at hrow'
    rw [hrow']
    exact hflight
  · intro hflight
    have hentries := inv.applyEntries_ok hbatch hall hlate hfound hnonneg hdecoded
    obtain ⟨⟨advanced, committed⟩, hstatements⟩ := inv.applyStatements_ok hbatch hupdated hrow hid
      hunapplied hreceived hrecorded hflight hentries
    have hnonempty : origin.decoded.isEmpty = false := by
      rw [SynchronizationAcknowledgement.decoded, List.isEmpty_map]
      simpa using origin.valid_parts.2.1
    refine ⟨⟨batch.batchId, true, t, resolutionCounts origin.decoded, advanced⟩, ?_⟩
    refine congrArg Outcome.result (transact_eq (?_ : _ = Except.ok (_, committed)))
    simp only [bind_eq_ok, orFail_eq_ok, guard_eq_ok, hfound, Option.some.injEq,
      exists_eq_left', hunapplied, ite_error_eq_ok, Prod.exists, hdecoded, Except.ok.injEq,
      hnonempty, inv.queue.bound, Option.filter_some]
    refine ⟨(), validateTime_ok.mpr (by grind), by grind, by simp, reader, by simp, by grind,
      advanced, committed, hstatements, rfl⟩

end Applies

/-- In every database reached by operations on whole batches, a waiting
acknowledgement of an open batch can be applied, at any time late enough,
exactly while the batch is in flight. -/
theorem acknowledgement_applicable_iff {db₀ : ReaderDatabase} (h : FreshlyBound db₀)
    (ops : List Operation) (hops : ∀ op ∈ ops, op.onTransaction = false) :
    let db := Runs.run (perform codec) db₀ ops
    ∀ readerId batchId batch acknowledgement t,
      db.findBatch readerId batchId = some batch → batch.batchState.isOpen = true →
      db.findAcknowledgement readerId batchId = some acknowledgement →
      acknowledgement.appliedAt = none → acknowledgement.receivedAt ≤ t → batch.updatedAt ≤ t →
      (∀ row ∈ db.offlineTransactions,
        db.inBatch readerId batchId row = true → row.updatedAt ≤ t) →
      ((∃ application, (applySynchronizationAcknowledgement db readerId batchId t).result =
        .ok application) ↔ batch.batchState = .inFlight) := by
  intro db readerId batchId batch acknowledgement t hfound hopen hstored hunapplied hreceived
    hupdated hlate
  obtain ⟨reader, inv⟩ : ∃ reader, Consistent reader db := consistent_run h ops
  have hheld : db.Held := held_run h (Runs.stepsMeet_mono
    (fun _ _ => Operation.sparesOpenBatches_of_not_onTransaction)
    (Runs.stepsMeet_of_forall db₀ ops hops))
  obtain ⟨hbatch, rfl, rfl⟩ := ReaderDatabase.findBatch_eq_some hfound
  obtain ⟨hrow, hid, -⟩ := ReaderDatabase.findAcknowledgement_eq_some hstored
  have howner := inv.batches.owned batch hbatch
  rw [howner] at hlate ⊢
  exact inv.apply_ok_iff hbatch hupdated hrow hid hunapplied hreceived (recorded_run h ops)
    (inv.allInFlight hheld hbatch hopen) hlate

/-- The sample batch, acknowledged in full. -/
def sampleAcknowledgement : SynchronizationAcknowledgement where
  readerId := sampleReaderId
  batchId := sampleBatchId
  protocolVersion := .current
  firstLocalSequenceNumber := .first
  lastLocalSequenceNumber := .first
  receivedAt := 3
  entries := [⟨sampleTransactionId, .first, .acknowledged⟩]
  valid := by decide

/-- The sample batch is submitted and its acknowledgement stored. -/
def sampleStored : List Operation :=
  sampleSubmission ++ [.storeAcknowledgement sampleAcknowledgement]

theorem perform_storeAcknowledgement (codec : Json.Codec) (db : ReaderDatabase)
    (acknowledgement : SynchronizationAcknowledgement) :
    perform codec db (.storeAcknowledgement acknowledgement) =
      (storeSynchronizationAcknowledgement codec db acknowledgement).database := rfl

theorem sampleInFlight_store :
    storeSynchronizationAcknowledgement sampleCodec sampleInFlight sampleAcknowledgement =
      ⟨sampleInFlight.withAcknowledgement sampleCodec sampleAcknowledgement,
        .ok ⟨sampleAcknowledgement, false⟩⟩ := by
  obtain ⟨reader, inv⟩ : ∃ reader, Consistent reader sampleInFlight := by
    rw [← sampleSubmission_run]
    exact consistent_run sampleDatabase_freshlyBound sampleSubmission
  exact inv.store_eq (List.mem_singleton_self sampleSubmitted) rfl (by decide)
    ⟨rfl, rfl, rfl, rfl, rfl, rfl⟩ (by decide) (by decide)

theorem sampleStored_run :
    Runs.run (perform sampleCodec) sampleDatabase sampleStored =
      sampleInFlight.withAcknowledgement sampleCodec sampleAcknowledgement := by
  rw [sampleStored, Runs.run_append, sampleSubmission_run, Runs.run_cons, Runs.run_nil,
    perform_storeAcknowledgement, sampleInFlight_store]

theorem acknowledgement_applicable_iff_stored :
    (∀ op ∈ sampleStored, op.onTransaction = false) ∧
      ∃ application, (applySynchronizationAcknowledgement
        (Runs.run (perform sampleCodec) sampleDatabase sampleStored) sampleReaderId sampleBatchId
        4).result = .ok application := by
  refine ⟨by decide, (acknowledgement_applicable_iff sampleDatabase_freshlyBound sampleStored
    (by decide) sampleReaderId sampleBatchId sampleSubmitted
    (sampleAcknowledgement.toRow sampleCodec) 4 ?_ rfl ?_ rfl (by decide) (by decide) ?_).mpr rfl⟩
  · rw [sampleStored_run]
    rfl
  · rw [sampleStored_run]
    rfl
  · rw [sampleStored_run]
    decide

/-- The recovery that runs after a restart takes the batch out of flight, and
the acknowledgement stored before can no longer be applied. -/
theorem acknowledgement_stranded_by_recovery :
    ¬∀ (db₀ : ReaderDatabase) (ops : List Operation), FreshlyBound db₀ →
      (∀ op ∈ ops, op.onTransaction = false) →
      ∀ readerId batchId batch acknowledgement t,
        (Runs.run (perform sampleCodec) db₀ ops).findBatch readerId batchId = some batch →
        batch.batchState.isOpen = true →
        (Runs.run (perform sampleCodec) db₀ ops).findAcknowledgement readerId batchId =
          some acknowledgement →
        acknowledgement.appliedAt = none → acknowledgement.receivedAt ≤ t →
        batch.updatedAt ≤ t →
        (∀ row ∈ (Runs.run (perform sampleCodec) db₀ ops).offlineTransactions,
          (Runs.run (perform sampleCodec) db₀ ops).inBatch readerId batchId row = true →
            row.updatedAt ≤ t) →
        ∃ application, (applySynchronizationAcknowledgement
          (Runs.run (perform sampleCodec) db₀ ops) readerId batchId t).result =
            .ok application := by
  intro hclaim
  -- the reader restarts between storing and applying
  have hrestarted : Runs.run (perform sampleCodec) sampleDatabase
      (sampleStored ++ [.recoverBatches sampleReaderId 4]) =
        perform sampleCodec (sampleInFlight.withAcknowledgement sampleCodec sampleAcknowledgement)
          (.recoverBatches sampleReaderId 4) := by
    rw [Runs.run_append, sampleStored_run]
    rfl
  obtain ⟨application, happlied⟩ := hclaim sampleDatabase
    (sampleStored ++ [.recoverBatches sampleReaderId 4]) sampleDatabase_freshlyBound (by decide)
    sampleReaderId sampleBatchId
    (sampleSubmitted.leave .retryableFailure (some 4) (some restartFailureCategory) 4)
    (sampleAcknowledgement.toRow sampleCodec) 5 (by rw [hrestarted]; decide +kernel) rfl
    (by rw [hrestarted]; rfl) rfl (by decide) (by decide) (by rw [hrestarted]; decide +kernel)
  have hrefused : (applySynchronizationAcknowledgement
      (perform sampleCodec (sampleInFlight.withAcknowledgement sampleCodec sampleAcknowledgement)
        (.recoverBatches sampleReaderId 4)) sampleReaderId sampleBatchId 5).result =
          .error (.batchNotInFlight sampleBatchId) := by decide +kernel
  rw [hrestarted, hrefused] at happlied
  cases happlied

/-! ## Waiting acknowledgements over a run -/

/-- Every acknowledgement that waits for its application has an open batch. -/
def ReaderDatabase.WaitsOpen (db : ReaderDatabase) : Prop :=
  ∀ acknowledgement ∈ db.synchronizationAcknowledgements, acknowledgement.appliedAt = none →
    db.IsOpen acknowledgement.batchId

/-- The call fails a batch for good while an acknowledgement of it waits. -/
def Operation.discardsWaiting (db : ReaderDatabase) : Operation → Bool
  | .failBatch readerId batchId category t _ =>
    Text.trim category != "" &&
      db.synchronizationBatches.any (fun batch =>
        batch.named readerId batchId && batch.inFlightBy t) &&
      db.offlineTransactions.countP (db.inFlightEntry readerId batchId t) ==
        (db.batchEntries readerId batchId).length &&
      db.synchronizationAcknowledgements.any fun acknowledgement =>
        acknowledgement.batchId == batchId && acknowledgement.appliedAt.isNone
  | _ => false

/-- A batch leaves the open states only through a final failure or an
application. -/
theorem Consistent.isOpen_step (inv : Consistent reader db) (h : Committed codec db op db')
    {batchId : SynchronizationBatchId} (hopen : db.IsOpen batchId) :
    db'.IsOpen batchId ∨
      (∃ readerId category t target, op = .failBatch readerId batchId category t target) ∨
      ∃ readerId t, op = .applyAcknowledgement readerId batchId t := by
  have hcommitted := h
  cases h with
  | bind | enqueue | markTransaction | retryTransaction | failTransaction | recoverQueue |
    storeAcknowledgement => exact .inl hopen
  | createBatch =>
    obtain ⟨row, hrow, hid, hstate⟩ := hopen
    exact .inl ⟨row, List.mem_append_left _ hrow, hid, hstate⟩
  | markBatch => exact .inl ((hcommitted.steady_markBatch.isOpen batchId).mpr hopen)
  | retryBatch =>
    refine .inl (((Steady.of_batches fun row hrow => ?_).isOpen batchId).mpr hopen)
    rw [Bool.and_eq_true] at hrow
    exact hrow.2
  | recoverBatches =>
    refine .inl (((Steady.of_batches fun row hrow => ?_).isOpen batchId).mpr hopen)
    rw [Bool.and_eq_true] at hrow
    exact hrow.2
  | @failBatch readerId failed category t target =>
    by_cases hid : batchId = failed
    · exact .inr (.inl ⟨readerId, category, t, target, by rw [hid]⟩)
    · exact .inl (((inv.closes_failBatch hcommitted).isOpen batchId).mpr ⟨hopen, hid⟩)
  | @applyAcknowledgement readerId applied t =>
    by_cases hid : batchId = applied
    · exact .inr (.inr ⟨readerId, t, by rw [hid]⟩)
    · exact .inl (((inv.closes_apply hcommitted).isOpen batchId).mpr ⟨hopen, hid⟩)

/-- A waiting acknowledgement waited before the step, or was just stored for a
batch in flight. -/
theorem Committed.waiting_origin (h : Committed codec db op db')
    {row' : SynchronizationAcknowledgementRow}
    (hrow' : row' ∈ db'.synchronizationAcknowledgements) (hunapplied : row'.appliedAt = none) :
    row' ∈ db.synchronizationAcknowledgements ∨ db'.IsOpen row'.batchId := by
  cases h with
  | @storeAcknowledgement acknowledgement _ batch _ _ found inFlight _ _ _ =>
    rcases List.mem_append.mp hrow' with hrow | hrow
    · exact .inl hrow
    · obtain ⟨hbatch, hid, -⟩ := ReaderDatabase.findBatch_eq_some found
      rw [List.mem_singleton] at hrow
      rw [hrow]
      exact .inr ⟨batch, hbatch, hid, by rw [inFlight]; rfl⟩
  | applyAcknowledgement =>
    obtain ⟨row, hrow, rfl⟩ := Table.mem_updateWhere.mp hrow'
    split at hunapplied
    · cases hunapplied
    · next hother =>
      rw [if_neg hother]
      exact .inl hrow
  | _ => exact .inl hrow'

/-- After the application no acknowledgement of the batch waits. -/
theorem Consistent.applied_of_apply (inv : Consistent reader db) {readerId : ReaderId}
    {batchId : SynchronizationBatchId}
    (h : Committed codec db (.applyAcknowledgement readerId batchId t) db')
    {row' : SynchronizationAcknowledgementRow}
    (hrow' : row' ∈ db'.synchronizationAcknowledgements) (hid : row'.batchId = batchId) :
    row'.appliedAt ≠ none := by
  cases h with
  | applyAcknowledgement found =>
    obtain ⟨hmem, -, howner⟩ := ReaderDatabase.findAcknowledgement_eq_some found
    obtain ⟨row, hrow, rfl⟩ := Table.mem_updateWhere.mp hrow'
    have hreader : row.readerId = readerId := by
      rw [← howner, inv.acknowledgements.owned _ hmem, inv.acknowledgements.owned row hrow]
    split
    · exact Option.some_ne_none _
    · next hother =>
      intro hnone
      rw [if_neg hother] at hid
      simp [hid, hreader, hnone] at hother

theorem Consistent.waitsOpen_step (inv : Consistent reader db) (h : Committed codec db op db')
    (hop : op.discardsWaiting db = false) (hwaits : db.WaitsOpen) : db'.WaitsOpen := by
  intro row' hrow' hunapplied
  rcases h.waiting_origin hrow' hunapplied with hrow | hopen
  · rcases inv.isOpen_step h (hwaits row' hrow hunapplied) with hopen |
      ⟨readerId, category, t, target, rfl⟩ | ⟨readerId, t, rfl⟩
    · exact hopen
    · -- the failure committed, so only the waiting acknowledgement can have been overlooked
      cases h with
      | failBatch _ one _ all category =>
        obtain ⟨batch, hbatch, hselected⟩ := List.countP_pos_iff.mp (one ▸ Nat.one_pos)
        refine absurd hop (Bool.not_eq_false _ ▸ ?_)
        simp only [Operation.discardsWaiting, Bool.and_eq_true, bne_iff_ne, beq_iff_eq,
          List.any_eq_true]
        exact ⟨⟨⟨category, batch, hbatch, by simpa using hselected⟩, all⟩, row', hrow, by
          simp [hunapplied]⟩
    · exact absurd hunapplied (inv.applied_of_apply h hrow' rfl)
  · exact hopen

/-- A final failure that discards a waiting acknowledgement closes its batch. -/
theorem Consistent.not_waitsOpen_of_discards (inv : Consistent reader db)
    (hop : op.discardsWaiting db = true) : ¬(Reader.perform codec db op).WaitsOpen := by
  cases op with
  | failBatch readerId batchId category t target =>
    simp only [Operation.discardsWaiting, Bool.and_eq_true, bne_iff_ne, beq_iff_eq] at hop
    obtain ⟨⟨⟨hcategory, hbatch⟩, hall⟩, hwaiting⟩ := hop
    obtain ⟨batch, hmem, hselected⟩ := List.any_eq_true.mp hbatch
    obtain ⟨acknowledgement, hrow, hack⟩ := List.any_eq_true.mp hwaiting
    simp only [Bool.and_eq_true, beq_iff_eq, Option.isNone_iff_eq_none] at hack
    have hnamed := hselected
    simp only [SynchronizationBatchRow.named, Bool.and_eq_true, beq_iff_eq] at hnamed
    have howner : readerId = reader.readerId := by
      rw [← hnamed.1.2, inv.batches.owned batch hmem]
    have hone : db.synchronizationBatches.countP
        (fun row => row.named readerId batchId && row.inFlightBy t) = 1 := by
      refine (Table.countP_eq_one_iff inv.batches.ids
        fun row _ hp => (?_ : row.batchId = batchId)).mpr ⟨batch, hmem, hselected⟩
      simp only [SynchronizationBatchRow.named, Bool.and_eq_true, beq_iff_eq] at hp
      exact hp.1.1
    obtain ⟨row, hqueued, hentry⟩ : ∃ row ∈ db.offlineTransactions,
        db.inFlightEntry readerId batchId t row = true := by
      have hfirst := (inv.batches.holds batch hmem).first
      rw [← List.countP_pos_iff, hall, howner, inv.batches.batchEntries_eq, ← hnamed.1.1]
      cases hentries : db.entriesOf batch.batchId with
      | nil =>
        rw [hentries] at hfirst
        cases hfirst
      | cons entry rest => exact Nat.succ_pos _
    have hdatabase : ∀ transition, (recordFinalSynchronizationFailure db readerId batchId category
        t target transition).database = _ := fun transition =>
      inv.failBatch_database hqueued hentry hcategory hbatch hall
    have hperform : ∃ transition, Reader.perform codec db
        (.failBatch readerId batchId category t target) =
          (recordFinalSynchronizationFailure db readerId batchId category t target
            transition).database := by
      cases target with
      | permanentFailure => exact ⟨_, rfl⟩
      | manualReview => exact ⟨_, rfl⟩
    obtain ⟨transition, hperform⟩ := hperform
    rw [hperform, hdatabase transition]
    intro hwaits
    have hclosed : target.batchState.isOpen = false := by cases target <;> rfl
    have hopen := hwaits acknowledgement hrow hack.2
    rw [hack.1] at hopen
    exact (((inv.batches.isOpen_leave hclosed hone rfl).2.2 batchId).mp hopen).2 rfl
  | _ => cases hop

theorem FreshlyBound.waitsOpen (h : FreshlyBound db) : db.WaitsOpen := by
  obtain ⟨identity, -, rfl⟩ := h.exists_identity
  exact fun acknowledgement hrow => absurd hrow List.not_mem_nil

/-- All along a run every waiting acknowledgement has an open batch exactly when
no call of the run records a final failure for a batch with a waiting
acknowledgement. -/
theorem waitingAcknowledgement_kept_iff {db₀ : ReaderDatabase} (h : FreshlyBound db₀)
    (ops : List Operation) :
    (∀ k, (Runs.run (perform codec) db₀ (ops.take k)).WaitsOpen) ↔
      Runs.StepsMeet (perform codec) (fun db op => op.discardsWaiting db = false) db₀ ops := by
  refine Runs.forall_take_iff_stepsMeet (Q := fun db => ∃ reader, Consistent reader db)
    (fun db op inv => ?_) (fun db op inv hwaits => ?_) h.consistent h.waitsOpen ops
  · obtain ⟨reader, inv⟩ := inv
    exact inv.perform op
  · obtain ⟨reader, inv⟩ := inv
    constructor
    · intro hkept
      rw [← Bool.not_eq_true]
      exact fun hdiscards => inv.not_waitsOpen_of_discards hdiscards hkept
    · intro hop
      exact perform_invariant hwaits fun db' hcommitted => inv.waitsOpen_step hcommitted hop hwaits

theorem waitingAcknowledgement_kept_iff_stored :
    FreshlyBound sampleDatabase ∧
      ∀ k, (Runs.run (perform sampleCodec) sampleDatabase (sampleStored.take k)).WaitsOpen :=
  ⟨sampleDatabase_freshlyBound,
    (waitingAcknowledgement_kept_iff sampleDatabase_freshlyBound sampleStored).mpr
      ⟨rfl, rfl, rfl, rfl, trivial⟩⟩

/-- A permanent failure recorded after the acknowledgement was stored leaves it
with a closed batch. -/
theorem waitingAcknowledgement_discarded :
    ¬∀ (db₀ : ReaderDatabase) (ops : List Operation), FreshlyBound db₀ →
      (Runs.run (perform sampleCodec) db₀ ops).WaitsOpen := by
  intro hclaim
  have hwaits := hclaim sampleDatabase (sampleStored ++
    [.failBatch sampleReaderId sampleBatchId "backend_validation_failure" 4 .permanentFailure])
    sampleDatabase_freshlyBound
  rw [Runs.run_append, sampleStored_run] at hwaits
  obtain ⟨batch, hbatch, -, hopen⟩ := hwaits (sampleAcknowledgement.toRow sampleCodec)
    (List.mem_singleton_self _) rfl
  have hclosed : ∀ batch ∈ (perform sampleCodec
      (sampleInFlight.withAcknowledgement sampleCodec sampleAcknowledgement)
      (.failBatch sampleReaderId sampleBatchId "backend_validation_failure" 4
        .permanentFailure)).synchronizationBatches, batch.batchState.isOpen = false := by
    decide +kernel
  rw [hclosed batch hbatch] at hopen
  cases hopen

end TransitGuard.Reader
