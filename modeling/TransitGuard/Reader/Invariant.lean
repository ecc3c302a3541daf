import TransitGuard.Reader.Growth

/-!
The invariants of every reachable reader database: the queue is numbered
without gaps by the counter of the reader row, and the batches partition what
they hold into well-formed lists of entries. Only the insertion of a
transaction adds to the queue and only the creation of a batch adds entries;
every other operation changes mutable columns, which the two frames state once.
-/

namespace TransitGuard.Reader

open Fallible

variable {codec : Json.Codec} {db db' : ReaderDatabase} {op : Operation}
  {reader reader' : ReaderStateRow}

/-! ## Frames -/

/-- A step that leaves the number of the queue rows and their frozen columns. -/
structure QueueFrame (db db' : ReaderDatabase) : Prop where
  reader : ∀ row, db.readerState = some row → row.check = true →
    ∃ row', db'.readerState = some row' ∧ row'.check = true ∧ row'.frozen = row.frozen ∧
      row'.nextLocalSequence = row.nextLocalSequence
  queue : db'.offlineTransactions.map (·.frozen) = db.offlineTransactions.map (·.frozen)
  checks : (∀ row ∈ db.offlineTransactions, row.check = true) →
    ∀ row ∈ db'.offlineTransactions, row.check = true

/-- Facts about a single batch row that its transitions keep. -/
structure SynchronizationBatchRow.Valid (row : SynchronizationBatchRow) : Prop where
  check : row.check = true
  submitted : row.batchState ≠ .prepared → row.submittedAt.isSome = true

/-- A step that creates no batch. -/
structure BatchFrame (db db' : ReaderDatabase) : Prop where
  batches : db'.synchronizationBatches.map (·.frozen) = db.synchronizationBatches.map (·.frozen)
  origin : ∀ row' ∈ db'.synchronizationBatches, ∃ row ∈ db.synchronizationBatches, row.Kept row'
  valid : (∀ row ∈ db.synchronizationBatches, row.Valid) →
    ∀ row ∈ db'.synchronizationBatches, row.Valid
  entries : db'.synchronizationEntries = db.synchronizationEntries

theorem QueueFrame.refl (db : ReaderDatabase) : QueueFrame db db where
  reader row h hcheck := ⟨row, h, hcheck, rfl, rfl⟩
  queue := rfl
  checks h := h

theorem BatchFrame.refl (db : ReaderDatabase) : BatchFrame db db where
  batches := rfl
  origin row h := ⟨row, h, .refl row⟩
  valid h := h
  entries := rfl

theorem QueueFrame.updateWhere {p : OfflineTransactionRow → Bool}
    {f : OfflineTransactionRow → OfflineTransactionRow}
    (h : db'.offlineTransactions = Table.updateWhere p f db.offlineTransactions)
    (hreader : db'.readerState = db.readerState) (hf : ∀ row, (f row).frozen = row.frozen)
    (hcheck : ∀ row ∈ db.offlineTransactions, p row = true → (f row).check = true) :
    QueueFrame db db' where
  reader row hrow hc := ⟨row, hreader.trans hrow, hc, rfl, rfl⟩
  queue := by rw [h, Table.map_updateWhere hf]
  checks hrows := h ▸ Table.forall_updateWhere hrows hcheck

theorem BatchFrame.updateWhere {p : SynchronizationBatchRow → Bool}
    {f : SynchronizationBatchRow → SynchronizationBatchRow}
    (h : db'.synchronizationBatches = Table.updateWhere p f db.synchronizationBatches)
    (hentries : db'.synchronizationEntries = db.synchronizationEntries)
    (hf : ∀ row, (f row).frozen = row.frozen)
    (hkept : ∀ row, p row = true → row.Kept (f row))
    (hvalid : ∀ row ∈ db.synchronizationBatches, row.Valid → p row = true → (f row).Valid) :
    BatchFrame db db' where
  batches := by rw [h, Table.map_updateWhere hf]
  origin := h ▸ Table.origin_updateWhere .refl fun row _ => hkept row
  valid hrows := h ▸ Table.forall_updateWhere hrows fun row hrow => hvalid row hrow (hrows row hrow)
  entries := hentries

theorem SynchronizationBatchRow.Valid.leave {row : SynchronizationBatchRow}
    {state : SynchronizationBatchState} {retryAt : Option UnixMilliseconds}
    {category : Option String} {t : UnixMilliseconds} (h : row.Valid)
    (hflight : row.inFlightBy t = true)
    (hcheck : (row.leave state retryAt category t).check = true) :
    (row.leave state retryAt category t).Valid where
  check := hcheck
  submitted _ := by
    simp only [inFlightBy, Bool.and_eq_true, beq_iff_eq] at hflight
    exact h.submitted (by rw [hflight.1]; decide)

/-- Every operation but the binding and the insertion frames the queue. -/
theorem Committed.queueFrame (h : Committed codec db op db') :
    (db.readerState = none ∧ db'.offlineTransactions = db.offlineTransactions) ∨
      (∃ readerId draft, op = .enqueue readerId draft) ∨
      QueueFrame db db' := by
  cases h with
  | bind unbound => exact .inl ⟨unbound, rfl⟩
  | enqueue => exact .inr (.inl ⟨_, _, rfl⟩)
  | markTransaction check | retryTransaction check | failTransaction check
  | recoverQueue check | markBatch _ check | failBatch _ _ check =>
    exact .inr (.inr (.updateWhere rfl rfl (fun _ => rfl) check))
  | retryBatch | recoverBatches | storeAcknowledgement =>
    exact .inr (.inr { QueueFrame.refl db with })
  | createBatch _ _ _ _ _ _ reserved =>
    exact .inr (.inr
      { QueueFrame.refl db with
        queue := Table.map_updateEach reserved fun _ _ => rfl
        checks := fun hrows => Table.forall_check_updateEach hrows reserved })
  | applyAcknowledgement _ _ _ _ _ applied _ _ _ advance =>
    refine .inr (.inr
      { reader := fun row hrow hcheck => ?_
        queue := Table.map_updateEach applied fun _ _ => rfl
        checks := fun hrows => Table.forall_check_updateEach hrows applied })
    rcases advanceReader_ok.mp advance with ⟨-, rfl⟩ | ⟨-, -, old, hold, -, -, -, hc, rfl⟩
    · exact ⟨row, hrow, hcheck, rfl, rfl⟩
    · rw [hold, Option.some.injEq] at hrow
      subst hrow
      exact ⟨_, rfl, hc, rfl, rfl⟩

/-- Every operation but the creation frames the batches. -/
theorem Committed.batchFrame (h : Committed codec db op db') :
    (∃ readerId version t limit generated,
      op = .createBatch readerId version t limit generated) ∨ BatchFrame db db' := by
  cases h with
  | createBatch => exact .inl ⟨_, _, _, _, _, rfl⟩
  | bind | enqueue | markTransaction | retryTransaction | failTransaction | recoverQueue
  | storeAcknowledgement => exact .inr { BatchFrame.refl db with }
  | markBatch check =>
    refine .inr (.updateWhere rfl rfl (fun _ => rfl) (fun row hp => ?_) fun row hrow _ hp => ?_)
    · simp only [Bool.and_eq_true] at hp
      exact .submit hp.2
    · exact ⟨check row hrow hp, fun _ => rfl⟩
  | retryBatch check | recoverBatches check | failBatch check
  | applyAcknowledgement _ _ _ _ _ _ check =>
    refine .inr (.updateWhere rfl rfl (fun _ => rfl) (fun row hp => ?_)
      fun row hrow hvalid hp => ?_)
    · simp only [Bool.and_eq_true] at hp
      exact .leave hp.2
    · have hcheck := check row hrow hp
      simp only [Bool.and_eq_true] at hp
      exact hvalid.leave hp.2 hcheck

/-! ## The queue -/

/-- The queue is numbered `1, 2, ..` in insertion order up to the counter of
the reader row. -/
structure QueueInvariant (reader : ReaderStateRow) (db : ReaderDatabase) : Prop where
  bound : db.readerState = some reader
  readerCheck : reader.check = true
  next_le : reader.nextLocalSequence ≤ i64Max
  sequences : db.offlineTransactions.map (·.localSequenceNumber) =
    List.range' 1 (reader.nextLocalSequence - 1)
  ids : (db.offlineTransactions.map (·.fareTransactionId)).Nodup
  owned : ∀ row ∈ db.offlineTransactions, row.readerId = reader.readerId
  checks : ∀ row ∈ db.offlineTransactions, row.check = true

theorem ReaderStateRow.check_next_pos (h : reader.check = true) : 0 < reader.nextLocalSequence := by
  simp only [check, Bool.and_eq_true, decide_eq_true_eq] at h
  exact h.1.1.1.2

theorem ReaderStateRow.check_acknowledged_lt (h : reader.check = true) :
    reader.lastAcknowledgedSequence < reader.nextLocalSequence := by
  simp only [check, Bool.and_eq_true, decide_eq_true_eq] at h
  exact h.1.1.2

/-- A frozen column has the same values on both sides of a frame. -/
theorem QueueFrame.map_eq {γ : Type} (h : QueueFrame db db') {c : OfflineTransactionRow → γ}
    (hc : ∀ row, c row.frozen = c row) :
    db'.offlineTransactions.map c = db.offlineTransactions.map c :=
  Table.map_eq_of_map_eq h.queue hc

theorem QueueInvariant.of_frame (inv : QueueInvariant reader db) (h : QueueFrame db db') :
    ∃ reader', QueueInvariant reader' db' ∧ reader'.frozen = reader.frozen := by
  obtain ⟨reader', hbound, hcheck, hfrozen, hnext⟩ := h.reader reader inv.bound inv.readerCheck
  have hid : reader'.readerId = reader.readerId := congrArg (·.readerId) hfrozen
  have howners : db'.offlineTransactions.map (·.readerId) =
      db.offlineTransactions.map (·.readerId) := h.map_eq fun _ => rfl
  refine ⟨reader', ?_, hfrozen⟩
  exact
    { bound := hbound
      readerCheck := hcheck
      next_le := hnext ▸ inv.next_le
      sequences := by
        rw [h.map_eq fun _ => rfl, inv.sequences, hnext]
      ids := by
        rw [h.map_eq fun _ => rfl]
        exact inv.ids
      owned := fun row hrow => by
        have hmem := List.mem_map_of_mem (f := (·.readerId)) hrow
        rw [howners] at hmem
        obtain ⟨old, hold, heq⟩ := List.mem_map.mp hmem
        rw [← heq, inv.owned old hold, hid]
      checks := h.checks inv.checks }

theorem QueueInvariant.enqueue (inv : QueueInvariant reader db) {readerId : ReaderId}
    {draft : OfflineTransactionDraft} (h : Committed codec db (.enqueue readerId draft) db') :
    ∃ reader', QueueInvariant reader' db' ∧ reader'.frozen = reader.frozen := by
  cases h with
  | @enqueue _ _ row bound owner available readerCheck check fresh =>
    have hrow : row = reader := Option.some.inj (bound.symm.trans inv.bound)
    subst hrow
    have hpos := ReaderStateRow.check_next_pos inv.readerCheck
    refine ⟨row.assignSequence draft.createdAt, ?_, rfl⟩
    exact
      { bound := rfl
        readerCheck := readerCheck
        next_le := available
        sequences := by
          have hlast : row.nextLocalSequence = 1 + 1 * (row.nextLocalSequence - 1) := by omega
          have hnext : (row.assignSequence draft.createdAt).nextLocalSequence - 1 =
              row.nextLocalSequence - 1 + 1 := by
            show row.nextLocalSequence + 1 - 1 = _
            omega
          rw [List.map_append, inv.sequences, hnext, List.range'_concat, ← hlast]
          rfl
        ids := Table.nodup_map_append inv.ids fun other hother => by
          have hfresh := fresh other hother
          simp only [OfflineTransactionRow.conflicts, Bool.or_eq_false_iff, beq_eq_false_iff_ne]
            at hfresh
          exact hfresh.1
        owned := by
          simp only [List.mem_append, List.mem_singleton]
          rintro other (hother | rfl)
          · exact inv.owned other hother
          · exact owner.symm
        checks := by
          simp only [List.mem_append, List.mem_singleton]
          rintro other (hother | rfl)
          · exact inv.checks other hother
          · exact check }

theorem QueueInvariant.step (inv : QueueInvariant reader db) (h : Committed codec db op db') :
    ∃ reader', QueueInvariant reader' db' ∧ reader'.frozen = reader.frozen := by
  rcases h.queueFrame with ⟨hunbound, -⟩ | ⟨readerId, draft, rfl⟩ | hframe
  · rw [inv.bound] at hunbound
    cases hunbound
  · exact inv.enqueue h
  · exact inv.of_frame hframe

theorem FreshlyBound.exists_identity (h : FreshlyBound db) :
    ∃ identity : ReaderDatabaseIdentity, identity.initialRow.check = true ∧
      db = { ReaderDatabase.empty with readerState := some identity.initialRow } := by
  obtain ⟨identity, state, h⟩ := h
  unfold bindReaderDatabase transact at h
  split at h
  · next hbody =>
    cases h
    simp only [bindStatements, guard_eq_ok, bind_eq_ok, Except.ok.injEq, Prod.mk.injEq,
      Bool.not_eq_eq_eq_not, Bool.not_true, Bool.not_eq_false] at hbody
    obtain ⟨hcheck, -, -, -, -, -, hdb⟩ := hbody
    exact ⟨identity, hcheck, hdb.symm⟩
  · cases h

theorem FreshlyBound.queueInvariant (h : FreshlyBound db) :
    ∃ reader, QueueInvariant reader db := by
  obtain ⟨identity, hcheck, rfl⟩ := h.exists_identity
  exact ⟨identity.initialRow,
    { bound := rfl
      readerCheck := hcheck
      next_le := show 1 ≤ i64Max by decide
      sequences := rfl
      ids := List.nodup_nil
      owned := by simp [ReaderDatabase.empty]
      checks := by simp [ReaderDatabase.empty] }⟩

end TransitGuard.Reader
