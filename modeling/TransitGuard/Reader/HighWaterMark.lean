import Mathlib.Order.Bounds.Basic
import TransitGuard.Reader.Contiguous
import TransitGuard.Reader.Progress

/-!
The acknowledged high-water mark. It is recomputed only when an
acknowledgement is applied, from the queue behind the previous mark; the scan
is exact because the queue has no gaps and resolved transactions stay resolved.
A permanent failure resolves transactions too but leaves the mark alone.
-/

namespace TransitGuard.Reader

open Fallible

variable {codec : Json.Codec} {db db' : ReaderDatabase} {op : Operation}
  {reader reader' : ReaderStateRow}

/-- Every sequence up to `n` is in use and finally resolved. -/
def ReaderDatabase.ResolvedThrough (db : ReaderDatabase) (n : Nat) : Prop :=
  ∀ sequence, 1 ≤ sequence → sequence ≤ n →
    ∃ row ∈ db.offlineTransactions, row.localSequenceNumber = sequence ∧
      row.queueState.isResolved = true

/-! ## The scan -/

/-- The scan of rows with sequences in range succeeds, and ends where it started
or at one of the rows. -/
theorem contiguousFrom_ok {last expected : Nat} {rows : List OfflineTransactionRow}
    (h : ∀ row ∈ rows, 1 ≤ row.localSequenceNumber ∧ row.localSequenceNumber + 1 < 2 ^ 64) :
    ∃ advanced, contiguousFrom last expected rows = .ok advanced ∧
      (advanced = last ∨ ∃ row ∈ rows, row.localSequenceNumber = advanced) := by
  induction rows generalizing last expected with
  | nil => exact ⟨last, rfl, .inl rfl⟩
  | cons row rows ih =>
    rw [List.forall_mem_cons] at h
    obtain ⟨⟨hpos, hlt⟩, hrest⟩ := h
    rw [contiguousFrom, if_neg (by omega)]
    split
    · exact ⟨last, rfl, .inl rfl⟩
    · split
      · exact ⟨last, rfl, .inl rfl⟩
      · rw [if_neg (by omega)]
        obtain ⟨advanced, hscan, hend⟩ : ∃ advanced, contiguousFrom row.localSequenceNumber
            (row.localSequenceNumber + 1) rows = .ok advanced ∧ _ := ih hrest
        refine ⟨advanced, hscan, .inr ?_⟩
        rcases hend with rfl | ⟨other, hother, hsequence⟩
        · exact ⟨row, List.mem_cons_self .., rfl⟩
        · exact ⟨other, List.mem_cons_of_mem _ hother, hsequence⟩

/-- The queue is kept in the order of the sequences. -/
theorem QueueInvariant.increasing (inv : QueueInvariant reader db) :
    db.offlineTransactions.Pairwise fun a b => a.localSequenceNumber < b.localSequenceNumber := by
  have h : (db.offlineTransactions.map (·.localSequenceNumber)).Pairwise (· < ·) := by
    rw [inv.sequences]
    exact List.pairwise_lt_range' 1
  exact List.pairwise_map.mp h

theorem QueueInvariant.contiguous_spec (inv : QueueInvariant reader db) {current advanced : Nat}
    (h : contiguousResolvedSequence current (Table.orderBy (·.localSequenceNumber)
      (db.offlineTransactions.filter fun row =>
        row.readerId == reader.readerId && current < row.localSequenceNumber)) = .ok advanced) :
    current ≤ advanced ∧
      (db.ResolvedThrough current → db.ResolvedThrough advanced) ∧
      ∀ row ∈ db.offlineTransactions, row.localSequenceNumber = advanced + 1 →
        row.queueState.isResolved = false := by
  generalize hrows : db.offlineTransactions.filter (fun row =>
    row.readerId == reader.readerId && current < row.localSequenceNumber) = rows at h
  have hmem : ∀ row, row ∈ rows ↔
      row ∈ db.offlineTransactions ∧ current < row.localSequenceNumber := by
    intro row
    rw [← hrows, List.mem_filter, Bool.and_eq_true, decide_eq_true_eq, beq_iff_eq]
    exact and_congr_right fun hrow => and_iff_right (inv.owned row hrow)
  have hincreasing : rows.Pairwise fun a b => a.localSequenceNumber < b.localSequenceNumber :=
    hrows ▸ inv.increasing.filter _
  have hle : ∀ row ∈ rows, row.localSequenceNumber ≤ i64Max := fun row hrow =>
    (inv.sequence_bounds ((hmem row).mp hrow).1).2.le.trans inv.next_le
  rw [Table.orderBy_of_sorted (List.pairwise_map.mpr (hincreasing.imp Nat.le_of_lt))] at h
  obtain ⟨hcurrent, hfound, hstop⟩ := contiguousResolvedSequence_spec hle hincreasing
    (fun row hrow => ((hmem row).mp hrow).2) h
  refine ⟨hcurrent, fun hresolved sequence hpos hsequence => ?_, fun row hrow hnext => ?_⟩
  · by_cases hknown : sequence ≤ current
    · exact hresolved sequence hpos hknown
    · obtain ⟨row, hrow, hrow'⟩ := hfound sequence (Nat.lt_of_not_le hknown) hsequence
      exact ⟨row, ((hmem row).mp hrow).1, hrow'⟩
  · exact hstop row ((hmem row).mpr ⟨hrow, by omega⟩) hnext

/-! ## The mark over time -/

theorem OfflineTransactionRow.Kept.resolved {row row' : OfflineTransactionRow} (h : row.Kept row')
    (hresolved : row.queueState.isResolved = true) : row'.queueState = row.queueState := by
  refine h.final ?_
  cases hs : row.queueState <;> simp_all [OfflineQueueState.isResolved, OfflineQueueState.isFinal]

theorem Grows.resolvedThrough (h : Grows db db') {n : Nat} (hdb : db.ResolvedThrough n) :
    db'.ResolvedThrough n := by
  intro sequence hpos hle
  obtain ⟨row, hrow, hsequence, hresolved⟩ := hdb sequence hpos hle
  obtain ⟨row', hrow', hkept⟩ := h.queue row hrow
  refine ⟨row', hrow', (congrArg (·.localSequenceNumber) hkept.frozen).trans hsequence, ?_⟩
  rw [hkept.resolved hresolved]
  exact hresolved

/-- Only an application moves the mark. -/
theorem Committed.mark_eq (h : Committed codec db op db') (hbound : db.readerState = some reader) :
    (∃ readerId batchId t, op = .applyAcknowledgement readerId batchId t) ∨
      ∃ reader', db'.readerState = some reader' ∧
        reader'.lastAcknowledgedSequence = reader.lastAcknowledgedSequence := by
  cases h with
  | applyAcknowledgement => exact .inl ⟨_, _, _, rfl⟩
  | bind unbound =>
    rw [hbound] at unbound
    cases unbound
  | enqueue bound =>
    rw [hbound, Option.some.injEq] at bound
    subst bound
    exact .inr ⟨_, rfl, rfl⟩
  | _ => exact .inr ⟨reader, hbound, rfl⟩

/-- What an application makes of the mark. -/
theorem Consistent.apply_mark (inv : Consistent reader db) (inv' : Consistent reader' db')
    {readerId : ReaderId} {batchId : SynchronizationBatchId} {t : UnixMilliseconds}
    (h : Committed codec db (.applyAcknowledgement readerId batchId t) db') :
    (db'.ResolvedThrough reader.lastAcknowledgedSequence →
        db'.ResolvedThrough reader'.lastAcknowledgedSequence) ∧
      ∀ row ∈ db'.offlineTransactions,
        row.localSequenceNumber = reader'.lastAcknowledgedSequence + 1 →
          row.queueState.isResolved = false := by
  obtain ⟨advanced, hcontiguous, hadvance⟩ : ∃ advanced,
      contiguousResolvedSequence reader.lastAcknowledgedSequence
        (Table.orderBy (·.localSequenceNumber) (db'.offlineTransactions.filter fun row =>
          row.readerId == reader.readerId &&
            reader.lastAcknowledgedSequence < row.localSequenceNumber)) = .ok advanced ∧
      advanceReader db.readerState reader.readerId reader.lastAcknowledgedSequence advanced t =
        .ok db'.readerState := by
    cases h with
    | @applyAcknowledgement _ _ _ _ _ row _ _ advanced _ _ _ bound owner _ _ _ contiguous advance =>
      have hrow : row = reader := Option.some.inj (bound.symm.trans inv.queue.bound)
      subst hrow owner
      exact ⟨advanced, contiguous, advance⟩
  have hid : reader'.readerId = reader.readerId := by
    obtain ⟨row, hrow, hkept⟩ := h.grows.reader reader inv.queue.bound
    rw [Option.some.inj (inv'.queue.bound.symm.trans hrow)]
    exact congrArg (·.readerId) hkept.frozen
  rw [← hid] at hcontiguous
  obtain ⟨hle, hresolved, hstop⟩ := inv'.queue.contiguous_spec hcontiguous
  have hmark : reader'.lastAcknowledgedSequence = advanced := by
    rw [inv'.queue.bound, inv.queue.bound] at hadvance
    rcases advanceReader_ok.mp hadvance with ⟨hge, heq⟩ | ⟨-, -, row, -, -, -, -, -, heq⟩
    · rw [Option.some.inj heq]
      omega
    · rw [Option.some.inj heq]
      rfl
  rw [hmark]
  exact ⟨hresolved, hstop⟩

theorem QueueInvariant.resolved_of_le (inv : QueueInvariant reader db) {n : Nat}
    (h : db.ResolvedThrough n) {row : OfflineTransactionRow} (hrow : row ∈ db.offlineTransactions)
    (hle : row.localSequenceNumber ≤ n) :
    row.queueState = .acknowledged ∨ row.queueState = .permanentFailure := by
  obtain ⟨found, hfound, hsequence, hresolved⟩ :=
    h row.localSequenceNumber (inv.sequence_bounds hrow).1 hle
  have hnodup : (db.offlineTransactions.map (·.localSequenceNumber)).Nodup :=
    inv.sequences_increasing.imp Nat.ne_of_lt
  rw [Table.eq_of_key_eq hnodup hfound hrow hsequence] at hresolved
  cases hs : row.queueState <;> simp_all [OfflineQueueState.isResolved]

/-- The mark is sound: everything up to it is resolved. -/
def MarkSound (db : ReaderDatabase) : Prop :=
  ∃ reader, Consistent reader db ∧ db.ResolvedThrough reader.lastAcknowledgedSequence

theorem MarkSound.step (hdb : MarkSound db) (h : Committed codec db op db') : MarkSound db' := by
  obtain ⟨reader, inv, hresolved⟩ := hdb
  obtain ⟨reader', inv', -⟩ := inv.step h
  refine ⟨reader', inv', ?_⟩
  have hkept : db'.ResolvedThrough reader.lastAcknowledgedSequence :=
    h.grows.resolvedThrough hresolved
  rcases h.mark_eq inv.queue.bound with ⟨readerId, batchId, t, rfl⟩ | ⟨row, hrow, hmark⟩
  · exact (inv.apply_mark inv' h).1 hkept
  · rw [Option.some.inj (inv'.queue.bound.symm.trans hrow), hmark]
    exact hkept

theorem FreshlyBound.markSound (h : FreshlyBound db) : MarkSound db := by
  obtain ⟨reader, inv⟩ := h.consistent
  obtain ⟨identity, -, rfl⟩ := h.exists_identity
  refine ⟨reader, inv, ?_⟩
  rw [← Option.some.inj inv.queue.bound]
  intro sequence hpos hle
  exact absurd hpos (Nat.not_lt.mpr hle)

theorem MarkSound.run (hdb : MarkSound db) (ops : List Operation) :
    MarkSound (Runs.run (perform codec) db ops) :=
  Runs.invariant (fun _ _ hdb => perform_invariant hdb fun _ h => hdb.step h) hdb ops

/-- The high-water mark never falls and stays below the next sequence;
everything up to it is finally resolved and stays as it is; and right after the
first application of an acknowledgement it is the largest such mark. -/
theorem highWaterMark_sound {db₀ : ReaderDatabase} (h : FreshlyBound db₀)
    (ops more : List Operation) :
    let db := Runs.run (perform codec) db₀ ops
    let later := Runs.run (perform codec) db more
    ∃ reader reader', db.readerState = some reader ∧ later.readerState = some reader' ∧
      reader.lastAcknowledgedSequence ≤ reader'.lastAcknowledgedSequence ∧
      reader.lastAcknowledgedSequence < reader.nextLocalSequence ∧
      (∀ row ∈ db.offlineTransactions,
        row.localSequenceNumber ≤ reader.lastAcknowledgedSequence →
          (row.queueState = .acknowledged ∨ row.queueState = .permanentFailure) ∧
          ∀ row' ∈ later.offlineTransactions,
            row'.fareTransactionId = row.fareTransactionId → row'.queueState = row.queueState) ∧
      ∀ readerId batchId t application,
        (applySynchronizationAcknowledgement db readerId batchId t).result = .ok application →
        application.appliedNow = true →
          let applied := (applySynchronizationAcknowledgement db readerId batchId t).database
          ∃ reader', applied.readerState = some reader' ∧
            IsGreatest {n | applied.ResolvedThrough n} reader'.lastAcknowledgedSequence := by
  intro db later
  obtain ⟨reader, inv, hresolved⟩ : MarkSound db := h.markSound.run ops
  have hgrows : Grows db later := grows_run db more
  obtain ⟨reader', hreader', hkept⟩ := hgrows.reader reader inv.queue.bound
  refine ⟨reader, reader', inv.queue.bound, hreader', hkept.acknowledged,
    ReaderStateRow.check_acknowledged_lt inv.queue.readerCheck, fun row hrow hle => ?_, ?_⟩
  · refine ⟨inv.queue.resolved_of_le hresolved hrow hle, fun row' hrow' hid => ?_⟩
    obtain ⟨_, inv', -⟩ : MarkSound later := MarkSound.run ⟨reader, inv, hresolved⟩ more
    obtain ⟨kept, hmem, hrowKept⟩ := hgrows.queue row hrow
    have hsame : row' = kept := Table.eq_of_key_eq inv'.queue.ids hrow' hmem
      (hid.trans (congrArg (·.fareTransactionId) hrowKept.frozen).symm)
    rw [hsame]
    refine hrowKept.resolved ?_
    rcases inv.queue.resolved_of_le hresolved hrow hle with hstate | hstate <;> rw [hstate] <;> rfl
  · intro readerId batchId t application hresult happlied applied
    obtain ⟨hnot, -⟩ | ⟨-, hcommitted⟩ := @applyAcknowledgement_ok codec _ _ _ _ _ hresult
    · rw [happlied] at hnot
      cases hnot
    · obtain ⟨reader'', inv'', hresolved''⟩ := MarkSound.step ⟨reader, inv, hresolved⟩ hcommitted
      refine ⟨reader'', inv''.queue.bound, hresolved'', fun n hn => ?_⟩
      by_contra hlt
      obtain ⟨row, hrow, hsequence, hrowResolved⟩ :=
        hn (reader''.lastAcknowledgedSequence + 1) (by omega) (by omega)
      rw [(inv.apply_mark inv'' hcommitted).2 row hrow hsequence] at hrowResolved
      cases hrowResolved

theorem highWaterMark_sound_submission :
    FreshlyBound sampleDatabase ∧
      ∃ reader, (Runs.run (perform sampleCodec) sampleDatabase sampleSubmission).readerState =
        some reader ∧ reader.lastAcknowledgedSequence < reader.nextLocalSequence := by
  refine ⟨sampleDatabase_freshlyBound, ?_⟩
  obtain ⟨reader, -, hbound, -, -, hlt, -⟩ := @highWaterMark_sound sampleCodec _
    sampleDatabase_freshlyBound sampleSubmission []
  exact ⟨reader, hbound, hlt⟩

/-! ## Completeness -/

/-- The transaction right behind the mark. -/
def ReaderDatabase.isFrontier (db : ReaderDatabase) (row : OfflineTransactionRow) : Bool :=
  db.readerState.any fun reader =>
    row.localSequenceNumber == reader.lastAcknowledgedSequence + 1

/-- The mark is complete: it does not stand before a resolved transaction. -/
def ReaderDatabase.MarkComplete (db : ReaderDatabase) : Prop :=
  ∀ row ∈ db.offlineTransactions, db.isFrontier row = true →
    row.queueState ≠ .acknowledged ∧ row.queueState ≠ .permanentFailure

/-- The call fails the transaction `row` for good, on its own or with its
batch. -/
def Operation.failsForGood (db : ReaderDatabase) (row : OfflineTransactionRow) : Operation → Bool
  | .failTransaction readerId transactionId category t .permanentFailure =>
    Text.trim category != "" && row.named readerId transactionId && row.inFlightBy t
  | .failBatch readerId batchId category t .permanentFailure =>
    Text.trim category != "" &&
      db.synchronizationBatches.any (fun batch =>
        batch.named readerId batchId && batch.inFlightBy t) &&
      db.offlineTransactions.countP (db.inFlightEntry readerId batchId t) ==
        (db.batchEntries readerId batchId).length &&
      db.inFlightEntry readerId batchId t row
  | _ => false

/-- The call fails the transaction right behind the mark for good. -/
def Operation.failsFrontier (db : ReaderDatabase) (op : Operation) : Bool :=
  db.offlineTransactions.any fun row => db.isFrontier row && op.failsForGood db row

theorem isResolved_eq_false_iff {state : OfflineQueueState} :
    state.isResolved = false ↔ state ≠ .acknowledged ∧ state ≠ .permanentFailure := by
  cases state <;> simp [OfflineQueueState.isResolved]

/-- A row that is resolved after an operation other than an application was
resolved before, or the operation failed it for good. -/
def Operation.Resolves (db : ReaderDatabase) (op : Operation)
    (row row' : OfflineTransactionRow) : Prop :=
  row'.localSequenceNumber = row.localSequenceNumber ∧
    (row'.queueState.isResolved = true →
      row.queueState.isResolved = true ∨ op.failsForGood db row = true)

theorem Operation.Resolves.refl (op : Operation) (row : OfflineTransactionRow) :
    op.Resolves db row row :=
  ⟨rfl, .inl⟩

theorem resolves_updateWhere {p : OfflineTransactionRow → Bool}
    {f : OfflineTransactionRow → OfflineTransactionRow}
    (hqueue : db'.offlineTransactions = Table.updateWhere p f db.offlineTransactions)
    (hsequence : ∀ row, (f row).localSequenceNumber = row.localSequenceNumber)
    (hf : ∀ row ∈ db.offlineTransactions, p row = true → (f row).queueState.isResolved = true →
      row.queueState.isResolved = true ∨ op.failsForGood db row = true) :
    ∀ row' ∈ db'.offlineTransactions, ∃ row ∈ db.offlineTransactions, op.Resolves db row row' :=
  hqueue ▸ Table.origin_updateWhere (Operation.Resolves.refl op) fun row hrow hp =>
    ⟨hsequence row, hf row hrow hp⟩

theorem Consistent.resolves (inv : Consistent reader db) (h : Committed codec db op db')
    (hop : ∀ readerId batchId t, op ≠ .applyAcknowledgement readerId batchId t) :
    ∀ row' ∈ db'.offlineTransactions, row'.queueState.isResolved = true →
      ∃ row ∈ db.offlineTransactions, op.Resolves db row row' := by
  intro row' hrow' hresolved
  have hcommitted := h
  cases h with
  | applyAcknowledgement => exact absurd rfl (hop _ _ _)
  | bind unbound =>
    rw [inv.queue.bound] at unbound
    cases unbound
  | enqueue =>
    rcases List.mem_append.mp hrow' with hrow' | hrow'
    · exact ⟨row', hrow', .refl _ _⟩
    · rw [List.mem_singleton] at hrow'
      rw [hrow'] at hresolved
      cases hresolved
  | retryBatch | recoverBatches | storeAcknowledgement => exact ⟨row', hrow', .refl _ _⟩
  | markTransaction | retryTransaction | recoverQueue =>
    refine resolves_updateWhere rfl ?_ ?_ row' hrow'
    · exact fun _ => rfl
    · intro row _ _ hresolved
      cases hresolved
  | markBatch =>
    refine resolves_updateWhere rfl ?_ ?_ row' hrow'
    · exact fun _ => rfl
    · exact fun _ _ _ hresolved => .inl hresolved
  | @failTransaction _ _ _ t target _ category =>
    refine resolves_updateWhere rfl ?_ (fun row _ hp hfinal => .inr ?_) row' hrow'
    · exact fun _ => rfl
    cases target with
    | manualReview => cases hfinal
    | permanentFailure =>
      simp only [Operation.failsForGood, Bool.and_eq_true, bne_iff_ne] at hp ⊢
      exact ⟨⟨category, hp.1⟩, hp.2⟩
  | @failBatch _ _ _ t target _ one _ all category =>
    refine resolves_updateWhere rfl ?_ (fun row _ hp hfinal => .inr ?_) row' hrow'
    · exact fun _ => rfl
    cases target with
    | manualReview => cases hfinal
    | permanentFailure =>
      simp only [Operation.failsForGood, Bool.and_eq_true, bne_iff_ne, beq_iff_eq]
      refine ⟨⟨⟨category, ?_⟩, all⟩, hp⟩
      rw [List.any_eq_true, ← List.countP_pos_iff, one]
      exact Nat.one_pos
  | createBatch =>
    obtain ⟨batch, added, hcreates, -⟩ := inv.queue.creates hcommitted
    obtain ⟨row, hrow, -, ⟨-, hflight⟩ | ⟨-, rfl⟩⟩ := hcreates.origin row' hrow'
    · rw [hflight] at hresolved
      cases hresolved
    · exact ⟨row', hrow, .refl _ _⟩

/-- A step that does not fail the frontier for good keeps the mark complete. -/
theorem Consistent.markComplete_step (inv : Consistent reader db) (h : Committed codec db op db')
    (hop : op.failsFrontier db = false) (hcomplete : db.MarkComplete) : db'.MarkComplete := by
  obtain ⟨reader', inv', -⟩ := inv.step h
  intro row' hrow' hfrontier
  rw [← isResolved_eq_false_iff]
  simp only [ReaderDatabase.isFrontier, inv'.queue.bound, Option.any_some, beq_iff_eq] at hfrontier
  by_cases happly : ∃ readerId batchId t, op = .applyAcknowledgement readerId batchId t
  · obtain ⟨readerId, batchId, t, rfl⟩ := happly
    exact (inv.apply_mark inv' h).2 row' hrow' hfrontier
  · obtain ⟨next, hnext, hmark⟩ := (h.mark_eq inv.queue.bound).resolve_left happly
    rw [Option.some.inj (inv'.queue.bound.symm.trans hnext), hmark] at hfrontier
    rw [← Bool.not_eq_true]
    intro hresolved
    obtain ⟨row, hrow, hsequence, hbefore⟩ := inv.resolves h
      (fun readerId batchId t heq => happly ⟨readerId, batchId, t, heq⟩) row' hrow' hresolved
    have hrowFrontier : db.isFrontier row = true := by
      simp only [ReaderDatabase.isFrontier, inv.queue.bound, Option.any_some, beq_iff_eq]
      exact hsequence.symm.trans hfrontier
    rcases hbefore hresolved with hresolved | hfails
    · rw [isResolved_eq_false_iff.mpr (hcomplete row hrow hrowFrontier)] at hresolved
      cases hresolved
    · have hnone := List.any_eq_false.mp hop row hrow
      rw [hrowFrontier, hfails] at hnone
      exact hnone rfl

theorem OfflineTransactionRow.resolve_check {row : OfflineTransactionRow} {t : UnixMilliseconds}
    {state : OfflineQueueState} {category : Option String} (h : row.check = true)
    (hupdated : row.updatedAt ≤ t) : (row.resolve state none category t).check = true := by
  simp only [check, resolve, Bool.and_eq_true, decide_eq_true_eq] at h ⊢
  grind

theorem SynchronizationBatchRow.leave_check {row : SynchronizationBatchRow} {t : UnixMilliseconds}
    {state : SynchronizationBatchState} {category : Option String} (h : row.check = true)
    (hupdated : row.updatedAt ≤ t) : (row.leave state none category t).check = true := by
  simp only [check, leave, Bool.and_eq_true, decide_eq_true_eq] at h ⊢
  grind

theorem OfflineTransactionRow.nonneg_of_inFlightBy {row : OfflineTransactionRow}
    {t : UnixMilliseconds} (h : row.check = true) (hflight : row.inFlightBy t = true) : 0 ≤ t := by
  simp only [check, inFlightBy, Bool.and_eq_true, decide_eq_true_eq] at h hflight
  grind

/-- A queue in which a transaction behind an unchanged mark failed for good. -/
theorem not_markComplete_of_resolve {p : OfflineTransactionRow → Bool} {t : UnixMilliseconds}
    {category : Option String} {row : OfflineTransactionRow}
    (hreader : db'.readerState = db.readerState)
    (hqueue : db'.offlineTransactions = Table.updateWhere p
      (·.resolve .permanentFailure none category t) db.offlineTransactions)
    (hrow : row ∈ db.offlineTransactions) (hp : p row = true)
    (hfrontier : db.isFrontier row = true) :
    ¬db'.MarkComplete := by
  intro hcomplete
  refine (hcomplete (row.resolve .permanentFailure none category t) ?_ ?_).2 rfl
  · rw [hqueue]
    exact Table.mem_updateWhere.mpr ⟨row, hrow, (if_pos hp).symm⟩
  · rw [ReaderDatabase.isFrontier, hreader]
    exact hfrontier

/-- A final failure of an in-flight transaction commits. -/
theorem Consistent.failTransaction_database (inv : Consistent reader db)
    {row : OfflineTransactionRow} {readerId : ReaderId} {transactionId : FareTransactionId}
    {category : String} {t : UnixMilliseconds} {target : FinalState}
    (hrow : row ∈ db.offlineTransactions)
    (hselects : (row.named readerId transactionId && row.inFlightBy t) = true)
    (hcategory : Text.trim category ≠ "") :
    (recordFinalFailure db readerId transactionId category t target).database =
      { db with
        offlineTransactions := Table.updateWhere
          (fun row => row.named readerId transactionId && row.inFlightBy t)
          (·.resolve target.queueState none (some (Text.trim category)) t)
          db.offlineTransactions } := by
  rw [recordFinalFailure, Outcome.andThen_database]
  refine transact_database (db.offlineTransactions.countP fun row =>
    row.named readerId transactionId && row.inFlightBy t) ?_
  simp only [bind_eq_ok, validateCategory_ok, updateTransactions_ok]
  refine ⟨(), validateTime_ok.mpr ?_, _, ⟨rfl, hcategory⟩, fun row hrow hp => ?_, trivial, rfl⟩
  · rw [Bool.and_eq_true] at hselects
    exact OfflineTransactionRow.nonneg_of_inFlightBy (inv.queue.checks row hrow) hselects.2
  · simp only [OfflineTransactionRow.inFlightBy, Bool.and_eq_true, decide_eq_true_eq] at hp
    exact OfflineTransactionRow.resolve_check (inv.queue.checks row hrow) hp.2.2

/-- A final failure of an in-flight batch with all its transactions in flight
commits. -/
theorem Consistent.failBatch_database (inv : Consistent reader db)
    {row : OfflineTransactionRow} {readerId : ReaderId} {batchId : SynchronizationBatchId}
    {category transition : String} {t : UnixMilliseconds} {target : FinalState}
    (hrow : row ∈ db.offlineTransactions)
    (hentry : db.inFlightEntry readerId batchId t row = true)
    (hcategory : Text.trim category ≠ "")
    (hbatch : db.synchronizationBatches.any (fun batch =>
      batch.named readerId batchId && batch.inFlightBy t) = true)
    (hall : db.offlineTransactions.countP (db.inFlightEntry readerId batchId t) =
      (db.batchEntries readerId batchId).length) :
    (recordFinalSynchronizationFailure db readerId batchId category t target
        transition).database =
      { db with
        synchronizationBatches := Table.updateWhere
          (fun row => row.named readerId batchId && row.inFlightBy t)
          (·.leave target.batchState none (some (Text.trim category)) t)
          db.synchronizationBatches
        offlineTransactions := Table.updateWhere (db.inFlightEntry readerId batchId t)
          (·.resolve target.queueState none (some (Text.trim category)) t)
          db.offlineTransactions } := by
  have hnamed : ∀ row ∈ db.synchronizationBatches,
      (row.named readerId batchId && row.inFlightBy t) = true → row.batchId = batchId := by
    intro row _ hp
    simp only [SynchronizationBatchRow.named, Bool.and_eq_true, beq_iff_eq] at hp
    exact hp.1.1
  have hnonempty : (db.batchEntries readerId batchId).length ≠ 0 := by
    rw [← hall]
    exact (List.countP_pos_iff.mpr ⟨row, hrow, hentry⟩).ne'
  rw [recordFinalSynchronizationFailure, thenLoad_database]
  refine transact_database () ?_
  simp only [bind_eq_ok, validateCategory_ok, updateOneBatch_ok, updateEntryTransactions_ok]
  refine ⟨(), validateTime_ok.mpr ?_, _, ⟨rfl, hcategory⟩, _, ⟨fun row hrow hp => ?_,
    (Table.countP_eq_one_iff inv.batches.ids hnamed).mpr (List.any_eq_true.mp hbatch), rfl⟩, _,
    ⟨hnonempty, fun row hrow hp => ?_, hall, rfl⟩, rfl⟩
  · simp only [ReaderDatabase.inFlightEntry, Bool.and_eq_true] at hentry
    exact OfflineTransactionRow.nonneg_of_inFlightBy (inv.queue.checks row hrow) hentry.1.2
  · simp only [SynchronizationBatchRow.inFlightBy, Bool.and_eq_true, decide_eq_true_eq] at hp
    exact SynchronizationBatchRow.leave_check (inv.batches.valid row hrow).check hp.2.2
  · simp only [ReaderDatabase.inFlightEntry, OfflineTransactionRow.inFlightBy, Bool.and_eq_true,
      decide_eq_true_eq] at hp
    exact OfflineTransactionRow.resolve_check (inv.queue.checks row hrow) hp.1.2.2

theorem Consistent.not_markComplete_of_failsFrontier (inv : Consistent reader db)
    (hop : op.failsFrontier db = true) : ¬(Reader.perform codec db op).MarkComplete := by
  obtain ⟨row, hrow, hfails⟩ := List.any_eq_true.mp hop
  obtain ⟨hfrontier, hfails⟩ := Bool.and_eq_true _ _ ▸ hfails
  cases op with
  | failTransaction readerId transactionId category t target =>
    cases target with
    | manualReview => cases hfails
    | permanentFailure =>
      simp only [Operation.failsForGood, Bool.and_eq_true, bne_iff_ne] at hfails
      obtain ⟨⟨hcategory, hnamed⟩, hflight⟩ := hfails
      have hselects : (row.named readerId transactionId && row.inFlightBy t) = true := by
        rw [hnamed, hflight]
        rfl
      have hdb : (recordPermanentQueueFailure db readerId transactionId category t).database = _ :=
        inv.failTransaction_database hrow hselects hcategory
      exact not_markComplete_of_resolve (congrArg (·.readerState) hdb)
        (congrArg (·.offlineTransactions) hdb) hrow hselects hfrontier
  | failBatch readerId batchId category t target =>
    cases target with
    | manualReview => cases hfails
    | permanentFailure =>
      simp only [Operation.failsForGood, Bool.and_eq_true, bne_iff_ne, beq_iff_eq] at hfails
      obtain ⟨⟨⟨hcategory, hbatch⟩, hall⟩, hentry⟩ := hfails
      have hdb : (recordSynchronizationPermanentFailure db readerId batchId category
          t).database = _ := inv.failBatch_database hrow hentry hcategory hbatch hall
      exact not_markComplete_of_resolve (congrArg (·.readerState) hdb)
        (congrArg (·.offlineTransactions) hdb) hrow hentry hfrontier
  | _ => cases hfails

theorem FreshlyBound.markComplete (h : FreshlyBound db) : db.MarkComplete := by
  obtain ⟨identity, -, rfl⟩ := h.exists_identity
  exact fun row hrow => absurd hrow List.not_mem_nil

/-- The mark stands before an unresolved transaction all along a run exactly
when no call of the run fails the transaction right behind it for good. -/
theorem highWaterMark_complete_iff {db₀ : ReaderDatabase} (h : FreshlyBound db₀)
    (ops : List Operation) :
    (∀ k, (Runs.run (perform codec) db₀ (ops.take k)).MarkComplete) ↔
      Runs.StepsMeet (perform codec) (fun db op => op.failsFrontier db = false) db₀ ops := by
  refine Runs.forall_take_iff_stepsMeet (Q := fun db => ∃ reader, Consistent reader db)
    (fun db op ⟨_, inv⟩ => inv.perform op) (fun db op ⟨_, inv⟩ hcomplete => ?_) h.consistent
    h.markComplete ops
  constructor
  · intro hnext
    rw [← Bool.not_eq_true]
    exact fun hfails => inv.not_markComplete_of_failsFrontier hfails hnext
  · intro hspared
    exact perform_invariant hcomplete fun _ h => inv.markComplete_step h hspared hcomplete

theorem highWaterMark_complete_iff_submission :
    FreshlyBound sampleDatabase ∧
      ∀ k, (Runs.run (perform sampleCodec) sampleDatabase
        (sampleSubmission.take k)).MarkComplete :=
  ⟨sampleDatabase_freshlyBound,
    (highWaterMark_complete_iff sampleDatabase_freshlyBound sampleSubmission).mpr
      ⟨by decide, by decide, by decide, trivial⟩⟩

/-- The only transaction fails for good with its batch, and the mark stays at
zero. -/
theorem highWaterMark_incomplete :
    ¬∀ (db₀ : ReaderDatabase) (ops : List Operation), FreshlyBound db₀ →
      (Runs.run (perform sampleCodec) db₀ ops).MarkComplete := by
  intro hclaim
  have hcomplete := hclaim sampleDatabase
    (sampleSubmission ++ [.failBatch sampleReaderId sampleBatchId "backend_validation_failure" 3
      .permanentFailure]) sampleDatabase_freshlyBound
  revert hcomplete
  unfold ReaderDatabase.MarkComplete
  decide

end TransitGuard.Reader
