import TransitGuard.Reader.InFlight

/-!
A reader whose batches are moved by the submission coordinator alone, against a
backend that acknowledges every entry. A transaction then joins one batch and
stays with it: it never becomes eligible again, so no second batch can take it,
and it fails for good only together with its batch.
-/

namespace TransitGuard.Reader

open Fallible

variable {codec : Json.Codec} {db db' : ReaderDatabase} {op : Operation}
  {reader : ReaderStateRow}

/-- No operation on a single transaction, and no acknowledgement that rejects
an entry. -/
def Operation.Coordinated : Operation → Prop
  | .markTransaction .. | .retryTransaction .. | .failTransaction .. => False
  | .storeAcknowledgement acknowledgement =>
    ∀ entry ∈ acknowledgement.entries, entry.resolution = .acknowledged
  | _ => True

theorem Operation.Coordinated.onTransaction (h : op.Coordinated) : op.onTransaction = false := by
  cases op <;> first | rfl | exact h.elim

/-- Pending or retryable, whatever the time. -/
def OfflineQueueState.isWaiting : OfflineQueueState → Bool
  | .pending | .retryableFailure => true
  | _ => false

/-- What a coordinated reader keeps on top of the general invariants. -/
structure Enlisted (db : ReaderDatabase) : Prop where
  held : db.Held
  grounded : db.Grounded
  outcomes : ∀ entry ∈ db.synchronizationAcknowledgementEntries, entry.outcome = .acknowledged
  taken : ∀ entry ∈ db.synchronizationEntries, ∀ row ∈ db.offlineTransactions,
    row.fareTransactionId = entry.fareTransactionId → row.queueState.isWaiting = false
  once : (db.synchronizationEntries.map (·.fareTransactionId)).Nodup
  failed : ∀ row ∈ db.offlineTransactions, row.queueState = .permanentFailure →
    ∃ entry ∈ db.synchronizationEntries, entry.key = row.key ∧
      ∃ batch ∈ db.synchronizationBatches, batch.batchId = entry.batchId ∧
        batch.batchState = .permanentFailure

theorem OfflineTransactionRow.isWaiting_of_eligibleAt {row : OfflineTransactionRow}
    {t : UnixMilliseconds} (h : row.eligibleAt t = true) : row.queueState.isWaiting = true := by
  unfold eligibleAt at h
  cases hs : row.queueState <;> simp_all [OfflineQueueState.isWaiting]

/-! ## Where the states of the queue come from -/

/-- The later form of a row: its state is the old one, a state that holds it in
a batch, or a failure that its batch shares. -/
def OfflineTransactionRow.Follows (db' : ReaderDatabase) (row row' : OfflineTransactionRow) :
    Prop :=
  row'.key = row.key ∧ (row'.queueState = row.queueState ∨ row'.queueState = .inFlight ∨
    row'.queueState = .acknowledged ∨ row'.queueState = .manualReview ∨
    (row'.queueState = .permanentFailure ∧ ∃ entry ∈ db'.synchronizationEntries,
      entry.key = row.key ∧ ∃ batch ∈ db'.synchronizationBatches,
        batch.batchId = entry.batchId ∧ batch.batchState = .permanentFailure))

theorem OfflineTransactionRow.Follows.refl (row : OfflineTransactionRow) :
    row.Follows db' row :=
  ⟨rfl, .inl rfl⟩

/-- A loop of statements that set one state. -/
theorem origin_of_updateEach (state : OfflineQueueState) {ε β : Type} {items : List β}
    {p : β → OfflineTransactionRow → Bool}
    {f : β → OfflineTransactionRow → OfflineTransactionRow} {refused : ε} {conflict : β → ε}
    {rows out : List OfflineTransactionRow}
    (h : Table.updateEach OfflineTransactionRow.check p f refused conflict items rows = .ok out)
    (hf : ∀ item ∈ items, ∀ row, (f item row).key = row.key ∧ (f item row).queueState = state) :
    ∀ row' ∈ out, ∃ row ∈ rows, row'.key = row.key ∧
      (row'.queueState = row.queueState ∨ row'.queueState = state) := by
  refine Table.origin_updateEach (R := fun row row' : OfflineTransactionRow =>
    row'.key = row.key ∧ (row'.queueState = row.queueState ∨ row'.queueState = state)) h
    (fun _ => ⟨rfl, .inl rfl⟩) ?_ ?_
  · rintro a b c ⟨hab, hab'⟩ ⟨hbc, hbc'⟩
    exact ⟨hbc.trans hab, hbc'.elim (fun h => hab'.imp h.trans h.trans) .inr⟩
  · exact fun item hitem row _ => ⟨(hf item hitem row).1, .inr (hf item hitem row).2⟩

/-- Every outcome an application reads is an acknowledgement. -/
theorem Enlisted.decoded_acknowledged (henlisted : Enlisted db) {readerId : ReaderId}
    {batchId : SynchronizationBatchId} {receivedAt : UnixMilliseconds}
    {entries : List DecodedAcknowledgementEntry}
    (h : decodeAcknowledgementEntries receivedAt 0 (Table.orderBy (·.entryPosition)
      (db.synchronizationAcknowledgementEntries.filter fun row =>
        row.batchId == batchId && row.readerId == readerId)) = .ok entries) :
    ∀ entry ∈ entries, entry.resolution.queueValues.1 = .acknowledged := by
  intro entry hentry
  obtain ⟨row, hrow, -, -, hresolution⟩ :=
    exists_of_forall₂ (decodeAcknowledgementEntries_ok.mp h).2 hentry
  have houtcome := henlisted.outcomes row (List.mem_of_mem_filter (Table.mem_orderBy.mp hrow))
  have hkind := (decodeResolution_ok hresolution).1
  rw [houtcome] at hkind
  cases hres : entry.resolution <;> rw [hres] at hkind <;> first | rfl | cases hkind

/-- A failed batch takes its transactions along. -/
theorem Consistent.follows_failBatch (inv : Consistent reader db) {readerId : ReaderId}
    {batchId : SynchronizationBatchId} {category : String} {t : UnixMilliseconds}
    {target : FinalState}
    (h : Committed codec db (.failBatch readerId batchId category t target) db') :
    ∀ row' ∈ db'.offlineTransactions, ∃ row ∈ db.offlineTransactions, row.Follows db' row' := by
  cases h with
  | failBatch check one queueCheck all category =>
    refine Table.origin_updateWhere OfflineTransactionRow.Follows.refl fun row hrow hp => ⟨rfl, ?_⟩
    cases target with
    | manualReview => exact .inr (.inr (.inr (.inl rfl)))
    | permanentFailure =>
      simp only [ReaderDatabase.inFlightEntry, ReaderDatabase.inBatch, Bool.and_eq_true,
        List.any_eq_true, beq_iff_eq] at hp
      obtain ⟨⟨-, -⟩, entry, hentry, hid⟩ := hp
      obtain ⟨hentry, hbatchOf⟩ := List.mem_filter.mp hentry
      simp only [Bool.and_eq_true, beq_iff_eq] at hbatchOf
      obtain ⟨queued, hqueued, hkey⟩ := inv.batches.entryQueued entry hentry
      have hsame : queued = row := Table.eq_of_key_eq inv.queue.ids hqueued hrow
        ((congrArg Prod.fst hkey).trans hid)
      have hfound : 0 < db.synchronizationBatches.countP
          (fun row => row.named readerId batchId && row.inFlightBy t) := by omega
      obtain ⟨batch, hbatch, hselected⟩ := List.countP_pos_iff.mp hfound
      have hnamed : batch.batchId = batchId := by
        simp only [SynchronizationBatchRow.named, Bool.and_eq_true, beq_iff_eq] at hselected
        exact hselected.1.1
      refine .inr (.inr (.inr (.inr ⟨rfl, entry, hentry, hsame ▸ hkey.symm, ?_⟩)))
      refine ⟨_, Table.mem_updateWhere.mpr ⟨batch, hbatch, rfl⟩, ?_⟩
      rw [if_pos hselected]
      exact ⟨hnamed.trans hbatchOf.1.symm, rfl⟩

/-- Rows of the queue follow an earlier row, or are new and in no batch. -/
theorem Enlisted.follows (henlisted : Enlisted db) (inv : Consistent reader db)
    (h : Committed codec db op db') (hop : op.Coordinated) :
    ∀ row' ∈ db'.offlineTransactions,
      (∃ row ∈ db.offlineTransactions, row.Follows db' row') ∨
        (row'.queueState = .pending ∧ ∀ entry ∈ db'.synchronizationEntries,
          entry.fareTransactionId ≠ row'.fareTransactionId) := by
  intro row' hrow'
  have hcommitted := h
  cases h with
  | markTransaction | retryTransaction | failTransaction => exact hop.elim
  | bind unbound =>
    rw [inv.queue.bound] at unbound
    cases unbound
  | enqueue _ _ _ _ _ fresh =>
    rcases List.mem_append.mp hrow' with hrow' | hrow'
    · exact .inl ⟨row', hrow', .refl row'⟩
    · rw [List.mem_singleton] at hrow'
      rw [hrow']
      refine .inr ⟨rfl, fun entry hentry hid => ?_⟩
      obtain ⟨queued, hqueued, hkey⟩ := inv.batches.entryQueued entry hentry
      have hconflict := fresh queued hqueued
      simp only [OfflineTransactionRow.conflicts, Bool.or_eq_false_iff, beq_eq_false_iff_ne]
        at hconflict
      exact hconflict.1 (hid.symm.trans (congrArg Prod.fst hkey).symm)
  | retryBatch | recoverBatches | storeAcknowledgement =>
    exact .inl ⟨row', hrow', .refl row'⟩
  | recoverQueue =>
    -- a transaction in flight is in an open batch, so the statement selects none
    refine .inl (Table.origin_updateWhere OfflineTransactionRow.Follows.refl ?_ row' hrow')
    intro row hrow hp
    simp only [OfflineTransactionRow.inFlightBy, Bool.and_eq_true, beq_iff_eq,
      Bool.not_eq_eq_eq_not, Bool.not_true] at hp
    rw [henlisted.grounded row hrow hp.1.2.1] at hp
    cases hp.2
  | markBatch =>
    refine .inl (Table.origin_updateWhere OfflineTransactionRow.Follows.refl ?_ row' hrow')
    exact fun _ _ _ => ⟨rfl, .inl rfl⟩
  | failBatch => exact .inl (inv.follows_failBatch hcommitted row' hrow')
  | createBatch _ _ _ _ _ _ reserved =>
    obtain ⟨row, hrow, hkey, hstate⟩ := origin_of_updateEach .inFlight reserved
      (fun _ _ _ => ⟨rfl, rfl⟩) row' hrow'
    exact .inl ⟨row, hrow, hkey, hstate.imp_right .inl⟩
  | applyAcknowledgement _ _ decoded _ _ applied =>
    obtain ⟨row, hrow, hkey, hstate⟩ := origin_of_updateEach .acknowledged applied
      (fun entry hentry _ => ⟨rfl, henlisted.decoded_acknowledged decoded entry hentry⟩)
      row' hrow'
    exact .inl ⟨row, hrow, hkey, hstate.imp_right fun h => .inr (.inl h)⟩

/-! ## One batch for each transaction -/

/-- The entries a creation adds name distinct transactions that no entry named
before. -/
theorem Enlisted.created (henlisted : Enlisted db) (inv : Consistent reader db)
    {readerId : ReaderId} {version : DeviceProtocolVersion} {t : UnixMilliseconds} {limit : Nat}
    {generated : SynchronizationBatchId}
    (h : Committed codec db (.createBatch readerId version t limit generated) db') :
    ∃ batch added, Creates reader db db' batch added ∧
      (added.map (·.fareTransactionId)).Nodup ∧
      ∀ entry ∈ added, ∀ other ∈ db.synchronizationEntries,
        other.fareTransactionId ≠ entry.fareTransactionId := by
  obtain ⟨batch, added, hcreates, -, -, hkeys⟩ := inv.queue.creates h
  refine ⟨batch, added, hcreates, ?_, fun entry hentry other hother hid => ?_⟩
  · have hids : added.map (·.fareTransactionId) =
        (batchCandidates db readerId t limit).map (·.fareTransactionId) := map_fst_of_keys hkeys
    rw [hids]
    exact inv.queue.ids.sublist ((inv.queue.batchCandidates_sublist readerId t limit).map _)
  · have hmem := List.mem_map_of_mem (f := SynchronizationEntryRow.key) hentry
    rw [hkeys] at hmem
    obtain ⟨row, hrow, hkey⟩ := List.mem_map.mp hmem
    obtain ⟨hqueued, -, heligible, -⟩ := mem_batchCandidates hrow
    have hwaiting := OfflineTransactionRow.isWaiting_of_eligibleAt heligible
    rw [henlisted.taken other hother row hqueued ((congrArg Prod.fst hkey).trans hid.symm)]
      at hwaiting
    cases hwaiting

theorem Enlisted.once_step (henlisted : Enlisted db) (inv : Consistent reader db)
    (h : Committed codec db op db') :
    (db'.synchronizationEntries.map (·.fareTransactionId)).Nodup := by
  rcases h.batchFrame with ⟨readerId, version, t, limit, generated, rfl⟩ | hframe
  · obtain ⟨batch, added, hcreates, hnodup, hfresh⟩ := henlisted.created inv h
    rw [hcreates.entries, List.map_append, List.nodup_append]
    refine ⟨henlisted.once, hnodup, ?_⟩
    rintro a ha b hb rfl
    obtain ⟨other, hother, rfl⟩ := List.mem_map.mp ha
    obtain ⟨entry, hentry, hid⟩ := List.mem_map.mp hb
    exact hfresh entry hentry other hother hid.symm
  · rw [hframe.entries]
    exact henlisted.once

/-- A row that follows one of a batch is not waiting either. -/
theorem OfflineTransactionRow.Follows.isWaiting {row row' : OfflineTransactionRow}
    (h : row.Follows db' row') (hrow : row.queueState.isWaiting = false) :
    row'.queueState.isWaiting = false := by
  rcases h.2 with hstate | hstate | hstate | hstate | ⟨hstate, -⟩
  · rw [hstate]
    exact hrow
  · rw [hstate]
    rfl
  · rw [hstate]
    rfl
  · rw [hstate]
    rfl
  · rw [hstate]
    rfl

theorem Enlisted.taken_step (henlisted : Enlisted db) (inv : Consistent reader db)
    (h : Committed codec db op db') (hop : op.Coordinated) :
    ∀ entry ∈ db'.synchronizationEntries, ∀ row' ∈ db'.offlineTransactions,
      row'.fareTransactionId = entry.fareTransactionId → row'.queueState.isWaiting = false := by
  intro entry hentry row' hrow' hid
  have hold : entry ∈ db.synchronizationEntries → row'.queueState.isWaiting = false := by
    intro hentry'
    rcases henlisted.follows inv h hop row' hrow' with ⟨row, hrow, hfollows⟩ | ⟨-, hnone⟩
    · exact hfollows.isWaiting (henlisted.taken entry hentry' row hrow
        ((congrArg Prod.fst hfollows.1).symm.trans hid))
    · exact absurd hid.symm (hnone entry hentry)
  rcases h.batchFrame with ⟨readerId, version, t, limit, generated, rfl⟩ | hframe
  · obtain ⟨batch, added, hcreates, -, -⟩ := henlisted.created inv h
    rw [hcreates.entries, List.mem_append] at hentry
    rcases hentry with hentry | hentry
    · exact hold hentry
    · obtain ⟨row, -, hrowid, ⟨-, hflight⟩ | ⟨hnotin, -⟩⟩ := hcreates.origin row' hrow'
      · rw [hflight]
        rfl
      · exact absurd (List.mem_map.mpr ⟨entry, hentry, hid.symm.trans hrowid⟩) hnotin
  · exact hold (hframe.entries ▸ hentry)

theorem Enlisted.outcomes_step (henlisted : Enlisted db) (h : Committed codec db op db')
    (hop : op.Coordinated) :
    ∀ entry ∈ db'.synchronizationAcknowledgementEntries, entry.outcome = .acknowledged := by
  rcases h.acknowledgementFrame with ⟨acknowledgement, rfl⟩ | ⟨_, _, _, rfl⟩ | hframe
  · cases h with
    | storeAcknowledgement =>
      intro entry hentry
      rcases List.mem_append.mp hentry with hentry | hentry
      · exact henlisted.outcomes entry hentry
      · obtain ⟨pair, hpair, rfl⟩ := List.mem_map.mp hentry
        have hresolution := hop pair.1 (List.fst_mem_of_mem_zipIdx hpair)
        simp only [SynchronizationAcknowledgement.toEntryRow, hresolution, storedResolution]
  · cases h with
    | applyAcknowledgement => exact henlisted.outcomes
  · rw [hframe.entries]
    exact henlisted.outcomes

theorem Enlisted.failed_step (henlisted : Enlisted db) (inv : Consistent reader db)
    (h : Committed codec db op db') (hop : op.Coordinated) :
    ∀ row' ∈ db'.offlineTransactions, row'.queueState = .permanentFailure →
      ∃ entry ∈ db'.synchronizationEntries, entry.key = row'.key ∧
        ∃ batch ∈ db'.synchronizationBatches, batch.batchId = entry.batchId ∧
          batch.batchState = .permanentFailure := by
  intro row' hrow' hfailed
  rcases henlisted.follows inv h hop row' hrow' with ⟨row, hrow, hkey, hstate⟩ | ⟨hpending, -⟩
  · rcases hstate with hstate | hstate | hstate | hstate | ⟨-, entry, hentry, hid, hbatch⟩
    · obtain ⟨entry, hentry, hid, batch, hbatch, hbatchid, hbatchState⟩ :=
        henlisted.failed row hrow (hstate ▸ hfailed)
      obtain ⟨batch', hbatch', hkept⟩ := h.grows.batches batch hbatch
      refine ⟨entry, h.grows.mem_entries inv.batches hentry, hid.trans hkey.symm, batch', hbatch',
        (congrArg (·.batchId) hkept.frozen).trans hbatchid, ?_⟩
      rw [hkept.closed (by rw [hbatchState]; rfl), hbatchState]
    · rw [hstate] at hfailed
      cases hfailed
    · rw [hstate] at hfailed
      cases hfailed
    · rw [hstate] at hfailed
      cases hfailed
    · exact ⟨entry, hentry, hid.trans hkey.symm, hbatch⟩
  · rw [hpending] at hfailed
    cases hfailed

theorem Enlisted.step (henlisted : Enlisted db) (inv : Consistent reader db)
    (h : Committed codec db op db') (hop : op.Coordinated) : Enlisted db' where
  held := inv.held_step h (Operation.sparesOpenBatches_of_not_onTransaction hop.onTransaction)
    henlisted.held
  grounded := inv.grounded_step h hop.onTransaction henlisted.grounded
  outcomes := henlisted.outcomes_step h hop
  taken := henlisted.taken_step inv h hop
  once := henlisted.once_step inv h
  failed := henlisted.failed_step inv h hop

theorem FreshlyBound.enlisted (h : FreshlyBound db) : Enlisted db := by
  have hheld := h.held
  have hgrounded := h.grounded
  obtain ⟨identity, -, rfl⟩ := h.exists_identity
  exact ⟨hheld, hgrounded, nofun, nofun, List.nodup_nil, nofun⟩

/-- A batch fails for good only by the operation that says so. -/
theorem Committed.permanentFailure_origin (inv : Consistent reader db)
    (h : Committed codec db op db') {batch' : SynchronizationBatchRow}
    (hbatch' : batch' ∈ db'.synchronizationBatches)
    (hfailed : batch'.batchState = .permanentFailure) :
    (∃ batch ∈ db.synchronizationBatches, batch.batchId = batch'.batchId ∧
      batch.batchState = .permanentFailure) ∨
    ∃ readerId category t,
      op = .failBatch readerId batch'.batchId category t .permanentFailure := by
  have hcommitted := h
  cases h with
  | bind | enqueue | markTransaction | retryTransaction | failTransaction | recoverQueue
  | storeAcknowledgement => exact .inl ⟨batch', hbatch', rfl, hfailed⟩
  | createBatch =>
    obtain ⟨batch, added, hcreates, -⟩ := inv.queue.creates hcommitted
    rw [hcreates.batches, List.mem_append, List.mem_singleton] at hbatch'
    rcases hbatch' with hbatch' | rfl
    · exact .inl ⟨batch', hbatch', rfl, hfailed⟩
    · rw [hcreates.prepared] at hfailed
      cases hfailed
  | markBatch | retryBatch | recoverBatches | applyAcknowledgement =>
    obtain ⟨batch, hbatch, rfl⟩ := Table.mem_updateWhere.mp hbatch'
    split at hfailed
    · cases hfailed
    · next hp =>
      rw [if_neg hp]
      exact .inl ⟨batch, hbatch, rfl, hfailed⟩
  | @failBatch readerId batchId category t target =>
    obtain ⟨batch, hbatch, rfl⟩ := Table.mem_updateWhere.mp hbatch'
    split at hfailed
    · next hp =>
      rw [if_pos hp]
      simp only [SynchronizationBatchRow.named, Bool.and_eq_true, beq_iff_eq] at hp
      cases target with
      | manualReview => cases hfailed
      | permanentFailure =>
        have hid : (batch.leave .permanentFailure none (some (Text.trim category)) t).batchId =
          batchId := hp.1.1
        refine .inr ⟨readerId, category, t, ?_⟩
        rw [← hid]
        rfl
    · next hp =>
      rw [if_neg hp]
      exact .inl ⟨batch, hbatch, rfl, hfailed⟩

end TransitGuard.Reader
