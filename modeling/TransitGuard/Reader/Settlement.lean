import TransitGuard.Reader.Replay

/-!
What one application leaves. Between the call that stores an acknowledgement and
the queue, each resolution is translated, printed, written to a row, read back
and decoded; its transaction ends up exactly as the resolution says, whatever
the mixture of outcomes, and nothing else moves.
-/

namespace TransitGuard.Reader

open Fallible

variable {codec : Json.Codec} {db db' : ReaderDatabase} {reader : ReaderStateRow}
  {readerId : ReaderId} {batchId : SynchronizationBatchId} {t : UnixMilliseconds}
  {acknowledgement : SynchronizationAcknowledgement}

/-! ## The intended outcome -/

def SynchronizationEntryResolution.outcome :
    SynchronizationEntryResolution → Protocol.EntryOutcome
  | .acknowledged => .acknowledged
  | .retryableFailure .. => .retryableFailure
  | .permanentFailure _ => .permanentFailure
  | .manualReview _ => .manualReview

/-- The transaction as its resolution wants it at time `t`. -/
def SynchronizationEntryResolution.settled (t : UnixMilliseconds) (row : OfflineTransactionRow) :
    SynchronizationEntryResolution → OfflineTransactionRow
  | .acknowledged =>
    { row with
      queueState := .acknowledged, lastFailureCategory := none, nextRetryAt := none
      updatedAt := t }
  | .retryableFailure category retryAt =>
    { row with
      queueState := .retryableFailure, lastFailureCategory := some (Text.trim category)
      nextRetryAt := some retryAt, updatedAt := t }
  | .permanentFailure category =>
    { row with
      queueState := .permanentFailure, lastFailureCategory := some (Text.trim category)
      nextRetryAt := none, updatedAt := t }
  | .manualReview category =>
    { row with
      queueState := .manualReview, lastFailureCategory := some (Text.trim category)
      nextRetryAt := none, updatedAt := t }

/-- The number of entries with each outcome. -/
def SynchronizationAcknowledgement.counts (acknowledgement : SynchronizationAcknowledgement) :
    ResolutionCounts :=
  let count := fun outcome =>
    acknowledgement.entries.countP fun entry => entry.resolution.outcome == outcome
  ⟨count .acknowledged, count .retryableFailure, count .permanentFailure, count .manualReview⟩

/-- `db'` is `db` with the acknowledgement applied at time `t` and nothing else
done. -/
structure Settles (acknowledgement : SynchronizationAcknowledgement) (t : UnixMilliseconds)
    (db db' : ReaderDatabase) : Prop where
  transactions : List.Forall₂ (fun row row' =>
      if db.inBatch acknowledgement.readerId acknowledgement.batchId row then
        ∃ entry ∈ acknowledgement.entries, entry.key = row.key ∧
          row' = entry.resolution.settled t row
      else row' = row)
    db.offlineTransactions db'.offlineTransactions
  inFlight : (db.findBatch acknowledgement.readerId acknowledgement.batchId).map (·.batchState) =
    some .inFlight
  acknowledged : (db'.findBatch acknowledgement.readerId acknowledgement.batchId).map
    (·.batchState) = some .acknowledged
  batches : db'.synchronizationBatches = db.synchronizationBatches.map fun batch =>
    if batch.batchId = acknowledgement.batchId then batch.leave .acknowledged none none t
    else batch
  acknowledgements : db'.synchronizationAcknowledgements =
    db.synchronizationAcknowledgements.map fun row =>
      if row.batchId = acknowledgement.batchId then { row with appliedAt := some t } else row
  entries : db'.synchronizationEntries = db.synchronizationEntries
  acknowledgementEntries :
    db'.synchronizationAcknowledgementEntries = db.synchronizationAcknowledgementEntries
  reader : ∃ row row', db.readerState = some row ∧ db'.readerState = some row' ∧
    row' = { row with
      lastAcknowledgedSequence := row'.lastAcknowledgedSequence
      updatedAt := row'.updatedAt }

/-! ## Resolutions and counts -/

/-- Trimmed and taken apart into columns, a resolution assigns what it wants. -/
theorem settle_trimmed (transactionId : FareTransactionId) (sequence : Nat)
    (resolution : SynchronizationEntryResolution) (row : OfflineTransactionRow) :
    DecodedAcknowledgementEntry.settle t ⟨transactionId, sequence, resolution.trimmed⟩ row =
      resolution.settled t row := by
  cases resolution <;> rfl

theorem SynchronizationEntryResolution.outcome_trimmed
    (resolution : SynchronizationEntryResolution) :
    resolution.trimmed.outcome = resolution.outcome := by
  cases resolution <;> rfl

/-- The loop adds to every counter the number of entries with its outcome. -/
theorem foldl_record (counts : ResolutionCounts) (entries : List DecodedAcknowledgementEntry) :
    entries.foldl (fun counts entry => counts.record entry.resolution) counts =
      ⟨counts.acknowledged + entries.countP (·.resolution.outcome == .acknowledged),
        counts.retryableFailure + entries.countP (·.resolution.outcome == .retryableFailure),
        counts.permanentFailure + entries.countP (·.resolution.outcome == .permanentFailure),
        counts.manualReview + entries.countP (·.resolution.outcome == .manualReview)⟩ := by
  induction entries generalizing counts with
  | nil => rfl
  | cons entry entries ih =>
    rw [List.foldl_cons, ih]
    simp only [List.countP_cons, ResolutionCounts.mk.injEq]
    cases entry.resolution <;>
      simp [ResolutionCounts.record, SynchronizationEntryResolution.outcome] <;> omega

theorem resolutionCounts_decoded (acknowledgement : SynchronizationAcknowledgement) :
    resolutionCounts acknowledgement.decoded = acknowledgement.counts := by
  simp only [resolutionCounts, foldl_record, SynchronizationAcknowledgement.decoded,
    List.countP_map, Function.comp_def, SynchronizationEntryResolution.outcome_trimmed,
    Nat.zero_add]
  rfl

/-! ## The tables -/

section Settles

variable {row : SynchronizationAcknowledgementRow} (inv : Consistent reader db)
  (hrow : row ∈ db.synchronizationAcknowledgements)
  (hrecords : row.Records codec db acknowledgement)
include inv hrow hrecords

/-- Each entry finds its transaction, and every transaction of the batch is
found. -/
theorem Consistent.settled_transactions {transactions : List OfflineTransactionRow}
    (happlied : applyEntries reader.readerId t acknowledgement.decoded db.offlineTransactions =
      .ok transactions) :
    List.Forall₂ (fun queued queued' =>
        if db.inBatch reader.readerId acknowledgement.batchId queued then
          ∃ entry ∈ acknowledgement.entries, entry.key = queued.key ∧
            queued' = entry.resolution.settled t queued
        else queued' = queued)
      db.offlineTransactions transactions := by
  have hid := hrecords.batchId_eq
  have hkeys := inv.acknowledgements.decoded_keys inv.batches hrow hid
    (hid ▸ hrecords.decode inv)
  have hids : acknowledgement.decoded.map (·.transactionId) =
      (db.entriesOf acknowledgement.batchId).map (·.fareTransactionId) := map_fst_of_keys hkeys
  have hnodup : (acknowledgement.decoded.map (·.transactionId)).Nodup := by
    obtain ⟨batch, hbatch, hbatchId⟩ := inv.acknowledgements.known row hrow
    rw [hids, ← hid, ← hbatchId]
    exact inv.batches.nodup_transactions inv.queue hbatch
  obtain ⟨hfound, rfl⟩ := (applyEntries_eq_ok inv.queue.ids hnodup).mp happlied
  rw [List.forall₂_map_right_iff]
  refine List.forall₂_same.mpr fun queued hqueued => ?_
  have hmember : db.inBatch reader.readerId acknowledgement.batchId queued = true ↔
      queued.fareTransactionId ∈ acknowledgement.decoded.map (·.transactionId) := by
    rw [inv.batches.mem_inBatch, hids]
  rcases Table.assignEach_cases (·.fareTransactionId) (·.transactionId)
    (DecodedAcknowledgementEntry.settle t) acknowledgement.decoded queued with
    ⟨decoded, hdecoded, hkey, hassigned⟩ | ⟨hother, hassigned⟩
  · rw [if_pos (hmember.mpr (List.mem_map.mpr ⟨decoded, hdecoded, hkey⟩)), hassigned]
    obtain ⟨entry, hentry, rfl⟩ := List.mem_map.mp hdecoded
    refine ⟨entry, hentry, ?_, settle_trimmed _ _ _ _⟩
    -- the row selected for this entry is the one with its identifier
    obtain ⟨selected, hselected, hsel, -⟩ := hfound _ hdecoded
    obtain ⟨hselectedId, -, hsequence, -⟩ := DecodedAcknowledgementEntry.selects_eq_true.mp hsel
    obtain rfl : selected = queued :=
      Table.eq_of_key_eq inv.queue.ids hselected hqueued (hselectedId.trans hkey)
    exact Prod.ext hkey hsequence.symm
  · rw [if_neg fun hin => hother (hmember.mp hin), hassigned]

/-- What the application committed, with the entries that were stored. -/
theorem Consistent.applied_tables
    (h : Committed codec db (.applyAcknowledgement acknowledgement.readerId
      acknowledgement.batchId t) db') :
    row.appliedAt = none ∧
      applyEntries reader.readerId t acknowledgement.decoded db.offlineTransactions =
        .ok db'.offlineTransactions ∧
      db.synchronizationBatches.countP (fun batch =>
        batch.named reader.readerId acknowledgement.batchId && batch.inFlightBy t) = 1 ∧
      db'.synchronizationBatches = Table.updateWhere
        (fun batch => batch.named reader.readerId acknowledgement.batchId && batch.inFlightBy t)
        (·.leave .acknowledged none none t) db.synchronizationBatches ∧
      db'.synchronizationAcknowledgements = Table.updateWhere
        (fun other => other.batchId == acknowledgement.batchId &&
          other.readerId == reader.readerId && other.appliedAt.isNone)
        (fun other => { other with appliedAt := some t }) db.synchronizationAcknowledgements ∧
      db'.synchronizationEntries = db.synchronizationEntries ∧
      db'.synchronizationAcknowledgementEntries = db.synchronizationAcknowledgementEntries ∧
      ∃ advanced, advanceReader db.readerState reader.readerId reader.lastAcknowledgedSequence
        advanced t = .ok db'.readerState := by
  obtain ⟨howner, hid, -, hfound⟩ := inv.find_recorded hrow hrecords
  rw [howner] at h
  cases h with
  | @applyAcknowledgement _ _ _ stored entries bound readerState transactions advanced
      found unapplied decoded hbound _ applied _ one _ advance =>
    obtain rfl : bound = reader := Option.some.inj (hbound.symm.trans inv.queue.bound)
    obtain rfl : stored = row := Option.some.inj (found.symm.trans hfound)
    have hentries : Except.ok acknowledgement.decoded = Except.ok entries :=
      (hid ▸ hrecords.decode inv).symm.trans decoded
    obtain rfl := Except.ok.inj hentries
    exact ⟨unapplied, applied, one, rfl, rfl, rfl, rfl, advanced, advance⟩

theorem Consistent.settles
    (h : Committed codec db (.applyAcknowledgement acknowledgement.readerId
      acknowledgement.batchId t) db') : Settles acknowledgement t db db' := by
  obtain ⟨howner, hid, -, -⟩ := inv.find_recorded hrow hrecords
  obtain ⟨hunapplied, happlied, hone, hbatches, hmarks, hentries, hrows, advanced, hadvance⟩ :=
    inv.applied_tables hrow hrecords h
  have hselects : ∀ batch ∈ db.synchronizationBatches,
      (batch.named reader.readerId acknowledgement.batchId && batch.inFlightBy t) = true ↔
        batch.batchId = acknowledgement.batchId := by
    refine Table.selects_iff_of_countP inv.batches.ids (fun batch _ hp => ?_) hone
    simp only [SynchronizationBatchRow.named, Bool.and_eq_true, beq_iff_eq] at hp
    exact hp.1.1
  have hmarked : ∀ other ∈ db.synchronizationAcknowledgements,
      (other.batchId == acknowledgement.batchId && other.readerId == reader.readerId &&
        other.appliedAt.isNone) = true ↔ other.batchId = acknowledgement.batchId := by
    intro other hother
    simp only [Bool.and_eq_true, beq_iff_eq]
    refine ⟨fun hp => hp.1.1, fun hsame => ?_⟩
    obtain rfl : other = row :=
      Table.eq_of_key_eq inv.acknowledgements.ids hother hrow (hsame.trans hid.symm)
    exact ⟨⟨hsame, inv.acknowledgements.owned other hother⟩, by rw [hunapplied]; rfl⟩
  obtain ⟨batch, hbatch, hbatchId⟩ := inv.acknowledgements.known row hrow
  rw [hid] at hbatchId
  have hselected := (hselects batch hbatch).mpr hbatchId
  have hleft : batch.leave .acknowledged none none t ∈ db'.synchronizationBatches := by
    rw [hbatches]
    exact Table.mem_updateWhere.mpr ⟨batch, hbatch, (if_pos hselected).symm⟩
  obtain ⟨reader', inv', hfrozen⟩ := inv.step h
  have hreader' : reader'.readerId = reader.readerId := congrArg (·.readerId) hfrozen
  exact
    { transactions := howner ▸ inv.settled_transactions hrow hrecords happlied
      inFlight := by
        simp only [Bool.and_eq_true, SynchronizationBatchRow.inFlightBy, beq_iff_eq] at hselected
        rw [howner, ← hbatchId, inv.batches.findBatch hbatch, Option.map_some, hselected.2.1]
      acknowledged := by
        rw [howner, ← hbatchId, ← hreader']
        exact congrArg (Option.map (·.batchState)) (inv'.batches.findBatch hleft)
      batches := hbatches.trans (Table.updateWhere_eq_map hselects)
      acknowledgements := hmarks.trans (Table.updateWhere_eq_map hmarked)
      entries := hentries
      acknowledgementEntries := hrows
      reader := by
        rcases advanceReader_ok.mp hadvance with ⟨-, hsame⟩ |
          ⟨-, -, old, hold, -, -, -, -, hnew⟩
        · exact ⟨reader, reader, inv.queue.bound, hsame.trans inv.queue.bound, rfl⟩
        · exact ⟨old, _, hold, hnew, rfl⟩ }

end Settles

/-! ## Over a run -/

/-- At some point of the run `store_synchronization_acknowledgement` was called
with the acknowledgement and succeeded. -/
def GivenToStore (codec : Json.Codec) (db₀ : ReaderDatabase) (ops : List Operation)
    (acknowledgement : SynchronizationAcknowledgement) : Prop :=
  ∃ before after stored, ops = before ++ .storeAcknowledgement acknowledgement :: after ∧
    (storeSynchronizationAcknowledgement codec (Runs.run (perform codec) db₀ before)
      acknowledgement).result = .ok stored

/-- What is in the store was given to it. -/
theorem exists_givenToStore {db₀ : ReaderDatabase} (h : FreshlyBound db₀) (ops : List Operation)
    {row : SynchronizationAcknowledgementRow}
    (hrow : row ∈ (Runs.run (perform codec) db₀ ops).synchronizationAcknowledgements) :
    ∃ acknowledgement, GivenToStore codec db₀ ops acknowledgement ∧
      acknowledgement.batchId = row.batchId := by
  induction ops using List.reverseRecOn generalizing row with
  | nil =>
    obtain ⟨identity, -, rfl⟩ := h.exists_identity
    exact absurd hrow List.not_mem_nil
  | append_singleton ops op ih =>
    have hearlier : ∀ old ∈ (Runs.run (perform codec) db₀ ops).synchronizationAcknowledgements,
        old.batchId = row.batchId → ∃ acknowledgement,
          GivenToStore codec db₀ (ops ++ [op]) acknowledgement ∧
            acknowledgement.batchId = row.batchId := by
      intro old hold hid
      obtain ⟨acknowledgement, ⟨before, after, stored, rfl, hstored⟩, hgiven⟩ := ih hold
      exact ⟨acknowledgement, ⟨before, after ++ [op], stored, by simp, hstored⟩,
        hgiven.trans hid⟩
    rw [Runs.run_append] at hrow
    rcases @perform_committed codec (Runs.run (perform codec) db₀ ops) op with
      hsame | hcommitted
    · rw [Runs.run_cons, Runs.run_nil, hsame] at hrow
      exact hearlier row hrow rfl
    · rcases hcommitted.acknowledgement_origin hrow with
        ⟨old, hold, hfrozen⟩ | ⟨acknowledgement, rfl, rfl⟩
      · exact hearlier old hold
          (SynchronizationAcknowledgementRow.batchId_of_frozen hfrozen).symm
      · cases hresult : (storeSynchronizationAcknowledgement codec
            (Runs.run (perform codec) db₀ ops) acknowledgement).result with
        | ok stored => exact ⟨acknowledgement, ⟨ops, [], stored, rfl, hresult⟩, rfl⟩
        | error e =>
          rw [Runs.run_cons, Runs.run_nil, perform_storeAcknowledgement,
            storeSynchronizationAcknowledgement, transact_of_error hresult] at hrow
          exact hearlier _ hrow rfl

theorem GivenToStore.stored {db₀ : ReaderDatabase} (h : FreshlyBound db₀) {ops : List Operation}
    (hgiven : GivenToStore codec db₀ ops acknowledgement) :
    Stored codec (Runs.run (perform codec) db₀ ops) acknowledgement := by
  obtain ⟨before, after, stored, rfl, hstored⟩ := hgiven
  rw [Runs.run_append, Runs.run_cons, perform_storeAcknowledgement]
  exact (stored_run h before after hstored).2

/-- In every reachable database, the first application of a stored
acknowledgement gives the transactions of its batch exactly the outcomes that
were given to the store, reports their numbers, completes the batch and leaves
everything else as it is. -/
theorem acknowledgement_settles {db₀ : ReaderDatabase} (h : FreshlyBound db₀)
    (ops : List Operation) (readerId : ReaderId) (batchId : SynchronizationBatchId)
    (t : UnixMilliseconds) (row : SynchronizationAcknowledgementRow)
    (application : SynchronizationAcknowledgementApplication) :
    let db := Runs.run (perform codec) db₀ ops
    db.findAcknowledgement readerId batchId = some row → row.appliedAt = none →
    (applySynchronizationAcknowledgement db readerId batchId t).result = .ok application →
      (∃ acknowledgement, GivenToStore codec db₀ ops acknowledgement ∧
        acknowledgement.batchId = batchId) ∧
      ∀ acknowledgement, GivenToStore codec db₀ ops acknowledgement →
        acknowledgement.batchId = batchId →
          application.batchId = batchId ∧ application.appliedNow = true ∧
          application.appliedAt = t ∧ application.counts = acknowledgement.counts ∧
          Settles acknowledgement t db
            (applySynchronizationAcknowledgement db readerId batchId t).database := by
  intro db hfound hunapplied happlied
  obtain ⟨reader, inv⟩ : ∃ reader, Consistent reader db := consistent_run h ops
  obtain ⟨hrow, rfl, rfl⟩ := ReaderDatabase.findAcknowledgement_eq_some hfound
  refine ⟨exists_givenToStore h ops hrow, fun acknowledgement hgiven hid => ?_⟩
  obtain ⟨other, hother, hrecords⟩ := (hgiven.stored h).row
  obtain rfl : other = row := Table.eq_of_key_eq inv.acknowledgements.ids hother hrow
    (hrecords.batchId_eq.trans hid)
  have howner : other.readerId = acknowledgement.readerId := congrArg (·.readerId) hrecords.columns
  rw [howner, ← hid] at happlied ⊢
  obtain ⟨hbatchId, hcounts, marked, hmarked, hmarkedId, hmark⟩ :=
    inv.applied_row hrow hrecords happlied
  rcases @applyAcknowledgement_ok codec _ _ _ _ _ happlied with ⟨-, hsame⟩ | ⟨hnow, hcommitted⟩
  · -- a replay would have found the row applied before
    rw [hsame] at hmarked
    obtain rfl : marked = other := Table.eq_of_key_eq inv.acknowledgements.ids hmarked hother
      (hmarkedId.trans hrecords.batchId_eq.symm)
    rw [hunapplied] at hmark
    cases hmark
  · have hsettles := inv.settles hrow hrecords hcommitted
    rw [hsettles.acknowledgements] at hmarked
    obtain ⟨old, -, rfl⟩ := List.mem_map.mp hmarked
    have holdId : old.batchId = acknowledgement.batchId := by
      split at hmarkedId <;> exact hmarkedId
    rw [if_pos holdId] at hmark
    exact ⟨hbatchId, hnow, (Option.some.inj hmark).symm,
      hcounts.trans (resolutionCounts_decoded acknowledgement), hsettles⟩

def sampleSecondTransactionId : FareTransactionId := ⟨⟨0x70008000000000000092#128, by decide⟩⟩

def sampleThirdTransactionId : FareTransactionId := ⟨⟨0x70008000000000000093#128, by decide⟩⟩

/-- Three transactions in one batch in flight. -/
def sampleThree : List Operation :=
  [.enqueue sampleReaderId (sampleDraft (.object [])),
    .enqueue sampleReaderId { sampleDraft (.object []) with
      transactionId := sampleSecondTransactionId },
    .enqueue sampleReaderId { sampleDraft (.object []) with
      transactionId := sampleThirdTransactionId },
    .createBatch sampleReaderId .current 1 10 sampleBatchId,
    .markBatch sampleReaderId sampleBatchId 2]

def sampleThreeSubmitted : SynchronizationBatchRow :=
  { sampleSubmitted with lastLocalSequenceNumber := 3 }

/-- One of them is acknowledged, one is to be sent again, and one is refused. -/
def sampleMixedAcknowledgement : SynchronizationAcknowledgement where
  readerId := sampleReaderId
  batchId := sampleBatchId
  protocolVersion := .current
  firstLocalSequenceNumber := .first
  lastLocalSequenceNumber := ⟨3, Nat.zero_lt_succ 2, by decide⟩
  receivedAt := 3
  entries := [⟨sampleTransactionId, .first, .acknowledged⟩,
    ⟨sampleSecondTransactionId, ⟨2, Nat.zero_lt_two, by decide⟩,
      .retryableFailure "network_timeout" 9⟩,
    ⟨sampleThirdTransactionId, ⟨3, Nat.zero_lt_succ 2, by decide⟩,
      .permanentFailure "payload_too_large"⟩]
  valid := by decide

theorem sampleThree_inFlight :
    let db := Runs.run (perform sampleCodec) sampleDatabase sampleThree
    sampleThreeSubmitted ∈ db.synchronizationBatches ∧ db.synchronizationAcknowledgements = [] ∧
      sampleMixedAcknowledgement.entries.map (·.key) =
        (db.entriesOf sampleBatchId).map (·.key) ∧
      ∀ row ∈ db.offlineTransactions, row.queueState = .inFlight ∧ row.updatedAt = 2 := by
  decide +kernel

def sampleMixedStored : List Operation :=
  sampleThree ++ [.storeAcknowledgement sampleMixedAcknowledgement]

theorem sampleThree_store :
    storeSynchronizationAcknowledgement sampleCodec
        (Runs.run (perform sampleCodec) sampleDatabase sampleThree) sampleMixedAcknowledgement =
      ⟨(Runs.run (perform sampleCodec) sampleDatabase sampleThree).withAcknowledgement sampleCodec
        sampleMixedAcknowledgement, .ok ⟨sampleMixedAcknowledgement, false⟩⟩ := by
  obtain ⟨reader, inv⟩ := @consistent_run sampleCodec _ sampleDatabase_freshlyBound sampleThree
  obtain ⟨hbatch, hnone, hkeys, -⟩ := sampleThree_inFlight
  generalize Runs.run (perform sampleCodec) sampleDatabase sampleThree = db at *
  refine inv.store_eq hbatch rfl (by decide) ⟨rfl, rfl, rfl, rfl, rfl, hkeys⟩ ?_ (by decide)
  rw [hnone]
  exact List.forall_mem_nil _

theorem sampleMixedStored_run :
    Runs.run (perform sampleCodec) sampleDatabase sampleMixedStored =
      (Runs.run (perform sampleCodec) sampleDatabase sampleThree).withAcknowledgement sampleCodec
        sampleMixedAcknowledgement := by
  rw [sampleMixedStored, Runs.run_append, Runs.run_cons, Runs.run_nil,
    perform_storeAcknowledgement, sampleThree_store]

theorem sampleMixedStored_applies :
    ∃ application, (applySynchronizationAcknowledgement
      (Runs.run (perform sampleCodec) sampleDatabase sampleMixedStored) sampleReaderId
      sampleBatchId 4).result = .ok application := by
  obtain ⟨hbatch, -, -, hqueue⟩ := sampleThree_inFlight
  obtain ⟨reader, inv⟩ :=
    @consistent_run sampleCodec _ sampleDatabase_freshlyBound sampleMixedStored
  have hrecorded := @recorded_run sampleCodec _ sampleDatabase_freshlyBound sampleMixedStored
  rw [sampleMixedStored_run] at inv hrecorded ⊢
  generalize Runs.run (perform sampleCodec) sampleDatabase sampleThree = db at *
  have hstored : sampleThreeSubmitted ∈
      (db.withAcknowledgement sampleCodec sampleMixedAcknowledgement).synchronizationBatches :=
    hbatch
  have hrow : sampleMixedAcknowledgement.toRow sampleCodec ∈ (db.withAcknowledgement sampleCodec
      sampleMixedAcknowledgement).synchronizationAcknowledgements :=
    List.mem_append_right _ (List.mem_singleton_self _)
  have howner : reader.readerId = sampleReaderId := (inv.batches.owned _ hstored).symm
  have happlicable := @Consistent.apply_ok_iff sampleCodec _ reader 4 sampleThreeSubmitted hstored
    (by decide) _ hrow rfl rfl (by decide) inv hrecorded (fun row hrow _ => (hqueue row hrow).1)
    (fun row hrow _ => by rw [(hqueue row hrow).2]; decide)
  rw [howner] at happlicable
  exact happlicable.mpr rfl

theorem acknowledgement_settles_stored :
    ∃ application, (applySynchronizationAcknowledgement
        (Runs.run (perform sampleCodec) sampleDatabase sampleMixedStored) sampleReaderId
        sampleBatchId 4).result = .ok application ∧
      application.counts = ⟨1, 1, 1, 0⟩ ∧
      Settles sampleMixedAcknowledgement 4
        (Runs.run (perform sampleCodec) sampleDatabase sampleMixedStored)
        (applySynchronizationAcknowledgement
          (Runs.run (perform sampleCodec) sampleDatabase sampleMixedStored) sampleReaderId
          sampleBatchId 4).database := by
  obtain ⟨application, happlied⟩ := sampleMixedStored_applies
  have hgiven : GivenToStore sampleCodec sampleDatabase sampleMixedStored
      sampleMixedAcknowledgement :=
    ⟨sampleThree, [], ⟨sampleMixedAcknowledgement, false⟩, rfl,
      congrArg (·.result) sampleThree_store⟩
  have hfound : (Runs.run (perform sampleCodec) sampleDatabase
      sampleMixedStored).findAcknowledgement sampleReaderId sampleBatchId =
        some (sampleMixedAcknowledgement.toRow sampleCodec) := by
    obtain ⟨-, hnone, -⟩ := sampleThree_inFlight
    rw [sampleMixedStored_run]
    generalize Runs.run (perform sampleCodec) sampleDatabase sampleThree = db at hnone
    rw [ReaderDatabase.findAcknowledgement, ReaderDatabase.withAcknowledgement, hnone]
    rfl
  obtain ⟨-, -, -, hcounts, hsettles⟩ := (acknowledgement_settles sampleDatabase_freshlyBound
    sampleMixedStored sampleReaderId sampleBatchId 4
    (sampleMixedAcknowledgement.toRow sampleCodec) application hfound rfl happlied).2
      sampleMixedAcknowledgement hgiven rfl
  exact ⟨application, happlied, hcounts, hsettles⟩

end TransitGuard.Reader
