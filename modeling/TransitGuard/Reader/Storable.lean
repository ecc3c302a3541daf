import TransitGuard.Reader.Recorded
import TransitGuard.Reader.Requested

/-!
Which acknowledgements the reader stores. The answer of the backend passes two
validators that were written apart, the one of the protocol and the one of the
store; they agree on everything but retry times before the receipt.
-/

namespace TransitGuard.Reader

open Fallible Protocol

variable {codec : Json.Codec} {db db' : ReaderDatabase} {reader : ReaderStateRow}
  {batch : SynchronizationBatchRow} {acknowledgement : SynchronizationAcknowledgement}

/-! ## The rows of an acknowledgement -/

/-- The payload is a JSON object, so the store never finds it blank. -/
theorem canonicalPayload_nonBlank (acknowledgement : SynchronizationAcknowledgement) :
    Text.sqliteNonBlank (canonicalPayload codec acknowledgement) = true := by
  refine Text.sqliteNonBlank_of_head (c := '\x7b') ?_ (by decide) (by decide)
  simp [canonicalPayload, payloadValue, Json.Value.render]

theorem SynchronizationAcknowledgement.range_le (acknowledgement : SynchronizationAcknowledgement) :
    acknowledgement.firstLocalSequenceNumber.value ≤
      acknowledgement.lastLocalSequenceNumber.value := by
  have hvalid := acknowledgement.valid
  simp only [validateAcknowledgement, ite_error_eq_ok] at hvalid
  exact Nat.le_of_not_lt hvalid.2.1

theorem SynchronizationAcknowledgement.toRow_check
    (acknowledgement : SynchronizationAcknowledgement) :
    (acknowledgement.toRow codec).check = true := by
  have hversion := acknowledgement.protocolVersion.lt
  simp only [SynchronizationAcknowledgementRow.check, toRow, canonicalPayload_nonBlank,
    acknowledgement.valid_parts.1, acknowledgement.range_le, acknowledgement.protocolVersion.pos,
    acknowledgement.firstLocalSequenceNumber.pos, decide_true, Bool.and_true, Bool.true_and,
    Option.all_none]
  exact decide_eq_true (by omega)

/-- No two entry rows of an acknowledgement conflict. -/
theorem SynchronizationAcknowledgement.entryRows_pairwise
    (acknowledgement : SynchronizationAcknowledgement) :
    (acknowledgement.entryRows 0 acknowledgement.entries).Pairwise
      fun earlier later => later.conflicts earlier = false := by
  have hvalid := acknowledgement.valid
  simp only [validateAcknowledgement, ite_error_eq_ok, validateAcknowledgedEntries_ok] at hvalid
  obtain ⟨-, -, -, ⟨hids, -⟩, ⟨hsequences, -⟩, -⟩ := hvalid
  have hrows : ∀ (entries : List SynchronizationAcknowledgementEntry) (position : Nat),
      (entries.map (·.transactionId)).Nodup → (entries.map (·.localSequenceNumber)).Nodup →
        (acknowledgement.entryRows position entries).Pairwise
          fun earlier later => later.conflicts earlier = false := by
    intro entries
    induction entries with
    | nil => exact fun _ _ _ => .nil
    | cons head rest ih =>
      intro position hids hsequences
      rw [List.map_cons, List.nodup_cons] at hids hsequences
      refine .cons (fun row hrow => ?_) (ih (position + 1) hids.2 hsequences.2)
      obtain ⟨⟨entry, i⟩, hentry, rfl⟩ := List.mem_map.mp hrow
      have hposition : position + 1 ≤ i := (List.mem_zipIdx hentry).1
      have hentry' : entry ∈ rest := List.fst_mem_of_mem_zipIdx hentry
      have hid : entry.transactionId ≠ head.transactionId := fun heq =>
        hids.1 (heq ▸ List.mem_map_of_mem hentry')
      have hsequence : entry.localSequenceNumber.value ≠ head.localSequenceNumber.value :=
        fun heq => hsequences.1 (LocalSequenceNumber.ext heq ▸ List.mem_map_of_mem hentry')
      simp [SynchronizationAcknowledgementEntryRow.conflicts, toEntryRow, hid, hsequence]
      omega
  exact hrows _ 0 hids hsequences

/-- The loop inserts all the rows when nothing stands in the way of any. -/
theorem insertAcknowledgementEntries_eq {entries : List SynchronizationAcknowledgementEntry}
    {position : Nat} {rows : List SynchronizationAcknowledgementEntryRow}
    (hposition : position + entries.length ≤ i64Max)
    (hsequences : ∀ entry ∈ entries, entry.localSequenceNumber.value ≤ i64Max)
    (hreferences : ∀ entry ∈ entries, (db.synchronizationEntries.any fun row =>
      row.batchId == acknowledgement.batchId &&
        row.fareTransactionId == entry.transactionId) = true)
    (hchecks : ∀ row ∈ acknowledgement.entryRows position entries, row.check = true)
    (hfresh : ∀ row ∈ acknowledgement.entryRows position entries, ∀ other ∈ rows,
      row.conflicts other = false)
    (hpairwise : (acknowledgement.entryRows position entries).Pairwise
      fun earlier later => later.conflicts earlier = false) :
    insertAcknowledgementEntries db acknowledgement position entries rows =
      .ok (rows ++ acknowledgement.entryRows position entries) := by
  induction entries generalizing position rows with
  | nil => simp [insertAcknowledgementEntries, SynchronizationAcknowledgement.entryRows]
  | cons entry entries ih =>
    have hrows : acknowledgement.entryRows position (entry :: entries) =
        acknowledgement.toEntryRow position entry ::
          acknowledgement.entryRows (position + 1) entries := rfl
    rw [hrows, List.forall_mem_cons] at hchecks hfresh
    rw [hrows, List.pairwise_cons] at hpairwise
    rw [List.forall_mem_cons] at hsequences hreferences
    rw [List.length_cons] at hposition
    simp only [insertAcknowledgementEntries, guard_eq_ok, bind_eq_ok, mapError_eq_ok,
      Table.insert_eq_ok, sequenceToI64, ite_error_eq_ok]
    refine ⟨by omega, (), ⟨Nat.not_lt.mpr hsequences.1, trivial⟩, _,
      ⟨hchecks.1, hfresh.1, hreferences.1, rfl⟩, ?_⟩
    rw [hrows, ih (by omega) hsequences.2 hreferences.2 hchecks.2 ?_ hpairwise.2,
      List.append_assoc, List.singleton_append]
    intro row hrow other hother
    rcases List.mem_append.mp hother with hother | hother
    · exact hfresh.2 row hrow other hother
    · rw [List.mem_singleton] at hother
      rw [hother]
      exact hpairwise.1 row hrow

/-! ## Storing for the first time -/

theorem AcknowledgementInvariant.findAcknowledgement {r : ReaderId}
    (inv : AcknowledgementInvariant r db) {row : SynchronizationAcknowledgementRow}
    (hrow : row ∈ db.synchronizationAcknowledgements) :
    db.findAcknowledgement r row.batchId = some row := by
  cases hfound : db.findAcknowledgement r row.batchId with
  | none =>
    have hnone := List.find?_eq_none.mp hfound row hrow
    simp [inv.owned row hrow] at hnone
  | some found =>
    obtain ⟨hmem, hid, -⟩ := ReaderDatabase.findAcknowledgement_eq_some hfound
    rw [Table.eq_of_key_eq inv.ids hmem hrow hid]

/-- The acknowledgement repeats the columns and the entries of a stored batch. -/
structure SynchronizationAcknowledgement.Matches (acknowledgement : SynchronizationAcknowledgement)
    (db : ReaderDatabase) (batch : SynchronizationBatchRow) : Prop where
  owner : acknowledgement.readerId = batch.readerId
  id : acknowledgement.batchId = batch.batchId
  version : acknowledgement.protocolVersion.value = batch.protocolVersion
  first : acknowledgement.firstLocalSequenceNumber.value = batch.firstLocalSequenceNumber
  last : acknowledgement.lastLocalSequenceNumber.value = batch.lastLocalSequenceNumber
  keys : acknowledgement.entries.map (·.key) = (db.entriesOf batch.batchId).map (·.key)

/-- The batch of a matching acknowledgement loads and accepts it, until its
attempt counter leaves 32 bits. -/
theorem Consistent.validates_iff (inv : Consistent reader db)
    (hbatch : batch ∈ db.synchronizationBatches)
    (howner : acknowledgement.readerId = batch.readerId)
    (hid : acknowledgement.batchId = batch.batchId) :
    (∃ loaded, loadSynchronizationBatch db acknowledgement.readerId acknowledgement.batchId =
        .ok loaded ∧ validateAgainstBatch acknowledgement loaded = .ok ()) ↔
      batch.attemptCount < 2 ^ 32 ∧ acknowledgement.Matches db batch := by
  have hreader := inv.batches.owned batch hbatch
  have hspec : ∀ {loaded : SynchronizationBatch},
      loadSynchronizationBatch db acknowledgement.readerId acknowledgement.batchId = .ok loaded →
        (validateAgainstBatch acknowledgement loaded = .ok () ↔
          acknowledgement.Matches db batch) := by
    intro loaded hloaded
    obtain ⟨row, hrow, hversion, hfirst, hlast, hkeys⟩ := loadSynchronizationBatch_ok hloaded
    rw [howner, hid, hreader, inv.batches.findBatch hbatch, Option.some.injEq] at hrow
    subst hrow
    rw [howner, hid, hreader, inv.batches.orderBy_entryPosition hbatch] at hkeys
    rw [validateAgainstBatch_ok, hkeys]
    constructor
    · rintro ⟨hv, hf, hl, hk⟩
      exact ⟨howner, hid, by rw [hv, hversion], by rw [hf, hfirst], by rw [hl, hlast], hk⟩
    · intro h
      exact ⟨DeviceProtocolVersion.ext (h.version.trans hversion.symm),
        LocalSequenceNumber.ext (h.first.trans hfirst.symm),
        LocalSequenceNumber.ext (h.last.trans hlast.symm), h.keys⟩
  constructor
  · rintro ⟨loaded, hloaded, hvalid⟩
    refine ⟨?_, (hspec hloaded).mp hvalid⟩
    rw [howner, hid, hreader] at hloaded
    exact inv.attempts_of_load hbatch hloaded
  · rintro ⟨hattempts, hmatches⟩
    obtain ⟨loaded, hloaded, -⟩ := inv.load_ok hbatch hattempts
    rw [← hreader, ← howner, ← hid] at hloaded
    exact ⟨loaded, hloaded, (hspec hloaded).mpr hmatches⟩

/-- A batch has fewer entries than sequences can be told apart. -/
theorem Consistent.length_entriesOf_le (inv : Consistent reader db)
    (hbatch : batch ∈ db.synchronizationBatches) :
    (db.entriesOf batch.batchId).length ≤ i64Max := by
  have hincreasing := (inv.batches.holds batch hbatch).increasing
  have hnodup : ((db.entriesOf batch.batchId).map (·.localSequenceNumber)).Nodup :=
    hincreasing.imp Nat.ne_of_lt
  have hsubset : (db.entriesOf batch.batchId).map (·.localSequenceNumber) ⊆ List.range i64Max := by
    intro sequence hsequence
    obtain ⟨entry, hentry, rfl⟩ := List.mem_map.mp hsequence
    exact List.mem_range.mpr (inv.entry_lt (List.mem_of_mem_filter hentry)).2
  have hlength := (List.subperm_of_subset hnodup hsubset).length_le
  rwa [List.length_map, List.length_range] at hlength

theorem Consistent.last_le (inv : Consistent reader db)
    (hbatch : batch ∈ db.synchronizationBatches) : batch.lastLocalSequenceNumber ≤ i64Max := by
  obtain ⟨last, hlast, hsequence⟩ :=
    Option.map_eq_some_iff.mp (inv.batches.holds batch hbatch).last
  rw [← hsequence]
  exact (inv.entry_lt (List.mem_of_mem_filter (List.mem_of_getLast? hlast))).2.le

/-- The database after the acknowledgement was stored for the first time. -/
def ReaderDatabase.withAcknowledgement (codec : Json.Codec) (db : ReaderDatabase)
    (acknowledgement : SynchronizationAcknowledgement) : ReaderDatabase :=
  { db with
    synchronizationAcknowledgements :=
      db.synchronizationAcknowledgements ++ [acknowledgement.toRow codec]
    synchronizationAcknowledgementEntries := db.synchronizationAcknowledgementEntries ++
      acknowledgement.entryRows 0 acknowledgement.entries }

theorem Consistent.store_eq (inv : Consistent reader db)
    (hbatch : batch ∈ db.synchronizationBatches) (hflight : batch.batchState = .inFlight)
    (hattempts : batch.attemptCount < 2 ^ 32) (hmatches : acknowledgement.Matches db batch)
    (hfresh : ∀ row ∈ db.synchronizationAcknowledgements, row.batchId ≠ batch.batchId)
    (hchecks : ∀ row ∈ acknowledgement.entryRows 0 acknowledgement.entries, row.check = true) :
    storeSynchronizationAcknowledgement codec db acknowledgement =
      ⟨db.withAcknowledgement codec acknowledgement, .ok ⟨acknowledgement, false⟩⟩ := by
  have hreader := inv.batches.owned batch hbatch
  have hfound : db.findBatch acknowledgement.readerId acknowledgement.batchId = some batch := by
    rw [hmatches.owner, hmatches.id, hreader]
    exact inv.batches.findBatch hbatch
  have hnone : db.findAcknowledgement acknowledgement.readerId acknowledgement.batchId = none := by
    refine List.find?_eq_none.mpr fun row hrow hp => ?_
    simp only [Bool.and_eq_true, beq_iff_eq] at hp
    exact hfresh row hrow (hp.1.trans hmatches.id)
  obtain ⟨loaded, hloaded, hvalid⟩ :=
    (inv.validates_iff hbatch hmatches.owner hmatches.id).mpr ⟨hattempts, hmatches⟩
  have hlength : acknowledgement.entries.length = (db.entriesOf batch.batchId).length := by
    simpa using congrArg List.length hmatches.keys
  -- every acknowledged entry names an entry of the batch
  have hentry : ∀ entry ∈ acknowledgement.entries, ∃ row ∈ db.synchronizationEntries,
      row.batchId = batch.batchId ∧ row.key = entry.key := by
    intro entry hentry
    have hmem := List.mem_map_of_mem (f := (·.key)) hentry
    rw [hmatches.keys] at hmem
    obtain ⟨row, hrow, hkey⟩ := List.mem_map.mp hmem
    exact ⟨row, List.mem_of_mem_filter hrow, beq_iff_eq.mp (List.mem_filter.mp hrow).2, hkey⟩
  have hentries : insertAcknowledgementEntries db acknowledgement 0 acknowledgement.entries
      db.synchronizationAcknowledgementEntries = .ok (db.synchronizationAcknowledgementEntries ++
        acknowledgement.entryRows 0 acknowledgement.entries) := by
    refine insertAcknowledgementEntries_eq ?_ (fun entry hmem => ?_) (fun entry hmem => ?_)
      hchecks (fun row hrow other hother => ?_) acknowledgement.entryRows_pairwise
    · rw [Nat.zero_add, hlength]
      exact inv.length_entriesOf_le hbatch
    · obtain ⟨row, hrow, -, hkey⟩ := hentry entry hmem
      have hbound := inv.entry_lt hrow
      have hsequence : row.localSequenceNumber = entry.localSequenceNumber.value :=
        congrArg Prod.snd hkey
      omega
    · obtain ⟨row, hrow, hid, hkey⟩ := hentry entry hmem
      have htransaction : row.fareTransactionId = entry.transactionId := congrArg Prod.fst hkey
      exact List.any_eq_true.mpr ⟨row, hrow, by simp [hid, hmatches.id, htransaction]⟩
    · obtain ⟨acknowledged, hacknowledged, hid⟩ := inv.acknowledgements.entryOf other hother
      have hne : row.batchId ≠ other.batchId := by
        rw [(mem_acknowledgementEntryRows hrow).1, hmatches.id, ← hid]
        exact (hfresh acknowledged hacknowledged).symm
      simp [SynchronizationAcknowledgementEntryRow.conflicts, hne]
  have hlast := inv.last_le hbatch
  rw [← hmatches.last] at hlast
  have hfirst := acknowledgement.range_le.trans hlast
  have hinserted : insertAcknowledgement codec db acknowledgement =
      .ok (⟨acknowledgement, false⟩, db.withAcknowledgement codec acknowledgement) := by
    simp only [insertAcknowledgement, bind_eq_ok, guard_eq_ok, orFail_eq_ok, hfound,
      Option.some.injEq, exists_eq_left', hflight, sequenceToI64, ite_error_eq_ok, mapError_eq_ok,
      Table.insert_eq_ok]
    refine ⟨by simp, (), ⟨Nat.not_lt.mpr hfirst, trivial⟩, (), ⟨Nat.not_lt.mpr hlast, trivial⟩, _,
      ⟨acknowledgement.toRow_check, fun other hother => ?_, rfl, rfl⟩, _, hentries, rfl⟩
    exact beq_eq_false_iff_ne.mpr fun heq => hfresh other hother (heq.symm.trans hmatches.id)
  refine transact_eq ?_
  rw [hloaded]
  simp only [Except.mapError, ok_bind, hvalid, hnone]
  exact hinserted

/-! ## The answer of the backend -/

theorem localEntry_row_check (acknowledgement : SynchronizationAcknowledgement) (position : Nat)
    (entry : AcknowledgementEntry) :
    (acknowledgement.toEntryRow position (localEntry entry)).check = true := by
  have hsequence := entry.localSequenceNumber.pos
  have hvisible := fun category => (failureCategory_visible category).2
  rcases entry.metadata with ⟨houtcome, hcategory, hretry⟩ |
    ⟨category, retryAt, houtcome, hcategory, hretry, hnonneg⟩ |
    ⟨category, houtcome | houtcome, hcategory, hretry⟩
  all_goals
    simp_all [SynchronizationAcknowledgementEntryRow.check,
      SynchronizationAcknowledgement.toEntryRow, localEntry, resolutionOf, storedResolution]

/-- An answer that fits the request of a stored batch matches the batch. -/
theorem Assembled.matches {request : Request} {answer : Acknowledgement}
    {translated : SynchronizationAcknowledgement} (h : Assembled codec db batch reader request)
    (inv : Consistent reader db) (hbatch : batch ∈ db.synchronizationBatches)
    (howner : request.readerId = reader.readerId) (hid : request.batchId = batch.batchId)
    (hvalid : answer.validateAgainstRequest request = .ok ())
    (htranslated : translateProtocolSynchronizationAcknowledgement answer = .ok translated) :
    translated.Matches db batch := by
  obtain ⟨hversion, -, hreader, hbatchId, hfirst, hlast, hidentities⟩ :=
    Acknowledgement.validateAgainstRequest_ok.mp hvalid
  obtain ⟨treader, tid, tversion, tfirst, tlast, -, tentries⟩ := translate_eq_ok.mp htranslated
  refine
    { owner := by rw [treader, hreader, howner, inv.batches.owned batch hbatch]
      id := by rw [tid, hbatchId, hid]
      version := by rw [tversion, hversion, h.batchVersion]
      first := by rw [tfirst, hfirst, h.first]
      last := by rw [tlast, hlast, h.last]
      keys := ?_ }
  have hentries := h.entries
  rw [howner, hid] at hentries
  rw [tentries, ← inv.request_keys hbatch hentries, List.map_map]
  have hkeys := congrArg (List.map fun identity => (identity.1, identity.2.value)) hidentities
  rw [List.map_map, List.map_map] at hkeys
  exact hkeys

theorem translated_checks {answer : Acknowledgement} {translated : SynchronizationAcknowledgement}
    (h : translateProtocolSynchronizationAcknowledgement answer = .ok translated) :
    ∀ row ∈ translated.entryRows 0 translated.entries, row.check = true := by
  intro row hrow
  obtain ⟨⟨entry, position⟩, hentry, rfl⟩ := List.mem_map.mp hrow
  have hmem := List.fst_mem_of_mem_zipIdx hentry
  rw [(translate_eq_ok.mp h).2.2.2.2.2.2] at hmem
  obtain ⟨resolved, -, rfl⟩ := List.mem_map.mp hmem
  exact localEntry_row_check translated position resolved

/-- A translated answer that matches an in-flight batch without an
acknowledgement is stored until the attempt counter leaves 32 bits. -/
theorem Consistent.storeProtocol_ok_iff (inv : Consistent reader db)
    (hbatch : batch ∈ db.synchronizationBatches) (hflight : batch.batchState = .inFlight)
    (hnone : db.findAcknowledgement reader.readerId batch.batchId = none)
    {answer : Acknowledgement}
    (hmatches : ∀ translated,
      translateProtocolSynchronizationAcknowledgement answer = .ok translated →
        translated.Matches db batch) :
    (∃ stored, (storeProtocolSynchronizationAcknowledgement codec db answer).result =
        .ok stored) ↔
      batch.attemptCount < 2 ^ 32 ∧
        ∃ translated, translateProtocolSynchronizationAcknowledgement answer = .ok translated := by
  constructor
  · rintro ⟨stored, hstored⟩
    unfold storeProtocolSynchronizationAcknowledgement at hstored
    split at hstored
    · cases hstored
    · next translated htranslated =>
      refine ⟨?_, translated, htranslated⟩
      obtain ⟨db', hbody, -⟩ := transact_of_ok (mapError_eq_ok.mp hstored)
      simp only [bind_eq_ok, mapError_eq_ok] at hbody
      obtain ⟨loaded, hloads, ⟨⟩, hvalidates, -⟩ := hbody
      have hmatched := hmatches translated htranslated
      exact ((inv.validates_iff hbatch hmatched.owner hmatched.id).mp
        ⟨loaded, hloads, hvalidates⟩).1
  · rintro ⟨hattempts, translated, htranslated⟩
    have hfresh : ∀ row ∈ db.synchronizationAcknowledgements, row.batchId ≠ batch.batchId := by
      intro row hrow hid
      rw [← hid, inv.acknowledgements.findAcknowledgement hrow] at hnone
      cases hnone
    have hstore : storeSynchronizationAcknowledgement codec db translated = _ :=
      inv.store_eq hbatch hflight hattempts (hmatches translated htranslated) hfresh
        (translated_checks htranslated)
    refine ⟨⟨translated, false⟩, ?_⟩
    simp only [storeProtocolSynchronizationAcknowledgement, htranslated, hstore]
    rfl

/-- In every reachable database an answer of the backend that the protocol
accepts for an in-flight batch without an acknowledgement is stored exactly when
the attempt counter of the batch fits 32 bits and no entry is to be retried
before the receipt. -/
theorem answer_storable_iff {db₀ : ReaderDatabase} (h : FreshlyBound db₀) (ops : List Operation) :
    let db := Runs.run (perform codec) db₀ ops
    ∀ readerId batchId batch request answer,
      db.findBatch readerId batchId = some batch → batch.batchState = .inFlight →
      db.findAcknowledgement readerId batchId = none →
      loadSynchronizationBatchRequest codec db readerId batchId = .ok request →
      answer.validateAgainstRequest request = .ok () →
      ((∃ stored, (storeProtocolSynchronizationAcknowledgement codec db answer).result =
          .ok stored) ↔
        batch.attemptCount < 2 ^ 32 ∧
          ∀ entry ∈ answer.entries, ∀ retryAt, entry.nextRetryAt = some retryAt →
            answer.receivedAt ≤ retryAt) := by
  intro db readerId batchId batch request answer hfound hflight hnone hload hvalid
  obtain ⟨reader, inv⟩ : ∃ reader, Consistent reader db := consistent_run h ops
  obtain ⟨hbatch, rfl, rfl⟩ := ReaderDatabase.findBatch_eq_some hfound
  obtain ⟨loaded, hloaded, -, hassembled⟩ := loadSynchronizationBatchRequest_ok.mp hload
  rw [hfound, Option.some.injEq] at hloaded
  subst hloaded
  obtain ⟨bound, hbound, howner, hrequestReader, hrequestId, hassembled⟩ :=
    assembleRequest_ok.mp hassembled
  have hreader : bound = reader := Option.some.inj (hbound.symm.trans inv.queue.bound)
  subst hreader
  rw [← howner] at hnone
  rw [← translate_ok_iff]
  exact inv.storeProtocol_ok_iff hbatch hflight hnone fun translated =>
    hassembled.matches inv hbatch (hrequestReader.trans howner.symm) hrequestId hvalid

/-- The sample batch after its submission. -/
def sampleSubmitted : SynchronizationBatchRow where
  batchId := sampleBatchId
  readerId := sampleReaderId
  protocolVersion := 1
  firstLocalSequenceNumber := 1
  lastLocalSequenceNumber := 1
  batchState := .inFlight
  attemptCount := 1
  submittedAt := some 2
  nextRetryAt := none
  lastFailureCategory := none
  createdAt := 1
  updatedAt := 2

/-- The sample reader with its batch in flight. -/
def sampleInFlight : ReaderDatabase where
  readerState := some { sampleIdentity.initialRow with nextLocalSequence := 2 }
  offlineTransactions :=
    [{ (sampleDraft (.object [])).toRow sampleCodec sampleReaderId 1 with
      queueState := .inFlight
      attemptCount := 1
      updatedAt := 2 }]
  synchronizationBatches := [sampleSubmitted]
  synchronizationEntries := [⟨sampleBatchId, sampleReaderId, sampleTransactionId, 1, 0⟩]
  synchronizationAcknowledgements := []
  synchronizationAcknowledgementEntries := []

theorem sampleSubmission_run :
    Runs.run (perform sampleCodec) sampleDatabase sampleSubmission = sampleInFlight := by
  decide +kernel

/-- An answer to the sample batch, received at time 3. -/
def sampleAnswer (entry : AcknowledgementEntry)
    (hentry : entry.identity = (sampleTransactionId, .first)) :
    Acknowledgement where
  protocolVersion := .current
  environmentId := sampleEnvironmentId
  readerId := sampleReaderId
  batchId := sampleBatchId
  firstLocalSequenceNumber := .first
  lastLocalSequenceNumber := .first
  receivedAt := 3
  replayed := false
  entries := [entry]
  valid := by
    simp only [AcknowledgementDefinition.validate, validateAcknowledgementEntries, List.map_cons,
      List.map_nil, hentry]
    decide

/-- The sample transaction is to be sent again at the given time. -/
def sampleRetryEntry (retryAt : UnixMilliseconds) (h : 0 ≤ retryAt) : AcknowledgementEntry where
  transactionId := sampleTransactionId
  localSequenceNumber := .first
  outcome := .retryableFailure
  failureCategory := some .backendTemporarilyUnavailable
  nextRetryAt := some retryAt
  valid := by
    have hnonneg : ¬retryAt < 0 := by grind
    simp [validateOutcomeMetadata, validateTimestamp, hnonneg, ok_bind]

/-- The protocol accepts an answer to the sample batch whatever its retry time. -/
theorem sampleAnswer_accepted (retryAt : UnixMilliseconds) (h : 0 ≤ retryAt) :
    ∃ request, loadSynchronizationBatchRequest sampleCodec
        (Runs.run (perform sampleCodec) sampleDatabase sampleSubmission) sampleReaderId
        sampleBatchId = .ok request ∧
      (sampleAnswer (sampleRetryEntry retryAt h) rfl).validateAgainstRequest request = .ok () := by
  rw [sampleSubmission_run]
  have hchecked : ((loadSynchronizationBatchRequest sampleCodec sampleInFlight sampleReaderId
      sampleBatchId).bind fun request =>
        ((sampleAnswer (sampleRetryEntry 0 (by decide)) rfl).validateAgainstRequest
          request).mapError .protocol).isOk = true := by decide +kernel
  obtain ⟨⟨⟩, hchecked⟩ := isOk_iff.mp hchecked
  obtain ⟨request, hload, haccepted⟩ := bind_eq_ok.mp hchecked
  have hfields := Acknowledgement.validateAgainstRequest_ok.mp (mapError_eq_ok.mp haccepted)
  exact ⟨request, hload, Acknowledgement.validateAgainstRequest_ok.mpr hfields⟩

theorem answer_storable_iff_submission :
    ∃ request, loadSynchronizationBatchRequest sampleCodec
        (Runs.run (perform sampleCodec) sampleDatabase sampleSubmission) sampleReaderId
        sampleBatchId = .ok request ∧
      (sampleAnswer (sampleRetryEntry 5 (by decide)) rfl).validateAgainstRequest request = .ok () ∧
      ∃ stored, (storeProtocolSynchronizationAcknowledgement sampleCodec
        (Runs.run (perform sampleCodec) sampleDatabase sampleSubmission)
        (sampleAnswer (sampleRetryEntry 5 (by decide)) rfl)).result = .ok stored := by
  obtain ⟨request, hload, haccepted⟩ := sampleAnswer_accepted 5 (by decide)
  have hiff := answer_storable_iff sampleDatabase_freshlyBound sampleSubmission sampleReaderId
    sampleBatchId sampleSubmitted request _ (by rw [sampleSubmission_run]; rfl) rfl
    (by rw [sampleSubmission_run]; rfl) hload haccepted
  refine ⟨request, hload, haccepted, hiff.mpr ⟨by decide, ?_⟩⟩
  intro entry hentry retryAt hretry
  rw [List.mem_singleton.mp hentry] at hretry
  cases hretry
  decide

/-- An answer that asks for a retry before its own receipt fits the request, and
the reader does not store it. -/
theorem answer_of_early_retry_refused :
    ¬∀ (db₀ : ReaderDatabase) (ops : List Operation), FreshlyBound db₀ →
      ∀ readerId batchId batch request answer,
        (Runs.run (perform sampleCodec) db₀ ops).findBatch readerId batchId = some batch →
        batch.batchState = .inFlight →
        (Runs.run (perform sampleCodec) db₀ ops).findAcknowledgement readerId batchId = none →
        loadSynchronizationBatchRequest sampleCodec (Runs.run (perform sampleCodec) db₀ ops)
          readerId batchId = .ok request →
        answer.validateAgainstRequest request = .ok () →
        ∃ stored, (storeProtocolSynchronizationAcknowledgement sampleCodec
          (Runs.run (perform sampleCodec) db₀ ops) answer).result = .ok stored := by
  intro hclaim
  obtain ⟨request, hload, haccepted⟩ := sampleAnswer_accepted 0 (by decide)
  obtain ⟨stored, hstored⟩ := hclaim sampleDatabase sampleSubmission sampleDatabase_freshlyBound
    sampleReaderId sampleBatchId sampleSubmitted request _ (by rw [sampleSubmission_run]; rfl) rfl
    (by rw [sampleSubmission_run]; rfl) hload haccepted
  have hrefused : translateProtocolSynchronizationAcknowledgement
      (sampleAnswer (sampleRetryEntry 0 (by decide)) rfl) =
        .error (.acknowledgement (.retryBeforeAcknowledgement sampleTransactionId 0 3)) := by
    decide
  rw [storeProtocolSynchronizationAcknowledgement, hrefused] at hstored
  cases hstored

end TransitGuard.Reader
