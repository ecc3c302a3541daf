import TransitGuard.Library.JsonInjective
import TransitGuard.Reader.Waiting

/-!
Acknowledgements that arrive twice. The store compares canonical payloads, so a
second acknowledgement of a batch is taken for a replay exactly when it is the
first one again, whatever happened to the batch in between.
-/

namespace TransitGuard.Reader

open Fallible

variable {codec : Json.Codec} {db db' : ReaderDatabase} {reader : ReaderStateRow}
  {batch : SynchronizationBatchRow} {acknowledgement other : SynchronizationAcknowledgement}

/-! ## The canonical payload -/

theorem LocalSequenceNumber.ext_json {a b : LocalSequenceNumber}
    (h : Json.nat a.value = Json.nat b.value) : a = b :=
  LocalSequenceNumber.ext (Json.nat_injective a.lt b.lt h)

theorem storedResolution_injective {a b : SynchronizationEntryResolution}
    (h : storedResolution a = storedResolution b) : a = b := by
  cases a <;> cases b <;> simp_all [storedResolution]

theorem payloadEntry_inj {position position' : Nat} {a b : SynchronizationAcknowledgementEntry}
    (h : payloadEntry position a = payloadEntry position' b) : a = b := by
  simp only [payloadEntry, Json.Value.object.injEq, List.cons.injEq, Prod.mk.injEq,
    Json.Value.string.injEq] at h
  obtain ⟨-, ⟨-, hcategory⟩, ⟨-, hid⟩, ⟨-, hsequence⟩, ⟨-, houtcome⟩, ⟨-, hretry⟩, -⟩ := h
  have hresolution : storedResolution a.resolution = storedResolution b.resolution := by
    refine Prod.ext (Protocol.EntryOutcome.asStr_inj houtcome) (Prod.ext ?_ ?_)
    · exact Json.option_injective Json.Value.string.inj (fun _ => nofun) hcategory
    · exact Json.option_injective Json.int_injective Json.int_ne_null hretry
  cases a
  cases b
  rw [SynchronizationAcknowledgementEntry.mk.injEq]
  exact ⟨FareTransactionId.toText_inj hid, LocalSequenceNumber.ext_json hsequence,
    storedResolution_injective hresolution⟩

theorem payloadEntry_integral (position : Nat) (entry : SynchronizationAcknowledgementEntry) :
    (payloadEntry position entry).integral = true := by
  have hretry : ∀ o : Option UnixMilliseconds, (Json.option Json.int o).integral = true := by
    intro o
    cases o with
    | none => rfl
    | some t => exact Json.int_integral t
  have hcategory : ∀ o : Option String, (Json.option .string o).integral = true := by
    intro o
    cases o with
    | none => rfl
    | some category => rfl
  simp only [payloadEntry, Json.Value.integral, Json.membersIntegral, Json.nat,
    Json.Number.integral, hretry, hcategory, Bool.and_self]

theorem payloadValue_integral (acknowledgement : SynchronizationAcknowledgement) :
    (payloadValue acknowledgement).integral = true := by
  have hentries : Json.itemsIntegral (acknowledgement.entries.mapIdx payloadEntry) = true := by
    refine Json.itemsIntegral_of_forall fun v hv => ?_
    obtain ⟨i, hi, rfl⟩ := List.mem_mapIdx.mp hv
    exact payloadEntry_integral i _
  simp only [payloadValue, Json.Value.integral, Json.membersIntegral, Json.nat,
    Json.Number.integral, Json.int_integral, hentries, Bool.and_self]

/-- Different acknowledgements have different payloads. -/
theorem canonicalPayload_injective
    (h : canonicalPayload codec acknowledgement = canonicalPayload codec other) :
    acknowledgement = other := by
  have hvalue := Json.Value.render_injective codec (payloadValue_integral acknowledgement)
    (payloadValue_integral other) h
  simp only [payloadValue, Json.Value.object.injEq, List.cons.injEq, Prod.mk.injEq,
    Json.Value.string.injEq, Json.Value.array.injEq] at hvalue
  obtain ⟨⟨-, hid⟩, ⟨-, hentries⟩, ⟨-, hfirst⟩, ⟨-, hlast⟩, ⟨-, hversion⟩, ⟨-, hreader⟩,
    ⟨-, hreceived⟩, -⟩ := hvalue
  have hversion : acknowledgement.protocolVersion = other.protocolVersion := by
    refine DeviceProtocolVersion.ext (Json.nat_injective ?_ ?_ hversion)
    · exact acknowledgement.protocolVersion.lt.trans (by decide)
    · exact other.protocolVersion.lt.trans (by decide)
  have hentries : acknowledgement.entries = other.entries := by
    have hlength : acknowledgement.entries.length = other.entries.length := by
      simpa using congrArg List.length hentries
    refine List.ext_getElem hlength fun i hi hi' => ?_
    have hentry := congrArg (·[i]?) hentries
    simp only [List.getElem?_mapIdx, List.getElem?_eq_getElem hi, List.getElem?_eq_getElem hi',
      Option.map_some, Option.some.injEq] at hentry
    exact payloadEntry_inj hentry
  cases acknowledgement
  cases other
  rw [SynchronizationAcknowledgement.mk.injEq]
  exact ⟨ReaderId.toText_inj hreader, SynchronizationBatchId.toText_inj hid, hversion,
    LocalSequenceNumber.ext_json hfirst, LocalSequenceNumber.ext_json hlast,
    Json.int_injective hreceived, hentries⟩

/-! ## Stored acknowledgements -/

/-- The acknowledgement is stored, with the batch it matches. -/
structure Stored (codec : Json.Codec) (db : ReaderDatabase)
    (acknowledgement : SynchronizationAcknowledgement) : Prop where
  row : ∃ row ∈ db.synchronizationAcknowledgements, row.Records codec db acknowledgement
  batch : ∃ batch ∈ db.synchronizationBatches, acknowledgement.Matches db batch

theorem SynchronizationAcknowledgementRow.Records.batchId_eq
    {row : SynchronizationAcknowledgementRow}
    (h : row.Records codec db acknowledgement) : row.batchId = acknowledgement.batchId :=
  congrArg (·.batchId) h.columns

/-- Later operations leave the rows of an acknowledgement and what it matches. -/
theorem Stored.grows (h : Stored codec db acknowledgement) (hgrows : Grows db db') :
    Stored codec db' acknowledgement := by
  obtain ⟨row, hrow, hrecords⟩ := h.row
  obtain ⟨batch, hbatch, hmatches⟩ := h.batch
  obtain ⟨row', hrow', hkept⟩ := hgrows.acknowledgements row hrow
  obtain ⟨batch', hbatch', hkept'⟩ := hgrows.batches batch hbatch
  have hrowId := SynchronizationAcknowledgementRow.batchId_of_frozen hkept.frozen
  have hbatchId : batch'.batchId = batch.batchId := congrArg (·.batchId) hkept'.frozen
  refine ⟨⟨row', hrow', hkept.frozen.trans hrecords.columns, ?_⟩, batch', hbatch', ?_⟩
  · rw [hrowId, ← hrecords.entries]
    exact hgrows.acknowledgementEntries row hrow
  · have hframe : batch'.readerId = batch.readerId ∧
        batch'.protocolVersion = batch.protocolVersion ∧
        batch'.firstLocalSequenceNumber = batch.firstLocalSequenceNumber ∧
        batch'.lastLocalSequenceNumber = batch.lastLocalSequenceNumber :=
      ⟨congrArg (·.readerId) hkept'.frozen, congrArg (·.protocolVersion) hkept'.frozen,
        congrArg (·.firstLocalSequenceNumber) hkept'.frozen,
        congrArg (·.lastLocalSequenceNumber) hkept'.frozen⟩
    obtain ⟨hreader, hversion, hfirst, hlast⟩ := hframe
    exact
      { owner := hmatches.owner.trans hreader.symm
        id := hmatches.id.trans hbatchId.symm
        version := hmatches.version.trans hversion.symm
        first := hmatches.first.trans hfirst.symm
        last := hmatches.last.trans hlast.symm
        keys := by rw [hbatchId, hgrows.entriesOf hbatch]; exact hmatches.keys }

/-- A replay is recognised only where the very acknowledgement is stored. -/
theorem Recorded.of_payload (hrecorded : Recorded codec db)
    {row : SynchronizationAcknowledgementRow} (hrow : row ∈ db.synchronizationAcknowledgements)
    (hpayload : row.payloadJson = canonicalPayload codec acknowledgement) :
    row.Records codec db acknowledgement := by
  obtain ⟨origin, hrecords⟩ := hrecorded.origin row hrow
  have horigin : row.payloadJson = canonicalPayload codec origin :=
    congrArg (·.payloadJson) hrecords.columns
  obtain rfl : origin = acknowledgement :=
    canonicalPayload_injective (horigin.symm.trans hpayload)
  exact hrecords

theorem Consistent.stored_of_store (inv : Consistent reader db) (hrecorded : Recorded codec db)
    {stored : StoredSynchronizationAcknowledgement}
    (h : (storeSynchronizationAcknowledgement codec db acknowledgement).result = .ok stored) :
    Stored codec (storeSynchronizationAcknowledgement codec db acknowledgement).database
      acknowledgement := by
  have hrecorded' : Recorded codec
      (Reader.perform codec db (.storeAcknowledgement acknowledgement)) :=
    perform_invariant hrecorded fun db' => hrecorded.step inv
  rw [perform_storeAcknowledgement] at hrecorded'
  obtain ⟨db', hbody, hdatabase⟩ := transact_of_ok h
  rw [storeSynchronizationAcknowledgement, hdatabase] at hrecorded' ⊢
  simp only [bind_eq_ok, mapError_eq_ok] at hbody
  obtain ⟨loaded, hload, ⟨⟩, hvalid, hbody⟩ := hbody
  obtain ⟨batch, hfound, -⟩ := loadSynchronizationBatch_ok hload
  obtain ⟨hbatch, hid, howner⟩ := ReaderDatabase.findBatch_eq_some hfound
  have hmatches := ((inv.validates_iff hbatch howner.symm hid.symm).mp ⟨loaded, hload, hvalid⟩).2
  split at hbody
  · next existing hexisting =>
    simp only [ite_error_eq_ok, ne_eq, not_not, Except.ok.injEq, Prod.mk.injEq] at hbody
    obtain ⟨hpayload, -, rfl⟩ := hbody
    obtain ⟨hrow, -, -⟩ := ReaderDatabase.findAcknowledgement_eq_some hexisting
    exact ⟨⟨existing, hrow, hrecorded.of_payload hrow hpayload⟩, batch, hbatch, hmatches⟩
  · simp only [insertAcknowledgement, bind_eq_ok, guard_eq_ok, mapError_eq_ok,
      Table.insert_eq_ok, Except.ok.injEq, Prod.mk.injEq] at hbody
    obtain ⟨_, -, -, _, -, _, -, _, ⟨-, -, -, rfl⟩, entries, -, -, rfl⟩ := hbody
    have hrow : acknowledgement.toRow codec ∈
        db.synchronizationAcknowledgements ++ [acknowledgement.toRow codec] :=
      List.mem_append_right _ (List.mem_singleton_self _)
    exact ⟨⟨_, hrow, hrecorded'.of_payload hrow rfl⟩, batch, hbatch,
      { hmatches with keys := hmatches.keys }⟩

/-! ## Storing again -/

section Again

variable (inv : Consistent reader db) (hstored : Stored codec db acknowledgement)
include inv hstored

theorem Stored.findAcknowledgement :
    ∃ row, db.findAcknowledgement acknowledgement.readerId acknowledgement.batchId = some row ∧
      row ∈ db.synchronizationAcknowledgements ∧ row.Records codec db acknowledgement := by
  obtain ⟨row, hrow, hrecords⟩ := hstored.row
  have howner : row.readerId = acknowledgement.readerId := congrArg (·.readerId) hrecords.columns
  refine ⟨row, ?_, hrow, hrecords⟩
  rw [← howner, inv.acknowledgements.owned row hrow, ← hrecords.batchId_eq]
  exact inv.acknowledgements.findAcknowledgement hrow

theorem Stored.replay_iff
    (hfound : db.findBatch acknowledgement.readerId acknowledgement.batchId = some batch) :
    storeSynchronizationAcknowledgement codec db acknowledgement =
        ⟨db, .ok ⟨acknowledgement, true⟩⟩ ↔ batch.attemptCount < 2 ^ 32 := by
  obtain ⟨hbatch, hid, howner⟩ := ReaderDatabase.findBatch_eq_some hfound
  have hiff := inv.validates_iff hbatch howner.symm hid.symm
  constructor
  · intro h
    have hok : (storeSynchronizationAcknowledgement codec db acknowledgement).result =
        .ok ⟨acknowledgement, true⟩ := by rw [h]
    obtain ⟨db', hbody, -⟩ := transact_of_ok hok
    simp only [bind_eq_ok, mapError_eq_ok] at hbody
    obtain ⟨loaded, hload, ⟨⟩, hvalid, -⟩ := hbody
    exact (hiff.mp ⟨loaded, hload, hvalid⟩).1
  · intro hattempts
    obtain ⟨matched, hmatched, hmatches⟩ := hstored.batch
    obtain rfl : matched = batch := Table.eq_of_key_eq inv.batches.ids hmatched hbatch
      (hmatches.id.symm.trans hid.symm)
    obtain ⟨loaded, hload, hvalid⟩ := hiff.mpr ⟨hattempts, hmatches⟩
    obtain ⟨row, hrow, -, hrecords⟩ := hstored.findAcknowledgement inv
    have hpayload : row.payloadJson = canonicalPayload codec acknowledgement :=
      congrArg (·.payloadJson) hrecords.columns
    refine transact_eq ?_
    rw [hload]
    simp only [Except.mapError, ok_bind, hvalid, hrow, hpayload, ne_eq, not_true_eq_false,
      if_false]

/-- Any other acknowledgement of the batch is refused. -/
theorem Stored.differing_refused (hid : other.batchId = acknowledgement.batchId)
    (hne : other ≠ acknowledgement) :
    ∃ e, storeSynchronizationAcknowledgement codec db other = ⟨db, .error e⟩ := by
  cases hresult : (storeSynchronizationAcknowledgement codec db other).result with
  | error e =>
    have hunchanged : (storeSynchronizationAcknowledgement codec db other).database = db :=
      transact_of_error hresult
    refine ⟨e, ?_⟩
    rw [← hresult]
    nth_rewrite 2 [← hunchanged]
    rfl
  | ok stored =>
    obtain ⟨db', hbody, -⟩ := transact_of_ok hresult
    simp only [bind_eq_ok, mapError_eq_ok] at hbody
    obtain ⟨loaded, hload, -, -, hbody⟩ := hbody
    obtain ⟨found, hfound, -⟩ := loadSynchronizationBatch_ok hload
    obtain ⟨hbatch, -, howner⟩ := ReaderDatabase.findBatch_eq_some hfound
    obtain ⟨row, hrow, hmem, hrecords⟩ := hstored.findAcknowledgement inv
    have hreader : other.readerId = acknowledgement.readerId := by
      have hrowOwner : row.readerId = acknowledgement.readerId :=
        congrArg (·.readerId) hrecords.columns
      rw [← howner, inv.batches.owned found hbatch, ← hrowOwner,
        inv.acknowledgements.owned row hmem]
    rw [hreader, hid, hrow] at hbody
    simp only [ite_error_eq_ok, ne_eq, not_not] at hbody
    have hpayload : row.payloadJson = canonicalPayload codec acknowledgement :=
      congrArg (·.payloadJson) hrecords.columns
    exact absurd (canonicalPayload_injective (hbody.1.symm.trans hpayload)) hne

end Again

/-! ## Applying again -/

section Applied

variable {row : SynchronizationAcknowledgementRow} (inv : Consistent reader db)
  (hrow : row ∈ db.synchronizationAcknowledgements)
  (hrecords : row.Records codec db acknowledgement) {t : UnixMilliseconds}
include inv hrow hrecords

theorem Consistent.find_recorded :
    acknowledgement.readerId = reader.readerId ∧ row.batchId = acknowledgement.batchId ∧
      row.receivedAt = acknowledgement.receivedAt ∧
      db.findAcknowledgement reader.readerId acknowledgement.batchId = some row := by
  have howner : row.readerId = acknowledgement.readerId := congrArg (·.readerId) hrecords.columns
  refine ⟨?_, hrecords.batchId_eq, congrArg (·.receivedAt) hrecords.columns, ?_⟩
  · rw [← howner, inv.acknowledgements.owned row hrow]
  · rw [← hrecords.batchId_eq]
    exact inv.acknowledgements.findAcknowledgement hrow

theorem Consistent.apply_again (hcheck : row.check = true) {first : UnixMilliseconds}
    (hfirst : row.appliedAt = some first) (ht : 0 ≤ t) :
    applySynchronizationAcknowledgement db acknowledgement.readerId acknowledgement.batchId t =
      ⟨db, .ok ⟨acknowledgement.batchId, false, first, resolutionCounts acknowledgement.decoded,
        reader.lastAcknowledgedSequence⟩⟩ := by
  obtain ⟨hreader, hid, hreceived, hfound⟩ := inv.find_recorded hrow hrecords
  have hdecoded := hrecords.decode inv
  rw [hid] at hdecoded
  have hnonneg : 0 ≤ row.receivedAt := by
    rw [hreceived]
    exact acknowledgement.valid_parts.1
  have hafter : row.receivedAt ≤ first := by
    simp only [SynchronizationAcknowledgementRow.check, hfirst, Option.all_some, Bool.and_eq_true,
      decide_eq_true_eq] at hcheck
    exact hcheck.2
  have hnonempty : acknowledgement.decoded.isEmpty = false := by
    rw [SynchronizationAcknowledgement.decoded, List.isEmpty_map]
    simpa using acknowledgement.valid_parts.2.1
  rw [hreader]
  refine transact_eq ?_
  simp only [bind_eq_ok, orFail_eq_ok, guard_eq_ok, hfound, Option.some.injEq, exists_eq_left',
    hfirst, ite_error_eq_ok, hdecoded, Except.ok.injEq, hnonempty, inv.queue.bound,
    Option.filter_some]
  exact ⟨(), validateTime_ok.mpr ht, by grind, by simp, reader, by simp, by grind, rfl⟩

/-- An application that succeeds leaves its time in the row and reports what
the acknowledgement says. -/
theorem Consistent.applied_row {application : SynchronizationAcknowledgementApplication}
    (h : (applySynchronizationAcknowledgement db acknowledgement.readerId acknowledgement.batchId
      t).result = .ok application) :
    application.batchId = acknowledgement.batchId ∧
      application.counts = resolutionCounts acknowledgement.decoded ∧
      ∃ row' ∈ (applySynchronizationAcknowledgement db acknowledgement.readerId
          acknowledgement.batchId t).database.synchronizationAcknowledgements,
        row'.batchId = acknowledgement.batchId ∧ row'.appliedAt = some application.appliedAt := by
  obtain ⟨hreader, hid, -, hfound⟩ := inv.find_recorded hrow hrecords
  have hdecoded := hrecords.decode inv
  rw [hid] at hdecoded
  obtain ⟨db', hbody, hdatabase⟩ := transact_of_ok h
  rw [applySynchronizationAcknowledgement, hdatabase]
  simp only [hreader, bind_eq_ok, orFail_eq_ok, guard_eq_ok, hfound, Option.some.injEq,
    exists_eq_left', hdecoded, Except.ok.injEq] at hbody
  obtain ⟨-, -, -, -, bound, -, hbody⟩ := hbody
  cases hfirst : row.appliedAt with
  | some first =>
    simp only [hfirst, ite_error_eq_ok, Except.ok.injEq, Prod.mk.injEq] at hbody
    obtain ⟨-, rfl, rfl⟩ := hbody
    exact ⟨rfl, rfl, row, hrow, hid, hfirst⟩
  | none =>
    simp only [hfirst, ite_error_eq_ok, applyStatements, bind_eq_ok, guard_eq_ok,
      Table.update_eq_some, orFail_eq_ok, Except.ok.injEq, Prod.exists, Prod.mk.injEq] at hbody
    obtain ⟨-, advanced, _, ⟨_, -, -, transactions, -, _, _, -, -, _, -, readerState, -,
      acknowledgements, _, ⟨-, rfl, -⟩, -, -, rfl⟩, rfl, rfl⟩ := hbody
    refine ⟨rfl, rfl, { row with appliedAt := some t }, Table.mem_updateWhere.mpr
      ⟨row, hrow, ?_⟩, hid, rfl⟩
    rw [if_pos]
    simp [hid, hfirst, inv.acknowledgements.owned row hrow]

end Applied

/-! ## The replay law -/

/-- What the reader answers to an acknowledgement that comes again after the
calls `more`, made since `db`. -/
structure ReplayLaw (codec : Json.Codec) (db : ReaderDatabase) (more : List Operation)
    (acknowledgement : SynchronizationAcknowledgement) : Prop where
  replayed : storeSynchronizationAcknowledgement codec (Runs.run (perform codec) db more)
      acknowledgement = ⟨Runs.run (perform codec) db more, .ok ⟨acknowledgement, true⟩⟩
  differing : ∀ other, other.batchId = acknowledgement.batchId → other ≠ acknowledgement →
    ∃ e, storeSynchronizationAcknowledgement codec (Runs.run (perform codec) db more) other =
      ⟨Runs.run (perform codec) db more, .error e⟩
  reapplied : ∀ before first after application,
    more = before ++ .applyAcknowledgement acknowledgement.readerId acknowledgement.batchId first ::
      after →
    (applySynchronizationAcknowledgement (Runs.run (perform codec) db before)
      acknowledgement.readerId acknowledgement.batchId first).result = .ok application →
    ∀ t, 0 ≤ t → ∃ mark, applySynchronizationAcknowledgement (Runs.run (perform codec) db more)
        acknowledgement.readerId acknowledgement.batchId t =
      ⟨Runs.run (perform codec) db more,
        .ok { application with appliedNow := false, lastAcknowledgedSequence := mark }⟩

theorem Stored.reapplied {ops : List Operation} {db₀ : ReaderDatabase} (h : FreshlyBound db₀)
    (hdb : Runs.run (perform codec) db₀ ops = db) (hstored : Stored codec db acknowledgement)
    {before after : List Operation} {first t : UnixMilliseconds}
    {application : SynchronizationAcknowledgementApplication}
    (hfirst : (applySynchronizationAcknowledgement (Runs.run (perform codec) db before)
      acknowledgement.readerId acknowledgement.batchId first).result = .ok application)
    (ht : 0 ≤ t) :
    let more := before ++
      .applyAcknowledgement acknowledgement.readerId acknowledgement.batchId first :: after
    ∃ mark, applySynchronizationAcknowledgement (Runs.run (perform codec) db more)
        acknowledgement.readerId acknowledgement.batchId t =
      ⟨Runs.run (perform codec) db more,
        .ok { application with appliedNow := false, lastAcknowledgedSequence := mark }⟩ := by
  intro more
  obtain ⟨reader, inv⟩ : ∃ reader, Consistent reader (Runs.run (perform codec) db before) := by
    rw [← hdb, ← Runs.run_append]
    exact consistent_run h _
  obtain ⟨row, hrow, hrecords⟩ := (hstored.grows (grows_run db before)).row
  obtain ⟨hid, hcounts, row', hrow', hrowId, happlied⟩ := inv.applied_row hrow hrecords hfirst
  have hmore : Runs.run (perform codec) db more = Runs.run (perform codec)
      (applySynchronizationAcknowledgement (Runs.run (perform codec) db before)
        acknowledgement.readerId acknowledgement.batchId first).database after := by
    rw [Runs.run_append, Runs.run_cons]
    rfl
  obtain ⟨reader', inv'⟩ : ∃ reader, Consistent reader (Runs.run (perform codec) db more) := by
    rw [← hdb, ← Runs.run_append]
    exact consistent_run h _
  have hrecorded : Recorded codec (Runs.run (perform codec) db more) := by
    rw [← hdb, ← Runs.run_append]
    exact recorded_run h _
  -- the row written by the first application is still the one that is found
  obtain ⟨final, hfinal, hkept⟩ : ∃ final ∈ (Runs.run (perform codec) db
      more).synchronizationAcknowledgements, row'.Kept final := by
    rw [hmore]
    exact (grows_run _ after).acknowledgements row' hrow'
  obtain ⟨stored, hstoredRow, hstoredRecords⟩ := (hstored.grows (grows_run db more)).row
  have hsame : stored = final := by
    refine Table.eq_of_key_eq inv'.acknowledgements.ids hstoredRow hfinal ?_
    rw [hstoredRecords.batchId_eq, ← hrowId,
      SynchronizationAcknowledgementRow.batchId_of_frozen hkept.frozen]
  subst hsame
  have hagain := inv'.apply_again (t := t) hstoredRow hstoredRecords (hrecorded.checks _ hstoredRow)
    ((hkept.applied (by rw [happlied]; rfl)).trans happlied) ht
  refine ⟨reader'.lastAcknowledgedSequence, hagain.trans ?_⟩
  rw [← hid, ← hcounts]

section Law

variable {db₀ : ReaderDatabase} (h : FreshlyBound db₀) (ops more : List Operation)
  {stored : StoredSynchronizationAcknowledgement}
  (hstore : (storeSynchronizationAcknowledgement codec (Runs.run (perform codec) db₀ ops)
    acknowledgement).result = .ok stored)
include h hstore

/-- Where the acknowledgement was stored it stays, in a reachable database. -/
theorem stored_run :
    let db := (storeSynchronizationAcknowledgement codec (Runs.run (perform codec) db₀ ops)
      acknowledgement).database
    (∃ reader, Consistent reader (Runs.run (perform codec) db more)) ∧
      Stored codec (Runs.run (perform codec) db more) acknowledgement := by
  intro db
  obtain ⟨reader, inv⟩ : ∃ reader, Consistent reader (Runs.run (perform codec) db₀ ops) :=
    consistent_run h ops
  have hstored : Stored codec db acknowledgement := inv.stored_of_store (recorded_run h ops) hstore
  have hgrows : Grows db (Runs.run (perform codec) db more) := grows_run db more
  refine ⟨?_, hstored.grows hgrows⟩
  have hdb : Runs.run (perform codec) db₀ (ops ++ [.storeAcknowledgement acknowledgement]) = db :=
    Runs.run_append db₀ ops [.storeAcknowledgement acknowledgement]
  rw [← hdb, ← Runs.run_append]
  exact consistent_run h _

end Law

/-- Once an acknowledgement was stored, at every later point of the run the
replay law holds exactly while the attempt counter of its batch fits 32 bits. -/
theorem acknowledgement_replay_iff {db₀ : ReaderDatabase} (h : FreshlyBound db₀)
    (ops more : List Operation) (acknowledgement : SynchronizationAcknowledgement)
    (stored : StoredSynchronizationAcknowledgement)
    (hstore : (storeSynchronizationAcknowledgement codec (Runs.run (perform codec) db₀ ops)
      acknowledgement).result = .ok stored) (batch : SynchronizationBatchRow) :
    let db := (storeSynchronizationAcknowledgement codec (Runs.run (perform codec) db₀ ops)
      acknowledgement).database
    (Runs.run (perform codec) db more).findBatch acknowledgement.readerId
        acknowledgement.batchId = some batch →
      (ReplayLaw codec db more acknowledgement ↔ batch.attemptCount < 2 ^ 32) := by
  intro db hfound
  obtain ⟨⟨reader, inv⟩, hlater⟩ := stored_run h ops more hstore
  have hreplay := hlater.replay_iff inv hfound
  constructor
  · intro hlaw
    exact hreplay.mp hlaw.replayed
  · intro hattempts
    refine ⟨hreplay.mpr hattempts, fun other hid hne => hlater.differing_refused inv hid hne, ?_⟩
    rintro before first after application rfl hfirst t ht
    have hdb : Runs.run (perform codec) db₀ (ops ++ [.storeAcknowledgement acknowledgement]) =
        db := Runs.run_append db₀ ops [.storeAcknowledgement acknowledgement]
    exact (stored_run h ops [] hstore).2.reapplied h hdb hfirst ht

theorem acknowledgement_replay_iff_recovered :
    (storeSynchronizationAcknowledgement sampleCodec
        (Runs.run (perform sampleCodec) sampleDatabase sampleSubmission)
        sampleAcknowledgement).result = .ok ⟨sampleAcknowledgement, false⟩ ∧
      ReplayLaw sampleCodec (storeSynchronizationAcknowledgement sampleCodec
        (Runs.run (perform sampleCodec) sampleDatabase sampleSubmission)
        sampleAcknowledgement).database [.recoverBatches sampleReaderId 4]
        sampleAcknowledgement := by
  have hstore : (storeSynchronizationAcknowledgement sampleCodec
      (Runs.run (perform sampleCodec) sampleDatabase sampleSubmission)
      sampleAcknowledgement).result = .ok ⟨sampleAcknowledgement, false⟩ := by
    rw [sampleSubmission_run, sampleInFlight_store]
  refine ⟨hstore, (acknowledgement_replay_iff sampleDatabase_freshlyBound sampleSubmission
    [.recoverBatches sampleReaderId 4] sampleAcknowledgement _ hstore
    (sampleSubmitted.leave .retryableFailure (some 4) (some restartFailureCategory) 4) ?_).mpr
      (by decide)⟩
  rw [sampleSubmission_run, sampleInFlight_store]
  decide +kernel

/-! ## A counter that leaves 32 bits -/

/-- A restart, and the submission that follows it. -/
def sampleRound : List Operation :=
  [.recoverBatches sampleReaderId 2, .markBatch sampleReaderId sampleBatchId 2]

/-- The stored sample with the given number of submissions. -/
def sampleAttempts (n : Nat) : ReaderDatabase :=
  { sampleInFlight.withAcknowledgement sampleCodec sampleAcknowledgement with
    offlineTransactions :=
      sampleInFlight.offlineTransactions.map fun row => { row with attemptCount := n }
    synchronizationBatches := [{ sampleSubmitted with attemptCount := n }] }

/-- Between the restart and the submission. -/
def sampleRestarted (n : Nat) : ReaderDatabase :=
  { sampleAttempts n with
    synchronizationBatches := [({ sampleSubmitted with attemptCount := n } :
      SynchronizationBatchRow).leave .retryableFailure (some 2) (some restartFailureCategory) 2] }

theorem sampleAttempts_recover (n : Nat) :
    perform sampleCodec (sampleAttempts n) (.recoverBatches sampleReaderId 2) =
      sampleRestarted n := by
  refine transact_database 1 ?_
  simp only [bind_eq_ok, updateBatches_ok]
  exact ⟨(), rfl, List.forall_mem_singleton.mpr fun _ => rfl, rfl, rfl⟩

theorem sampleRestarted_mark (n : Nat) :
    perform sampleCodec (sampleRestarted n) (.markBatch sampleReaderId sampleBatchId 2) =
      sampleAttempts (n + 1) := by
  have hqueue : ∀ row ∈ (sampleRestarted n).offlineTransactions,
      (row.countAttempt 2).check = true := by
    -- the attempt counter is not checked
    have hchecks : ∀ row ∈ sampleInFlight.offlineTransactions,
        (row.countAttempt 2).check = true := by decide +kernel
    intro row hrow
    obtain ⟨queued, hqueued, rfl⟩ := List.mem_map.mp hrow
    exact hchecks queued hqueued
  change (thenLoad _ _ _).database = _
  rw [thenLoad_database]
  refine transact_database () ?_
  simp only [bind_eq_ok, updateOneBatch_ok, updateEntryTransactions_ok, Except.ok.injEq,
    Prod.mk.injEq]
  exact ⟨(), rfl, _, ⟨List.forall_mem_singleton.mpr fun _ => rfl, rfl, rfl⟩, _,
    ⟨Nat.one_ne_zero, fun row hrow _ => hqueue row hrow, rfl, rfl⟩, trivial, rfl⟩

theorem sampleRound_run (n : Nat) :
    Runs.run (perform sampleCodec) (sampleAttempts n) sampleRound = sampleAttempts (n + 1) := by
  rw [sampleRound, Runs.run_cons, Runs.run_cons, Runs.run_nil, sampleAttempts_recover,
    sampleRestarted_mark]

theorem sampleRounds_run (n k : Nat) :
    Runs.run (perform sampleCodec) (sampleAttempts n) (List.replicate k sampleRound).flatten =
      sampleAttempts (n + k) := by
  induction k generalizing n with
  | zero => rfl
  | succ k ih =>
    rw [List.replicate_succ, List.flatten_cons, Runs.run_append, sampleRound_run, ih,
      Nat.add_right_comm, Nat.add_assoc]

/-- A batch that was submitted `2 ^ 32` times can no longer be loaded, and its
stored acknowledgement is not recognised any more. -/
theorem acknowledgement_replay_lost :
    ¬∀ (db₀ : ReaderDatabase) (ops more : List Operation)
      (acknowledgement : SynchronizationAcknowledgement)
      (stored : StoredSynchronizationAcknowledgement), FreshlyBound db₀ →
      (storeSynchronizationAcknowledgement sampleCodec (Runs.run (perform sampleCodec) db₀ ops)
        acknowledgement).result = .ok stored →
      ReplayLaw sampleCodec (storeSynchronizationAcknowledgement sampleCodec
        (Runs.run (perform sampleCodec) db₀ ops) acknowledgement).database more
        acknowledgement := by
  intro hclaim
  obtain ⟨k, hk⟩ : ∃ k, 1 + k = 2 ^ 32 := ⟨2 ^ 32 - 1, by decide⟩
  have hstore : (storeSynchronizationAcknowledgement sampleCodec
      (Runs.run (perform sampleCodec) sampleDatabase sampleSubmission)
      sampleAcknowledgement).result = .ok ⟨sampleAcknowledgement, false⟩ := by
    rw [sampleSubmission_run, sampleInFlight_store]
  have hlaw := hclaim sampleDatabase sampleSubmission (List.replicate k sampleRound).flatten
    sampleAcknowledgement _ sampleDatabase_freshlyBound hstore
  obtain ⟨⟨reader, inv⟩, hstored⟩ := stored_run sampleDatabase_freshlyBound sampleSubmission
    (List.replicate k sampleRound).flatten hstore
  have hrounds : Runs.run (perform sampleCodec) (storeSynchronizationAcknowledgement sampleCodec
      (Runs.run (perform sampleCodec) sampleDatabase sampleSubmission)
      sampleAcknowledgement).database (List.replicate k sampleRound).flatten =
        sampleAttempts (2 ^ 32) := by
    rw [sampleSubmission_run, sampleInFlight_store, ← hk]
    exact sampleRounds_run 1 k
  have hreplayed := hlaw.replayed
  rw [hrounds] at hreplayed inv hstored
  have hfound : (sampleAttempts (2 ^ 32)).findBatch sampleReaderId sampleBatchId =
      some { sampleSubmitted with attemptCount := 2 ^ 32 } := rfl
  exact absurd ((hstored.replay_iff inv hfound).mp hreplayed) (by decide)

end TransitGuard.Reader
