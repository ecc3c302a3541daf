import TransitGuard.Reader.Retry

/-!
Which batches can be transmitted. The local constructors and the protocol
validate the same data by different rules: what the first admit and the second
refuse is stored, batched and submitted, and only then found to have no
request.
-/

namespace TransitGuard.Reader

open Fallible Protocol

variable {codec : Json.Codec} {db db' : ReaderDatabase} {op : Operation}
  {reader reader' : ReaderStateRow}

/-- What the protocol asks of a batch and the local operations do not: a
bounded identity, one protocol version, at most 256 entries, and envelopes that
are small JSON objects. -/
structure ReaderDatabase.Transmissible (codec : Json.Codec) (db : ReaderDatabase)
    (batch : SynchronizationBatchRow) : Prop where
  environment : db.readerState.any (fun reader => (EnvironmentId.new reader.environmentId).isOk)
  software : db.readerState.any (fun reader => (SoftwareVersion.new reader.softwareVersion).isOk)
  version : db.readerState.any (·.protocolVersion == batch.protocolVersion)
  count : (db.batchEntries batch.readerId batch.batchId).length ≤ maxSynchronizationBatchEntries
  envelopes : ∀ row ∈ db.offlineTransactions,
    db.inBatch batch.readerId batch.batchId row = true →
      (CanonicalTransactionEnvelope.fromJson codec row.transactionEnvelopeJson).isOk

instance (codec : Json.Codec) (db : ReaderDatabase) (batch : SynchronizationBatchRow) :
    Decidable (db.Transmissible codec batch) :=
  decidable_of_iff
    (db.readerState.any (fun reader => (EnvironmentId.new reader.environmentId).isOk) = true ∧
      db.readerState.any (fun reader => (SoftwareVersion.new reader.softwareVersion).isOk) = true ∧
      db.readerState.any (·.protocolVersion == batch.protocolVersion) = true ∧
      (db.batchEntries batch.readerId batch.batchId).length ≤ maxSynchronizationBatchEntries ∧
      ∀ row ∈ db.offlineTransactions, db.inBatch batch.readerId batch.batchId row = true →
        (CanonicalTransactionEnvelope.fromJson codec row.transactionEnvelopeJson).isOk = true)
    ⟨fun ⟨h₁, h₂, h₃, h₄, h₅⟩ => ⟨h₁, h₂, h₃, h₄, h₅⟩,
      fun ⟨h₁, h₂, h₃, h₄, h₅⟩ => ⟨h₁, h₂, h₃, h₄, h₅⟩⟩

/-! ## The joined rows -/

/-- The joined rows of a batch are its entries in order, each with the envelope
of its transaction. -/
theorem Consistent.storedEntries_spec (inv : Consistent reader db)
    {batch : SynchronizationBatchRow} (hbatch : batch ∈ db.synchronizationBatches) :
    (db.storedEntries reader.readerId batch.batchId).map Prod.fst = db.entriesOf batch.batchId ∧
      ∀ pair ∈ db.storedEntries reader.readerId batch.batchId,
        ∃ row ∈ db.offlineTransactions, row.key = pair.1.key ∧
          row.transactionEnvelopeJson = pair.2 := by
  have hjoin := Table.join_spec (l := db.entriesOf batch.batchId)
    (f := fun entry => (db.queuedFor entry).map fun row => (entry, row.transactionEnvelopeJson))
    (Q := fun entry envelope => ∃ row ∈ db.offlineTransactions, row.key = entry.key ∧
      row.transactionEnvelopeJson = envelope)
    fun entry hentry => by
      obtain ⟨row, hrow, hkey, hqueued⟩ := inv.queuedFor_eq (List.mem_of_mem_filter hentry)
      exact ⟨_, by rw [hqueued, List.map_singleton], row, hrow, hkey, rfl⟩
  have hsorted : (((db.entriesOf batch.batchId).flatMap fun entry =>
      (db.queuedFor entry).map fun row => (entry, row.transactionEnvelopeJson)).map
        (·.1.entryPosition)).Pairwise (· ≤ ·) := by
    have hpositions := congrArg (List.map (·.entryPosition)) hjoin.1
    rw [List.map_map, (inv.batches.holds batch hbatch).positions] at hpositions
    refine Eq.subst hpositions.symm ?_
    exact (List.pairwise_lt_range' 1).imp Nat.le_of_lt
  rw [ReaderDatabase.storedEntries, inv.batches.batchEntries_eq, Table.orderBy_of_sorted hsorted]
  exact hjoin

/-! ## Loading -/

/-- A request exists for the entries as soon as their envelopes are accepted. -/
theorem exists_decodeRequestEntries {position : Nat}
    {rows : List (SynchronizationEntryRow × String)}
    (hpositions : rows.map (·.1.entryPosition) = List.range' position rows.length)
    (hbounds : ∀ pair ∈ rows,
      1 ≤ pair.1.localSequenceNumber ∧ pair.1.localSequenceNumber < 2 ^ 64)
    (henvelopes : ∀ pair ∈ rows,
      (CanonicalTransactionEnvelope.fromJson codec pair.2).isOk = true) :
    ∃ entries, decodeRequestEntries codec position rows = .ok entries := by
  have hentries : ∃ entries : List RequestEntry, List.Forall₂ (fun row entry =>
      entry.transactionId = row.1.fareTransactionId ∧
      entry.localSequenceNumber.value = row.1.localSequenceNumber ∧
      CanonicalTransactionEnvelope.fromJson codec row.2 = .ok entry.transactionEnvelope)
      rows entries := by
    refine Fallible.exists_forall₂ fun pair hpair => ?_
    obtain ⟨envelope, henvelope⟩ := isOk_iff.mp (henvelopes pair hpair)
    exact ⟨⟨pair.1.fareTransactionId, ⟨pair.1.localSequenceNumber, (hbounds pair hpair).1,
      (hbounds pair hpair).2⟩, envelope⟩, rfl, rfl, henvelope⟩
  obtain ⟨entries, hentries⟩ := hentries
  exact ⟨entries, decodeRequestEntries_ok.mpr ⟨hpositions, hentries⟩⟩

/-- The definition assembled from a well-formed batch passes the validator when
it is not too long. -/
theorem Consistent.validate_ok (inv : Consistent reader db)
    {batch : SynchronizationBatchRow} (hbatch : batch ∈ db.synchronizationBatches)
    {definition : RequestDefinition}
    (hnonneg : 0 ≤ definition.submittedAt)
    (hfirst : definition.firstLocalSequenceNumber.value = batch.firstLocalSequenceNumber)
    (hlast : definition.lastLocalSequenceNumber.value = batch.lastLocalSequenceNumber)
    (hkeys : definition.entries.map (fun entry =>
      (entry.transactionId, entry.localSequenceNumber.value)) =
        (db.entriesOf batch.batchId).map (·.key)) :
    definition.validate = .ok () ↔
      (db.entriesOf batch.batchId).length ≤ maxSynchronizationBatchEntries := by
  have hholds := inv.batches.holds batch hbatch
  have hcheck := (inv.batches.valid batch hbatch).check
  have hlength : (definition.entries.map RequestEntry.identity).length =
      (db.entriesOf batch.batchId).length := by
    have hlengths := congrArg List.length hkeys
    simpa only [List.length_map] using hlengths
  have hids : (definition.entries.map RequestEntry.identity).map Prod.fst =
      (db.entriesOf batch.batchId).map (·.fareTransactionId) := by
    rw [List.map_map]
    exact map_fst_of_keys hkeys
  have hsequences : (definition.entries.map RequestEntry.identity).map (·.2.value) =
      (db.entriesOf batch.batchId).map (·.localSequenceNumber) := by
    rw [List.map_map]
    exact map_snd_of_keys hkeys
  simp only [RequestDefinition.validate, validateTimestamp, validateRequestEntries, bind_eq_ok,
    ite_error_eq_ok, validateEntries_ok, hlength, hids, hsequences, exists_const]
  simp only [SynchronizationBatchRow.check, Bool.and_eq_true, decide_eq_true_eq] at hcheck
  constructor
  · rintro ⟨-, hcount, -⟩
    exact hcount
  · intro hcount
    refine ⟨⟨by grind, trivial⟩, hcount, by omega, LocalSequenceNumber.eq_some_of_value ?_,
      LocalSequenceNumber.eq_some_of_value ?_, inv.batches.nodup_transactions inv.queue hbatch,
      hholds.increasing⟩
    · rw [Option.map_map, hfirst, ← hholds.first, ← List.head?_map, ← List.head?_map, ← hsequences]
      rfl
    · rw [Option.map_map, hlast, ← hholds.last, ← List.getLast?_map, ← List.getLast?_map,
        ← hsequences]
      rfl

/-- The entries of a request are the entries of its batch. -/
theorem Consistent.request_keys (inv : Consistent reader db)
    {batch : SynchronizationBatchRow} (hbatch : batch ∈ db.synchronizationBatches)
    {entries : List RequestEntry}
    (h : decodeRequestEntries codec 0 (db.storedEntries reader.readerId batch.batchId) =
      .ok entries) :
    entries.map (fun entry => (entry.transactionId, entry.localSequenceNumber.value)) =
      (db.entriesOf batch.batchId).map (·.key) := by
  rw [← (inv.storedEntries_spec hbatch).1, List.map_map, ← List.forall₂_eq_eq_eq,
    List.forall₂_map_left_iff, List.forall₂_map_right_iff]
  exact ((decodeRequestEntries_ok.mp h).2.imp fun _ _ hrow =>
    Prod.ext hrow.1 hrow.2.1).flip

/-- The envelopes of the joined rows are those of the transactions of the
batch. -/
theorem Consistent.forall_storedEntries_iff (inv : Consistent reader db)
    {batch : SynchronizationBatchRow} (hbatch : batch ∈ db.synchronizationBatches)
    {P : String → Prop} :
    (∀ pair ∈ db.storedEntries reader.readerId batch.batchId, P pair.2) ↔
      ∀ row ∈ db.offlineTransactions, db.inBatch reader.readerId batch.batchId row = true →
        P row.transactionEnvelopeJson := by
  obtain ⟨hfst, hjoined⟩ := inv.storedEntries_spec hbatch
  constructor
  · intro h row hrow hmember
    obtain ⟨entry, hentry, hid⟩ := List.mem_map.mp (inv.batches.mem_inBatch.mp hmember)
    rw [← hfst] at hentry
    obtain ⟨pair, hpair, rfl⟩ := List.mem_map.mp hentry
    obtain ⟨joined, hmem, hkey, henvelope⟩ := hjoined pair hpair
    have hsame : joined = row :=
      Table.eq_of_key_eq inv.queue.ids hmem hrow ((congrArg Prod.fst hkey).trans hid)
    rw [← hsame, henvelope]
    exact h pair hpair
  · intro h pair hpair
    obtain ⟨row, hrow, hkey, henvelope⟩ := hjoined pair hpair
    rw [← henvelope]
    refine h row hrow (inv.batches.mem_inBatch.mpr ?_)
    rw [← hfst, List.map_map]
    exact List.mem_map.mpr ⟨pair, hpair, (congrArg Prod.fst hkey).symm⟩

theorem Consistent.range_bounds (inv : Consistent reader db) {batch : SynchronizationBatchRow}
    (hbatch : batch ∈ db.synchronizationBatches) :
    (1 ≤ batch.firstLocalSequenceNumber ∧ batch.firstLocalSequenceNumber < 2 ^ 64) ∧
      (1 ≤ batch.lastLocalSequenceNumber ∧ batch.lastLocalSequenceNumber < 2 ^ 64) := by
  have hholds := inv.batches.holds batch hbatch
  obtain ⟨first, hfirst, hfirstSequence⟩ := Option.map_eq_some_iff.mp hholds.first
  obtain ⟨last, hlast, hlastSequence⟩ := Option.map_eq_some_iff.mp hholds.last
  rw [← hfirstSequence, ← hlastSequence]
  exact ⟨inv.entry_bounds (List.mem_of_mem_filter (List.mem_of_head? hfirst)),
    inv.entry_bounds (List.mem_of_mem_filter (List.mem_of_getLast? hlast))⟩

/-- The request of an in-flight batch can be loaded exactly when the protocol
accepts what the batch holds. -/
theorem Consistent.loads_iff_transmissible (inv : Consistent reader db)
    {batch : SynchronizationBatchRow} (hbatch : batch ∈ db.synchronizationBatches)
    (hflight : batch.batchState = .inFlight) :
    (∃ request, loadSynchronizationBatchRequest codec db batch.readerId batch.batchId =
      .ok request) ↔ db.Transmissible codec batch := by
  have howner := inv.batches.owned batch hbatch
  have hvalid := inv.batches.valid batch hbatch
  have hiff := inv.forall_storedEntries_iff hbatch
    (P := fun envelope => (CanonicalTransactionEnvelope.fromJson codec envelope).isOk = true)
  obtain ⟨hfst, hjoined⟩ := inv.storedEntries_spec hbatch
  constructor
  · rintro ⟨request, hload⟩
    obtain ⟨found, hfound, -, hassembled⟩ := loadSynchronizationBatchRequest_ok.mp hload
    obtain ⟨row, hrow, -, hreaderId, hbatchId, h⟩ := assembleRequest_ok.mp hassembled
    rw [howner, inv.batches.findBatch hbatch, Option.some.injEq] at hfound
    rw [inv.queue.bound, Option.some.injEq] at hrow
    subst hfound hrow
    have hentries := h.entries
    rw [hreaderId, hbatchId, howner] at hentries
    refine ⟨?_, ?_, ?_, ?_, howner.symm ▸ hiff.mp ?_⟩
    · simp [inv.queue.bound, h.environment, Except.isOk, Except.toBool]
    · simp [inv.queue.bound, h.software, Except.isOk, Except.toBool]
    · simp [inv.queue.bound, ← h.readerVersion, ← h.batchVersion]
    · rw [howner, inv.batches.batchEntries_eq]
      exact (inv.validate_ok hbatch h.nonneg h.first h.last (inv.request_keys hbatch hentries)).mp
        request.valid
    · intro pair hpair
      obtain ⟨-, hdecoded⟩ := decodeRequestEntries_ok.mp hentries
      obtain ⟨entry, -, -, -, henvelope⟩ := exists_of_forall₂ hdecoded.flip hpair
      exact isOk_iff.mpr ⟨_, henvelope⟩
  · rintro ⟨henvironment, hsoftware, hversion, hcount, henvelopes⟩
    have hcheck := hvalid.check
    simp only [SynchronizationBatchRow.check, Bool.and_eq_true, decide_eq_true_eq] at hcheck
    simp only [inv.queue.bound, Option.any_some, beq_iff_eq] at henvironment hsoftware hversion
    obtain ⟨environment, henvironment⟩ := isOk_iff.mp henvironment
    obtain ⟨software, hsoftware⟩ := isOk_iff.mp hsoftware
    obtain ⟨submittedAt, hsubmitted⟩ := Option.isSome_iff_exists.mp
      (hvalid.submitted (by rw [hflight]; decide))
    rw [howner] at henvelopes hcount
    rw [inv.batches.batchEntries_eq] at hcount
    have hpositions : (db.storedEntries reader.readerId batch.batchId).map (·.1.entryPosition) =
        List.range' 0 (db.storedEntries reader.readerId batch.batchId).length := by
      have hlength := congrArg List.length hfst
      have hmap := congrArg (List.map (·.entryPosition)) hfst
      rw [List.length_map] at hlength
      rw [List.map_map, (inv.batches.holds batch hbatch).positions, ← hlength] at hmap
      exact hmap
    have hbounds : ∀ pair ∈ db.storedEntries reader.readerId batch.batchId,
        1 ≤ pair.1.localSequenceNumber ∧ pair.1.localSequenceNumber < 2 ^ 64 := by
      intro pair hpair
      have hmem := List.mem_map_of_mem (f := Prod.fst) hpair
      rw [hfst] at hmem
      exact inv.entry_bounds (List.mem_of_mem_filter hmem)
    obtain ⟨entries, hentries⟩ := exists_decodeRequestEntries hpositions hbounds
      (hiff.mpr henvelopes)
    obtain ⟨hfirst, hlast⟩ := inv.range_bounds hbatch
    let definition : RequestDefinition :=
      { protocolVersion := ⟨batch.protocolVersion, by omega, by omega⟩
        environmentId := environment
        readerId := reader.readerId
        readerSoftwareVersion := software
        batchId := batch.batchId
        firstLocalSequenceNumber := ⟨batch.firstLocalSequenceNumber, hfirst.1, hfirst.2⟩
        lastLocalSequenceNumber := ⟨batch.lastLocalSequenceNumber, hlast.1, hlast.2⟩
        submittedAt
        entries }
    have hnonneg : 0 ≤ submittedAt := by
      rw [hsubmitted] at hcheck
      exact of_decide_eq_true hcheck.1.1.1.2
    have hvalidated : definition.validate = .ok () :=
      (inv.validate_ok hbatch hnonneg rfl rfl (inv.request_keys hbatch hentries)).mpr hcount
    refine ⟨⟨definition, hvalidated⟩, loadSynchronizationBatchRequest_ok.mpr
      ⟨batch, ?_, hflight, assembleRequest_ok.mpr ⟨reader, inv.queue.bound, howner.symm,
        howner.symm, rfl, rfl, hversion.symm, henvironment, hsoftware, rfl, rfl, hsubmitted,
        hnonneg, ?_, hentries⟩⟩⟩
    · rw [howner]
      exact inv.batches.findBatch hbatch
    · rw [← Bool.not_eq_true, List.isEmpty_iff]
      intro hempty
      have hfirstEntry := (inv.batches.holds batch hbatch).first
      rw [← hfst, hempty] at hfirstEntry
      cases hfirstEntry

/-! ## Steps -/

/-- Whether a batch can be transmitted does not change over time. -/
theorem Grows.transmissible_iff (h : Grows db db') (inv : Consistent reader db)
    (inv' : Consistent reader' db') {batch batch' : SynchronizationBatchRow}
    (hbatch : batch ∈ db.synchronizationBatches) (hbatch' : batch' ∈ db'.synchronizationBatches)
    (hkept : batch.Kept batch') :
    db'.Transmissible codec batch' ↔ db.Transmissible codec batch := by
  obtain ⟨next, hnext, hreader⟩ := h.reader reader inv.queue.bound
  obtain rfl : next = reader' := Option.some.inj (hnext.symm.trans inv'.queue.bound)
  have hid : next.readerId = reader.readerId := congrArg (·.readerId) hreader.frozen
  have hbatchId : batch'.batchId = batch.batchId := congrArg (·.batchId) hkept.frozen
  have henvironment : next.environmentId = reader.environmentId :=
    congrArg (·.environmentId) hreader.frozen
  have hsoftware : next.softwareVersion = reader.softwareVersion :=
    congrArg (·.softwareVersion) hreader.frozen
  have hversion : next.protocolVersion = reader.protocolVersion :=
    congrArg (·.protocolVersion) hreader.frozen
  have hbatchVersion : batch'.protocolVersion = batch.protocolVersion :=
    congrArg (·.protocolVersion) hkept.frozen
  have hentries : db'.batchEntries batch'.readerId batch'.batchId =
      db.batchEntries batch.readerId batch.batchId := by
    rw [inv.batches.owned batch hbatch, inv'.batches.owned batch' hbatch',
      inv.batches.batchEntries_eq, inv'.batches.batchEntries_eq, hbatchId, h.entriesOf hbatch]
  have henvelopes : (∀ row ∈ db'.offlineTransactions,
      db'.inBatch batch'.readerId batch'.batchId row = true →
        (CanonicalTransactionEnvelope.fromJson codec row.transactionEnvelopeJson).isOk = true) ↔
      ∀ row ∈ db.offlineTransactions, db.inBatch batch.readerId batch.batchId row = true →
        (CanonicalTransactionEnvelope.fromJson codec row.transactionEnvelopeJson).isOk = true := by
    have hiff := inv.forall_storedEntries_iff hbatch
      (P := fun envelope => (CanonicalTransactionEnvelope.fromJson codec envelope).isOk = true)
    have hiff' := inv'.forall_storedEntries_iff hbatch'
      (P := fun envelope => (CanonicalTransactionEnvelope.fromJson codec envelope).isOk = true)
    rw [inv.batches.owned batch hbatch, inv'.batches.owned batch' hbatch', ← hiff, ← hiff', hid,
      hbatchId, h.storedEntries inv inv' hid hbatch]
  constructor
  · rintro ⟨h₁, h₂, h₃, h₄, h₅⟩
    rw [inv'.queue.bound, Option.any_some] at h₁ h₂ h₃
    rw [hentries] at h₄
    refine ⟨?_, ?_, ?_, h₄, henvelopes.mp h₅⟩ <;> rw [inv.queue.bound, Option.any_some]
    · exact henvironment ▸ h₁
    · exact hsoftware ▸ h₂
    · exact hversion ▸ hbatchVersion ▸ h₃
  · rintro ⟨h₁, h₂, h₃, h₄, h₅⟩
    rw [inv.queue.bound, Option.any_some] at h₁ h₂ h₃
    rw [← hentries] at h₄
    refine ⟨?_, ?_, ?_, h₄, henvelopes.mpr h₅⟩ <;> rw [inv'.queue.bound, Option.any_some]
    · exact henvironment.symm ▸ h₁
    · exact hsoftware.symm ▸ h₂
    · exact hversion.symm ▸ hbatchVersion.symm ▸ h₃

/-- Every in-flight batch has its request. -/
def ReaderDatabase.AllLoad (codec : Json.Codec) (db : ReaderDatabase) : Prop :=
  ∀ batch ∈ db.synchronizationBatches, batch.batchState = .inFlight →
    ∃ request, loadSynchronizationBatchRequest codec db batch.readerId batch.batchId =
      .ok request

/-- The call submits no batch that the protocol refuses. -/
def Operation.SubmitsTransmissible (codec : Json.Codec) (db : ReaderDatabase) :
    Operation → Prop
  | .markBatch readerId batchId t =>
    ∀ batch ∈ db.synchronizationBatches,
      (batch.named readerId batchId && batch.updatedAt ≤ t && batch.readyAt t) = true →
      db.offlineTransactions.countP (db.inFlightEntry readerId batchId t) =
        (db.batchEntries readerId batchId).length →
      db.Transmissible codec batch
  | _ => True

/-- A batch in flight was in flight before, or was submitted just now. -/
theorem Committed.inFlight_origin (inv : Consistent reader db) (h : Committed codec db op db')
    {batch' : SynchronizationBatchRow} (hbatch' : batch' ∈ db'.synchronizationBatches)
    (hflight : batch'.batchState = .inFlight) :
    ∃ batch ∈ db.synchronizationBatches, batch.Kept batch' ∧
      (batch.batchState = .inFlight ∨ ∃ readerId batchId t, op = .markBatch readerId batchId t ∧
        (batch.named readerId batchId && batch.updatedAt ≤ t && batch.readyAt t) = true ∧
        db.offlineTransactions.countP (db.inFlightEntry readerId batchId t) =
          (db.batchEntries readerId batchId).length) := by
  have hcommitted := h
  cases h with
  | createBatch =>
    obtain ⟨batch, added, hcreates, -⟩ := inv.queue.creates hcommitted
    rw [hcreates.batches, List.mem_append, List.mem_singleton] at hbatch'
    rcases hbatch' with hbatch' | rfl
    · exact ⟨batch', hbatch', .refl batch', .inl hflight⟩
    · rw [hcreates.prepared] at hflight
      cases hflight
  | bind | enqueue | markTransaction | retryTransaction | failTransaction | recoverQueue
  | storeAcknowledgement => exact ⟨batch', hbatch', .refl batch', .inl hflight⟩
  | markBatch _ _ all =>
    obtain ⟨batch, hbatch, rfl⟩ := Table.mem_updateWhere.mp hbatch'
    refine ⟨batch, hbatch, ?_⟩
    split at hflight
    · next hp =>
      rw [if_pos hp]
      simp only [Bool.and_eq_true] at hp
      refine ⟨.submit hp.2, .inr ⟨_, _, _, rfl, ?_, all⟩⟩
      simp only [Bool.and_eq_true]
      exact hp
    · next hp =>
      rw [if_neg hp]
      exact ⟨.refl batch, .inl hflight⟩
  | retryBatch | recoverBatches | applyAcknowledgement =>
    obtain ⟨batch, hbatch, rfl⟩ := Table.mem_updateWhere.mp hbatch'
    refine ⟨batch, hbatch, ?_⟩
    split at hflight
    · cases hflight
    · next hp =>
      rw [if_neg hp]
      exact ⟨.refl batch, .inl hflight⟩
  | @failBatch _ _ _ _ target =>
    obtain ⟨batch, hbatch, rfl⟩ := Table.mem_updateWhere.mp hbatch'
    refine ⟨batch, hbatch, ?_⟩
    split at hflight
    · cases target <;> cases hflight
    · next hp =>
      rw [if_neg hp]
      exact ⟨.refl batch, .inl hflight⟩

theorem Consistent.allLoad_step (inv : Consistent reader db) (h : Committed codec db op db')
    (hop : op.SubmitsTransmissible codec db) (hload : db.AllLoad codec) : db'.AllLoad codec := by
  obtain ⟨reader', inv', -⟩ := inv.step h
  intro batch' hbatch' hflight
  rw [inv'.loads_iff_transmissible hbatch' hflight]
  obtain ⟨batch, hbatch, hkept, horigin⟩ := h.inFlight_origin inv hbatch' hflight
  rw [h.grows.transmissible_iff inv inv' hbatch hbatch' hkept]
  rcases horigin with hbefore | ⟨readerId, batchId, t, rfl, hselected, hall⟩
  · exact (inv.loads_iff_transmissible hbatch hbefore).mp (hload batch hbatch hbefore)
  · exact hop batch hbatch hselected hall

theorem Consistent.submitsTransmissible_of_allLoad (inv : Consistent reader db)
    (hload : (Reader.perform codec db op).AllLoad codec) : op.SubmitsTransmissible codec db := by
  cases op with
  | markBatch readerId batchId t =>
    intro batch hbatch hselected hall
    obtain ⟨hcommitted, hmark⟩ := inv.mark_eq codec hbatch hselected hall
    have hdb : Reader.perform codec db (.markBatch readerId batchId t) =
        db.afterSubmission readerId batchId t := congrArg Outcome.database hmark
    rw [hdb] at hload
    obtain ⟨reader', inv', -⟩ := inv.step hcommitted
    have hbatch' : batch.submit t ∈
        (db.afterSubmission readerId batchId t).synchronizationBatches :=
      Table.mem_updateWhere.mpr ⟨batch, hbatch, (if_pos hselected).symm⟩
    rw [Bool.and_eq_true] at hselected
    rw [← hcommitted.grows.transmissible_iff inv inv' hbatch hbatch' (.submit hselected.2)]
    exact (inv'.loads_iff_transmissible hbatch' rfl).mp (hload _ hbatch' rfl)
  | _ => trivial

theorem FreshlyBound.allLoad (h : FreshlyBound db) : db.AllLoad codec := by
  obtain ⟨identity, -, rfl⟩ := h.exists_identity
  exact fun batch hbatch => absurd hbatch List.not_mem_nil

/-- The request of every in-flight batch can be loaded all along a run exactly
when no call of the run submits a batch that the protocol refuses. -/
theorem request_loads_iff {db₀ : ReaderDatabase} (h : FreshlyBound db₀) (ops : List Operation) :
    (∀ k, (Runs.run (perform codec) db₀ (ops.take k)).AllLoad codec) ↔
      Runs.StepsMeet (perform codec) (fun db op => op.SubmitsTransmissible codec db) db₀ ops := by
  refine Runs.forall_take_iff_stepsMeet (Q := fun db => ∃ reader, Consistent reader db)
    (fun db op ⟨_, inv⟩ => inv.perform op) (fun db op ⟨_, inv⟩ hload => ?_) h.consistent
    h.allLoad ops
  exact ⟨inv.submitsTransmissible_of_allLoad, fun hop =>
    perform_invariant hload fun _ h => inv.allLoad_step h hop hload⟩

theorem request_loads_iff_submission :
    FreshlyBound sampleDatabase ∧
      ∀ k, (Runs.run (perform sampleCodec) sampleDatabase (sampleSubmission.take k)).AllLoad
        sampleCodec :=
  ⟨sampleDatabase_freshlyBound,
    (request_loads_iff sampleDatabase_freshlyBound sampleSubmission).mpr
      ⟨trivial, trivial, by unfold Operation.SubmitsTransmissible; decide, trivial⟩⟩

/-- A queued transaction whose envelope is the JSON value `null` is batched and
submitted, and its request is refused. -/
theorem request_of_null_envelope_refused :
    ¬∀ (db₀ : ReaderDatabase) (ops : List Operation), FreshlyBound db₀ →
      (Runs.run (perform sampleCodec) db₀ ops).AllLoad sampleCodec := by
  intro hclaim
  have hload := hclaim sampleDatabase
    [.enqueue sampleReaderId (sampleDraft .null),
      .createBatch sampleReaderId .current 1 10 sampleBatchId,
      .markBatch sampleReaderId sampleBatchId 2] sampleDatabase_freshlyBound
  simp only [ReaderDatabase.AllLoad, ← isOk_iff] at hload
  revert hload
  decide

end TransitGuard.Reader
