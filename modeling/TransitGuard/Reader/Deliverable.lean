import TransitGuard.Reader.Coordinated
import TransitGuard.Reader.Coordinator
import TransitGuard.Reader.Creation
import TransitGuard.Reader.Delivery
import TransitGuard.Reader.Recovery
import TransitGuard.Reader.RequestSize
import TransitGuard.Reader.Requested

/-!
What it takes for a reader to deliver its queue at a given time, and that
neither a restart nor the work on one batch takes it away from the rest. Time is
part of it: a transition does not touch a row that was updated later, and a
retry waits for its time.
-/

namespace TransitGuard.Reader

open Fallible Protocol

variable {codec : Json.Codec} {environmentId : EnvironmentId} {db db' : ReaderDatabase}
  {reader reader' : ReaderStateRow} {batch : SynchronizationBatchRow} {t : UnixMilliseconds}

/-! ## Conditions -/

/-- The protocol takes the envelope of the transaction, and the backend can
store it. -/
def OfflineTransactionRow.Accepted (codec : Json.Codec) (row : OfflineTransactionRow) : Prop :=
  ∃ envelope, CanonicalTransactionEnvelope.fromJson codec row.transactionEnvelopeJson =
      .ok envelope ∧
    ∀ value, codec.parse envelope.asStr = some value → value.storableAsJsonb = true

structure OfflineTransactionRow.Deliverable (codec : Json.Codec) (t : UnixMilliseconds)
    (row : OfflineTransactionRow) : Prop where
  updatedAt : row.updatedAt ≤ t
  due : row.queueState.isWaiting = true → row.eligibleAt t = true
  accepted : row.Accepted codec

/-- The request of the batch, were it submitted at `t`, is not too long. -/
def ReaderDatabase.Postable (codec : Json.Codec) (db : ReaderDatabase)
    (batch : SynchronizationBatchRow) (t : UnixMilliseconds) : Prop :=
  ∀ request, assembleRequest codec db batch.readerId batch.batchId (batch.submit t) =
    .ok request → checkRequestBody codec request = .ok ()

structure ReaderDatabase.DeliverableBatch (codec : Json.Codec) (db : ReaderDatabase)
    (t : UnixMilliseconds) (batch : SynchronizationBatchRow) : Prop where
  updatedAt : batch.updatedAt ≤ t
  due : batch.batchState = .inFlight ∨ batch.readyAt t = true
  attempts : batch.attemptCount < 2 ^ 32 - 1
  version : batch.protocolVersion = DeviceProtocolVersion.current.value
  count : (db.entriesOf batch.batchId).length ≤ maxSynchronizationBatchEntries
  postable : db.Postable codec batch t

/-- At `t` nothing of what the reader holds stands in the way of its delivery to
a backend of the environment. -/
structure ReaderDatabase.Deliverable (codec : Json.Codec) (environmentId : EnvironmentId)
    (t : UnixMilliseconds) (db : ReaderDatabase) : Prop where
  nonneg : 0 ≤ t
  identity : ∀ reader, db.readerState = some reader →
    EnvironmentId.new reader.environmentId = .ok environmentId ∧
      (SoftwareVersion.new reader.softwareVersion).isOk = true ∧
      reader.protocolVersion = DeviceProtocolVersion.current.value
  transactions : ∀ row ∈ db.offlineTransactions, row.queueState.isFinal = false →
    row.Deliverable codec t
  batches : ∀ batch ∈ db.synchronizationBatches, batch.batchState.isOpen = true →
    db.DeliverableBatch codec t batch

/-! ## Progress of the queue -/

/-- The transaction stays as it is, or goes on towards its acknowledgement. -/
def OfflineTransactionRow.Advances (t : UnixMilliseconds) (row row' : OfflineTransactionRow) :
    Prop :=
  row' = row ∨ (row.queueState.isFinal = false ∧ row'.frozen = row.frozen ∧
    (row'.queueState = .acknowledged ∨ (row'.queueState = .inFlight ∧ row'.updatedAt = t)))

/-- Every transaction stays or goes on, and none is added or lost. -/
def ReaderDatabase.Advances (t : UnixMilliseconds) (db db' : ReaderDatabase) : Prop :=
  List.Forall₂ (OfflineTransactionRow.Advances t) db.offlineTransactions db'.offlineTransactions

theorem ReaderDatabase.Advances.of_same (h : db'.offlineTransactions = db.offlineTransactions) :
    db.Advances t db' := by
  unfold ReaderDatabase.Advances
  rw [h]
  exact List.forall₂_same.mpr fun _ _ => .inl rfl

theorem OfflineTransactionRow.Advances.trans {a b c : OfflineTransactionRow}
    (hab : a.Advances t b) (hbc : b.Advances t c) : a.Advances t c := by
  rcases hab with rfl | ⟨hopen, hfrozen, hstate⟩
  · exact hbc
  · rcases hbc with rfl | ⟨-, hfrozen', hstate'⟩
    · exact .inr ⟨hopen, hfrozen, hstate⟩
    · exact .inr ⟨hopen, hfrozen'.trans hfrozen, hstate'⟩

theorem ReaderDatabase.Advances.trans {a b c : ReaderDatabase} (hab : a.Advances t b)
    (hbc : b.Advances t c) : a.Advances t c := by
  have htrans : ∀ {xs ys zs : List OfflineTransactionRow},
      List.Forall₂ (OfflineTransactionRow.Advances t) xs ys →
      List.Forall₂ (OfflineTransactionRow.Advances t) ys zs →
      List.Forall₂ (OfflineTransactionRow.Advances t) xs zs := by
    intro xs ys zs hxy
    induction hxy generalizing zs with
    | nil => exact fun h => h
    | cons hfirst _ ih =>
      rintro (_ | ⟨hnext, hrest⟩)
      exact .cons (hfirst.trans hnext) (ih hrest)
  exact htrans hab hbc

/-- Where a transaction comes from. -/
theorem ReaderDatabase.Advances.origin (h : db.Advances t db') {row' : OfflineTransactionRow}
    (hrow' : row' ∈ db'.offlineTransactions) :
    ∃ row ∈ db.offlineTransactions, row.Advances t row' :=
  exists_of_forall₂ h hrow'

/-- A transaction that waits was not touched. -/
theorem ReaderDatabase.Advances.waiting (h : db.Advances t db') {row' : OfflineTransactionRow}
    (hrow' : row' ∈ db'.offlineTransactions) (hwaiting : row'.queueState.isWaiting = true) :
    row' ∈ db.offlineTransactions := by
  obtain ⟨row, hrow, rfl | ⟨-, -, hstate | ⟨hstate, -⟩⟩⟩ := h.origin hrow'
  · exact hrow
  · rw [hstate] at hwaiting
    cases hwaiting
  · rw [hstate] at hwaiting
    cases hwaiting

/-! ## What stays -/

/-- The assembly for a batch row reads nothing else that changes. -/
theorem Grows.assembleRequest_row (h : Grows db db') (inv : Consistent reader db)
    (inv' : Consistent reader' db') (hbatch : batch ∈ db.synchronizationBatches)
    (row : SynchronizationBatchRow) :
    assembleRequest codec db' reader.readerId batch.batchId row =
      assembleRequest codec db reader.readerId batch.batchId row := by
  obtain ⟨next, hnext, hkept⟩ := h.reader reader inv.queue.bound
  obtain rfl : next = reader' := Option.some.inj (hnext.symm.trans inv'.queue.bound)
  have hid : next.readerId = reader.readerId := congrArg (·.readerId) hkept.frozen
  have hversion : next.protocolVersion = reader.protocolVersion :=
    congrArg (·.protocolVersion) hkept.frozen
  have henvironment : next.environmentId = reader.environmentId :=
    congrArg (·.environmentId) hkept.frozen
  have hsoftware : next.softwareVersion = reader.softwareVersion :=
    congrArg (·.softwareVersion) hkept.frozen
  simp only [assembleRequest, inv.queue.bound, inv'.queue.bound, orFail, ok_bind, hid, hversion,
    henvironment, hsoftware, h.storedEntries inv inv' hid hbatch]

theorem ReaderDatabase.DeliverableBatch.grows (h : db.DeliverableBatch codec t batch)
    (hgrows : Grows db db') (inv : Consistent reader db) (inv' : Consistent reader' db')
    (hbatch : batch ∈ db.synchronizationBatches) : db'.DeliverableBatch codec t batch :=
  { h with
    count := hgrows.entriesOf hbatch ▸ h.count
    postable := by
      intro request hrequest
      rw [inv.batches.owned batch hbatch, hgrows.assembleRequest_row inv inv' hbatch,
        ← inv.batches.owned batch hbatch] at hrequest
      exact h.postable request hrequest }

theorem OfflineTransactionRow.Deliverable.advances {row row' : OfflineTransactionRow}
    (h : row.queueState.isFinal = false → row.Deliverable codec t) (hadvances : row.Advances t row')
    (hopen : row'.queueState.isFinal = false) : row'.Deliverable codec t := by
  rcases hadvances with rfl | ⟨hrow, hfrozen, hstate | ⟨hstate, hupdated⟩⟩
  · exact h hopen
  · rw [hstate] at hopen
    cases hopen
  · refine ⟨hupdated ▸ Int64.le_refl t, fun hwaiting => ?_, ?_⟩
    · rw [hstate] at hwaiting
      cases hwaiting
    · have henvelope : row'.transactionEnvelopeJson = row.transactionEnvelopeJson :=
        congrArg (·.transactionEnvelopeJson) hfrozen
      have haccepted := (h hrow).accepted
      unfold Accepted at haccepted ⊢
      rwa [henvelope]

/-- A step on which the queue goes on leaves the reader deliverable, if the open
batches are. -/
theorem ReaderDatabase.Deliverable.step (h : db.Deliverable codec environmentId t)
    (inv : Consistent reader db) (hgrows : Grows db db') (hadvances : db.Advances t db')
    (hbatches : ∀ batch ∈ db'.synchronizationBatches, batch.batchState.isOpen = true →
      db'.DeliverableBatch codec t batch) : db'.Deliverable codec environmentId t where
  nonneg := h.nonneg
  identity := by
    intro next hnext
    obtain ⟨kept, hbound, hkept⟩ := hgrows.reader reader inv.queue.bound
    obtain rfl : kept = next := Option.some.inj (hbound.symm.trans hnext)
    obtain ⟨henvironment, hsoftware, hversion⟩ := h.identity reader inv.queue.bound
    have hsameEnvironment : kept.environmentId = reader.environmentId :=
      congrArg (·.environmentId) hkept.frozen
    have hsameSoftware : kept.softwareVersion = reader.softwareVersion :=
      congrArg (·.softwareVersion) hkept.frozen
    have hsameVersion : kept.protocolVersion = reader.protocolVersion :=
      congrArg (·.protocolVersion) hkept.frozen
    rw [hsameEnvironment, hsameSoftware, hsameVersion]
    exact ⟨henvironment, hsoftware, hversion⟩
  transactions := by
    intro row' hrow' hopen
    obtain ⟨row, hrow, hrowAdvances⟩ := hadvances.origin hrow'
    exact .advances (h.transactions row hrow) hrowAdvances hopen
  batches := hbatches

/-! ## A restart -/

/-- After a restart no batch is in flight, and all that was deliverable is. -/
theorem Consistent.recover_deliverable (inv : Consistent reader db)
    (h : db.Deliverable codec environmentId t) :
    let db' := Reader.perform codec db (.recoverBatches reader.readerId t)
    db'.offlineTransactions = db.offlineTransactions ∧ db'.Deliverable codec environmentId t ∧
      (∀ batch ∈ db'.synchronizationBatches, batch.batchState ≠ .inFlight) ∧
      db'.synchronizationBatches.map (·.batchId) = db.synchronizationBatches.map (·.batchId) := by
  intro db'
  have hdb : db' = db.recoverBatches reader.readerId t := by
    have heq : recoverInterruptedSynchronizationBatches db reader.readerId t = _ :=
      recoverInterruptedSynchronizationBatches_eq h.nonneg
        fun row hrow => (inv.batches.valid row hrow).check
    exact congrArg Outcome.database heq
  have hgrows : Grows db db' := @grows_run codec db [.recoverBatches reader.readerId t]
  obtain ⟨reader', inv'⟩ : ∃ reader', Consistent reader' db' :=
    inv.perform (.recoverBatches reader.readerId t)
  have horigin : ∀ batch' ∈ db'.synchronizationBatches, ∃ batch ∈ db.synchronizationBatches,
      batch'.batchId = batch.batchId ∧ ((batch' = batch ∧ batch.batchState ≠ .inFlight) ∨
        (batch' = batch.recover t ∧ batch.batchState = .inFlight)) := by
    intro batch' hbatch'
    rw [hdb] at hbatch'
    obtain ⟨batch, hbatch, rfl⟩ := Table.mem_updateWhere.mp hbatch'
    refine ⟨batch, hbatch, ?_⟩
    by_cases hp : (batch.readerId == reader.readerId && batch.inFlightBy t) = true
    · rw [if_pos hp]
      simp only [Bool.and_eq_true, SynchronizationBatchRow.inFlightBy, beq_iff_eq] at hp
      exact ⟨rfl, .inr ⟨rfl, hp.2.1⟩⟩
    · rw [if_neg hp]
      refine ⟨rfl, .inl ⟨rfl, fun hflight => hp ?_⟩⟩
      have hupdated := (h.batches batch hbatch (by rw [hflight]; rfl)).updatedAt
      simp [SynchronizationBatchRow.inFlightBy, inv.batches.owned batch hbatch, hflight, hupdated]
  have hqueue : db'.offlineTransactions = db.offlineTransactions := by
    rw [hdb]
    rfl
  refine ⟨hqueue, h.step inv hgrows (.of_same hqueue) fun batch' hbatch' hopen => ?_,
    fun batch' hbatch' => ?_, ?_⟩
  · obtain ⟨batch, hbatch, -, ⟨rfl, -⟩ | ⟨rfl, hflight⟩⟩ := horigin batch' hbatch'
    · exact (h.batches _ hbatch hopen).grows hgrows inv inv' hbatch
    · have hdeliverable := (h.batches batch hbatch (by rw [hflight]; rfl)).grows hgrows inv inv'
        hbatch
      exact
        { updatedAt := Int64.le_refl t
          due := .inr (decide_eq_true (Int64.le_refl t))
          attempts := hdeliverable.attempts
          version := hdeliverable.version
          count := hdeliverable.count
          postable := hdeliverable.postable }
  · obtain ⟨batch, -, -, ⟨rfl, hstate⟩ | ⟨rfl, -⟩⟩ := horigin batch' hbatch'
    · exact hstate
    · show SynchronizationBatchState.retryableFailure ≠ .inFlight
      decide
  · rw [hdb]
    have hkept : ∀ row : SynchronizationBatchRow, (row.recover t).batchId = row.batchId :=
      fun _ => rfl
    exact Table.map_updateWhere hkept db.synchronizationBatches

/-! ## A submission -/

section Submission

variable (inv : Consistent reader db) (hheld : db.Held) (h : db.Deliverable codec environmentId t)
  (hbatch : batch ∈ db.synchronizationBatches) (hready : batch.readyAt t = true)
include inv hheld h hbatch hready

/-- The transactions of a deliverable batch are in flight, and none was updated
later. -/
theorem Consistent.deliverable_members :
    db.AllInFlight reader.readerId batch.batchId ∧ ∀ row ∈ db.offlineTransactions,
      db.inBatch reader.readerId batch.batchId row = true → row.Deliverable codec t := by
  have hall := inv.allInFlight hheld hbatch (SynchronizationBatchRow.isOpen_of_readyAt hready)
  refine ⟨hall, fun row hrow hmember => h.transactions row hrow ?_⟩
  rw [hall row hrow hmember]
  rfl

theorem Consistent.deliverable_transmissible : db.Transmissible codec batch := by
  obtain ⟨hall, hmembers⟩ := inv.deliverable_members hheld h hbatch hready
  have howner := inv.batches.owned batch hbatch
  have hdeliverable := h.batches batch hbatch (SynchronizationBatchRow.isOpen_of_readyAt hready)
  obtain ⟨henvironment, hsoftware, hversion⟩ := h.identity reader inv.queue.bound
  refine ⟨?_, ?_, ?_, ?_, fun row hrow hmember => ?_⟩
  · rw [inv.queue.bound, Option.any_some, henvironment]
    rfl
  · rw [inv.queue.bound, Option.any_some]
    exact hsoftware
  · rw [inv.queue.bound, Option.any_some, hversion, hdeliverable.version]
    exact beq_self_eq_true _
  · rw [howner, inv.batches.batchEntries_eq]
    exact hdeliverable.count
  · obtain ⟨envelope, henvelope, -⟩ := (hmembers row hrow (howner ▸ hmember)).accepted
    rw [henvelope]
    rfl

/-- A deliverable batch is submitted, and its request is ready to be posted. -/
theorem Consistent.submit_deliverable :
    let db' := db.afterSubmission reader.readerId batch.batchId t
    Reader.perform codec db (.markBatch reader.readerId batch.batchId t) = db' ∧
      Committed codec db (.markBatch reader.readerId batch.batchId t) db' ∧
      db'.synchronizationBatches = db.synchronizationBatches.map (fun row =>
        if row.batchId = batch.batchId then row.submit t else row) ∧
      db.Advances t db' ∧ db'.Timely (batch.submit t) t ∧
      ∃ request, loadSynchronizationBatchRequest codec db' batch.readerId batch.batchId =
          .ok request ∧ checkRequestBody codec request = .ok () ∧
        request.protocolVersion = .current ∧ request.environmentId = environmentId ∧
        ∀ entry ∈ request.entries, ∀ value,
          codec.parse entry.transactionEnvelope.asStr = some value →
            value.storableAsJsonb = true := by
  intro db'
  have hopen := SynchronizationBatchRow.isOpen_of_readyAt hready
  have howner := inv.batches.owned batch hbatch
  have hdeliverable := h.batches batch hbatch hopen
  obtain ⟨hall, hmembers⟩ := inv.deliverable_members hheld h hbatch hready
  have hlate : ∀ row ∈ db.offlineTransactions,
      db.inBatch reader.readerId batch.batchId row = true → row.updatedAt ≤ t :=
    fun row hrow hmember => (hmembers row hrow hmember).updatedAt
  have hselected : (batch.named reader.readerId batch.batchId && batch.updatedAt ≤ t &&
      batch.readyAt t) = true := by
    simp [SynchronizationBatchRow.named, howner, hdeliverable.updatedAt, hready]
  obtain ⟨hcommitted, hmark⟩ := inv.mark_eq codec hbatch hselected
    (inv.count_inFlightEntry hbatch hall hlate)
  have hnamed : ∀ row ∈ db.synchronizationBatches,
      (row.named reader.readerId batch.batchId && row.updatedAt ≤ t && row.readyAt t) = true →
        row.batchId = batch.batchId := by
    intro row _ hp
    simp only [SynchronizationBatchRow.named, Bool.and_eq_true, beq_iff_eq] at hp
    exact hp.1.1.1
  have hbatches : db'.synchronizationBatches = db.synchronizationBatches.map fun row =>
      if row.batchId = batch.batchId then row.submit t else row :=
    Table.updateWhere_eq_map (Table.selects_iff_of_countP inv.batches.ids hnamed
      ((Table.countP_eq_one_iff inv.batches.ids hnamed).mpr ⟨batch, hbatch, hselected⟩))
  obtain ⟨reader', inv', hfrozen⟩ := inv.step hcommitted
  have hid : reader'.readerId = reader.readerId := congrArg (·.readerId) hfrozen
  have hbatch' : batch.submit t ∈ db'.synchronizationBatches := by
    rw [hbatches]
    exact List.mem_map.mpr ⟨batch, hbatch, if_pos rfl⟩
  have htransmissible : db'.Transmissible codec (batch.submit t) :=
    (hcommitted.grows.transmissible_iff inv inv' hbatch hbatch' (.submit hready)).mpr
      (inv.deliverable_transmissible hheld h hbatch hready)
  obtain ⟨request, hload⟩ := (inv'.loads_iff_transmissible hbatch' rfl).mpr htransmissible
  refine ⟨congrArg Outcome.database hmark, hcommitted, hbatches, ?_, ⟨Int64.le_refl t, ?_⟩,
    request, hload, ?_⟩
  · refine Table.forall₂_updateWhere (R := OfflineTransactionRow.Advances t) fun row _ => ?_
    split
    · next hp =>
      simp only [ReaderDatabase.inFlightEntry, OfflineTransactionRow.inFlightBy, Bool.and_eq_true,
        beq_iff_eq] at hp
      exact .inr ⟨by rw [hp.1.2.1]; rfl, rfl, .inr ⟨hp.1.2.1, rfl⟩⟩
    · exact .inl rfl
  · intro row' hrow' hmember
    obtain ⟨row, hrow, rfl⟩ := Table.mem_updateWhere.mp hrow'
    have hsame : db.inBatch reader.readerId batch.batchId row = true := by
      rw [← howner]
      split at hmember <;> exact hmember
    rw [if_pos ((inv.inFlightEntry_eq hall hlate row hrow).trans hsame)]
    exact Int64.le_refl t
  · obtain ⟨found, hfound, -, hassembled⟩ := loadSynchronizationBatchRequest_ok.mp hload
    have hsubmitted : found = batch.submit t := by
      have howner' : (batch.submit t).readerId = reader'.readerId :=
        inv'.batches.owned _ hbatch'
      rw [howner', inv'.batches.findBatch hbatch', Option.some.injEq] at hfound
      exact hfound.symm
    subst hsubmitted
    have hbefore : assembleRequest codec db batch.readerId batch.batchId (batch.submit t) =
        .ok request := by
      rw [howner, ← hcommitted.grows.assembleRequest_row inv inv' hbatch]
      exact howner ▸ hassembled
    obtain ⟨row, hrow, -, hreader, hid, hparts⟩ := assembleRequest_ok.mp hbefore
    refine ⟨hdeliverable.postable request hbefore,
      DeviceProtocolVersion.ext (hparts.batchVersion.trans hdeliverable.version),
      Except.ok.inj (hparts.environment.symm.trans (h.identity row hrow).1),
      fun entry hentry => ?_⟩
    have hentries := hparts.entries
    rw [hreader, hid, howner] at hentries
    obtain ⟨pair, hpair, -, -, henvelope⟩ :=
      exists_of_forall₂ (decodeRequestEntries_ok.mp hentries).2 hentry
    refine (inv.forall_storedEntries_iff (P := fun text => ∀ envelope,
      CanonicalTransactionEnvelope.fromJson codec text = .ok envelope → ∀ value,
        codec.parse envelope.asStr = some value → value.storableAsJsonb = true) hbatch).mpr
      (fun row hrow hmember => ?_) pair hpair _ henvelope
    obtain ⟨accepted, haccepted, hstorable⟩ := (hmembers row hrow hmember).accepted
    rintro envelope henvelope
    obtain rfl := Except.ok.inj (haccepted.symm.trans henvelope)
    exact hstorable

end Submission

/-! ## An acknowledgement -/

/-- The application of an acknowledgement of every entry takes the transactions
of its batch to their end. -/
theorem Settles.advances {acknowledgement : SynchronizationAcknowledgement}
    {appliedAt : UnixMilliseconds} (h : Settles acknowledgement appliedAt db db')
    (hall : ∀ entry ∈ acknowledgement.entries, entry.resolution = .acknowledged)
    (hflight : ∀ row ∈ db.offlineTransactions,
      db.inBatch acknowledgement.readerId acknowledgement.batchId row = true →
        row.queueState = .inFlight) : db.Advances t db' := by
  have hrows := h.transactions
  unfold ReaderDatabase.Advances
  rw [List.forall₂_iff_zip] at hrows ⊢
  refine ⟨hrows.1, fun {row row'} hzip => ?_⟩
  have hrow := (List.of_mem_zip hzip).1
  have hsettled := hrows.2 hzip
  by_cases hmember : db.inBatch acknowledgement.readerId acknowledgement.batchId row = true
  · rw [if_pos hmember] at hsettled
    obtain ⟨entry, hentry, -, rfl⟩ := hsettled
    rw [hall entry hentry]
    exact .inr ⟨by rw [hflight row hrow hmember]; rfl, rfl, .inl rfl⟩
  · rw [if_neg hmember] at hsettled
    exact .inl hsettled

/-! ## A creation -/

/-- The request of a batch of few entries is not too long. -/
theorem Consistent.postable_of_few (inv : Consistent reader db)
    (hfloat : ∀ bits, Json.Printable (codec.formatFloat bits))
    (hbatch : batch ∈ db.synchronizationBatches) (hfew : (db.entriesOf batch.batchId).length ≤ 7) :
    db.Postable codec batch t := by
  intro request hrequest
  obtain ⟨_, -, -, hreader, hid, hparts⟩ := assembleRequest_ok.mp hrequest
  have hentries := hparts.entries
  rw [hreader, hid, inv.batches.owned batch hbatch] at hentries
  refine checkRequestBody_ok.mpr (requestBytes_of_seven hfloat ?_ ?_)
  · intro entry hentry
    obtain ⟨pair, -, -, -, henvelope⟩ :=
      exists_of_forall₂ (decodeRequestEntries_ok.mp hentries).2 hentry
    exact ⟨pair.2, henvelope⟩
  · have hlength := congrArg List.length (inv.request_keys hbatch hentries)
    simp only [List.length_map] at hlength
    omega

theorem OfflineQueueState.not_isFinal_of_isWaiting {state : OfflineQueueState}
    (h : state.isWaiting = true) : state.isFinal = false := by
  cases state <;> first | rfl | cases h

/-- The batch of a creation is fresh in all its columns. -/
theorem Committed.createBatch_row {readerId : ReaderId} {version : DeviceProtocolVersion}
    {limit : Nat} {generated : SynchronizationBatchId}
    (h : Committed codec db (.createBatch readerId version t limit generated) db') :
    ∃ first last,
      preparedBatch readerId version t generated first last ∈ db'.synchronizationBatches := by
  cases h with
  | createBatch => exact ⟨_, _, List.mem_append_right _ (List.mem_singleton_self _)⟩

/-- A creation adds no more entries than its limit. -/
theorem Consistent.create_entriesOf (inv : Consistent reader db) {readerId : ReaderId}
    {version : DeviceProtocolVersion} {limit : Nat} {generated : SynchronizationBatchId}
    (h : Committed codec db (.createBatch readerId version t limit generated) db') :
    (db'.entriesOf generated).length ≤ limit := by
  obtain ⟨added, entries, hcreates, hid, -, hentries⟩ := inv.queue.creates h
  have hold : db.entriesOf generated = [] := by
    refine List.filter_eq_nil_iff.mpr fun entry hentry hp => ?_
    obtain ⟨batch, hbatch, hbatchId⟩ := inv.batches.entryBatch entry hentry
    exact hcreates.fresh batch hbatch (hid.trans ((beq_iff_eq.mp hp).symm.trans hbatchId.symm))
  have hlength : entries.length = (batchCandidates db readerId t limit).length := by
    simpa only [List.length_map] using congrArg List.length hentries
  calc (db'.entriesOf generated).length
      = (db.entriesOf generated ++ entries.filter (·.batchId == generated)).length := by
        rw [ReaderDatabase.entriesOf, hcreates.entries, List.filter_append]
        rfl
    _ ≤ entries.length := by
        rw [hold, List.nil_append]
        exact List.length_filter_le _ _
    _ ≤ limit := hlength.trans_le (List.length_take_le _ _)

/-- A creation takes waiting transactions on, and leaves the others. -/
theorem Consistent.create_advances (inv : Consistent reader db) {readerId : ReaderId}
    {version : DeviceProtocolVersion} {limit : Nat} {generated : SynchronizationBatchId}
    (h : Committed codec db (.createBatch readerId version t limit generated) db') :
    db.Advances t db' := by
  cases h with
  | @createBatch _ _ _ _ _ entries first last transactions candidates head getLast owner check
      fresh reserved =>
    have hids : entries.map (·.transactionId) =
        (batchCandidates db readerId t limit).map (·.fareTransactionId) :=
      map_fst_of_keys candidates
    have hnodup : (entries.map (·.transactionId)).Nodup := by
      rw [hids]
      exact inv.queue.ids.sublist ((inv.queue.batchCandidates_sublist readerId t limit).map _)
    obtain ⟨hfound, rfl⟩ := (reserveTransactions_eq_ok inv.queue.ids hnodup).mp reserved
    unfold ReaderDatabase.Advances
    rw [List.forall₂_map_right_iff]
    refine List.forall₂_same.mpr fun row hrow => ?_
    rcases Table.assignEach_cases (·.fareTransactionId) (·.transactionId)
        (fun _ row => OfflineTransactionRow.reserve t row) entries row with
      ⟨entry, hentry, hid, heq⟩ | ⟨-, heq⟩
    · obtain ⟨found, hmem, hselected, -⟩ := hfound entry hentry
      obtain ⟨hfoundId, -, -, -, heligible⟩ :=
        OfflineTransactionRow.reservableFor_eq_true.mp hselected
      obtain rfl : found = row :=
        Table.eq_of_key_eq inv.queue.ids hmem hrow (hfoundId.trans hid)
      have hwaiting := OfflineTransactionRow.isWaiting_of_eligibleAt heligible
      rw [heq]
      exact .inr ⟨OfflineQueueState.not_isFinal_of_isWaiting hwaiting, rfl, .inr ⟨rfl, rfl⟩⟩
    · rw [heq]
      exact .inl rfl

section Creation

variable (inv : Consistent reader db) (hheld : db.Held) (h : db.Deliverable codec environmentId t)
  (hfloat : ∀ bits, Json.Printable (codec.formatFloat bits))
  {row : OfflineTransactionRow} (hrow : row ∈ db.offlineTransactions)
  (hwaiting : row.queueState.isWaiting = true) {generated : SynchronizationBatchId}
  (hfresh : ∀ batch ∈ db.synchronizationBatches, batch.batchId ≠ generated)
include inv hheld h hfloat hrow hwaiting hfresh

/-- As long as a transaction waits, a deliverable reader creates a batch of one
transaction, which can be delivered as well. -/
theorem Consistent.create_deliverable :
    let db' := Reader.perform codec db (.createBatch reader.readerId .current t 1 generated)
    db.Advances t db' ∧ db'.Deliverable codec environmentId t ∧
      (∃ added, added.batchId = generated ∧ added.batchState = .prepared ∧
        db'.synchronizationBatches = db.synchronizationBatches ++ [added]) ∧
      ∃ taken ∈ db.offlineTransactions, taken.queueState.isWaiting = true ∧
        ∀ row' ∈ db'.offlineTransactions, row'.queueState.isWaiting = true →
          row'.fareTransactionId ≠ taken.fareTransactionId := by
  intro db'
  have hstamps : ∀ row ∈ db.available reader.readerId t, row.updatedAt ≤ t := by
    intro row hrow
    obtain ⟨hqueued, -, heligible, -⟩ := ReaderDatabase.mem_available.mp hrow
    exact (h.transactions row hqueued (OfflineQueueState.not_isFinal_of_isWaiting
      (OfflineTransactionRow.isWaiting_of_eligibleAt heligible))).updatedAt
  have hsome : db.available reader.readerId t ≠ [] := by
    refine List.ne_nil_of_mem (ReaderDatabase.mem_available.mpr
      ⟨hrow, inv.queue.owned row hrow, ?_, ?_⟩)
    · exact (h.transactions row hrow
        (OfflineQueueState.not_isFinal_of_isWaiting hwaiting)).due hwaiting
    · rw [← Bool.not_eq_true]
      intro hmember
      rw [hheld row hrow hmember] at hwaiting
      cases hwaiting
  obtain ⟨created, hcreated, hnonempty⟩ := (inv.creation_iff .current h.nonneg Nat.one_pos hfresh
    hsome).mpr ⟨by decide, fun row hrow => hstamps row (List.mem_of_mem_take hrow)⟩
  have hreserves := inv.queue.creation_reserves hcreated
  have hkeys := createSynchronizationBatch_ok hcreated
  obtain ⟨entry, hentry⟩ := List.exists_mem_of_ne_nil _ hnonempty
  obtain ⟨flying, hflying, hflyingId, hflight⟩ := hreserves entry hentry
  obtain ⟨taken, htaken, htakenKey⟩ := List.mem_map.mp (hkeys ▸ List.mem_map_of_mem hentry)
  obtain ⟨htakenRow, -, heligible, -⟩ := mem_batchCandidates htaken
  have htakenId : taken.fareTransactionId = entry.transactionId := congrArg Prod.fst htakenKey
  have htakenWaiting := OfflineTransactionRow.isWaiting_of_eligibleAt heligible
  obtain ⟨reader', inv'⟩ : ∃ reader', Consistent reader' db' :=
    inv.perform (.createBatch reader.readerId .current t 1 generated)
  have hlast : ∀ row' ∈ db'.offlineTransactions, row'.queueState.isWaiting = true →
      row'.fareTransactionId ≠ taken.fareTransactionId := by
    intro row' hrow' hstill hid
    obtain rfl : row' = flying := Table.eq_of_key_eq inv'.queue.ids hrow' hflying
      (hid.trans (htakenId.trans hflyingId.symm))
    rw [hflight] at hstill
    cases hstill
  rcases perform_committed db
      (.createBatch reader.readerId .current t 1 generated) with hsame | hcommitted
  · -- the transaction that was taken would still wait
    refine absurd rfl (hlast taken ?_ htakenWaiting)
    rw [show db' = db from hsame]
    exact htakenRow
  · have hadvances : db.Advances t db' := inv.create_advances hcommitted
    obtain ⟨added, entries, hcreates, hid, hversion, hentries⟩ := inv.queue.creates hcommitted
    have hbatches : db'.synchronizationBatches = db.synchronizationBatches ++ [added] :=
      hcreates.batches
    refine ⟨hadvances, h.step inv hcommitted.grows hadvances fun batch hbatch hopen => ?_,
      ⟨added, hid, hcreates.prepared, hbatches⟩, taken, htakenRow, htakenWaiting, hlast⟩
    have hmem := hbatch
    rw [hbatches, List.mem_append, List.mem_singleton] at hmem
    rcases hmem with hold | rfl
    · exact (h.batches batch hold hopen).grows hcommitted.grows inv inv' hold
    · obtain ⟨first, last, hprepared⟩ := hcommitted.createBatch_row
      obtain rfl : preparedBatch reader.readerId .current t generated first last = batch :=
        Table.eq_of_key_eq inv'.batches.ids hprepared hbatch hid.symm
      have hcount : (db'.entriesOf generated).length ≤ 1 := inv.create_entriesOf hcommitted
      exact
        { updatedAt := Int64.le_refl t
          due := .inr rfl
          attempts := show 0 < 2 ^ 32 - 1 by decide
          version := rfl
          count := hcount.trans (by decide)
          postable := inv'.postable_of_few hfloat hbatch (hcount.trans (by decide)) }

end Creation

end TransitGuard.Reader
