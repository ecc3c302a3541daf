import TransitGuard.Domain.Decoding
import TransitGuard.Reader.InFlight

/-!
The two definitions of ready work. One loads the whole queue and filters it in
memory by state and retry time, the other selects the candidates of a batch and
asks, for every transaction, for an open batch that holds it. They agree where
every transaction of an open batch is in flight.
-/

namespace TransitGuard.Reader

open Fallible

section Loading

variable (codec : Json.Codec) (read : String → Option Json.Value)

/-- `decode_stored_transaction`. The decision is read as its own type, the
envelope as a JSON value. -/
def decodeStoredTransaction (stored : OfflineTransactionRow) :
    Except ReaderQueueError QueuedOfflineTransaction := do
  let localSequenceNumber ←
    decodeSequence (.invalidStoredValue "local_sequence_number") stored.localSequenceNumber
  let eventTime ← orFail (.invalidStoredValue "event_time_unix_milliseconds")
    (EventTime.fromUnixMilliseconds stored.eventTime)
  let farePolicyVersion ← orFail (.invalidStoredValue "fare_policy_version")
    (FarePolicyVersion.new stored.farePolicyVersion)
  let provisionalDecision ← orFail (.serialization "provisional_decision")
    ((read stored.provisionalDecisionJson).bind FareDecision.fromJson)
  let transactionEnvelope ← orFail (.serialization "transaction_envelope")
    (codec.parse stored.transactionEnvelopeJson)
  if 2 ^ 32 ≤ stored.attemptCount then .error (.invalidStoredValue "attempt_count")
  if stored.nextRetryAt.any (· < 0) then
    .error (.invalidStoredValue "next_retry_at_unix_milliseconds")
  if stored.createdAt < 0 then .error (.invalidStoredValue "created_at_unix_milliseconds")
  if stored.updatedAt < stored.createdAt then
    .error (.invalidStoredValue "updated_at_unix_milliseconds")
  .ok { transactionId := stored.fareTransactionId
        readerId := stored.readerId
        localSequenceNumber
        fareCredentialId := stored.fareCredentialId
        eventTime
        farePolicyVersion
        provisionalDecision
        transactionEnvelope
        queueState := stored.queueState
        attemptCount := stored.attemptCount
        nextRetryAt := stored.nextRetryAt
        lastFailureCategory := stored.lastFailureCategory
        createdAt := stored.createdAt
        updatedAt := stored.updatedAt }

/-- `load_offline_queue`. -/
def loadOfflineQueue (db : ReaderDatabase) (readerId : ReaderId) :
    Except ReaderQueueError (List QueuedOfflineTransaction) :=
  (Table.orderBy (·.localSequenceNumber) (db.offlineTransactions.filter fun row =>
    row.readerId == readerId)).mapM (decodeStoredTransaction codec read)

/-- `is_ready`. -/
def QueuedOfflineTransaction.isReady (transaction : QueuedOfflineTransaction)
    (now : UnixMilliseconds) : Bool :=
  match transaction.queueState with
  | .pending => true
  | .retryableFailure => transaction.nextRetryAt.all (· ≤ now)
  | .inFlight | .acknowledged | .permanentFailure | .manualReview => false

/-- `load_ready_offline_transactions`. -/
def loadReadyOfflineTransactions (db : ReaderDatabase) (readerId : ReaderId)
    (now : UnixMilliseconds) (limit : Nat) :
    Except ReaderQueueStateError (List QueuedOfflineTransaction) := do
  validateTime .negativeOperationTime now
  if limit = 0 then .error .zeroReadLimit
  let queue ← (loadOfflineQueue codec read db readerId).mapError .queue
  .ok ((queue.filter (·.isReady now)).take limit)

end Loading

variable {codec : Json.Codec} {read : String → Option Json.Value} {db : ReaderDatabase}
  {reader : ReaderStateRow} {readerId : ReaderId} {t : UnixMilliseconds} {limit : Nat}

/-! ## Selected rows -/

def QueuedOfflineTransaction.key (transaction : QueuedOfflineTransaction) :
    FareTransactionId × Nat :=
  (transaction.transactionId, transaction.localSequenceNumber.value)

/-- A decoded transaction is ready where its row is eligible. -/
theorem decodeStoredTransaction_ok {row : OfflineTransactionRow}
    {transaction : QueuedOfflineTransaction}
    (h : decodeStoredTransaction codec read row = .ok transaction) (t : UnixMilliseconds) :
    (transaction.key, transaction.isReady t) = (row.key, row.eligibleAt t) := by
  simp only [decodeStoredTransaction, bind_eq_ok, decodeSequence_ok, orFail_eq_ok, guard_eq_ok,
    Except.ok.injEq] at h
  obtain ⟨sequence, hsequence, _, -, _, -, _, -, _, -, -, -, -, -, rfl⟩ := h
  rw [Prod.mk.injEq, OfflineTransactionRow.key, ← hsequence]
  refine ⟨rfl, ?_⟩
  unfold QueuedOfflineTransaction.isReady OfflineTransactionRow.eligibleAt
  cases row.queueState <;> rfl

/-- The work waiting at `t`: the eligible transactions in the order of the
queue. -/
def ReaderDatabase.eligible (db : ReaderDatabase) (readerId : ReaderId) (t : UnixMilliseconds) :
    List OfflineTransactionRow :=
  db.offlineTransactions.filter fun row => row.readerId == readerId && row.eligibleAt t

/-- The queue stands in the order of its sequences. -/
theorem QueueInvariant.orderBy_filter (inv : QueueInvariant reader db)
    (p : OfflineTransactionRow → Bool) :
    Table.orderBy (·.localSequenceNumber) (db.offlineTransactions.filter p) =
      db.offlineTransactions.filter p := by
  refine Table.orderBy_of_sorted ?_
  have hsorted : (db.offlineTransactions.map (·.localSequenceNumber)).Pairwise (· ≤ ·) := by
    rw [inv.sequences]
    exact List.pairwise_le_range'
  exact hsorted.sublist (List.filter_sublist.map _)

theorem QueueInvariant.loadReady (inv : QueueInvariant reader db)
    {ready : List QueuedOfflineTransaction}
    (h : loadReadyOfflineTransactions codec read db readerId t limit = .ok ready) :
    ready.map (·.key) = ((db.eligible readerId t).take limit).map (·.key) := by
  simp only [loadReadyOfflineTransactions, bind_eq_ok, guard_eq_ok, mapError_eq_ok,
    loadOfflineQueue, mapM_eq_ok, inv.orderBy_filter, Except.ok.injEq] at h
  obtain ⟨-, -, -, queue, hqueue, rfl⟩ := h
  have hpairs : queue.map (fun transaction => (transaction.key, transaction.isReady t)) =
      (db.offlineTransactions.filter fun row => row.readerId == readerId).map
        fun row => (row.key, row.eligibleAt t) :=
    map_eq_of_forall₂ hqueue fun h => decodeStoredTransaction_ok h t
  have hready : (queue.filter (·.isReady t)).map (·.key) =
      (db.eligible readerId t).map (·.key) := by
    have hselected := congrArg (fun pairs => (pairs.filter Prod.snd).map Prod.fst) hpairs
    simp only [List.filter_map, List.map_map, List.filter_filter] at hselected
    rw [ReaderDatabase.eligible]
    simp only [Bool.and_comm (_ == readerId)]
    exact hselected
  rw [List.map_take, List.map_take, hready]

/-- Outside the members of open batches nothing distinguishes the candidates
from the ready work. -/
theorem QueueInvariant.batchCandidates_eq (inv : QueueInvariant reader db) (hheld : db.Held)
    (readerId : ReaderId) (t : UnixMilliseconds) (limit : Nat) :
    batchCandidates db readerId t limit = (db.eligible readerId t).take limit := by
  rw [batchCandidates, inv.orderBy_filter]
  congr 1
  refine List.filter_congr fun row hrow => ?_
  cases hopen : db.inOpenBatch row with
  | false => rw [Bool.not_false, Bool.and_true]
  | true =>
    have hflight := hheld row hrow hopen
    rw [OfflineTransactionRow.eligibleAt, hflight, Bool.and_false, Bool.false_and]

/-! ## Creation -/

theorem createSynchronizationBatch_ok {version : DeviceProtocolVersion}
    {generated : SynchronizationBatchId} {batch : SynchronizationBatch}
    (h : (createSynchronizationBatch db readerId version t limit generated).result = .ok batch) :
    batch.entries.map (·.key) = (batchCandidates db readerId t limit).map (·.key) := by
  obtain ⟨db', hbody, -⟩ := transact_of_ok h
  simp only [bind_eq_ok, guard_eq_ok, mapM_eq_ok, decodeCandidate_ok] at hbody
  obtain ⟨-, -, -, -, -, entries, hentries, hbody⟩ := hbody
  split at hbody
  · simp only [bind_eq_ok, guard_eq_ok, Except.ok.injEq, Prod.mk.injEq] at hbody
    obtain ⟨-, _, -, _, -, rfl, -⟩ := hbody
    exact map_eq_of_forall₂ hentries fun h => h
  · cases hbody

theorem reserveEntries_error {batchId : SynchronizationBatchId} {position : Nat}
    {entries : List SynchronizationBatchEntry} :
    reserveEntries readerId batchId t position entries db ≠
      .error (.noEligibleTransactions readerId) := by
  induction entries generalizing position db with
  | nil =>
    intro h
    cases h
  | cons entry entries ih =>
    intro h
    rw [reserveEntries, guard_eq_error] at h
    rcases h with ⟨-, h⟩ | ⟨-, h⟩
    · cases h
    rw [guard_eq_error] at h
    rcases h with ⟨-, h⟩ | ⟨-, h⟩
    · cases h
    rw [bind_eq_error, orFail_eq_error] at h
    rcases h with ⟨-, h⟩ | ⟨⟨transactions, affected⟩, -, h⟩
    · cases h
    rw [guard_eq_error] at h
    rcases h with ⟨-, h⟩ | ⟨-, h⟩
    · cases h
    rw [bind_eq_error, mapError_eq_error] at h
    rcases h with ⟨_, -, h⟩ | ⟨inserted, -, h⟩
    · cases h
    · exact ih h

/-- Creation finds nothing to do exactly when there is no candidate. -/
theorem createSynchronizationBatch_none {version : DeviceProtocolVersion}
    {generated : SynchronizationBatchId} (ht : 0 ≤ t) (hpos : 0 < limit) (hlimit : limit ≤ i64Max) :
    (createSynchronizationBatch db readerId version t limit generated).result =
        .error (.noEligibleTransactions readerId) ↔ batchCandidates db readerId t limit = [] := by
  rw [createSynchronizationBatch, transact_eq_error, validateTime_ok.mpr ht, ok_bind,
    if_neg (Nat.ne_of_gt hpos), if_neg (Nat.not_lt.mpr hlimit), ← List.isEmpty_iff]
  constructor
  · intro h
    rw [guard_eq_error] at h
    rcases h with ⟨hempty, -⟩ | ⟨-, h⟩
    · exact hempty
    exfalso
    rcases bind_eq_error.mp h with h | ⟨entries, -, h⟩
    · obtain ⟨row, -, hrow⟩ := exists_of_mapM_error h
      rcases bind_eq_error.mp hrow with hrow | ⟨sequence, -, hrow⟩
      · cases (orFail_eq_error.mp hrow).2
      · cases hrow
    split at h
    · rw [guard_eq_error] at h
      rcases h with ⟨-, h⟩ | ⟨-, h⟩
      · cases h
      rw [bind_eq_error, mapError_eq_error] at h
      rcases h with ⟨_, -, h⟩ | ⟨inserted, -, h⟩
      · cases h
      rcases bind_eq_error.mp h with h | ⟨reserved, -, h⟩
      · exact reserveEntries_error h
      · cases h
    · cases h
  · intro hempty
    rw [if_pos hempty]
    rfl

theorem map_pair_injective :
    Function.Injective fun pair : FareTransactionId × LocalSequenceNumber =>
      (pair.1, pair.2.value) := by
  rintro ⟨id, sequence⟩ ⟨id', sequence'⟩ h
  rw [Prod.mk.injEq] at h ⊢
  exact ⟨h.1, LocalSequenceNumber.ext h.2⟩

/-- The two definitions of ready work agree in every database reached without
the operations on single transactions: a batch holds what the load returned,
and none is created exactly when that is nothing. -/
theorem readyWork_agrees {db₀ : ReaderDatabase} (h : FreshlyBound db₀) {ops : List Operation}
    (hops : ∀ op ∈ ops, op.onTransaction = false) {ready : List QueuedOfflineTransaction}
    (ht : 0 ≤ t) (hpos : 0 < limit)
    (hready : loadReadyOfflineTransactions codec read (Runs.run (perform codec) db₀ ops) readerId t
      limit = .ok ready) (version : DeviceProtocolVersion) (generated : SynchronizationBatchId) :
    let created := createSynchronizationBatch (Runs.run (perform codec) db₀ ops) readerId version t
      limit generated
    (∀ batch, created.result = .ok batch →
      batch.entries.map (fun entry => (entry.transactionId, entry.localSequenceNumber)) =
        ready.map fun transaction =>
          (transaction.transactionId, transaction.localSequenceNumber)) ∧
    (limit ≤ i64Max →
      (created.result = .error (.noEligibleTransactions readerId) ↔ ready = [])) := by
  intro created
  obtain ⟨reader, inv⟩ : ∃ reader, Consistent reader (Runs.run (perform codec) db₀ ops) :=
    consistent_run h ops
  have hspares : Runs.StepsMeet (perform codec) (fun db op => op.sparesOpenBatches db = true)
      db₀ ops :=
    Runs.stepsMeet_mono (fun _ _ => Operation.sparesOpenBatches_of_not_onTransaction)
      (Runs.stepsMeet_of_forall _ _ hops)
  have hkeys := inv.queue.loadReady hready
  rw [← inv.queue.batchCandidates_eq (held_run h hspares) readerId t limit] at hkeys
  refine ⟨fun batch hbatch => ?_, fun hlimit => ?_⟩
  · have hsame := (createSynchronizationBatch_ok hbatch).trans hkeys.symm
    apply List.map_injective_iff.mpr map_pair_injective
    rw [List.map_map, List.map_map]
    exact hsame
  · rw [createSynchronizationBatch_none ht hpos hlimit, ← List.map_eq_nil_iff, ← hkeys,
      List.map_eq_nil_iff]

/-- A limit above `i64::MAX` is refused before anything is selected. -/
theorem readyWork_limit_tooLarge :
    FreshlyBound sampleDatabase ∧
      loadReadyOfflineTransactions sampleCodec sampleCodec.parse sampleDatabase sampleReaderId 0
        (i64Max + 1) = .ok [] ∧
      (createSynchronizationBatch sampleDatabase sampleReaderId .current 0 (i64Max + 1)
        sampleBatchId).result ≠ .error (.noEligibleTransactions sampleReaderId) := by
  refine ⟨sampleDatabase_freshlyBound, rfl, ?_⟩
  have hrefused : (createSynchronizationBatch sampleDatabase sampleReaderId .current 0 (i64Max + 1)
      sampleBatchId).result = .error (.batchLimitTooLarge (i64Max + 1)) := rfl
  rw [hrefused]
  exact nofun

/-- The reader on the decision of the sample draft. -/
def sampleDecisionRead (text : String) : Option Json.Value :=
  if text = (FareDecision.rejected .stalePolicy).toJson.render sampleCodec then
    some (FareDecision.rejected .stalePolicy).toJson
  else none

def sampleQueued : List Operation := [.enqueue sampleReaderId (sampleDraft (.object []))]

theorem readyWork_agrees_queued :
    ∃ ready, loadReadyOfflineTransactions sampleCodec sampleDecisionRead
        (Runs.run (perform sampleCodec) sampleDatabase sampleQueued) sampleReaderId 1 10 =
          .ok ready ∧
      ((createSynchronizationBatch (Runs.run (perform sampleCodec) sampleDatabase sampleQueued)
        sampleReaderId .current 1 10 sampleBatchId).result =
          .error (.noEligibleTransactions sampleReaderId) ↔ ready = []) := by
  obtain ⟨ready, hready⟩ : ∃ ready, loadReadyOfflineTransactions sampleCodec sampleDecisionRead
      (Runs.run (perform sampleCodec) sampleDatabase sampleQueued) sampleReaderId 1 10 =
        .ok ready := isOk_iff.mp (by decide)
  exact ⟨ready, hready, (readyWork_agrees sampleDatabase_freshlyBound (by decide) (by decide)
    (by decide) hready .current sampleBatchId).2 (by decide)⟩

end TransitGuard.Reader
