import TransitGuard.Library.Checked
import TransitGuard.Reader.HighWaterMark

/-!
The health snapshot of a reader. One query aggregates four tables, and the
decoding cross-checks what it returns; every check holds in the reachable
databases, and the aggregates are what an operator takes them for before the
reader is taken out of service.
-/

namespace TransitGuard.Reader

open Fallible

variable {codec : Json.Codec} {db : ReaderDatabase} {reader : ReaderStateRow}
  {readerId : ReaderId} {t : UnixMilliseconds}

/-! ## The snapshot -/

/-- `u64::saturating_add`. -/
def saturatingAdd (a b : Nat) : Nat := min (a + b) (2 ^ 64 - 1)

structure ReaderQueueHealthCounts where
  pending : Nat
  inFlight : Nat
  acknowledged : Nat
  retryableFailure : Nat
  permanentFailure : Nat
  manualReview : Nat
  deriving DecidableEq

def ReaderQueueHealthCounts.total (counts : ReaderQueueHealthCounts) : Nat :=
  saturatingAdd (saturatingAdd (saturatingAdd (saturatingAdd (saturatingAdd counts.pending
    counts.inFlight) counts.acknowledged) counts.retryableFailure) counts.permanentFailure)
    counts.manualReview

def ReaderQueueHealthCounts.unresolved (counts : ReaderQueueHealthCounts) : Nat :=
  saturatingAdd (saturatingAdd (saturatingAdd counts.pending counts.inFlight)
    counts.retryableFailure) counts.manualReview

structure ReaderSynchronizationHealthCounts where
  preparedBatches : Nat
  inFlightBatches : Nat
  retryableBatches : Nat
  unappliedAcknowledgements : Nat
  deriving DecidableEq

def ReaderSynchronizationHealthCounts.activeBatches (counts : ReaderSynchronizationHealthCounts) :
    Nat :=
  saturatingAdd (saturatingAdd counts.preparedBatches counts.inFlightBatches)
    counts.retryableBatches

structure ReaderQueueHealthSnapshot where
  readerId : ReaderId
  observedAt : UnixMilliseconds
  nextLocalSequence : Nat
  lastAcknowledgedSequence : Nat
  queueCounts : ReaderQueueHealthCounts
  synchronizationCounts : ReaderSynchronizationHealthCounts
  lowestUnresolvedSequence : Option Nat
  oldestUnresolvedAge : Option Nat
  nextRetryAt : Option UnixMilliseconds
  deriving DecidableEq

/-- `has_pending_work`. -/
def ReaderQueueHealthSnapshot.hasPendingWork (snapshot : ReaderQueueHealthSnapshot) : Bool :=
  0 < snapshot.queueCounts.unresolved || 0 < snapshot.synchronizationCounts.activeBatches ||
    0 < snapshot.synchronizationCounts.unappliedAcknowledgements

/-- `ReaderHealthError`. -/
inductive ReaderHealthError
  | negativeObservationTime (unixMilliseconds : UnixMilliseconds)
  | readerNotFound (readerId : ReaderId)
  | observationBeforeQueueActivity (observedAt storedAt : UnixMilliseconds)
  | invalidStoredValue (field : String)
  deriving DecidableEq

/-! ## The query -/

/-- The row the query returns. `COUNT(*)` is never negative. -/
structure StoredReaderQueueHealth where
  nextLocalSequence : Nat
  lastAcknowledgedSequence : Nat
  pendingCount : Nat
  inFlightCount : Nat
  acknowledgedCount : Nat
  retryableFailureCount : Nat
  permanentFailureCount : Nat
  manualReviewCount : Nat
  preparedBatchCount : Nat
  inFlightBatchCount : Nat
  retryableBatchCount : Nat
  unappliedAcknowledgementCount : Nat
  lowestUnresolvedSequence : Option Nat
  oldestUnresolvedCreatedAt : Option UnixMilliseconds
  nextRetryAt : Option UnixMilliseconds

/-- `queue_state IN ('pending', 'in_flight', 'retryable_failure',
'manual_review')`. -/
def OfflineQueueState.isUnresolved : OfflineQueueState → Bool
  | .pending | .inFlight | .retryableFailure | .manualReview => true
  | .acknowledged | .permanentFailure => false

def ReaderDatabase.countTransactions (db : ReaderDatabase) (readerId : ReaderId)
    (state : OfflineQueueState) : Nat :=
  db.offlineTransactions.countP fun row => row.readerId == readerId && row.queueState == state

def ReaderDatabase.countBatches (db : ReaderDatabase) (readerId : ReaderId)
    (state : SynchronizationBatchState) : Nat :=
  db.synchronizationBatches.countP fun row => row.readerId == readerId && row.batchState == state

def ReaderDatabase.unresolvedTransactions (db : ReaderDatabase) (readerId : ReaderId) :
    List OfflineTransactionRow :=
  db.offlineTransactions.filter fun row => row.readerId == readerId && row.queueState.isUnresolved

/-- `MIN(created_at_unix_milliseconds)` over the unresolved transactions. -/
def ReaderDatabase.oldestUnresolved (db : ReaderDatabase) (readerId : ReaderId) :
    Option UnixMilliseconds :=
  ((db.unresolvedTransactions readerId).map (·.createdAt)).min?

/-- The SELECT of `load_reader_queue_health`, for the reader row it finds. -/
def ReaderDatabase.queueHealth (db : ReaderDatabase) (reader : ReaderStateRow) :
    StoredReaderQueueHealth where
  nextLocalSequence := reader.nextLocalSequence
  lastAcknowledgedSequence := reader.lastAcknowledgedSequence
  pendingCount := db.countTransactions reader.readerId .pending
  inFlightCount := db.countTransactions reader.readerId .inFlight
  acknowledgedCount := db.countTransactions reader.readerId .acknowledged
  retryableFailureCount := db.countTransactions reader.readerId .retryableFailure
  permanentFailureCount := db.countTransactions reader.readerId .permanentFailure
  manualReviewCount := db.countTransactions reader.readerId .manualReview
  preparedBatchCount := db.countBatches reader.readerId .prepared
  inFlightBatchCount := db.countBatches reader.readerId .inFlight
  retryableBatchCount := db.countBatches reader.readerId .retryableFailure
  unappliedAcknowledgementCount := db.synchronizationAcknowledgements.countP fun row =>
    row.readerId == reader.readerId && row.appliedAt.isNone
  lowestUnresolvedSequence :=
    ((db.unresolvedTransactions reader.readerId).map (·.localSequenceNumber)).min?
  oldestUnresolvedCreatedAt := db.oldestUnresolved reader.readerId
  nextRetryAt := ((db.offlineTransactions.filter fun row =>
    row.readerId == reader.readerId && row.queueState == .retryableFailure).filterMap
      (·.nextRetryAt)).min?

/-- `WHERE reader.singleton = 1 AND reader.reader_id = ?`. -/
def storedQueueHealth (db : ReaderDatabase) (readerId : ReaderId) :
    Option StoredReaderQueueHealth :=
  (db.readerState.filter (·.readerId == readerId)).map db.queueHealth

/-! ## Decoding -/

def positiveU64 (value : Nat) (field : String) : Except ReaderHealthError Nat :=
  if value = 0 then .error (.invalidStoredValue field) else .ok value

def optionalPositiveU64 (value : Option Nat) (field : String) :
    Except ReaderHealthError (Option Nat) :=
  match value with
  | some value => (positiveU64 value field).map some
  | none => .ok none

def optionalNonnegativeI64 (value : Option UnixMilliseconds) (field : String) :
    Except ReaderHealthError (Option UnixMilliseconds) :=
  if value.any (· < 0) then .error (.invalidStoredValue field) else .ok value

/-- The age of the oldest unresolved transaction. -/
def oldestUnresolvedAge (observedAt : UnixMilliseconds) :
    Option UnixMilliseconds → Except ReaderHealthError (Option Nat)
  | some createdAt => do
    if observedAt < createdAt then
      .error (.observationBeforeQueueActivity observedAt createdAt)
    if observedAt - createdAt < 0 then
      .error (.invalidStoredValue "oldest_unresolved_age_milliseconds")
    .ok (some (observedAt - createdAt).toNatClampNeg)
  | none => .ok none

def StoredReaderQueueHealth.queueCounts (stored : StoredReaderQueueHealth) :
    ReaderQueueHealthCounts where
  pending := stored.pendingCount
  inFlight := stored.inFlightCount
  acknowledged := stored.acknowledgedCount
  retryableFailure := stored.retryableFailureCount
  permanentFailure := stored.permanentFailureCount
  manualReview := stored.manualReviewCount

def StoredReaderQueueHealth.synchronizationCounts (stored : StoredReaderQueueHealth) :
    ReaderSynchronizationHealthCounts where
  preparedBatches := stored.preparedBatchCount
  inFlightBatches := stored.inFlightBatchCount
  retryableBatches := stored.retryableBatchCount
  unappliedAcknowledgements := stored.unappliedAcknowledgementCount

/-- `decode_health_snapshot`. -/
def decodeHealthSnapshot (readerId : ReaderId) (observedAt : UnixMilliseconds)
    (stored : StoredReaderQueueHealth) : Except ReaderHealthError ReaderQueueHealthSnapshot := do
  let nextLocalSequence ← positiveU64 stored.nextLocalSequence "next_local_sequence"
  if nextLocalSequence ≤ stored.lastAcknowledgedSequence then
    .error (.invalidStoredValue "last_acknowledged_sequence")
  let lowestUnresolvedSequence ←
    optionalPositiveU64 stored.lowestUnresolvedSequence "lowest_unresolved_sequence"
  let oldestCreatedAt ← optionalNonnegativeI64 stored.oldestUnresolvedCreatedAt
    "oldest_unresolved_created_at_unix_milliseconds"
  if lowestUnresolvedSequence.isSome ≠ oldestCreatedAt.isSome then
    .error (.invalidStoredValue "unresolved_queue_metadata")
  let oldestUnresolvedAge ← oldestUnresolvedAge observedAt oldestCreatedAt
  let nextRetryAt ←
    optionalNonnegativeI64 stored.nextRetryAt "next_retry_at_unix_milliseconds"
  .ok { readerId
        observedAt
        nextLocalSequence
        lastAcknowledgedSequence := stored.lastAcknowledgedSequence
        queueCounts := stored.queueCounts
        synchronizationCounts := stored.synchronizationCounts
        lowestUnresolvedSequence
        oldestUnresolvedAge
        nextRetryAt }

/-- `load_reader_queue_health`. -/
def loadReaderQueueHealth (db : ReaderDatabase) (readerId : ReaderId)
    (observedAt : UnixMilliseconds) : Except ReaderHealthError ReaderQueueHealthSnapshot := do
  validateTime .negativeObservationTime observedAt
  let stored ← orFail (.readerNotFound readerId) (storedQueueHealth db readerId)
  decodeHealthSnapshot readerId observedAt stored

theorem saturatingAdd_eq_zero {a b : Nat} : saturatingAdd a b = 0 ↔ a = 0 ∧ b = 0 := by
  unfold saturatingAdd
  omega

/-- The plain sum of the six counts. -/
def ReaderQueueHealthCounts.sum (counts : ReaderQueueHealthCounts) : Nat :=
  counts.pending + counts.inFlight + counts.acknowledged + counts.retryableFailure +
    counts.permanentFailure + counts.manualReview

/-- The sum saturates only where it leaves 64 bits. -/
theorem ReaderQueueHealthCounts.total_eq {counts : ReaderQueueHealthCounts}
    (h : counts.sum < 2 ^ 64) : counts.total = counts.sum := by
  unfold sum at h ⊢
  unfold total saturatingAdd
  omega

/-! ## Checks that hold -/

theorem oldestUnresolvedAge_ok {oldest : Option UnixMilliseconds}
    (h : ∀ createdAt, oldest = some createdAt → 0 ≤ createdAt ∧ createdAt ≤ t) :
    ∃ age, oldestUnresolvedAge t oldest = .ok age := by
  cases oldest with
  | none => exact ⟨none, rfl⟩
  | some createdAt =>
    obtain ⟨hcreated, hle⟩ := h createdAt rfl
    have hage : ¬t - createdAt < 0 := by
      have hdifference := Checked.toInt_sub hcreated hle
      rw [Int64.le_iff_toInt_le] at hle
      rw [Int64.lt_iff_toInt_lt, hdifference, Int64.toInt_zero]
      omega
    rw [oldestUnresolvedAge, if_neg (Int64.not_lt.mpr hle), if_neg hage]
    exact ⟨_, rfl⟩

theorem optionalNonnegativeI64_ok {value : Option UnixMilliseconds} {field : String}
    (h : ∀ v, value = some v → 0 ≤ v) : optionalNonnegativeI64 value field = .ok value := by
  refine if_neg ?_
  rw [Option.any_eq_true]
  rintro ⟨v, hv, hlt⟩
  exact Int64.not_lt.mpr (h v hv) (of_decide_eq_true hlt)

/-- A stored row that passes the checks is copied. -/
theorem decodeHealthSnapshot_ok (readerId : ReaderId) {stored : StoredReaderQueueHealth}
    (hmark : stored.lastAcknowledgedSequence < stored.nextLocalSequence)
    (hlowest : ∀ lowest, stored.lowestUnresolvedSequence = some lowest → 0 < lowest)
    (holdest : ∀ createdAt, stored.oldestUnresolvedCreatedAt = some createdAt →
      0 ≤ createdAt ∧ createdAt ≤ t)
    (hboth : stored.lowestUnresolvedSequence.isSome = stored.oldestUnresolvedCreatedAt.isSome)
    (hretry : ∀ retryAt, stored.nextRetryAt = some retryAt → 0 ≤ retryAt) :
    ∃ snapshot, decodeHealthSnapshot readerId t stored = .ok snapshot ∧
      snapshot.nextLocalSequence = stored.nextLocalSequence ∧
      snapshot.lastAcknowledgedSequence = stored.lastAcknowledgedSequence ∧
      snapshot.queueCounts = stored.queueCounts ∧
      snapshot.synchronizationCounts = stored.synchronizationCounts ∧
      snapshot.lowestUnresolvedSequence = stored.lowestUnresolvedSequence := by
  obtain ⟨age, hage⟩ := oldestUnresolvedAge_ok holdest
  have hpositive : optionalPositiveU64 stored.lowestUnresolvedSequence
      "lowest_unresolved_sequence" = .ok stored.lowestUnresolvedSequence := by
    cases hvalue : stored.lowestUnresolvedSequence with
    | none => rfl
    | some lowest =>
      rw [optionalPositiveU64, positiveU64, if_neg (hlowest lowest hvalue).ne']
      rfl
  have hnext : positiveU64 stored.nextLocalSequence "next_local_sequence" =
      .ok stored.nextLocalSequence := if_neg (Nat.ne_of_gt (Nat.zero_lt_of_lt hmark))
  have hdecoded : decodeHealthSnapshot readerId t stored = .ok
      ⟨readerId, t, stored.nextLocalSequence, stored.lastAcknowledgedSequence, stored.queueCounts,
        stored.synchronizationCounts, stored.lowestUnresolvedSequence, age,
        stored.nextRetryAt⟩ := by
    simp only [decodeHealthSnapshot, bind_eq_ok, guard_eq_ok]
    exact ⟨_, hnext, Nat.not_le.mpr hmark, _, hpositive, _,
      optionalNonnegativeI64_ok fun createdAt h => (holdest createdAt h).1, not_not.mpr hboth, age,
      hage, _, optionalNonnegativeI64_ok hretry, rfl⟩
  exact ⟨_, hdecoded, rfl, rfl, rfl, rfl, rfl⟩

/-! ## Aggregates of a reachable database -/

theorem OfflineQueueState.isUnresolved_eq (state : OfflineQueueState) :
    state.isUnresolved = !state.isResolved := by
  cases state <;> rfl

/-- Every transaction is in one of the six states. -/
theorem sum_countP_queueState (rows : List OfflineTransactionRow) :
    rows.countP (·.queueState == .pending) + rows.countP (·.queueState == .inFlight) +
      rows.countP (·.queueState == .acknowledged) +
      rows.countP (·.queueState == .retryableFailure) +
      rows.countP (·.queueState == .permanentFailure) +
      rows.countP (·.queueState == .manualReview) = rows.length := by
  induction rows with
  | nil => rfl
  | cons row rows ih =>
    simp only [List.countP_cons, List.length_cons]
    cases row.queueState <;> simp <;> omega

theorem QueueInvariant.countTransactions_eq (inv : QueueInvariant reader db)
    (state : OfflineQueueState) :
    db.countTransactions reader.readerId state =
      db.offlineTransactions.countP (·.queueState == state) :=
  List.countP_congr fun row hrow => by rw [inv.owned row hrow, beq_self_eq_true, Bool.true_and]

theorem Consistent.countBatches_eq (inv : Consistent reader db)
    (state : SynchronizationBatchState) :
    db.countBatches reader.readerId state =
      db.synchronizationBatches.countP (·.batchState == state) :=
  List.countP_congr fun row hrow => by
    rw [inv.batches.owned row hrow, beq_self_eq_true, Bool.true_and]

theorem QueueInvariant.mem_unresolved (inv : QueueInvariant reader db)
    {row : OfflineTransactionRow} :
    row ∈ db.unresolvedTransactions reader.readerId ↔
      row ∈ db.offlineTransactions ∧ row.queueState.isResolved = false := by
  simp only [ReaderDatabase.unresolvedTransactions, List.mem_filter, Bool.and_eq_true, beq_iff_eq,
    OfflineQueueState.isUnresolved_eq, Bool.not_eq_true']
  constructor
  · rintro ⟨hrow, -, hstate⟩
    exact ⟨hrow, hstate⟩
  · rintro ⟨hrow, hstate⟩
    exact ⟨hrow, inv.owned row hrow, hstate⟩

theorem QueueInvariant.length_eq (inv : QueueInvariant reader db) :
    db.offlineTransactions.length = reader.nextLocalSequence - 1 := by
  have hlength := congrArg List.length inv.sequences
  rwa [List.length_map, List.length_range'] at hlength

theorem QueueInvariant.storedQueueHealth_eq (inv : QueueInvariant reader db) :
    storedQueueHealth db reader.readerId = some (db.queueHealth reader) := by
  rw [storedQueueHealth, inv.bound, Option.filter_some, if_pos (beq_self_eq_true _),
    Option.map_some]

/-- The counts of the six states add up to the sequences given out. -/
theorem QueueInvariant.sum_counts (inv : QueueInvariant reader db) :
    (db.queueHealth reader).queueCounts.sum = reader.nextLocalSequence - 1 := by
  simp only [ReaderQueueHealthCounts.sum, StoredReaderQueueHealth.queueCounts,
    ReaderDatabase.queueHealth, inv.countTransactions_eq]
  rw [sum_countP_queueState, inv.length_eq]

/-- The times of the queue pass the checks of the decoding. -/
theorem QueueInvariant.oldest_nonneg (inv : QueueInvariant reader db) {createdAt : UnixMilliseconds}
    (h : db.oldestUnresolved reader.readerId = some createdAt) : 0 ≤ createdAt := by
  obtain ⟨row, hrow, rfl⟩ := List.mem_map.mp (List.min?_mem h)
  have hcheck := inv.checks row (inv.mem_unresolved.mp hrow).1
  simp only [OfflineTransactionRow.check, Bool.and_eq_true, decide_eq_true_eq] at hcheck
  exact hcheck.1.2

theorem QueueInvariant.retry_nonneg (inv : QueueInvariant reader db) {retryAt : UnixMilliseconds}
    (h : (db.queueHealth reader).nextRetryAt = some retryAt) : 0 ≤ retryAt := by
  obtain ⟨row, hrow, hretry⟩ := List.mem_filterMap.mp (List.min?_mem h)
  have hcheck := inv.checks row (List.mem_of_mem_filter hrow)
  simp only [OfflineTransactionRow.check, Bool.and_eq_true, hretry, Option.all_some,
    decide_eq_true_eq] at hcheck
  exact hcheck.1.1.2

/-- The lowest unresolved sequence, as the query computes it. -/
theorem QueueInvariant.lowest_eq_some (inv : QueueInvariant reader db) {lowest : Nat} :
    (db.queueHealth reader).lowestUnresolvedSequence = some lowest ↔
      (∃ row ∈ db.offlineTransactions, row.queueState.isResolved = false ∧
        row.localSequenceNumber = lowest) ∧
      ∀ row ∈ db.offlineTransactions, row.queueState.isResolved = false →
        lowest ≤ row.localSequenceNumber := by
  simp only [ReaderDatabase.queueHealth, List.min?_eq_some_iff, List.mem_map, inv.mem_unresolved]
  constructor
  · rintro ⟨⟨row, ⟨hrow, hstate⟩, hsequence⟩, hmin⟩
    exact ⟨⟨row, hrow, hstate, hsequence⟩, fun other hother hopen =>
      hmin _ ⟨other, ⟨hother, hopen⟩, rfl⟩⟩
  · rintro ⟨⟨row, hrow, hstate, hsequence⟩, hmin⟩
    refine ⟨⟨row, ⟨hrow, hstate⟩, hsequence⟩, ?_⟩
    rintro _ ⟨other, ⟨hother, hopen⟩, rfl⟩
    exact hmin other hother hopen

theorem QueueInvariant.lowest_isSome (inv : QueueInvariant reader db) :
    (db.queueHealth reader).lowestUnresolvedSequence.isSome = true ↔
      ∃ row ∈ db.offlineTransactions, row.queueState.isResolved = false := by
  simp only [ReaderDatabase.queueHealth, List.isSome_min?_iff, ne_eq, List.map_eq_nil_iff]
  constructor
  · intro h
    obtain ⟨row, hrow⟩ := List.exists_mem_of_ne_nil _ h
    exact ⟨row, inv.mem_unresolved.mp hrow⟩
  · rintro ⟨row, hrow⟩
    exact List.ne_nil_of_mem (inv.mem_unresolved.mpr hrow)

theorem QueueInvariant.unresolved_eq_zero (inv : QueueInvariant reader db) :
    (db.queueHealth reader).queueCounts.unresolved = 0 ↔
      ∀ row ∈ db.offlineTransactions, row.queueState.isResolved = true := by
  simp only [ReaderQueueHealthCounts.unresolved, saturatingAdd_eq_zero,
    StoredReaderQueueHealth.queueCounts, ReaderDatabase.queueHealth, inv.countTransactions_eq,
    List.countP_eq_zero, beq_iff_eq]
  constructor
  · rintro ⟨⟨⟨hpending, hflight⟩, hretryable⟩, hreview⟩ row hrow
    cases hstate : row.queueState with
    | pending => exact absurd hstate (hpending row hrow)
    | inFlight => exact absurd hstate (hflight row hrow)
    | retryableFailure => exact absurd hstate (hretryable row hrow)
    | manualReview => exact absurd hstate (hreview row hrow)
    | acknowledged | permanentFailure => rfl
  · intro hresolved
    refine ⟨⟨⟨?_, ?_⟩, ?_⟩, ?_⟩ <;> intro row hrow hstate <;>
      exact absurd (hresolved row hrow) (by rw [hstate]; decide)

theorem Consistent.activeBatches_eq_zero (inv : Consistent reader db) :
    (db.queueHealth reader).synchronizationCounts.activeBatches = 0 ↔
      ∀ batch ∈ db.synchronizationBatches, batch.batchState.isOpen = false := by
  simp only [ReaderSynchronizationHealthCounts.activeBatches, saturatingAdd_eq_zero,
    StoredReaderQueueHealth.synchronizationCounts, ReaderDatabase.queueHealth,
    inv.countBatches_eq, List.countP_eq_zero, beq_iff_eq]
  constructor
  · rintro ⟨⟨hprepared, hflight⟩, hretryable⟩ batch hbatch
    cases hstate : batch.batchState with
    | prepared => exact absurd hstate (hprepared batch hbatch)
    | inFlight => exact absurd hstate (hflight batch hbatch)
    | retryableFailure => exact absurd hstate (hretryable batch hbatch)
    | acknowledged | permanentFailure | manualReview => rfl
  · intro hclosed
    refine ⟨⟨?_, ?_⟩, ?_⟩ <;> intro batch hbatch hstate <;>
      exact absurd (hclosed batch hbatch) (by rw [hstate]; decide)

theorem Consistent.unapplied_eq_zero (inv : Consistent reader db) :
    (db.queueHealth reader).synchronizationCounts.unappliedAcknowledgements = 0 ↔
      ∀ acknowledgement ∈ db.synchronizationAcknowledgements,
        acknowledgement.appliedAt.isSome = true := by
  simp only [StoredReaderQueueHealth.synchronizationCounts, ReaderDatabase.queueHealth,
    List.countP_eq_zero]
  refine forall₂_congr fun row hrow => ?_
  rw [inv.acknowledgements.owned row hrow, beq_self_eq_true, Bool.true_and,
    Option.isNone_iff_eq_none, Option.isSome_iff_ne_none]

/-- What a snapshot says about the database it was taken of. -/
structure ReaderQueueHealthSnapshot.Correct (snapshot : ReaderQueueHealthSnapshot)
    (db : ReaderDatabase) (reader : ReaderStateRow) : Prop where
  next : snapshot.nextLocalSequence = reader.nextLocalSequence
  mark : snapshot.lastAcknowledgedSequence = reader.lastAcknowledgedSequence
  sum : snapshot.queueCounts.sum = snapshot.nextLocalSequence - 1
  total : snapshot.queueCounts.total = snapshot.nextLocalSequence - 1
  prepared : snapshot.synchronizationCounts.preparedBatches =
    db.synchronizationBatches.countP (·.batchState == .prepared)
  inFlight : snapshot.synchronizationCounts.inFlightBatches =
    db.synchronizationBatches.countP (·.batchState == .inFlight)
  retryable : snapshot.synchronizationCounts.retryableBatches =
    db.synchronizationBatches.countP (·.batchState == .retryableFailure)
  lowest_isSome : snapshot.lowestUnresolvedSequence.isSome = true ↔
    ∃ row ∈ db.offlineTransactions, row.queueState.isResolved = false
  lowest : ∀ lowest, snapshot.lowestUnresolvedSequence = some lowest →
    (∃ row ∈ db.offlineTransactions, row.queueState.isResolved = false ∧
      row.localSequenceNumber = lowest) ∧
    (∀ row ∈ db.offlineTransactions, row.queueState.isResolved = false →
      lowest ≤ row.localSequenceNumber) ∧
    snapshot.lastAcknowledgedSequence < lowest
  idle : snapshot.hasPendingWork = false ↔
    (∀ row ∈ db.offlineTransactions, row.queueState.isResolved = true) ∧
    (∀ batch ∈ db.synchronizationBatches, batch.batchState.isOpen = false) ∧
    ∀ acknowledgement ∈ db.synchronizationAcknowledgements,
      acknowledgement.appliedAt.isSome = true

/-- What passes the decoding of a reachable database is correct. -/
theorem MarkSound.correct (hdb : MarkSound db) (hreader : db.readerState = some reader)
    {snapshot : ReaderQueueHealthSnapshot}
    (hnext : snapshot.nextLocalSequence = reader.nextLocalSequence)
    (hmark : snapshot.lastAcknowledgedSequence = reader.lastAcknowledgedSequence)
    (hqueue : snapshot.queueCounts = (db.queueHealth reader).queueCounts)
    (hsynchronization :
      snapshot.synchronizationCounts = (db.queueHealth reader).synchronizationCounts)
    (hlowest : snapshot.lowestUnresolvedSequence =
      (db.queueHealth reader).lowestUnresolvedSequence) :
    snapshot.Correct db reader := by
  obtain ⟨reader', inv, hresolved⟩ := hdb
  obtain rfl : reader' = reader := Option.some.inj (inv.queue.bound.symm.trans hreader)
  have hsum : snapshot.queueCounts.sum = snapshot.nextLocalSequence - 1 := by
    rw [hqueue, hnext, inv.queue.sum_counts]
  have hbound : snapshot.queueCounts.sum < 2 ^ 64 := by
    have hle := inv.queue.next_le
    unfold i64Max at hle
    omega
  refine
    { next := hnext
      mark := hmark
      sum := hsum
      total := (ReaderQueueHealthCounts.total_eq hbound).trans hsum
      prepared := by rw [hsynchronization]; exact inv.countBatches_eq .prepared
      inFlight := by rw [hsynchronization]; exact inv.countBatches_eq .inFlight
      retryable := by rw [hsynchronization]; exact inv.countBatches_eq .retryableFailure
      lowest_isSome := by rw [hlowest, inv.queue.lowest_isSome]
      lowest := fun lowest h => ?_
      idle := ?_ }
  · rw [hlowest, inv.queue.lowest_eq_some] at h
    obtain ⟨⟨row, hrow, hopen, rfl⟩, hmin⟩ := h
    refine ⟨⟨row, hrow, hopen, rfl⟩, hmin, ?_⟩
    -- up to the mark everything is resolved
    by_contra hle
    rw [hmark, Nat.not_lt] at hle
    rcases inv.queue.resolved_of_le hresolved hrow hle with hstate | hstate <;>
      rw [hstate] at hopen <;> cases hopen
  · rw [← inv.queue.unresolved_eq_zero, ← inv.activeBatches_eq_zero, ← inv.unapplied_eq_zero,
      ← hqueue, ← hsynchronization]
    simp only [ReaderQueueHealthSnapshot.hasPendingWork, Bool.or_eq_false_iff,
      decide_eq_false_iff_not, Nat.not_lt, Nat.le_zero, and_assoc]

/-- Where a snapshot can be observed: not before the oldest unresolved
transaction was created, and not before the epoch. -/
def ReaderDatabase.ObservableAt (db : ReaderDatabase) (readerId : ReaderId)
    (t : UnixMilliseconds) : Prop :=
  (∀ createdAt, db.oldestUnresolved readerId = some createdAt → createdAt ≤ t) ∧
    (db.oldestUnresolved readerId = none → 0 ≤ t)

theorem QueueInvariant.observable (inv : QueueInvariant reader db)
    (h : db.ObservableAt reader.readerId t) :
    0 ≤ t ∧ ∀ createdAt, db.oldestUnresolved reader.readerId = some createdAt →
      0 ≤ createdAt ∧ createdAt ≤ t := by
  have holdest : ∀ createdAt, db.oldestUnresolved reader.readerId = some createdAt →
      0 ≤ createdAt ∧ createdAt ≤ t :=
    fun createdAt hcreated => ⟨inv.oldest_nonneg hcreated, h.1 createdAt hcreated⟩
  refine ⟨?_, holdest⟩
  cases hcreated : db.oldestUnresolved reader.readerId with
  | none => exact h.2 hcreated
  | some oldest =>
    obtain ⟨hnonneg, hle⟩ := holdest oldest hcreated
    exact Int64.le_trans hnonneg hle

/-- In every reachable database a health snapshot at any later time loads, and
is correct. -/
theorem readerHealth_correct {db₀ : ReaderDatabase} (h : FreshlyBound db₀) (ops : List Operation)
    (hreader : (Runs.run (perform codec) db₀ ops).readerState = some reader)
    (hobservable : (Runs.run (perform codec) db₀ ops).ObservableAt reader.readerId t) :
    ∃ snapshot, loadReaderQueueHealth (Runs.run (perform codec) db₀ ops) reader.readerId t =
        .ok snapshot ∧ snapshot.Correct (Runs.run (perform codec) db₀ ops) reader := by
  obtain ⟨db, hdb⟩ : ∃ db, db = Runs.run (perform codec) db₀ ops := ⟨_, rfl⟩
  have hsound : MarkSound (Runs.run (perform codec) db₀ ops) := h.markSound.run ops
  rw [← hdb] at hreader hobservable hsound ⊢
  obtain ⟨reader', inv, -⟩ := id hsound
  obtain rfl : reader' = reader := Option.some.inj (inv.queue.bound.symm.trans hreader)
  obtain ⟨ht, holdest⟩ := inv.queue.observable hobservable
  have hboth : (db.queueHealth reader').lowestUnresolvedSequence.isSome =
      (db.queueHealth reader').oldestUnresolvedCreatedAt.isSome := by
    rw [Bool.eq_iff_iff]
    simp only [ReaderDatabase.queueHealth, ReaderDatabase.oldestUnresolved, List.isSome_min?_iff,
      ne_eq, List.map_eq_nil_iff]
  have hpositive : ∀ lowest, (db.queueHealth reader').lowestUnresolvedSequence = some lowest →
      0 < lowest := by
    intro lowest hlowest
    obtain ⟨⟨row, hrow, -, rfl⟩, -⟩ := inv.queue.lowest_eq_some.mp hlowest
    exact (inv.queue.sequence_bounds hrow).1
  obtain ⟨snapshot, hdecoded, hnext, hmark, hqueue, hsynchronization, hlowest⟩ :=
    decodeHealthSnapshot_ok reader'.readerId
      (ReaderStateRow.check_acknowledged_lt inv.queue.readerCheck) hpositive holdest hboth
      fun retryAt => inv.queue.retry_nonneg
  refine ⟨snapshot, ?_, hsound.correct hreader hnext hmark hqueue hsynchronization hlowest⟩
  rw [loadReaderQueueHealth, validateTime_ok.mpr ht, inv.queue.storedQueueHealth_eq]
  exact hdecoded

theorem readerHealth_correct_submission :
    ∃ reader snapshot, loadReaderQueueHealth
        (Runs.run (perform sampleCodec) sampleDatabase sampleSubmission) sampleReaderId 5 =
          .ok snapshot ∧
      snapshot.Correct (Runs.run (perform sampleCodec) sampleDatabase sampleSubmission) reader := by
  obtain ⟨reader, hreader, hid⟩ := sampleSubmission_reader
  have hobservable : (Runs.run (perform sampleCodec) sampleDatabase
      sampleSubmission).ObservableAt reader.readerId 5 := by
    have holdest : (Runs.run (perform sampleCodec) sampleDatabase
        sampleSubmission).oldestUnresolved sampleReaderId = some 0 := by decide
    rw [ReaderDatabase.ObservableAt, hid, holdest]
    refine ⟨fun createdAt hcreated => ?_, fun hnone => ?_⟩
    · cases hcreated
      decide
    · cases hnone
  obtain ⟨snapshot, hload, hcorrect⟩ :=
    readerHealth_correct sampleDatabase_freshlyBound sampleSubmission hreader hobservable
  rw [hid] at hload
  exact ⟨reader, snapshot, hload, hcorrect⟩

end TransitGuard.Reader
