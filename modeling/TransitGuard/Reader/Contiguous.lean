import Mathlib.Order.Bounds.Basic
import TransitGuard.Reader.Application

/-!
The scan for the contiguous resolved sequence, on the columns as they come out
of SQLite: a signed sequence and a text for the state. It stops at the first gap
and at the first unresolved transaction, and finds the longest resolved run
behind the current mark.
-/

namespace TransitGuard.Reader

/-! ## Stored columns -/

/-- `OfflineQueueState::as_str`. -/
def OfflineQueueState.asStr : OfflineQueueState → String
  | .pending => "pending"
  | .inFlight => "in_flight"
  | .acknowledged => "acknowledged"
  | .retryableFailure => "retryable_failure"
  | .permanentFailure => "permanent_failure"
  | .manualReview => "manual_review"

structure StoredQueueState where
  localSequenceNumber : Int64
  queueState : String
  deriving DecidableEq

/-- The columns that the scan selects. -/
def OfflineTransactionRow.storedQueueState (row : OfflineTransactionRow) : StoredQueueState :=
  ⟨Int64.ofNat row.localSequenceNumber, row.queueState.asStr⟩

/-- `is_resolved_queue_state`. -/
def isResolvedQueueState (queueState : String) : Bool :=
  queueState == "acknowledged" || queueState == "permanent_failure"

theorem isResolvedQueueState_asStr (state : OfflineQueueState) :
    isResolvedQueueState state.asStr = state.isResolved := by
  cases state <;> decide

/-! ## The scan -/

namespace StoredQueueState

/-- `u64::try_from` of the column. -/
def sequence (state : StoredQueueState) : Except ReaderAcknowledgementApplicationError Nat :=
  if state.localSequenceNumber < 0 then .error (.invalidStoredValue "local_sequence_number")
  else .ok state.localSequenceNumber.toInt.toNat

/-- The loop of `contiguous_resolved_sequence`. -/
def contiguousFrom (last expected : Nat) :
    List StoredQueueState → Except ReaderAcknowledgementApplicationError Nat
  | [] => .ok last
  | state :: rest => do
    let sequence ← state.sequence
    if sequence = 0 then .error (.invalidStoredValue "local_sequence_number")
    else if sequence ≠ expected then .ok last
    else if !isResolvedQueueState state.queueState then .ok last
    else if 2 ^ 64 ≤ sequence + 1 then .error (.invalidStoredValue "last_acknowledged_sequence")
    else contiguousFrom sequence (sequence + 1) rest

/-- `contiguous_resolved_sequence`. -/
def contiguousResolvedSequence (current : Nat) (states : List StoredQueueState) :
    Except ReaderAcknowledgementApplicationError Nat :=
  if 2 ^ 64 ≤ current + 1 then .error (.invalidStoredValue "last_acknowledged_sequence")
  else contiguousFrom current (current + 1) states

/-- A sequence stands in the list, acknowledged or permanently failed. -/
def Resolved (states : List StoredQueueState) (sequence : Nat) : Prop :=
  ∃ state ∈ states, state.localSequenceNumber.toInt = sequence ∧
    (state.queueState = "acknowledged" ∨ state.queueState = "permanent_failure")

variable {states : List StoredQueueState} {current last : Nat}

theorem isResolvedQueueState_iff {queueState : String} :
    isResolvedQueueState queueState = true ↔
      queueState = "acknowledged" ∨ queueState = "permanent_failure" := by
  rw [isResolvedQueueState, Bool.or_eq_true, beq_iff_eq, beq_iff_eq]

/-- A positive column is a sequence below 2^63. -/
theorem sequence_eq {state : StoredQueueState}
    (h : (last : Int) < state.localSequenceNumber.toInt) :
    ∃ n, state.sequence = .ok n ∧ state.localSequenceNumber.toInt = n ∧ last < n ∧ n < 2 ^ 63 := by
  have hlt := state.localSequenceNumber.toInt_lt
  have hnonneg : ¬ state.localSequenceNumber < 0 := by
    rw [Int64.lt_iff_toInt_lt, Int64.toInt_zero]
    omega
  refine ⟨state.localSequenceNumber.toInt.toNat, if_neg hnonneg, ?_, ?_, ?_⟩ <;> omega

/-- On rising sequences behind the mark the scan succeeds: everything up to its
result is resolved, and what follows its result is not. -/
theorem contiguousFrom_spec (hincreasing : states.Pairwise fun a b =>
      a.localSequenceNumber < b.localSequenceNumber)
    (hlater : ∀ state ∈ states, (last : Int) < state.localSequenceNumber.toInt) :
    ∃ n, contiguousFrom last (last + 1) states = .ok n ∧ last ≤ n ∧
      (∀ k, last < k → k ≤ n → Resolved states k) ∧ ¬ Resolved states (n + 1) := by
  induction states generalizing last with
  | nil =>
    refine ⟨last, rfl, le_rfl, fun k hlt hle => by omega, ?_⟩
    rintro ⟨state, hmem, -⟩
    cases hmem
  | cons state rest ih =>
    obtain ⟨hrest, hincreasing⟩ := List.pairwise_cons.mp hincreasing
    obtain ⟨sequence, hsequence, hvalue, hlt, hbound⟩ :=
      sequence_eq (hlater state (List.mem_cons_self ..))
    have hbehind : ∀ other ∈ rest, (sequence : Int) < other.localSequenceNumber.toInt := by
      intro other hother
      rw [← hvalue]
      exact Int64.lt_iff_toInt_lt.mp (hrest other hother)
    rw [contiguousFrom, hsequence, Fallible.ok_bind, if_neg (by omega)]
    by_cases hgap : sequence = last + 1
    · rw [if_neg (not_not.mpr hgap)]
      by_cases hresolved : isResolvedQueueState state.queueState = true
      · rw [if_neg (by rw [hresolved]; decide), if_neg (by omega)]
        obtain ⟨n, hscan, hle, hfound, hstop⟩ := ih hincreasing hbehind
        refine ⟨n, hscan, by omega, ?_, ?_⟩
        · intro k hk hkn
          by_cases hhead : k = sequence
          · exact ⟨state, List.mem_cons_self .., by rw [hvalue, hhead],
              isResolvedQueueState_iff.mp hresolved⟩
          · obtain ⟨found, hmem, hk⟩ := hfound k (by omega) hkn
            exact ⟨found, List.mem_cons_of_mem _ hmem, hk⟩
        · rintro ⟨found, hmem, hk, hstate⟩
          rcases List.mem_cons.mp hmem with rfl | hmem
          · omega
          · exact hstop ⟨found, hmem, hk, hstate⟩
      · -- the next sequence is there but not resolved
        rw [if_pos (by rw [Bool.eq_false_iff.mpr hresolved]; rfl)]
        refine ⟨last, rfl, le_rfl, fun k hlt hle => by omega, ?_⟩
        rintro ⟨found, hmem, hk, hstate⟩
        rcases List.mem_cons.mp hmem with rfl | hmem
        · exact hresolved (isResolvedQueueState_iff.mpr hstate)
        · have := hbehind found hmem
          omega
    · -- the next sequence is missing, since later rows are larger still
      rw [if_pos hgap]
      refine ⟨last, rfl, le_rfl, fun k hlt hle => by omega, ?_⟩
      rintro ⟨found, hmem, hk, -⟩
      rcases List.mem_cons.mp hmem with rfl | hmem
      · omega
      · have := hbehind found hmem
        omega

/-- The scan finds the longest resolved run behind the current mark. -/
theorem contiguousResolvedSequence_isGreatest (hcurrent : current < 2 ^ 63)
    (hincreasing : states.Pairwise fun a b => a.localSequenceNumber < b.localSequenceNumber)
    (hlater : ∀ state ∈ states, (current : Int) < state.localSequenceNumber.toInt) :
    ∃ n, contiguousResolvedSequence current states = .ok n ∧
      IsGreatest {n | current ≤ n ∧ ∀ k, current < k → k ≤ n → Resolved states k} n := by
  obtain ⟨n, hscan, hle, hresolved, hstop⟩ := contiguousFrom_spec hincreasing hlater
  refine ⟨n, ?_, ⟨hle, hresolved⟩, ?_⟩
  · rw [contiguousResolvedSequence, if_neg (by omega), hscan]
  · rintro m ⟨-, hm⟩
    by_contra hlarger
    exact hstop (hm (n + 1) (by omega) (by omega))

/-- A gap stops the scan, whatever follows it. -/
theorem contiguousResolvedSequence_isGreatest_gap :
    ∃ n, contiguousResolvedSequence 4
        [⟨5, "acknowledged"⟩, ⟨6, "permanent_failure"⟩, ⟨8, "acknowledged"⟩] = .ok n ∧
      IsGreatest {n | 4 ≤ n ∧ ∀ k, 4 < k → k ≤ n → Resolved
        [⟨5, "acknowledged"⟩, ⟨6, "permanent_failure"⟩, ⟨8, "acknowledged"⟩] k} n :=
  contiguousResolvedSequence_isGreatest (by decide) (by decide) (by decide)

end StoredQueueState

/-! ## The rows of the queue -/

theorem OfflineTransactionRow.toInt_storedQueueState {row : OfflineTransactionRow}
    (h : row.localSequenceNumber ≤ i64Max) :
    row.storedQueueState.localSequenceNumber.toInt = row.localSequenceNumber := by
  unfold i64Max at h
  exact Int64.toInt_ofNat_of_lt (by omega)

/-- The scan over rows is the scan over their stored columns. -/
theorem contiguousFrom_eq {last expected : Nat} {rows : List OfflineTransactionRow}
    (h : ∀ row ∈ rows, row.localSequenceNumber ≤ i64Max) :
    contiguousFrom last expected rows =
      StoredQueueState.contiguousFrom last expected
        (rows.map OfflineTransactionRow.storedQueueState) := by
  induction rows generalizing last expected with
  | nil => rfl
  | cons row rest ih =>
    rw [List.forall_mem_cons] at h
    have hvalue := OfflineTransactionRow.toInt_storedQueueState h.1
    have hsequence : row.storedQueueState.sequence = .ok row.localSequenceNumber := by
      rw [StoredQueueState.sequence, if_neg, hvalue]
      · rfl
      · rw [Int64.lt_iff_toInt_lt, hvalue, Int64.toInt_zero]
        omega
    rw [contiguousFrom, List.map_cons, StoredQueueState.contiguousFrom, hsequence,
      Fallible.ok_bind, ih h.2]
    simp only [OfflineTransactionRow.storedQueueState, isResolvedQueueState_asStr]

theorem contiguousResolvedSequence_eq {current : Nat} {rows : List OfflineTransactionRow}
    (h : ∀ row ∈ rows, row.localSequenceNumber ≤ i64Max) :
    contiguousResolvedSequence current rows =
      StoredQueueState.contiguousResolvedSequence current
        (rows.map OfflineTransactionRow.storedQueueState) := by
  rw [contiguousResolvedSequence, StoredQueueState.contiguousResolvedSequence,
    contiguousFrom_eq h]

/-- A sequence is resolved in the columns when one of the rows resolves it. -/
theorem resolved_storedQueueState_iff {rows : List OfflineTransactionRow}
    (h : ∀ row ∈ rows, row.localSequenceNumber ≤ i64Max) {sequence : Nat} :
    StoredQueueState.Resolved (rows.map OfflineTransactionRow.storedQueueState) sequence ↔
      ∃ row ∈ rows, row.localSequenceNumber = sequence ∧ row.queueState.isResolved = true := by
  simp only [StoredQueueState.Resolved, List.mem_map, exists_exists_and_eq_and,
    ← StoredQueueState.isResolvedQueueState_iff]
  refine exists_congr fun row => and_congr_right fun hrow => ?_
  rw [OfflineTransactionRow.toInt_storedQueueState (h row hrow), Int.natCast_inj,
    ← isResolvedQueueState_asStr]
  rfl

/-- The scan over rows in rising order behind the mark. -/
theorem contiguousResolvedSequence_spec {current advanced : Nat}
    {rows : List OfflineTransactionRow} (hle : ∀ row ∈ rows, row.localSequenceNumber ≤ i64Max)
    (hincreasing : rows.Pairwise fun a b => a.localSequenceNumber < b.localSequenceNumber)
    (hlater : ∀ row ∈ rows, current < row.localSequenceNumber)
    (h : contiguousResolvedSequence current rows = .ok advanced) :
    current ≤ advanced ∧
      (∀ sequence, current < sequence → sequence ≤ advanced → ∃ row ∈ rows,
        row.localSequenceNumber = sequence ∧ row.queueState.isResolved = true) ∧
      ∀ row ∈ rows, row.localSequenceNumber = advanced + 1 →
        row.queueState.isResolved = false := by
  have hvalue : ∀ row ∈ rows, row.storedQueueState.localSequenceNumber.toInt =
      row.localSequenceNumber := fun row hrow =>
    OfflineTransactionRow.toInt_storedQueueState (hle row hrow)
  have hincreasing : (rows.map OfflineTransactionRow.storedQueueState).Pairwise fun a b =>
      a.localSequenceNumber < b.localSequenceNumber := by
    refine List.pairwise_map.mpr (hincreasing.imp_of_mem fun {a b} ha hb hlt => ?_)
    rw [Int64.lt_iff_toInt_lt, hvalue a ha, hvalue b hb]
    exact Int.ofNat_lt.mpr hlt
  have hlater : ∀ state ∈ rows.map OfflineTransactionRow.storedQueueState,
      (current : Int) < state.localSequenceNumber.toInt := by
    rw [List.forall_mem_map]
    intro row hrow
    rw [hvalue row hrow]
    exact Int.ofNat_lt.mpr (hlater row hrow)
  rw [contiguousResolvedSequence_eq hle, StoredQueueState.contiguousResolvedSequence,
    Fallible.ite_error_eq_ok] at h
  obtain ⟨n, hscan, hcurrent, hfound, hstop⟩ :=
    StoredQueueState.contiguousFrom_spec hincreasing hlater
  obtain rfl : n = advanced := Except.ok.inj (hscan.symm.trans h.2)
  refine ⟨hcurrent, fun sequence hlt hsequence => ?_, fun row hrow hnext => ?_⟩
  · exact (resolved_storedQueueState_iff hle).mp (hfound sequence hlt hsequence)
  · rw [← Bool.not_eq_true]
    exact fun hresolved => hstop ((resolved_storedQueueState_iff hle).mpr
      ⟨row, hrow, hnext, hresolved⟩)

end TransitGuard.Reader
