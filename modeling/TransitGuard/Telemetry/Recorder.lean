import TransitGuard.Library.Counters
import TransitGuard.Protocol.Synchronization

/-!
The telemetry recorder: totals, four counters for the outcomes of entries and
fifteen for the categories of failures, in two arrays. Recording is a fixed
sequence of atomic increments, and the recorders of all handlers share the
counters.
-/

namespace TransitGuard.Telemetry

open Protocol Counters

/-- `outcome_index`. -/
def outcomeIndex : EntryOutcome → Fin 4
  | .acknowledged => 0
  | .retryableFailure => 1
  | .permanentFailure => 2
  | .manualReview => 3

/-- `failure_index`. -/
def failureIndex : FailureCategory → Fin 15
  | .networkTimeout => 0
  | .connectionFailure => 1
  | .responseDecodeFailure => 2
  | .payloadTooLarge => 3
  | .unsupportedProtocol => 4
  | .readerNotRegistered => 5
  | .readerNotOperational => 6
  | .environmentMismatch => 7
  | .batchIdentityConflict => 8
  | .batchRangeMismatch => 9
  | .entryOrderMismatch => 10
  | .transactionIdentityConflict => 11
  | .backendTemporarilyUnavailable => 12
  | .backendValidationFailure => 13
  | .manualReviewRequired => 14

/-- `SynchronizationTelemetryInner`. -/
structure Inner where
  requestsTotal : UInt64
  acknowledgementsTotal : UInt64
  entriesTotal : UInt64
  requestFailuresTotal : UInt64
  outcomeCounts : Vector UInt64 4
  failureCounts : Vector UInt64 15

/-- `SynchronizationTelemetryInner::default`. -/
def Inner.default : Inner := ⟨0, 0, 0, 0, .replicate 4 0, .replicate 15 0⟩

/-- One of the counters, by what it counts. -/
inductive Counter
  | requestsTotal
  | acknowledgementsTotal
  | entriesTotal
  | requestFailuresTotal
  | outcome (outcome : EntryOutcome)
  | failure (category : FailureCategory)
  deriving DecidableEq

/-- `load`. -/
def Inner.load (inner : Inner) : Counter → UInt64
  | .requestsTotal => inner.requestsTotal
  | .acknowledgementsTotal => inner.acknowledgementsTotal
  | .entriesTotal => inner.entriesTotal
  | .requestFailuresTotal => inner.requestFailuresTotal
  | .outcome outcome => inner.outcomeCounts[outcomeIndex outcome]
  | .failure category => inner.failureCounts[failureIndex category]

/-- `increment`. -/
def Inner.increment (inner : Inner) : Counter → Inner
  | .requestsTotal => { inner with requestsTotal := inner.requestsTotal + 1 }
  | .acknowledgementsTotal =>
    { inner with acknowledgementsTotal := inner.acknowledgementsTotal + 1 }
  | .entriesTotal => { inner with entriesTotal := inner.entriesTotal + 1 }
  | .requestFailuresTotal => { inner with requestFailuresTotal := inner.requestFailuresTotal + 1 }
  | .outcome outcome =>
    { inner with
      outcomeCounts := inner.outcomeCounts.set (outcomeIndex outcome)
        (inner.outcomeCounts[outcomeIndex outcome] + 1) }
  | .failure category =>
    { inner with
      failureCounts := inner.failureCounts.set (failureIndex category)
        (inner.failureCounts[failureIndex category] + 1) }

/-! ## What is recorded -/

/-- `record_request_started`. -/
def recordRequestStarted : List Counter := [.requestsTotal]

/-- `record_entry_outcome`. -/
def recordEntryOutcome (outcome : EntryOutcome) : List Counter := [.entriesTotal, .outcome outcome]

/-- `record_acknowledgement`. -/
def recordAcknowledgement (acknowledgement : Acknowledgement) : List Counter :=
  .acknowledgementsTotal ::
    acknowledgement.entries.flatMap fun entry => recordEntryOutcome entry.outcome

/-- `record_request_failure`. -/
def recordRequestFailure (category : FailureCategory) : List Counter :=
  [.requestFailuresTotal, .failure category]

/-! ## The arrays hold one counter for each name -/

theorem outcomeIndex_injective {o p : EntryOutcome} (h : outcomeIndex o = outcomeIndex p) :
    o = p := by
  cases o <;> cases p <;> first | rfl | exact absurd h (by decide)

theorem failureIndex_injective {c d : FailureCategory} (h : failureIndex c = failureIndex d) :
    c = d := by
  have hinverse : ∀ c : FailureCategory,
      [FailureCategory.networkTimeout, .connectionFailure, .responseDecodeFailure,
        .payloadTooLarge, .unsupportedProtocol, .readerNotRegistered, .readerNotOperational,
        .environmentMismatch, .batchIdentityConflict, .batchRangeMismatch, .entryOrderMismatch,
        .transactionIdentityConflict, .backendTemporarilyUnavailable, .backendValidationFailure,
        .manualReviewRequired][(failureIndex c).val]? = some c := by
    intro c
    cases c <;> rfl
  have hc := hinverse c
  rw [h, hinverse d] at hc
  exact (Option.some.inj hc).symm

theorem load_increment (inner : Inner) (c d : Counter) :
    (inner.increment c).load d = bump inner.load c d := by
  unfold bump
  cases c with
  | outcome o =>
    cases d with
    | outcome p =>
      by_cases h : o = p
      · simp [Inner.increment, Inner.load, h]
      · have hne : (outcomeIndex o).val ≠ (outcomeIndex p).val := fun heq =>
          h (outcomeIndex_injective (Fin.ext heq))
        simp [Inner.increment, Inner.load, Vector.getElem_set_ne, hne, Ne.symm h]
    | _ => rfl
  | failure c =>
    cases d with
    | failure d =>
      by_cases h : c = d
      · simp [Inner.increment, Inner.load, h]
      · have hne : (failureIndex c).val ≠ (failureIndex d).val := fun heq =>
          h (failureIndex_injective (Fin.ext heq))
        simp [Inner.increment, Inner.load, Vector.getElem_set_ne, hne, Ne.symm h]
    | _ => rfl
  | requestsTotal => cases d <;> rfl
  | acknowledgementsTotal => cases d <;> rfl
  | entriesTotal => cases d <;> rfl
  | requestFailuresTotal => cases d <;> rfl

/-- The arrays follow the counters through any sequence of increments. -/
theorem load_foldl (inner : Inner) (counters : List Counter) :
    (counters.foldl Inner.increment inner).load = counters.foldl bump inner.load := by
  induction counters generalizing inner with
  | nil => rfl
  | cons c counters ih =>
    rw [List.foldl_cons, List.foldl_cons, ih, show (inner.increment c).load = bump inner.load c from
      funext (load_increment inner c)]

theorem load_default : Inner.default.load = fun _ => 0 := by
  funext c
  cases c <;> simp [Inner.default, Inner.load]

end TransitGuard.Telemetry
