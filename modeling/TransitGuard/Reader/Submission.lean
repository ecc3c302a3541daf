import TransitGuard.Reader.Operation

/-!
The submission of an in-flight batch: the HTTP client that sends the request
and reads the answer, and the durable policy for its failures. A failure is
retried, left to an operator, or final, and which of these it is depends on its
category alone.
-/

namespace TransitGuard.Reader

open Protocol Text Json

/-! ## The HTTP client -/

/-- `SynchronizationHttpClientError`, the variants a submission ends with when
the answer is one of the backend's. -/
inductive HttpClientError
  | requestTooLarge (maximumBytes actualBytes : Nat)
  | request (category : FailureCategory)
  | httpStatus (category : FailureCategory)
  | responseRead (category : FailureCategory)
  | responseTooLarge (maximumBytes actualBytes : Nat)
  | invalidAcknowledgement (source : ProtocolError)
  deriving DecidableEq

/-- `SynchronizationHttpClientError::failure_category`. -/
def HttpClientError.failureCategory : HttpClientError → FailureCategory
  | .requestTooLarge .. | .responseTooLarge .. => .payloadTooLarge
  | .request category | .httpStatus category | .responseRead category => category
  | .invalidAcknowledgement _ => .responseDecodeFailure

/-- What the network does to an exchange that ends without a readable answer. -/
inductive NetworkFailure
  | requestTimeout
  | connection
  | responseTimeout
  | interruptedResponse
  deriving DecidableEq, Repr

/-- `request_failure_category` and `response_failure_category`. -/
def NetworkFailure.error : NetworkFailure → HttpClientError
  | .requestTimeout => .request .networkTimeout
  | .connection => .request .connectionFailure
  | .responseTimeout => .responseRead .networkTimeout
  | .interruptedResponse => .responseRead .responseDecodeFailure

variable (codec : Codec)

/-- The first half of `SynchronizationHttpClient::submit`: the body is sent
unless it is too long. -/
def checkRequestBody (request : Request) : Except HttpClientError Unit :=
  let body := byteLength (request.toJson.render codec)
  if maxSynchronizationRequestBytes < body then
    .error (.requestTooLarge maxSynchronizationRequestBytes body)
  else .ok ()

/-- The second half of `SynchronizationHttpClient::submit`, on an answer of the
backend. The error bodies of the backend are a few short constants, well below
the limit. -/
def receiveResponse (request : Request) :
    Except FailureCategory Acknowledgement → Except HttpClientError Acknowledgement
  | .error category => .error (.httpStatus category)
  | .ok acknowledgement =>
    let body := byteLength (acknowledgement.toJson.render codec)
    if maxSynchronizationAcknowledgementBytes < body then
      .error (.responseTooLarge maxSynchronizationAcknowledgementBytes body)
    else
      match acknowledgement.validateAgainstRequest request with
      | .error source => .error (.invalidAcknowledgement source)
      | .ok () => .ok acknowledgement

/-! ## The policy -/

/-- `SynchronizationFailureDisposition`. -/
inductive FailureDisposition
  | retry
  | permanentFailure
  | manualReview
  deriving DecidableEq, Repr

/-- `synchronization_failure_disposition`. -/
def synchronizationFailureDisposition : FailureCategory → FailureDisposition
  | .networkTimeout | .connectionFailure | .responseDecodeFailure
  | .backendTemporarilyUnavailable => .retry
  | .payloadTooLarge | .unsupportedProtocol | .backendValidationFailure => .permanentFailure
  | .readerNotRegistered | .readerNotOperational | .environmentMismatch
  | .batchIdentityConflict | .batchRangeMismatch | .entryOrderMismatch
  | .transactionIdentityConflict | .manualReviewRequired => .manualReview

/-- The operation the coordinator records a failure with. -/
def failureOperation (readerId : ReaderId) (batchId : SynchronizationBatchId)
    (category : FailureCategory) (completedAt retryAt : UnixMilliseconds) : Operation :=
  match synchronizationFailureDisposition category with
  | .retry => .retryBatch readerId batchId category.asStr completedAt retryAt
  | .permanentFailure => .failBatch readerId batchId category.asStr completedAt .permanentFailure
  | .manualReview => .failBatch readerId batchId category.asStr completedAt .manualReview

/-! ## The size of an acknowledgement -/

@[simp] theorem printedBound_nat (n : Nat) : (nat n).printedBound = 84 := rfl

@[simp] theorem printedBound_int (n : Int64) : (int n).printedBound = 84 := by
  unfold int
  split <;> rfl

@[simp] theorem floatFree_nat (n : Nat) : (nat n).floatFree = true := rfl

@[simp] theorem floatFree_int (n : Int64) : (int n).floatFree = true := by
  unfold int
  split <;> rfl

theorem printedBound_acknowledgementEntry (entry : AcknowledgementEntry) :
    entry.toJson.printedBound ≤ 2500 := by
  have hkeys : ∀ key ∈ ["transaction_id", "local_sequence_number", "outcome", "failure_category",
      "next_retry_at_unix_milliseconds"], byteLength key ≤ 31 := by decide
  have hid := byteLength_toText entry.transactionId.toIdentifier
  have houtcome : byteLength entry.outcome.asStr ≤ 17 := by
    cases entry.outcome <;> decide
  have hcategory :
      (option (fun c => .string c.asStr) entry.failureCategory).printedBound ≤ 200 := by
    cases entry.failureCategory with
    | none => decide
    | some category => cases category <;> decide
  have hretry : (option int entry.nextRetryAt).printedBound ≤ 84 := by
    cases entry.nextRetryAt with
    | none => decide
    | some retryAt => exact (printedBound_int retryAt).le
  simp only [List.forall_mem_cons] at hkeys
  simp only [AcknowledgementEntry.toJson, Value.printedBound, membersPrintedBound,
    printedBound_nat]
  omega

theorem floatFree_acknowledgementEntry (entry : AcknowledgementEntry) :
    entry.toJson.floatFree = true := by
  simp only [AcknowledgementEntry.toJson, Value.floatFree, membersFloatFree, floatFree_nat,
    Bool.true_and, Bool.and_true, Bool.and_eq_true]
  constructor
  · cases entry.failureCategory <;> rfl
  · cases entry.nextRetryAt with
    | none => rfl
    | some retryAt => exact floatFree_int retryAt

/-- No acknowledgement is too long for the client. -/
theorem acknowledgement_body_le (acknowledgement : Acknowledgement) :
    byteLength (acknowledgement.toJson.render codec) ≤
      maxSynchronizationAcknowledgementBytes := by
  have hkeys : ∀ key ∈ ["protocol_version", "environment_id", "reader_id", "batch_id",
      "first_local_sequence_number", "last_local_sequence_number",
      "received_at_unix_milliseconds", "replayed", "entries"], byteLength key ≤ 31 := by decide
  simp only [List.forall_mem_cons] at hkeys
  have henvironment : byteLength acknowledgement.environmentId.asStr ≤ 128 :=
    acknowledgement.environmentId.bounded
  have hreader := byteLength_toText acknowledgement.readerId.toIdentifier
  have hbatch := byteLength_toText acknowledgement.batchId.toIdentifier
  have hentries : itemsPrintedBound
      (acknowledgement.entries.map AcknowledgementEntry.toJson) ≤ 256 * 2501 := by
    have hbound : itemsPrintedBound (acknowledgement.entries.map AcknowledgementEntry.toJson) ≤ _ :=
      itemsPrintedBound_le 2500 fun v hv => by
        obtain ⟨entry, -, rfl⟩ := List.mem_map.mp hv
        exact printedBound_acknowledgementEntry entry
    rw [List.length_map] at hbound
    exact hbound.trans (Nat.mul_le_mul_right _ acknowledgement.length_entries_le)
  have hfree : acknowledgement.toJson.floatFree = true := by
    simp only [Acknowledgement.toJson, Value.floatFree, membersFloatFree, floatFree_nat,
      floatFree_int, Bool.true_and, Bool.and_true]
    refine itemsFloatFree_of_forall fun v hv => ?_
    obtain ⟨entry, -, rfl⟩ := List.mem_map.mp hv
    exact floatFree_acknowledgementEntry entry
  refine (Value.byteLength_render codec _ hfree).trans ?_
  simp only [Acknowledgement.toJson, Value.printedBound, membersPrintedBound, printedBound_nat,
    printedBound_int, maxSynchronizationAcknowledgementBytes]
  omega

end TransitGuard.Reader
