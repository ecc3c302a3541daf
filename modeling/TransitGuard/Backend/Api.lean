import TransitGuard.Library.Http
import TransitGuard.Telemetry.Recorder
import TransitGuard.Protocol.Wire
import TransitGuard.Backend.Service

/-!
The HTTP handler of the backend: what it answers to the headers and the body of
a request, what it leaves in the database, and what it records. The extractor of
JSON bodies belongs to the web framework; it is seen through the request it
yields or the status of its rejection.
-/

namespace TransitGuard.Backend

open Protocol Text Json Http Telemetry

/-! ## Header validation -/

/-- `TransportValidationError`. -/
inductive TransportValidationError
  | missingIdempotencyKey
  | invalidIdempotencyKey
  | missingProtocolVersion
  | invalidProtocolVersion
  | unsupportedProtocolVersion
  deriving DecidableEq

/-- `TransportValidationError::message`. -/
def TransportValidationError.message : TransportValidationError → String
  | .missingIdempotencyKey => "idempotency key header is required"
  | .invalidIdempotencyKey => "idempotency key does not match the batch"
  | .missingProtocolVersion => "protocol version header is required"
  | .invalidProtocolVersion => "protocol version header does not match the body"
  | .unsupportedProtocolVersion => "protocol version is unsupported"

/-- `TransportValidationError::failure_category`. -/
def TransportValidationError.failureCategory : TransportValidationError → FailureCategory
  | .unsupportedProtocolVersion => .unsupportedProtocol
  | .missingIdempotencyKey | .invalidIdempotencyKey | .missingProtocolVersion
  | .invalidProtocolVersion => .backendValidationFailure

/-- `validate_transport_headers`. -/
def validateTransportHeaders (headers : HeaderMap) (request : Request) :
    Except TransportValidationError Unit := do
  let value ← Fallible.orFail .missingIdempotencyKey (get headers idempotencyKeyHeader)
  let idempotencyKey ← Fallible.orFail .invalidIdempotencyKey (toStr value)
  if idempotencyKey ≠ request.batchId.toText then .error .invalidIdempotencyKey
  let value ← Fallible.orFail .missingProtocolVersion (get headers protocolVersionHeader)
  let text ← Fallible.orFail .invalidProtocolVersion (toStr value)
  let protocolVersion ← Fallible.orFail .invalidProtocolVersion (parseUnsigned (2 ^ 16) text)
  if protocolVersion ≠ request.protocolVersion.value then .error .invalidProtocolVersion
  if protocolVersion ≠ DeviceProtocolVersion.current.value then .error .unsupportedProtocolVersion
  .ok ()

/-! ## Responses -/

variable (codec : Codec)

/-- A status with a JSON body. -/
def jsonResponse (status : Nat) (body : Value) : HttpResponse (List UInt8) where
  status
  headers := [("content-type", bytes "application/json")]
  body := bytes (body.render codec)

/-- `ApiErrorResponse`. -/
def apiErrorBody (error category : String) : Value :=
  .object [("service", .string "transitguard-api"), ("error", .string error),
    ("category", .string category)]

/-- `api_error_response`. -/
def apiErrorResponse (status : Nat) (category error : String) : HttpResponse (List UInt8) :=
  jsonResponse codec status (apiErrorBody error category)

/-- `TransportValidationError::into_response`. -/
def TransportValidationError.intoResponse (e : TransportValidationError) :
    HttpResponse (List UInt8) :=
  apiErrorResponse codec 422 e.failureCategory.asStr e.message

/-- `json_rejection_failure_category`. -/
def jsonRejectionFailureCategory (status : Nat) : FailureCategory :=
  if status = 413 then .payloadTooLarge else .backendValidationFailure

/-- `json_rejection_response`. -/
def jsonRejectionResponse (status : Nat) : HttpResponse (List UInt8) :=
  let answer : Nat × FailureCategory × String :=
    if status = 400 then
      (400, .backendValidationFailure, "request body contains malformed JSON")
    else if status = 413 then
      (413, .payloadTooLarge, "synchronization request body exceeds the configured limit")
    else if status = 415 then
      (415, .backendValidationFailure, "content type must be application/json")
    else if status = 422 then
      (422, .backendValidationFailure, "synchronization request body failed validation")
    else (422, .backendValidationFailure, "synchronization request body could not be processed")
  apiErrorResponse codec answer.1 answer.2.1.asStr answer.2.2

/-- The status and the message of `service_error_response`. -/
def ServiceError.answer : ServiceError → Nat × String
  | .batchIdentityConflict => (409, "synchronization batch identity conflicts with stored content")
  | .transactionIdentityConflict =>
    (409, "synchronization transaction identity conflicts with stored content")
  | .backendTemporarilyUnavailable => (503, "backend synchronization dependency is unavailable")
  | .unsupportedProtocol => (422, "protocol version is unsupported")
  | .environmentMismatch => (422, "reader environment does not match the backend")
  | .readerNotRegistered => (422, "reader is not registered")
  | .readerNotOperational => (422, "reader is not operational")
  | .ingestRecord | .protocol _ => (422, "synchronization request failed validation")

/-- `service_error_response`. -/
def serviceErrorResponse (e : ServiceError) : HttpResponse (List UInt8) :=
  apiErrorResponse codec e.answer.1 e.failureCategory.asStr e.answer.2

/-! ## The handler -/

/-- What a call of the handler answers, leaves and records. -/
structure Handled where
  response : HttpResponse (List UInt8)
  database : IngestDatabase
  records : List Counter

variable (sha256 : Sha256) (environmentId : EnvironmentId)

/-- `submit_synchronization_batch`. The payload is the request of the body, or
the status of a rejection. -/
def Api.submitSynchronizationBatch (db : IngestDatabase) (headers : HeaderMap)
    (payload : Except Nat Request) (elapsed : Option Nat) : Handled :=
  match payload with
  | .error rejection =>
    { response := jsonRejectionResponse codec rejection
      database := db
      records := recordRequestStarted ++
        recordRequestFailure (jsonRejectionFailureCategory rejection) }
  | .ok request =>
    match validateTransportHeaders headers request with
    | .error e =>
      { response := e.intoResponse codec
        database := db
        records := recordRequestStarted ++ recordRequestFailure e.failureCategory }
    | .ok () =>
      match currentUnixMilliseconds elapsed with
      | none =>
        { response := apiErrorResponse codec 503
            FailureCategory.backendTemporarilyUnavailable.asStr
            "backend time source is unavailable"
          database := db
          records := recordRequestStarted ++ recordRequestFailure .backendTemporarilyUnavailable }
      | some receivedAt =>
        match process codec sha256 environmentId db request receivedAt with
        | .ok (acknowledgement, committed) =>
          { response := jsonResponse codec 200 acknowledgement.toJson
            database := committed
            records := recordRequestStarted ++ recordAcknowledgement acknowledgement }
        | .error e =>
          { response := serviceErrorResponse codec e
            database := db
            records := recordRequestStarted ++ recordRequestFailure e.failureCategory }

/-- The endpoint, behind the extractor of the framework. -/
def Api.handle (extract : HttpRequest → Except Nat Request) (db : IngestDatabase)
    (message : HttpRequest) (elapsed : Option Nat) : Handled :=
  Api.submitSynchronizationBatch codec sha256 environmentId db message.headers (extract message)
    elapsed

/-! ## What the handler does -/

/-- The HTTP response of an answer: an acknowledgement under status 200, or the
category in an error body with a short text. -/
def Answers (codec : Codec) (response : HttpResponse (List UInt8)) : ApiResponse → Prop
  | .ok acknowledgement => response = jsonResponse codec 200 acknowledgement.toJson
  | .error category => ∃ status error, 400 ≤ status ∧ status < 600 ∧ byteLength error ≤ 80 ∧
      response = apiErrorResponse codec status category.asStr error

/-- What an answer adds to the counters. -/
def recordResponse : ApiResponse → List Counter
  | .ok acknowledgement => recordRequestStarted ++ recordAcknowledgement acknowledgement
  | .error category => recordRequestStarted ++ recordRequestFailure category

variable {codec sha256 environmentId}

theorem answers_jsonRejection (status : Nat) :
    Answers codec (jsonRejectionResponse codec status)
      (.error (jsonRejectionFailureCategory status)) := by
  unfold jsonRejectionResponse jsonRejectionFailureCategory
  split_ifs with h400 h413 h413 h415 h422
  · omega
  · exact ⟨400, _, by decide, by decide, by decide, rfl⟩
  · exact ⟨413, _, by decide, by decide, by decide, rfl⟩
  · exact ⟨415, _, by decide, by decide, by decide, rfl⟩
  · exact ⟨422, _, by decide, by decide, by decide, rfl⟩
  · exact ⟨422, _, by decide, by decide, by decide, rfl⟩

theorem answers_transportValidation (e : TransportValidationError) :
    Answers codec (e.intoResponse codec) (.error e.failureCategory) := by
  refine ⟨422, e.message, by decide, by decide, ?_, rfl⟩
  cases e <;> decide

theorem answers_service (e : ServiceError) :
    Answers codec (serviceErrorResponse codec e) (.error e.failureCategory) := by
  refine ⟨e.answer.1, e.answer.2, ?_, ?_, ?_, rfl⟩ <;> unfold ServiceError.answer <;> split <;>
    decide

/-- The handler answers what the service answers when the headers are in order,
and rejects the request without touching the database when they are not. It
records what it answers. -/
theorem handler_cases (db : IngestDatabase) (headers : HeaderMap)
    (payload : Except Nat Request) (elapsed : Option Nat) {handled : Handled}
    (hhandled : Api.submitSynchronizationBatch codec sha256 environmentId db headers payload
      elapsed = handled) :
    ∃ answer, Answers codec handled.response answer ∧ handled.records = recordResponse answer ∧
      ((∃ status, payload = .error status ∧
          answer = .error (jsonRejectionFailureCategory status) ∧ handled.database = db) ∨
        (∃ request e, payload = .ok request ∧ validateTransportHeaders headers request = .error e ∧
          answer = .error e.failureCategory ∧ handled.database = db) ∨
        ∃ request, payload = .ok request ∧ validateTransportHeaders headers request = .ok () ∧
          (answer, handled.database) =
            submitSynchronizationBatch codec sha256 environmentId db request elapsed) := by
  subst hhandled
  cases payload with
  | error status =>
    exact ⟨_, answers_jsonRejection status, rfl, .inl ⟨status, rfl, rfl, rfl⟩⟩
  | ok request =>
    simp only [Api.submitSynchronizationBatch, submitSynchronizationBatch]
    cases hheaders : validateTransportHeaders headers request with
    | error e =>
      exact ⟨_, answers_transportValidation e, rfl,
        .inr (.inl ⟨request, e, rfl, hheaders, rfl, rfl⟩)⟩
    | ok _ =>
      cases currentUnixMilliseconds elapsed with
      | none =>
        exact ⟨.error .backendTemporarilyUnavailable,
          ⟨503, _, by decide, by decide, by decide, rfl⟩, rfl,
          .inr (.inr ⟨request, rfl, hheaders, rfl⟩)⟩
      | some receivedAt =>
        simp only
        cases hprocess : process codec sha256 environmentId db request receivedAt with
        | ok result =>
          refine ⟨.ok result.1, rfl, rfl, .inr (.inr ⟨request, rfl, hheaders, ?_⟩)⟩
          rw [hprocess]
        | error e =>
          refine ⟨_, answers_service e, rfl, .inr (.inr ⟨request, rfl, hheaders, ?_⟩)⟩
          rw [hprocess]

end TransitGuard.Backend
