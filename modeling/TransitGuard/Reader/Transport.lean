import TransitGuard.Library.Http
import TransitGuard.Protocol.Wire
import TransitGuard.Reader.Submission

/-!
The HTTP client of the reader. It prints a request, sends it, reads a bounded
body whatever the status is, and returns an acknowledgement only when it answers
the request. The network and the reader of JSON texts are parameters: a
response may have any status, any headers and any body.
-/

namespace TransitGuard.Reader

open Protocol Text Json Http

/-- `JSON_MEDIA_TYPE`. -/
def jsonMediaType : String := "application/json"

/-- `TRANSITGUARD_API_SERVICE`. -/
def transitguardApiService : String := "transitguard-api"

/-- `SynchronizationHttpClientError`, without the errors of other crates. -/
inductive SynchronizationHttpClientError
  | invalidEndpoint
  | invalidTimeout
  | clientConfiguration
  | requestEncoding
  | requestTooLarge (maximumBytes actualBytes : Nat)
  | request (category : FailureCategory)
  | httpStatus (status : Nat) (category : FailureCategory)
  | unexpectedContentType
  | responseRead (category : FailureCategory)
  | responseTooLarge (maximumBytes actualBytes : Nat)
  | responseDecode
  | invalidAcknowledgement (source : ProtocolError)

/-- `SynchronizationHttpClientError::failure_category`. -/
def SynchronizationHttpClientError.failureCategory :
    SynchronizationHttpClientError → FailureCategory
  | .invalidEndpoint | .invalidTimeout | .requestEncoding => .backendValidationFailure
  | .clientConfiguration => .connectionFailure
  | .requestTooLarge .. | .responseTooLarge .. => .payloadTooLarge
  | .request category | .responseRead category | .httpStatus _ category => category
  | .unexpectedContentType | .responseDecode | .invalidAcknowledgement _ => .responseDecodeFailure

/-- A `reqwest::Error`, as far as it is looked at. -/
structure ReqwestError where
  isTimeout : Bool
  deriving DecidableEq

/-- `request_failure_category`. -/
def requestFailureCategory (e : ReqwestError) : FailureCategory :=
  if e.isTimeout then .networkTimeout else .connectionFailure

/-- `response_failure_category`. -/
def responseFailureCategory (e : ReqwestError) : FailureCategory :=
  if e.isTimeout then .networkTimeout else .responseDecodeFailure

def usizeMax : Nat := 2 ^ 64 - 1

/-- `read_bounded_body`, with the bytes that are held when it asks for the next
chunk. -/
def readBoundedBody (maximumBytes : Nat) (body : List UInt8) :
    Body ReqwestError → Except SynchronizationHttpClientError (List UInt8)
  | .ended => .ok body
  | .failed e => .error (.responseRead (responseFailureCategory e))
  | .chunk chunk rest =>
    let totalBytes := body.length + chunk.length
    if usizeMax < totalBytes then .error (.responseTooLarge maximumBytes usizeMax)
    else if maximumBytes < totalBytes then .error (.responseTooLarge maximumBytes totalBytes)
    else readBoundedBody maximumBytes (body ++ chunk) rest

variable (codec : Codec) (read : List UInt8 → Option Value)

/-- `decode_api_error_category`: an `ApiErrorEnvelope` of this service. -/
def decodeApiErrorCategory (body : List UInt8) : Option FailureCategory := do
  let envelope ← read body
  match envelope.fields ["service", "category"] with
  | some [service, category] =>
    let service ← service.bind Value.text
    let category ← category.bind decodeCategory
    if service = transitguardApiService then some category else none
  | _ => none

/-- `fallback_status_category`. -/
def fallbackStatusCategory (status : Nat) : FailureCategory :=
  if status = 408 ∨ status = 504 then .networkTimeout
  else if status = 429 ∨ status = 502 ∨ status = 503 then .backendTemporarilyUnavailable
  else if status = 409 then .batchIdentityConflict
  else if status = 413 then .payloadTooLarge
  else if 500 ≤ status ∧ status < 600 then .backendTemporarilyUnavailable
  else .backendValidationFailure

/-- `has_json_content_type`. -/
def hasJsonContentType (headers : HeaderMap) : Bool :=
  match (get headers "content-type").bind toStr with
  | none => false
  | some value =>
    let mediaType := String.ofList (value.toList.takeWhile (· != ';'))
    eqIgnoreAsciiCase (trim mediaType) jsonMediaType

/-- The request that `SynchronizationHttpClient::submit` sends. -/
def buildHttpRequest (request : Request) : HttpRequest where
  headers :=
    [("accept", bytes jsonMediaType), ("content-type", bytes jsonMediaType),
      (idempotencyKeyHeader, bytes request.batchId.toText),
      (protocolVersionHeader, bytes (toString request.protocolVersion.value))]
  body := bytes (request.serialize codec)

/-- `SynchronizationHttpClient::submit`, up to the sending of the request. -/
def prepareHttpRequest (request : Request) :
    Except SynchronizationHttpClientError HttpRequest :=
  let body := bytes (request.serialize codec)
  if maxSynchronizationRequestBytes < body.length then
    .error (.requestTooLarge maxSynchronizationRequestBytes body.length)
  else .ok (buildHttpRequest codec request)

/-- `SynchronizationHttpClient::submit`, from the response on. -/
def receiveHttpResponse (request : Request) (response : HttpResponse (Body ReqwestError)) :
    Except SynchronizationHttpClientError Acknowledgement := do
  let responseBody ← readBoundedBody maxSynchronizationAcknowledgementBytes [] response.body
  if response.status ≠ 200 then
    .error (.httpStatus response.status
      ((decodeApiErrorCategory read responseBody).getD (fallbackStatusCategory response.status)))
  if ¬hasJsonContentType response.headers then .error .unexpectedContentType
  let acknowledgement ← Fallible.orFail .responseDecode
    ((read responseBody).bind Acknowledgement.fromJson)
  (acknowledgement.validateAgainstRequest request).mapError .invalidAcknowledgement
  .ok acknowledgement

/-- `SynchronizationHttpClient::submit` over the network `send`. -/
def SynchronizationHttpClient.submit
    (send : HttpRequest → Except ReqwestError (HttpResponse (Body ReqwestError)))
    (request : Request) : Except SynchronizationHttpClientError Acknowledgement := do
  let httpRequest ← prepareHttpRequest codec request
  let response ← (send httpRequest).mapError fun e => .request (requestFailureCategory e)
  receiveHttpResponse read request response

/-! ## Bodies -/

section Bodies

variable {codec read}

/-- A body within the limit is read as a whole, however it is cut into chunks;
a longer one is given up at the chunk that crosses the limit, and what is behind
that chunk is not asked for. -/
theorem readBoundedBody_of_chunks {maximumBytes : Nat} (hmaximum : maximumBytes ≤ usizeMax)
    (cut : Option ReqwestError) (chunks : List (List UInt8)) (held : List UInt8)
    (hheld : held.length ≤ maximumBytes) :
    (held.length + chunks.flatten.length ≤ maximumBytes ∧
      readBoundedBody maximumBytes held (Body.ofChunks cut chunks) =
        match cut with
        | none => .ok (held ++ chunks.flatten)
        | some e => .error (.responseRead (responseFailureCategory e))) ∨
    ∃ k, held.length + (chunks.take k).flatten.length ≤ maximumBytes ∧
      maximumBytes < held.length + (chunks.take (k + 1)).flatten.length ∧
      readBoundedBody maximumBytes held (Body.ofChunks cut chunks) =
        .error (.responseTooLarge maximumBytes
          (min (held.length + (chunks.take (k + 1)).flatten.length) usizeMax)) := by
  induction chunks generalizing held with
  | nil =>
    left
    cases cut with
    | none => simp [Body.ofChunks, readBoundedBody, hheld]
    | some e => simp [Body.ofChunks, readBoundedBody, hheld]
  | cons chunk rest ih =>
    by_cases hover : maximumBytes < held.length + chunk.length
    · right
      refine ⟨0, by simpa using hheld, by simpa using hover, ?_⟩
      by_cases hwidth : usizeMax < held.length + chunk.length
      · have hmin : min (held.length + chunk.length) usizeMax = usizeMax := by omega
        simp [Body.ofChunks, readBoundedBody, hwidth, hmin]
      · have hmin : min (held.length + chunk.length) usizeMax = held.length + chunk.length := by
          omega
        simp [Body.ofChunks, readBoundedBody, hwidth, hover, hmin]
    · have hwidth : ¬usizeMax < held.length + chunk.length := by omega
      have hstep : readBoundedBody maximumBytes held (Body.ofChunks cut (chunk :: rest)) =
          readBoundedBody maximumBytes (held ++ chunk) (Body.ofChunks cut rest) := by
        simp [Body.ofChunks, readBoundedBody, hwidth, hover]
      have hnext : (held ++ chunk).length ≤ maximumBytes := by simpa using hover
      rcases ih (held ++ chunk) hnext with ⟨hle, hread⟩ | ⟨k, hle, hlt, hread⟩
      · left
        rw [hstep, hread]
        refine ⟨by simp at hle ⊢; omega, ?_⟩
        cases cut <;> simp
      · right
        refine ⟨k + 1, by simp at hle ⊢; omega, by simp at hlt ⊢; omega, ?_⟩
        rw [hstep, hread]
        simp [Nat.add_assoc]

end Bodies

end TransitGuard.Reader
