import TransitGuard.Backend.Api
import TransitGuard.Reader.Transport

/-!
One exchange over HTTP: what the client prints passes the extractor and the
header checks of the handler, and what the handler prints is read by the client
as the answer it stands for, in whatever chunks it arrives. The reader of JSON
texts and the extractor of the web framework are parameters; what is relied on
of them is said in one place.
-/

namespace TransitGuard.System

open Protocol Reader Backend Text Json Http

/-- What an exchange relies on outside the repository. The printed documents of
this protocol, which hold no floats, are read back as they were, and the
extractor yields the request of a JSON body within its limit. -/
structure Faithful (codec : Codec) (read : List UInt8 → Option Value)
    (extract : HttpRequest → Except Nat Request) : Prop where
  request : ∀ request : Request, request.Constructed codec →
    read (bytes (request.serialize codec)) = some request.toJson
  acknowledgement : ∀ acknowledgement : Acknowledgement,
    read (bytes (acknowledgement.serialize codec)) = some acknowledgement.toJson
  error : ∀ error category : String,
    read (bytes ((apiErrorBody error category).render codec)) = some (apiErrorBody error category)
  extracts : ∀ message request, get message.headers "content-type" = some (bytes jsonMediaType) →
    message.body.length ≤ maxSynchronizationRequestBytes →
    (read message.body).bind (Request.fromJson codec) = some request →
    extract message = .ok request

variable {codec : Codec} {read : List UInt8 → Option Value}
  {extract : HttpRequest → Except Nat Request}

/-! ## From the reader to the backend -/

theorem get_buildHttpRequest (request : Request) :
    get (buildHttpRequest codec request).headers "content-type" = some (bytes jsonMediaType) ∧
      get (buildHttpRequest codec request).headers idempotencyKeyHeader =
        some (bytes request.batchId.toText) ∧
      get (buildHttpRequest codec request).headers protocolVersionHeader =
        some (bytes (toString request.protocolVersion.value)) := by
  refine ⟨?_, ?_, ?_⟩
  · rw [buildHttpRequest, get_cons_of_ne (by decide), get_cons_self]
  · rw [buildHttpRequest, get_cons_of_ne (by decide), get_cons_of_ne (by decide), get_cons_self]
  · rw [buildHttpRequest, get_cons_of_ne (by decide), get_cons_of_ne (by decide),
      get_cons_of_ne (by decide), get_cons_self]

theorem visible_toText (i : Identifier) : Visible i.toText :=
  i.forall_mem_toText (P := fun c => 32 ≤ c.toNat ∧ c.toNat < 127) (by decide) (by decide)

/-- The headers of the client are in order unless the version is not the
current one. -/
theorem validateTransportHeaders_build (request : Request) :
    validateTransportHeaders (buildHttpRequest codec request).headers request =
      if request.protocolVersion = .current then .ok ()
      else .error .unsupportedProtocolVersion := by
  obtain ⟨-, hkey, hversion⟩ := @get_buildHttpRequest codec request
  have hparsed : parseUnsigned (2 ^ 16) (toString request.protocolVersion.value) =
      some request.protocolVersion.value :=
    parseUnsigned_toString request.protocolVersion.lt
  have hcurrent : request.protocolVersion.value = DeviceProtocolVersion.current.value ↔
      request.protocolVersion = .current :=
    ⟨fun h => by cases hversion : request.protocolVersion; simp_all [DeviceProtocolVersion.current],
      fun h => by rw [h]⟩
  simp only [validateTransportHeaders, hkey, hversion, Fallible.orFail, Fallible.ok_bind,
    toStr_bytes (visible_toText request.batchId.toIdentifier),
    toStr_bytes (visible_toString request.protocolVersion.value), hparsed, ne_eq,
    not_true_eq_false, if_false, hcurrent]
  by_cases h : request.protocolVersion = .current
  · simp [h]
  · simp [h]
    rfl

/-- The backend extracts the request that the reader sent. -/
theorem Faithful.extract_build (h : Faithful codec read extract) {request : Request}
    (hreprintable : request.Reprintable codec)
    (hbody : byteLength (request.serialize codec) ≤ maxSynchronizationRequestBytes) :
    extract (buildHttpRequest codec request) = .ok request := by
  refine h.extracts _ _ (get_buildHttpRequest request).1 hbody ?_
  show (read (bytes (request.serialize codec))).bind (Request.fromJson codec) = some request
  rw [h.request request hreprintable.constructed, Option.bind_some,
    Request.fromJson_toJson hreprintable]

/-- The message of a request determines it. -/
theorem Faithful.build_injective (h : Faithful codec read extract) {request other : Request}
    (hrequest : request.Reprintable codec) (hother : other.Reprintable codec)
    (heq : buildHttpRequest codec request = buildHttpRequest codec other) : request = other := by
  have hbody : bytes (request.serialize codec) = bytes (other.serialize codec) :=
    congrArg HttpRequest.body heq
  have hjson : some request.toJson = some other.toJson := by
    rw [← h.request request hrequest.constructed, hbody, h.request other hother.constructed]
  have hsame := Request.fromJson_toJson hrequest
  rw [Option.some.inj hjson, Request.fromJson_toJson hother] at hsame
  exact (Option.some.inj hsame).symm

/-! ## From the backend to the reader -/

theorem hasJsonContentType_jsonResponse (status : Nat) (body : Value) :
    hasJsonContentType (jsonResponse codec status body).headers = true := by
  have hvalue : toStr (bytes "application/json") = some "application/json" := by decide +kernel
  simp only [hasJsonContentType, jsonResponse, get_cons_self, Option.bind_some, hvalue]
  decide +kernel

theorem decodeApiErrorCategory_body (h : Faithful codec read extract) (error : String)
    (category : FailureCategory) :
    decodeApiErrorCategory read
      (bytes ((apiErrorBody error category.asStr).render codec)) = some category := by
  have hfields : (apiErrorBody error category.asStr).fields ["service", "category"] =
      some [some (.string "transitguard-api"), some (.string category.asStr)] := by
    simp [apiErrorBody, Value.fields, List.lookup_cons]
  simp only [decodeApiErrorCategory, h.error, hfields, bind, Option.bind_some, Value.text,
    decodeCategory_asStr, transitguardApiService, if_true]

/-- No answer is too long for the client. -/
theorem body_le_of_answers {response : HttpResponse (List UInt8)} {answer : ApiResponse}
    (h : Answers codec response answer) :
    response.body.length ≤ maxSynchronizationAcknowledgementBytes := by
  cases answer with
  | ok acknowledgement =>
    have hresponse : response = jsonResponse codec 200 acknowledgement.toJson := h
    rw [hresponse]
    exact acknowledgement_body_le codec acknowledgement
  | error category =>
    obtain ⟨status, error, -, -, herror, rfl⟩ := h
    have hcategory : byteLength category.asStr ≤ 40 := by
      cases category <;> decide
    have hservice : byteLength "transitguard-api" ≤ 40 := by decide
    have hkeys : ∀ key ∈ ["service", "error", "category"], byteLength key ≤ 31 := by decide
    simp only [List.forall_mem_cons] at hkeys
    show byteLength ((apiErrorBody error category.asStr).render codec) ≤ _
    refine (Value.byteLength_render codec _ rfl).trans ?_
    simp only [apiErrorBody, Value.printedBound, membersPrintedBound,
      maxSynchronizationAcknowledgementBytes]
    omega

theorem maxAcknowledgementBytes_le : maxSynchronizationAcknowledgementBytes ≤ usizeMax := by
  decide

/-- What the client makes of a body that arrives whole does not depend on its
chunks. -/
theorem readBoundedBody_whole {body : List UInt8} {chunks : List (List UInt8)}
    (hchunks : chunks.flatten = body)
    (hbody : body.length ≤ maxSynchronizationAcknowledgementBytes) :
    readBoundedBody maxSynchronizationAcknowledgementBytes [] (Body.ofChunks none chunks) =
      .ok body := by
  rcases readBoundedBody_of_chunks maxAcknowledgementBytes_le none chunks [] (Nat.zero_le _) with
    ⟨-, hread⟩ | ⟨k, -, hlong, -⟩
  · rw [hread, List.nil_append, hchunks]
  · have hprefix := ((List.take_prefix (k + 1) chunks).flatten).length_le
    rw [List.length_nil, Nat.zero_add] at hlong
    rw [hchunks] at hprefix
    omega

/-- A body that breaks off is a failure of the reading. -/
theorem readBoundedBody_cut {body : List UInt8} {chunks : List (List UInt8)} {e : ReqwestError}
    (hchunks : chunks.flatten <+: body)
    (hbody : body.length ≤ maxSynchronizationAcknowledgementBytes) :
    readBoundedBody maxSynchronizationAcknowledgementBytes [] (Body.ofChunks (some e) chunks) =
      .error (.responseRead (responseFailureCategory e)) := by
  rcases readBoundedBody_of_chunks maxAcknowledgementBytes_le (some e) chunks []
      (Nat.zero_le _) with
    ⟨-, hread⟩ | ⟨k, -, hlong, -⟩
  · exact hread
  · have hprefix := ((List.take_prefix (k + 1) chunks).flatten).length_le
    have hlength := hchunks.length_le
    rw [List.length_nil, Nat.zero_add] at hlong
    omega

/-- The client reads the answer that the response stands for. -/
theorem Faithful.receive (h : Faithful codec read extract)
    {response : HttpResponse (List UInt8)} {answer : ApiResponse}
    (hanswers : Answers codec response answer) (request : Request)
    {chunks : List (List UInt8)} (hchunks : chunks.flatten = response.body) :
    (receiveHttpResponse read request
        ⟨response.status, response.headers, Body.ofChunks none chunks⟩).mapError
          SynchronizationHttpClientError.failureCategory =
      (receiveResponse codec request answer).mapError HttpClientError.failureCategory := by
  simp only [receiveHttpResponse, readBoundedBody_whole hchunks (body_le_of_answers hanswers),
    Fallible.ok_bind]
  cases answer with
  | error category =>
    obtain ⟨status, error, hlow, -, -, rfl⟩ := hanswers
    have hstatus : status ≠ 200 := by omega
    simp only [apiErrorResponse, jsonResponse, hstatus, ne_eq, not_false_eq_true, if_true,
      decodeApiErrorCategory_body h, Option.getD_some, receiveResponse]
    rfl
  | ok acknowledgement =>
    have hresponse : response = jsonResponse codec 200 acknowledgement.toJson := hanswers
    have hlong : ¬maxSynchronizationAcknowledgementBytes <
        byteLength (acknowledgement.toJson.render codec) :=
      Nat.not_lt.mpr (acknowledgement_body_le codec acknowledgement)
    have hread : (read (bytes (acknowledgement.toJson.render codec))).bind
        Acknowledgement.fromJson = some acknowledgement := by
      have hprinted := h.acknowledgement acknowledgement
      rw [Acknowledgement.serialize] at hprinted
      rw [hprinted, Option.bind_some, acknowledgement.fromJson_toJson]
    have hjson := @hasJsonContentType_jsonResponse codec 200 acknowledgement.toJson
    subst hresponse
    simp only [hjson]
    simp only [jsonResponse, ne_eq, not_true_eq_false, if_false, hread, Fallible.orFail,
      Fallible.ok_bind, receiveResponse, hlong]
    cases acknowledgement.validateAgainstRequest request <;> rfl

end TransitGuard.System
