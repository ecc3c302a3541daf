import TransitGuard.Library.Simulation
import TransitGuard.Library.JsonInjective
import TransitGuard.System.Exchange
import TransitGuard.System.Standing

/-!
The reader and the backend with raw HTTP between them: the network carries the
messages that the client prints and the responses that the handler prints, and a
response arrives in any chunks, whole or broken off. The handler reads every
envelope once more from the text in the message, so the envelopes of a run have
to be ones that read and print as they are. Then every run of this system is a
run of the composed system, and what holds there of all runs holds here.
-/

namespace TransitGuard.System

open Protocol Reader Backend Text Json Http

structure WireState where
  reader : ReaderDatabase
  backend : IngestDatabase
  posted : List HttpRequest
  answers : List (HttpRequest × HttpResponse (List UInt8))
  submissions : List Submission

def WireState.initial (reader : ReaderDatabase) (readerEquipment : List ReaderEquipmentRow) :
    WireState :=
  ⟨reader, ⟨readerEquipment, [], [], []⟩, [], [], []⟩

/-- What can happen next. A response reaches a submission in chunks, and may
break off; a request may also get no response at all. -/
inductive WireEvent
  | call (localCall : LocalCall)
  | submit (readerId : ReaderId) (batchId : SynchronizationBatchId)
      (completedAt retryAt : UnixMilliseconds)
  | serve (request : Nat) (elapsed : Option Nat)
  | fault (request : Nat) (elapsed : Option Nat) (commits : Bool)
  | changeStatus (readerId : ReaderId) (status : ReaderStatus)
  | deliver (submission answer : Nat) (chunks : List (List UInt8)) (cut : Option ReqwestError)
  | lose (submission : Nat) (e : ReqwestError)
  | proceed (submission : Nat)
  | crash

/-- The envelope that the event enqueues, if it enqueues one, stays as it is
once it is printed. -/
def WireEvent.Reprints (codec : Codec) : WireEvent → Prop
  | .call (.enqueue _ draft) => codec.ReprintsAt (draft.transactionEnvelope.render codec)
  | _ => True

variable (codec : Codec) (sha256 : Sha256) (environmentId : EnvironmentId)
  (read : List UInt8 → Option Value) (extract : HttpRequest → Except Nat Request)

def Phase.ofHttpResult : Except SynchronizationHttpClientError Acknowledgement → Phase
  | .ok acknowledgement => .acknowledged acknowledgement
  | .error e => .failed e.failureCategory

def WireState.submit (w : WireState) (readerId : ReaderId) (batchId : SynchronizationBatchId)
    (completedAt retryAt : UnixMilliseconds) : WireState :=
  match loadSynchronizationBatchRequest codec w.reader readerId batchId with
  | .error _ => w
  | .ok request =>
    match prepareHttpRequest codec request with
    | .error e =>
      { w with submissions := w.submissions ++
          [⟨readerId, batchId, completedAt, retryAt, request, .failed e.failureCategory⟩] }
    | .ok message =>
      { w with
        posted := w.posted ++ [message]
        submissions := w.submissions ++
          [⟨readerId, batchId, completedAt, retryAt, request, .awaiting⟩] }

/-- The reader's side, without the network. -/
def WireState.withoutNetwork (w : WireState) : State :=
  ⟨w.reader, w.backend, [], [], w.submissions⟩

/-- The chunks are the body, or a beginning of it that breaks off. -/
def Arrives (body : List UInt8) (chunks : List (List UInt8)) (cut : Option ReqwestError) : Prop :=
  chunks.flatten <+: body ∧ (cut = none → chunks.flatten = body)

instance (body : List UInt8) (chunks : List (List UInt8)) (cut : Option ReqwestError) :
    Decidable (Arrives body chunks cut) :=
  inferInstanceAs (Decidable (_ ∧ _))

def wireStep (w : WireState) : WireEvent → WireState
  | .call localCall => { w with reader := perform codec w.reader localCall.operation }
  | .submit readerId batchId completedAt retryAt =>
    w.submit codec readerId batchId completedAt retryAt
  | .serve index elapsed =>
    match w.posted[index]? with
    | none => w
    | some message =>
      let handled := Api.handle codec sha256 environmentId extract w.backend message elapsed
      { w with
        backend := handled.database
        answers := w.answers ++ [(message, handled.response)] }
  | .fault index elapsed commits =>
    match w.posted[index]? with
    | none => w
    | some message =>
      let handled := Api.handle codec sha256 environmentId extract w.backend message elapsed
      { w with
        backend := if commits then handled.database else w.backend
        answers := w.answers ++
          [(message, serviceErrorResponse codec .backendTemporarilyUnavailable)] }
  | .changeStatus readerId status =>
    { w with backend := { w.backend with
        readerEquipment := Table.updateWhere (·.id == readerId) ({ · with status })
          w.backend.readerEquipment } }
  | .deliver index answer chunks cut =>
    match w.submissions[index]?, w.answers[answer]? with
    | some submission, some (message, response) =>
      if submission.phase = .awaiting ∧ buildHttpRequest codec submission.request = message ∧
          Arrives response.body chunks cut then
        { w with submissions := w.submissions.set index { submission with
            phase := .ofHttpResult (receiveHttpResponse read submission.request
              ⟨response.status, response.headers, Body.ofChunks cut chunks⟩) } }
      else w
    | _, _ => w
  | .lose index e =>
    match w.submissions[index]? with
    | some submission =>
      if submission.phase = .awaiting then
        let failure : SynchronizationHttpClientError := .request (requestFailureCategory e)
        { w with submissions := w.submissions.set index { submission with
            phase := .failed failure.failureCategory } }
      else w
    | none => w
  | .proceed index =>
    match w.submissions[index]? with
    | some submission =>
      let next := w.withoutNetwork.proceed codec index submission
      { w with reader := next.reader, submissions := next.submissions }
    | none => w
  | .crash => { w with submissions := [] }

/-! ## The relation -/

/-- The network of `w` carries the messages of `s` in print, and everything
else is the same. -/
structure Represents (w : WireState) (s : State) : Prop where
  reader : w.reader = s.reader
  backend : w.backend = s.backend
  submissions : w.submissions = s.submissions
  posted : w.posted = s.posted.map (buildHttpRequest codec)
  answers : List.Forall₂ (fun printed answer =>
    printed.1 = buildHttpRequest codec answer.1 ∧ Answers codec printed.2 answer.2)
    w.answers s.answers
  fits : ∀ request ∈ s.posted, request.Reprintable codec ∧
    byteLength (request.serialize codec) ≤ maxSynchronizationRequestBytes
  answered : ∀ answer ∈ s.answers, answer.1.Reprintable codec
  submitted : ∀ submission ∈ s.submissions, submission.request.Reprintable codec

/-- The queued envelopes stay as they are once they are printed. -/
def QueueReprints (db : ReaderDatabase) : Prop :=
  ∀ row ∈ db.offlineTransactions, codec.ReprintsAt row.transactionEnvelopeJson

variable {codec sha256 environmentId read extract}

theorem represents_initial (reader : ReaderDatabase) (readerEquipment : List ReaderEquipmentRow) :
    Represents codec (.initial reader readerEquipment) (.initial reader readerEquipment) where
  reader := rfl
  backend := rfl
  submissions := rfl
  posted := rfl
  answers := .nil
  fits := by simp [State.initial]
  answered := by simp [State.initial]
  submitted := by simp [State.initial]

/-! ## The events one by one -/

theorem forall₂_getElem? {α β : Type} {R : α → β → Prop} {xs : List α} {ys : List β}
    (h : List.Forall₂ R xs ys) {i : Nat} {x : α} (hx : xs[i]? = some x) :
    ∃ y, ys[i]? = some y ∧ R x y := by
  induction h generalizing i with
  | nil => cases hx
  | cons hR _ ih =>
    cases i with
    | zero =>
      cases hx
      exact ⟨_, rfl, hR⟩
    | succ i => exact ih hx

/-- The envelopes of a loaded request were read from the queue. -/
theorem reprintable_of_load {db : ReaderDatabase} (hqueue : QueueReprints codec db)
    {readerId : ReaderId} {batchId : SynchronizationBatchId} {request : Request}
    (h : loadSynchronizationBatchRequest codec db readerId batchId = .ok request) :
    request.Reprintable codec := by
  obtain ⟨batch, -, -, hassembled⟩ := loadSynchronizationBatchRequest_ok.mp h
  obtain ⟨reader, -, -, -, -, hparts⟩ := assembleRequest_ok.mp hassembled
  obtain ⟨-, hentries⟩ := decodeRequestEntries_ok.mp hparts.entries
  intro entry hentry
  obtain ⟨pair, hpair, -, -, hparsed⟩ := Fallible.exists_of_forall₂ hentries hentry
  obtain ⟨stored, -, hjoined⟩ := List.mem_flatMap.mp (Table.mem_orderBy.mp hpair)
  obtain ⟨row, hrow, rfl⟩ := List.mem_map.mp hjoined
  exact ⟨_, hqueue row (List.mem_of_mem_filter hrow), hparsed⟩

/-- What the handler makes of a printed request is what the backend makes of
the request, at the same or at another time. -/
theorem Faithful.handle_build (h : Faithful codec read extract) {request : Request}
    (hreprintable : request.Reprintable codec)
    (hbody : byteLength (request.serialize codec) ≤ maxSynchronizationRequestBytes)
    (db : IngestDatabase) (elapsed : Option Nat) :
    ∃ elapsed', Answers codec
      (Api.handle codec sha256 environmentId extract db (buildHttpRequest codec request)
        elapsed).response
      (Backend.submitSynchronizationBatch codec sha256 environmentId db request elapsed').1 ∧
      (Api.handle codec sha256 environmentId extract db (buildHttpRequest codec request)
        elapsed).database =
      (Backend.submitSynchronizationBatch codec sha256 environmentId db request elapsed').2 := by
  have hextracted := h.extract_build hreprintable hbody
  have hheaders := @validateTransportHeaders_build codec request
  obtain ⟨answer, hanswers, -, hcases⟩ := @handler_cases codec sha256 environmentId db
    (buildHttpRequest codec request).headers (extract (buildHttpRequest codec request)) elapsed
    _ rfl
  rcases hcases with ⟨status, hpayload, -⟩ | ⟨extracted, e, hpayload, hinvalid, hanswer, hdb⟩ |
    ⟨extracted, hpayload, hvalid, hserved⟩
  · rw [hextracted] at hpayload
    cases hpayload
  · rw [hextracted] at hpayload
    cases hpayload
    rw [hheaders] at hinvalid
    -- the version is checked before the clock is read, and the service checks it again
    split at hinvalid
    · cases hinvalid
    · next hversion =>
      cases hinvalid
      refine ⟨some 0, ?_, ?_⟩
      · have hrefused : (Backend.submitSynchronizationBatch codec sha256 environmentId db request
            (some 0)).1 = .error .unsupportedProtocol := by
          simp [Backend.submitSynchronizationBatch, currentUnixMilliseconds, process,
            validateRequestContext, hversion, i64Max]
          rfl
        rw [hrefused]
        rw [hanswer] at hanswers
        exact hanswers
      · have hkept : (Backend.submitSynchronizationBatch codec sha256 environmentId db request
            (some 0)).2 = db := by
          simp [Backend.submitSynchronizationBatch, currentUnixMilliseconds, process,
            validateRequestContext, hversion, i64Max]
          rfl
        rw [hkept]
        exact hdb
  · rw [hextracted] at hpayload
    cases hpayload
    refine ⟨elapsed, ?_, ?_⟩
    · rw [← hserved]
      exact hanswers
    · rw [← hserved]
      rfl

theorem Represents.submit {w : WireState} {s : State} (hs : Represents codec w s)
    (hqueue : QueueReprints codec s.reader) (readerId : ReaderId) (batchId : SynchronizationBatchId)
    (completedAt retryAt : UnixMilliseconds) :
    Represents codec (w.submit codec readerId batchId completedAt retryAt)
      (s.submit codec readerId batchId completedAt retryAt) := by
  unfold WireState.submit State.submit
  rw [hs.reader]
  cases hload : loadSynchronizationBatchRequest codec s.reader readerId batchId with
  | error e => exact hs
  | ok request =>
    have hreprintable := reprintable_of_load hqueue hload
    have hsubmitted : ∀ phase, ∀ submission ∈ s.submissions ++
        [⟨readerId, batchId, completedAt, retryAt, request, phase⟩],
        submission.request.Reprintable codec := by
      intro phase submission hmem
      rcases List.mem_append.mp hmem with hmem | hmem
      · exact hs.submitted submission hmem
      · rw [List.mem_singleton.mp hmem]
        exact hreprintable
    by_cases hbody : byteLength (request.serialize codec) ≤ maxSynchronizationRequestBytes
    · have hprepared : prepareHttpRequest codec request = .ok (buildHttpRequest codec request) :=
        if_neg (Nat.not_lt.mpr hbody)
      have hchecked : checkRequestBody codec request = .ok () := if_neg (Nat.not_lt.mpr hbody)
      simp only [hprepared, hchecked]
      refine { hs with
        reader := rfl
        submissions := by simp [hs.submissions]
        posted := by simp [hs.posted]
        fits := ?_
        submitted := hsubmitted _ }
      intro posted hposted
      rcases List.mem_append.mp hposted with hposted | hposted
      · exact hs.fits posted hposted
      · rw [List.mem_singleton.mp hposted]
        exact ⟨hreprintable, hbody⟩
    · have hprepared : prepareHttpRequest codec request = .error (.requestTooLarge
          maxSynchronizationRequestBytes (bytes (request.serialize codec)).length) :=
        if_pos (Nat.not_le.mp hbody)
      have hchecked : checkRequestBody codec request = .error (.requestTooLarge
          maxSynchronizationRequestBytes (byteLength (request.toJson.render codec))) :=
        if_pos (Nat.not_le.mp hbody)
      simp only [hprepared, hchecked]
      exact { hs with
        reader := rfl
        submissions := by simp [hs.submissions]; rfl
        submitted := hsubmitted _ }

/-- A posted message is the print of the posted request at its place. -/
theorem Represents.posted_at {w : WireState} {s : State} (hs : Represents codec w s) (index : Nat) :
    w.posted[index]? = s.posted[index]?.map (buildHttpRequest codec) := by
  rw [hs.posted, List.getElem?_map]

/-- A new answer to a posted request. -/
theorem Represents.answer {w : WireState} {s : State} (hs : Represents codec w s)
    {request : Request} (hposted : request ∈ s.posted) {response : HttpResponse (List UInt8)}
    {answer : ApiResponse} (hanswers : Answers codec response answer)
    {backend : IngestDatabase} :
    Represents codec
      { w with
        backend
        answers := w.answers ++ [(buildHttpRequest codec request, response)] }
      { s with backend, answers := s.answers ++ [(request, answer)] } :=
  { hs with
    backend := rfl
    answers := List.rel_append hs.answers (.cons ⟨rfl, hanswers⟩ .nil)
    answered := by
      intro answered hmem
      rcases List.mem_append.mp hmem with hmem | hmem
      · exact hs.answered answered hmem
      · rw [List.mem_singleton.mp hmem]
        exact (hs.fits request hposted).1 }

/-- A submission that waits for its answer gets on. -/
theorem Represents.setPhase {w : WireState} {s : State} (hs : Represents codec w s) {index : Nat}
    {submission : Submission} (hsubmission : submission ∈ s.submissions) (phase : Phase) :
    Represents codec
      { w with submissions := s.submissions.set index { submission with phase } }
      { s with submissions := s.submissions.set index { submission with phase } } :=
  { hs with
    submissions := rfl
    submitted := by
      intro other hmem
      rcases List.mem_or_eq_of_mem_set hmem with hmem | rfl
      · exact hs.submitted other hmem
      · exact hs.submitted submission hsubmission }

/-- The steps of a submission at the reader do not look at the network. -/
theorem Represents.proceed {w : WireState} {s : State} (hs : Represents codec w s) {index : Nat}
    {submission : Submission} (hsubmission : submission ∈ s.submissions) :
    Represents codec
      { w with
        reader := (w.withoutNetwork.proceed codec index submission).reader
        submissions := (w.withoutNetwork.proceed codec index submission).submissions }
      (s.proceed codec index submission) := by
  have herased : ∀ other ∈ s.submissions.eraseIdx index, other.request.Reprintable codec :=
    fun other hother => hs.submitted other (List.mem_of_mem_eraseIdx hother)
  unfold State.proceed
  cases hphase : submission.phase with
  | awaiting =>
    exact hs
  | acknowledged acknowledgement =>
    simp only [WireState.withoutNetwork, hs.reader, hs.submissions]
    split
    · have hstored :=
        @Represents.setPhase codec w s hs index submission hsubmission (.stored acknowledgement)
      exact { hstored with reader := rfl }
    · exact { hs with
        reader := rfl
        submissions := rfl
        submitted := herased }
  | stored acknowledgement =>
    simp only [WireState.withoutNetwork, hs.reader, hs.submissions]
    exact { hs with
      reader := rfl
      submissions := rfl
      submitted := herased }
  | failed category =>
    simp only [WireState.withoutNetwork, hs.reader, hs.submissions]
    exact { hs with
      reader := rfl
      submissions := rfl
      submitted := herased }

/-- A response that reaches a submission is its answer, or a failed reading. -/
theorem Faithful.receive_phase (h : Faithful codec read extract)
    {response : HttpResponse (List UInt8)} {answer : ApiResponse}
    (hanswers : Answers codec response answer) (request : Request)
    {chunks : List (List UInt8)} {cut : Option ReqwestError}
    (harrives : Arrives response.body chunks cut) :
    let received := Phase.ofHttpResult (receiveHttpResponse read request
      ⟨response.status, response.headers, Body.ofChunks cut chunks⟩)
    match cut with
    | none => received = .ofResult (receiveResponse codec request answer)
    | some e => received = .failed (responseFailureCategory e) := by
  intro received
  obtain ⟨hleading, hwhole⟩ := harrives
  cases cut with
  | none =>
    have hreceived := h.receive hanswers request (hwhole rfl)
    simp only [received]
    cases hhttp : receiveHttpResponse read request
        ⟨response.status, response.headers, Body.ofChunks none chunks⟩ with
    | ok acknowledgement =>
      rw [hhttp] at hreceived
      have hplain := Fallible.mapError_eq_ok.mp hreceived.symm
      rw [hplain]
      rfl
    | error e =>
      rw [hhttp] at hreceived
      obtain ⟨plain, hplain, hcategory⟩ := Fallible.mapError_eq_error.mp hreceived.symm
      rw [hplain]
      exact congrArg Phase.failed hcategory.symm
  | some e =>
    simp only [received, receiveHttpResponse,
      readBoundedBody_cut hleading (body_le_of_answers hanswers)]
    rfl

/-- The failure of the network that a failed reading stands for. -/
def readFailure (e : ReqwestError) : NetworkFailure :=
  if e.isTimeout then .responseTimeout else .interruptedResponse

/-- The failure of the network that a failed sending stands for. -/
def sendFailure (e : ReqwestError) : NetworkFailure :=
  if e.isTimeout then .requestTimeout else .connection

theorem failureCategory_readFailure (e : ReqwestError) :
    (readFailure e).error.failureCategory = responseFailureCategory e := by
  unfold readFailure responseFailureCategory
  split <;> rfl

theorem failureCategory_sendFailure (e : ReqwestError) :
    (sendFailure e).error.failureCategory = requestFailureCategory e := by
  unfold sendFailure requestFailureCategory
  split <;> rfl

/-- An event that does nothing, for responses that are not for the submission. -/
theorem step_serve_none (s : State) :
    step codec sha256 environmentId s (.serve s.posted.length none) = s := by
  simp [step]

/-- Every event of the wire is an event of the composed system, which enqueues
nothing else. -/
theorem Represents.step {w : WireState} {s : State} (hs : Represents codec w s)
    (h : Faithful codec read extract) (hqueue : QueueReprints codec s.reader) (event : WireEvent) :
    ∃ event', Represents codec (wireStep codec sha256 environmentId read extract w event)
        (System.step codec sha256 environmentId s event') ∧
      ∀ readerId draft, event' = .call (.enqueue readerId draft) →
        event = .call (.enqueue readerId draft) := by
  have hnothing : ∃ event', Represents codec w (System.step codec sha256 environmentId s event') ∧
      ∀ readerId draft, event' = .call (.enqueue readerId draft) →
        event = .call (.enqueue readerId draft) :=
    ⟨.serve s.posted.length none, by rw [step_serve_none]; exact hs, by simp⟩
  cases event with
  | call localCall =>
    refine ⟨.call localCall, { hs with reader := ?_ }, fun readerId draft henqueue => ?_⟩
    · show perform codec w.reader _ = perform codec s.reader _
      rw [hs.reader]
    · cases henqueue
      rfl
  | submit readerId batchId completedAt retryAt =>
    exact ⟨.submit readerId batchId completedAt retryAt,
      hs.submit hqueue readerId batchId completedAt retryAt, by simp⟩
  | serve index elapsed =>
    simp only [wireStep, hs.posted_at]
    cases hposted : s.posted[index]? with
    | none => exact hnothing
    | some request =>
      have hmem := List.mem_of_getElem? hposted
      obtain ⟨hreprintable, hbody⟩ := hs.fits request hmem
      obtain ⟨elapsed', hanswers, hdatabase⟩ := @Faithful.handle_build codec sha256 environmentId
        read extract h request hreprintable hbody s.backend elapsed
      refine ⟨.serve index elapsed', ?_, by simp⟩
      simp only [System.step, hposted, Option.map_some, hs.backend, hdatabase]
      exact hs.answer hmem hanswers
  | fault index elapsed commits =>
    simp only [wireStep, hs.posted_at]
    cases hposted : s.posted[index]? with
    | none => exact hnothing
    | some request =>
      have hmem := List.mem_of_getElem? hposted
      obtain ⟨hreprintable, hbody⟩ := hs.fits request hmem
      obtain ⟨elapsed', -, hdatabase⟩ := @Faithful.handle_build codec sha256 environmentId
        read extract h request hreprintable hbody s.backend elapsed
      refine ⟨.fault index elapsed' commits, ?_, by simp⟩
      simp only [System.step, hposted, Option.map_some, hs.backend, hdatabase]
      exact hs.answer hmem (answers_service .backendTemporarilyUnavailable)
  | changeStatus readerId status =>
    refine ⟨.changeStatus readerId status, { hs with backend := ?_ }, by simp⟩
    simp only [wireStep, System.step, hs.backend]
  | deliver index answer chunks cut =>
    simp only [wireStep, hs.submissions]
    split
    · next submission message response hsubmission hresponse =>
      split
      · next hmatches =>
        obtain ⟨hawaiting, hmessage, harrives⟩ := hmatches
        obtain ⟨⟨request, plain⟩, hplain, hbuilt, hanswers⟩ :=
          forall₂_getElem? hs.answers hresponse
        have hsubmissionMem := List.mem_of_getElem? hsubmission
        have hrequest : submission.request = request :=
          h.build_injective (hs.submitted submission hsubmissionMem)
            (hs.answered _ (List.mem_of_getElem? hplain)) (hmessage.trans hbuilt)
        have hphase := h.receive_phase hanswers submission.request harrives
        cases cut with
        | none =>
          refine ⟨.deliver index answer, ?_, by simp⟩
          simp only [System.step, hsubmission, hplain, hawaiting, hrequest, and_self, if_true]
          rw [← hrequest] at hphase ⊢
          simp only [hphase]
          exact hs.setPhase hsubmissionMem _
        | some e =>
          refine ⟨.lose index (readFailure e), ?_, by simp⟩
          simp only [System.step, hsubmission, hawaiting, if_true, failureCategory_readFailure]
          simp only [hphase]
          exact hs.setPhase hsubmissionMem _
      · exact hnothing
    · exact hnothing
  | lose index e =>
    simp only [wireStep, hs.submissions]
    split
    · next submission hsubmission =>
      split
      · next hawaiting =>
        refine ⟨.lose index (sendFailure e), ?_, by simp⟩
        simp only [System.step, hsubmission, hawaiting, if_true, failureCategory_sendFailure]
        exact hs.setPhase (List.mem_of_getElem? hsubmission) _
      · exact hnothing
    · exact hnothing
  | proceed index =>
    simp only [wireStep, hs.submissions]
    split
    · next submission hsubmission =>
      refine ⟨.proceed index, ?_, by simp⟩
      simp only [System.step, hsubmission]
      exact hs.proceed (List.mem_of_getElem? hsubmission)
    · exact hnothing
  | crash =>
    exact ⟨.crash, { hs with submissions := rfl, submitted := by simp [System.step] }, by simp⟩

theorem wire_simulates (h : Faithful codec read extract) :
    Runs.Simulates (WireEvent.Reprints codec) (wireStep codec sha256 environmentId read extract)
      (step codec sha256 environmentId)
      (fun w s => Represents codec w s ∧ QueueReprints codec s.reader) := by
  intro w s event hevent ⟨hs, hqueue⟩
  obtain ⟨event', hstep, henqueues⟩ :=
    @Represents.step codec sha256 environmentId read extract w s hs h hqueue event
  refine ⟨event', hstep, forall_envelopes_step hqueue fun readerId draft henqueue => ?_⟩
  rw [henqueues readerId draft henqueue] at hevent
  exact hevent

/-! ## Whole runs -/

/-- Over raw HTTP, with any chunks and any broken or lost responses, every run
whose envelopes stay as they are once they are printed is a run of the composed
system between printed messages; so the backend holds whatever the reader has
acknowledged. -/
theorem wire_refines (h : Faithful codec read extract) {db₀ : ReaderDatabase}
    (hfresh : FreshlyBound db₀) (readerEquipment : List ReaderEquipmentRow)
    {events : List WireEvent} (hevents : ∀ event ∈ events, event.Reprints codec) :
    let w := Runs.run (wireStep codec sha256 environmentId read extract)
      (.initial db₀ readerEquipment) events
    (∃ composed : List Event, composed.length = events.length ∧
      Represents codec w (Runs.run (step codec sha256 environmentId)
        (.initial db₀ readerEquipment) composed)) ∧
    ∀ row ∈ w.reader.offlineTransactions, row.queueState = .acknowledged →
      HeldBy codec sha256 w.backend row := by
  intro w
  have hsimulates := @wire_simulates codec sha256 environmentId read extract h
  have hqueue : QueueReprints codec db₀ := by
    obtain ⟨identity, -, rfl⟩ := hfresh.exists_identity
    exact List.forall_mem_nil _
  have hinitial : Represents codec (.initial db₀ readerEquipment) (.initial db₀ readerEquipment) ∧
      QueueReprints codec (State.initial db₀ readerEquipment).reader :=
    ⟨represents_initial db₀ readerEquipment, hqueue⟩
  obtain ⟨composed, hlength, hrun, -⟩ := hsimulates.run hinitial hevents
  refine ⟨⟨composed, hlength, hrun⟩, fun row hrow hacknowledged => ?_⟩
  obtain ⟨s, ⟨hs, -⟩, inv⟩ := hsimulates.transfer hinitial
    (fun composed => @invariant_run codec sha256 environmentId _ hfresh readerEquipment composed)
    hevents
  rw [hs.reader] at hrow
  rw [hs.backend]
  exact inv.acknowledged_heldBy hrow hacknowledged

/-- The network has no part in the steps of a submission at the reader. -/
theorem withoutNetwork_proceed (w : WireState) (index : Nat) :
    (wireStep codec sha256 environmentId read extract w (.proceed index)).withoutNetwork =
      step codec sha256 environmentId w.withoutNetwork (.proceed index) := by
  simp only [wireStep, step, WireState.withoutNetwork]
  cases w.submissions[index]? with
  | none => rfl
  | some submission =>
    simp only [State.proceed]
    cases submission.phase with
    | awaiting | stored | failed => rfl
    | acknowledged acknowledgement =>
      dsimp only
      cases (storeProtocolSynchronizationAcknowledgement codec w.reader acknowledgement).result <;>
        rfl

/-! ## A reader of JSON texts -/

open Classical in
/-- Reads what was printed and nothing else. -/
noncomputable def readPrinted (codec : Codec) (text : List UInt8) : Option Value :=
  if h : ∃ v : Value, v.integral = true ∧ bytes (v.render codec) = text then some h.choose
  else none

/-- An extractor of JSON bodies within the limit. -/
def extractWith (codec : Codec) (read : List UInt8 → Option Value) (message : HttpRequest) :
    Except Nat Request :=
  if get message.headers "content-type" ≠ some (bytes jsonMediaType) then .error 415
  else if maxSynchronizationRequestBytes < message.body.length then .error 413
  else Fallible.orFail 422 ((read message.body).bind (Request.fromJson codec))

theorem readPrinted_render (codec : Codec) {v : Value} (hv : v.integral = true) :
    readPrinted codec (bytes (v.render codec)) = some v := by
  have hexists : ∃ w : Value, w.integral = true ∧
      bytes (w.render codec) = bytes (v.render codec) := ⟨v, hv, rfl⟩
  obtain ⟨hw, hprint⟩ := hexists.choose_spec
  rw [readPrinted, dif_pos hexists,
    Value.render_injective codec hw hv (toUTF8_inj hprint)]

theorem integral_nat (n : Nat) : (nat n).integral = true := rfl

theorem integral_option {α : Type*} {f : α → Value} (hf : ∀ a, (f a).integral = true)
    (o : Option α) : (option f o).integral = true := by
  cases o with
  | none => rfl
  | some a => exact hf a

theorem integral_request (request : Request) : request.toJson.integral = true := by
  have hentries : itemsIntegral (request.entries.map RequestEntry.toJson) = true := by
    refine itemsIntegral_of_forall fun v hv => ?_
    obtain ⟨entry, -, rfl⟩ := List.mem_map.mp hv
    rfl
  simp [Request.toJson, Value.integral, membersIntegral, integral_nat, int_integral, hentries]

theorem integral_acknowledgement (acknowledgement : Acknowledgement) :
    acknowledgement.toJson.integral = true := by
  have hentries :
      itemsIntegral (acknowledgement.entries.map AcknowledgementEntry.toJson) = true := by
    refine itemsIntegral_of_forall fun v hv => ?_
    obtain ⟨entry, -, rfl⟩ := List.mem_map.mp hv
    have hcategory : ∀ category : FailureCategory, (Value.string category.asStr).integral = true :=
      fun _ => rfl
    simp [AcknowledgementEntry.toJson, Value.integral, membersIntegral, integral_nat,
      integral_option int_integral, integral_option hcategory]
  simp [Acknowledgement.toJson, Value.integral, membersIntegral, integral_nat, int_integral,
    hentries]

/-- What an exchange relies on can be had. -/
theorem faithful_readPrinted (codec : Codec) :
    Faithful codec (readPrinted codec) (extractWith codec (readPrinted codec)) where
  request request _ := readPrinted_render codec (integral_request request)
  acknowledgement acknowledgement :=
    readPrinted_render codec (integral_acknowledgement acknowledgement)
  error _ _ := readPrinted_render codec rfl
  extracts message request htype hbody hread := by
    rw [extractWith, if_neg (not_not.mpr htype), if_neg (Nat.not_lt.mpr hbody), hread]
    rfl

/-- Looks a text up among the prints of known documents first, so that these are
read by evaluation. -/
noncomputable def readKnown (codec : Codec) (known : List Value) (text : List UInt8) :
    Option Value :=
  match known.find? fun v => bytes (v.render codec) == text with
  | some v => some v
  | none => readPrinted codec text

theorem readKnown_eq (codec : Codec) {known : List Value}
    (hknown : ∀ v ∈ known, v.integral = true) : readKnown codec known = readPrinted codec := by
  funext text
  unfold readKnown
  split
  · next v hfound =>
    have htext := List.find?_some (p := fun v : Value => bytes (v.render codec) == text) hfound
    obtain rfl := eq_of_beq htext
    rw [readPrinted_render codec (hknown v (List.mem_of_find?_eq_some hfound))]
  · rfl

/-- The answer to the repeated sample request. -/
def sampleReplay : Acknowledgement := { sampleAccepted with replayed := true }

/-- A batch is submitted twice. One response breaks off after one byte, and the
other one arrives in two chunks. -/
def sampleWireExchange : List WireEvent :=
  [.call (.enqueue sampleReaderId (sampleDraft (.object []))),
    .call (.createBatch sampleReaderId .current 1 10 sampleBatchId),
    .call (.markBatch sampleReaderId sampleBatchId 2),
    .submit sampleReaderId sampleBatchId 4 5,
    .submit sampleReaderId sampleBatchId 4 5,
    .serve 0 (some 3),
    .serve 1 (some 3),
    .deliver 0 0 [[123]] (some ⟨true⟩),
    .deliver 1 1 [(bytes (sampleReplay.serialize sampleCodec)).take 9,
      (bytes (sampleReplay.serialize sampleCodec)).drop 9] none]

/-- The second submission goes on with its acknowledgement. -/
def sampleWireSettlement : List WireEvent := sampleWireExchange ++ [.proceed 1, .proceed 1]

theorem sampleWireSettlement_reprints :
    ∀ event ∈ sampleWireSettlement, event.Reprints sampleCodec := by
  have henvelope : sampleCodec.ReprintsAt ((Value.object []).render sampleCodec) :=
    Codec.reprintsAt_render (by rw [sampleCodec_render, sampleCodec_parse])
  simp only [sampleWireSettlement, sampleWireExchange, List.cons_append, List.nil_append,
    List.forall_mem_cons]
  exact ⟨henvelope, trivial, trivial, trivial, trivial, trivial, trivial, trivial, trivial, trivial,
    trivial, List.forall_mem_nil _⟩

def sampleWireRun (read : List UInt8 → Option Value) : WireState :=
  Runs.run
    (wireStep sampleCodec Sha256.digest sampleEnvironmentId read (extractWith sampleCodec read))
    (.initial sampleDatabase sampleEquipment) sampleWireExchange

/-- The second submission has received its acknowledgement. -/
theorem sampleWireRun_answered :
    let w := sampleWireRun (readPrinted sampleCodec)
    (w.reader, w.submissions.map fun submission =>
        (submission.readerId, submission.batchId, submission.completedAt, submission.phase)) =
      (sampleInFlight,
        [(sampleReaderId, sampleBatchId, 4, .failed .networkTimeout),
          (sampleReaderId, sampleBatchId, 4, .acknowledged sampleReplay)]) := by
  have hknown : ∀ v ∈ [sampleRequest.toJson, sampleReplay.toJson], v.integral = true := by
    simp [integral_request, integral_acknowledgement]
  rw [← readKnown_eq sampleCodec hknown]
  decide +kernel

theorem sampleWireSettlement_acknowledged :
    (Runs.run (wireStep sampleCodec Sha256.digest sampleEnvironmentId (readPrinted sampleCodec)
        (extractWith sampleCodec (readPrinted sampleCodec)))
      (.initial sampleDatabase sampleEquipment)
      sampleWireSettlement).reader.offlineTransactions.map (·.queueState) = [.acknowledged] := by
  obtain ⟨hreader, hsubmissions⟩ := Prod.mk.inj sampleWireRun_answered
  rw [sampleWireSettlement, Runs.run_append, ← sampleWireRun]
  generalize sampleWireRun (readPrinted sampleCodec) = w at *
  obtain ⟨failed, others, hlist, -, hothers⟩ := List.map_eq_cons_iff.mp hsubmissions
  obtain ⟨submission, none, rfl, hcolumns, -⟩ := List.map_eq_cons_iff.mp hothers
  have hsubmission : w.withoutNetwork.submissions[1]? = some submission := by
    rw [WireState.withoutNetwork, hlist]
    rfl
  have hsettled := @sampleInFlight_proceed Sha256.digest sampleEnvironmentId w.withoutNetwork
    hreader 1 submission hsubmission sampleReplay hcolumns (by decide)
  rw [Runs.run_cons, Runs.run_cons, Runs.run_nil] at hsettled ⊢
  rw [← withoutNetwork_proceed, ← withoutNetwork_proceed] at hsettled
  exact hsettled

theorem wire_refines_sample :
    let w := Runs.run (wireStep sampleCodec Sha256.digest sampleEnvironmentId
        (readPrinted sampleCodec) (extractWith sampleCodec (readPrinted sampleCodec)))
      (.initial sampleDatabase sampleEquipment) sampleWireSettlement
    w.reader.offlineTransactions.map (·.queueState) = [.acknowledged] ∧
    (∃ composed : List Event, composed.length = sampleWireSettlement.length ∧
      Represents sampleCodec w (Runs.run (step sampleCodec Sha256.digest sampleEnvironmentId)
        (.initial sampleDatabase sampleEquipment) composed)) ∧
    ∀ row ∈ w.reader.offlineTransactions, row.queueState = .acknowledged →
      HeldBy sampleCodec Sha256.digest w.backend row := by
  have hacknowledged := sampleWireSettlement_acknowledged
  have hrefines := @wire_refines sampleCodec Sha256.digest sampleEnvironmentId _ _
    (faithful_readPrinted sampleCodec) _ sampleDatabase_freshlyBound sampleEquipment _
    sampleWireSettlement_reprints
  generalize Runs.run (wireStep sampleCodec Sha256.digest sampleEnvironmentId
    (readPrinted sampleCodec) (extractWith sampleCodec (readPrinted sampleCodec)))
    (.initial sampleDatabase sampleEquipment) sampleWireSettlement = w at *
  exact ⟨hacknowledged, hrefines⟩

end TransitGuard.System
