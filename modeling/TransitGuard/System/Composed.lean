import TransitGuard.Backend.Service
import TransitGuard.Reader.Requested
import TransitGuard.Reader.Coordinated
import TransitGuard.Reader.Submission

/-!
One reader and one backend with a network between them. The network keeps every
request that was ever posted and every answer that was ever given: a message is
lost by never being used, delayed by being used late, and repeated by being
used again. Requests and answers travel as values: their printing and reading,
and with it the second canonicalization of an envelope by the decoder of the API,
are the matter of the system over raw HTTP. A submission runs in steps, one for
each database operation, and anything may happen between two of them, a crash of
the reader included.
-/

namespace TransitGuard.System

open Protocol Reader Backend

/-- The calls of the reader that need no network. -/
inductive LocalCall
  | enqueue (readerId : ReaderId) (draft : OfflineTransactionDraft)
  | createBatch (readerId : ReaderId) (protocolVersion : DeviceProtocolVersion)
      (createdAt : UnixMilliseconds) (limit : Nat) (generated : SynchronizationBatchId)
  | markBatch (readerId : ReaderId) (batchId : SynchronizationBatchId)
      (attemptedAt : UnixMilliseconds)
  | recoverBatches (readerId : ReaderId) (recoveredAt : UnixMilliseconds)
  | recoverQueue (readerId : ReaderId) (recoveredAt : UnixMilliseconds)

def LocalCall.operation : LocalCall → Operation
  | .enqueue readerId draft => .enqueue readerId draft
  | .createBatch readerId protocolVersion createdAt limit generated =>
    .createBatch readerId protocolVersion createdAt limit generated
  | .markBatch readerId batchId attemptedAt => .markBatch readerId batchId attemptedAt
  | .recoverBatches readerId recoveredAt => .recoverBatches readerId recoveredAt
  | .recoverQueue readerId recoveredAt => .recoverQueue readerId recoveredAt

/-- Where `submit_in_flight_synchronization_batch` stands. -/
inductive Phase
  | awaiting
  | acknowledged (acknowledgement : Acknowledgement)
  | stored (acknowledgement : Acknowledgement)
  | failed (category : FailureCategory)
  deriving DecidableEq

/-- A call of `submit_in_flight_synchronization_batch` under way: its arguments,
the request it loaded, and where it stands. -/
structure Submission where
  readerId : ReaderId
  batchId : SynchronizationBatchId
  completedAt : UnixMilliseconds
  retryAt : UnixMilliseconds
  request : Request
  phase : Phase

structure State where
  reader : ReaderDatabase
  backend : IngestDatabase
  posted : List Request
  answers : List (Request × ApiResponse)
  submissions : List Submission

/-- A reader, a backend that has ingested nothing, and an empty network. -/
def State.initial (reader : ReaderDatabase) (readerEquipment : List ReaderEquipmentRow) : State :=
  ⟨reader, ⟨readerEquipment, [], [], []⟩, [], [], []⟩

/-- What can happen next. Submissions, posted requests and answers are named by
their place in the lists of the state. -/
inductive Event
  | call (localCall : LocalCall)
  | submit (readerId : ReaderId) (batchId : SynchronizationBatchId)
      (completedAt retryAt : UnixMilliseconds)
  /-- The backend handles a posted request. -/
  | serve (request : Nat) (elapsed : Option Nat)
  /-- The database fails while the backend handles a posted request, before or
  after the commit. -/
  | fault (request : Nat) (elapsed : Option Nat) (commits : Bool)
  | changeStatus (readerId : ReaderId) (status : ReaderStatus)
  /-- A submission receives an answer to its request. -/
  | deliver (submission answer : Nat)
  /-- A submission gives up waiting. -/
  | lose (submission : Nat) (failure : NetworkFailure)
  /-- A submission runs its next database operation. -/
  | proceed (submission : Nat)
  | crash

variable (codec : Json.Codec) (sha256 : Sha256) (environmentId : EnvironmentId)

/-- The result of an exchange, as the coordinator goes on with it. -/
def Phase.ofResult : Except HttpClientError Acknowledgement → Phase
  | .ok acknowledgement => .acknowledged acknowledgement
  | .error e => .failed e.failureCategory

/-- The beginning of a submission, up to the posting of the request. -/
def State.submit (s : State) (readerId : ReaderId) (batchId : SynchronizationBatchId)
    (completedAt retryAt : UnixMilliseconds) : State :=
  match loadSynchronizationBatchRequest codec s.reader readerId batchId with
  | .error _ => s
  | .ok request =>
    match checkRequestBody codec request with
    | .error e =>
      { s with submissions := s.submissions ++
          [⟨readerId, batchId, completedAt, retryAt, request, .failed e.failureCategory⟩] }
    | .ok () =>
      { s with
        posted := s.posted ++ [request]
        submissions := s.submissions ++
          [⟨readerId, batchId, completedAt, retryAt, request, .awaiting⟩] }

/-- The next database operation of the submission at `index`. A failed
operation ends the submission. -/
def State.proceed (s : State) (index : Nat) (submission : Submission) : State :=
  match submission.phase with
  | .awaiting => s
  | .acknowledged acknowledgement =>
    let stored := storeProtocolSynchronizationAcknowledgement codec s.reader acknowledgement
    match stored.result with
    | .ok _ =>
      { s with
        reader := stored.database
        submissions :=
          s.submissions.set index { submission with phase := .stored acknowledgement } }
    | .error _ =>
      { s with reader := stored.database, submissions := s.submissions.eraseIdx index }
  | .stored acknowledgement =>
    { s with
      reader := (applySynchronizationAcknowledgement s.reader submission.readerId
        submission.batchId (max submission.completedAt acknowledgement.receivedAt)).database
      submissions := s.submissions.eraseIdx index }
  | .failed category =>
    { s with
      reader := perform codec s.reader (failureOperation submission.readerId submission.batchId
        category submission.completedAt submission.retryAt)
      submissions := s.submissions.eraseIdx index }

def step (s : State) : Event → State
  | .call localCall => { s with reader := perform codec s.reader localCall.operation }
  | .submit readerId batchId completedAt retryAt =>
    s.submit codec readerId batchId completedAt retryAt
  | .serve index elapsed =>
    match s.posted[index]? with
    | none => s
    | some request =>
      let served := submitSynchronizationBatch codec sha256 environmentId s.backend request elapsed
      { s with backend := served.2, answers := s.answers ++ [(request, served.1)] }
  | .fault index elapsed commits =>
    match s.posted[index]? with
    | none => s
    | some request =>
      let served := submitSynchronizationBatch codec sha256 environmentId s.backend request elapsed
      { s with
        backend := if commits then served.2 else s.backend
        answers := s.answers ++ [(request, .error .backendTemporarilyUnavailable)] }
  | .changeStatus readerId status =>
    { s with backend := { s.backend with
        readerEquipment := Table.updateWhere (·.id == readerId) ({ · with status })
          s.backend.readerEquipment } }
  | .deliver index answer =>
    match s.submissions[index]?, s.answers[answer]? with
    | some submission, some (request, response) =>
      if submission.phase = .awaiting ∧ submission.request = request then
        { s with submissions := s.submissions.set index { submission with
            phase := .ofResult (receiveResponse codec request response) } }
      else s
    | _, _ => s
  | .lose index failure =>
    match s.submissions[index]? with
    | some submission =>
      if submission.phase = .awaiting then
        { s with submissions := s.submissions.set index { submission with
            phase := .failed failure.error.failureCategory } }
      else s
    | none => s
  | .proceed index =>
    match s.submissions[index]? with
    | some submission => s.proceed codec index submission
    | none => s
  | .crash => { s with submissions := [] }

end TransitGuard.System
