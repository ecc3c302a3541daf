import TransitGuard.Library.Runs
import TransitGuard.Library.Sha256
import TransitGuard.Backend.Service

/-!
Replays. A call builds a new acknowledgement and a new record before it looks
whether the batch is there, so what a repeated request is answered with must
not depend on anything the call itself brings along.
-/

namespace TransitGuard.Backend

open Protocol Fallible

/-- A call of the service, or a change of the status of a reader. -/
inductive ServiceCall
  | process (request : Request) (receivedAt : UnixMilliseconds)
  | changeStatus (readerId : ReaderId) (status : ReaderStatus)

variable (codec : Json.Codec) (sha256 : Sha256) (environmentId : EnvironmentId)

/-- The database after a call. -/
def serve (db : IngestDatabase) : ServiceCall → IngestDatabase
  | .process request receivedAt =>
    match process codec sha256 environmentId db request receivedAt with
    | .ok (_, committed) => committed
    | .error _ => db
  | .changeStatus readerId status => db.changeStatus readerId status

variable {codec sha256 environmentId} {db db' : IngestDatabase} {request : Request}
  {receivedAt : UnixMilliseconds} {acknowledgement : Acknowledgement}

/-! ## A stored batch stays -/

/-- The batch of the request is stored, with the answer that belongs to it. -/
structure Answered (sha256 : Sha256) (request : Request) (acknowledgement : Acknowledgement)
    (row : IngestBatchRow) : Prop where
  reader : row.readerId = request.readerId
  fingerprint : row.requestFingerprint = request.fingerprint sha256
  answer : row.canonicalAcknowledgement.withReplayed true = acknowledgement.withReplayed true

/-- Whatever a call does, a batch that is found is found unchanged afterwards. -/
theorem findBatch_serve {batchId : SynchronizationBatchId} {row : IngestBatchRow}
    (h : db.findBatch batchId = some row) (call : ServiceCall) :
    (serve codec sha256 environmentId db call).findBatch batchId = some row := by
  cases call with
  | changeStatus readerId status => exact h
  | process request receivedAt =>
    unfold serve
    dsimp only
    split
    · next acknowledgement committed hprocess =>
      rcases (process_ok hprocess).2 with ⟨-, new, added, hingests⟩ | ⟨rfl, -⟩
      · exact IngestDatabase.findBatch_append h hingests.batches
      · exact h
    · exact h

theorem findBatch_run {batchId : SynchronizationBatchId} {row : IngestBatchRow}
    (h : db.findBatch batchId = some row) (calls : List ServiceCall) :
    (Runs.run (serve codec sha256 environmentId) db calls).findBatch batchId = some row :=
  Runs.invariant (P := fun db : IngestDatabase => db.findBatch batchId = some row)
    (fun _ call h => findBatch_serve h call) h calls

/-- A call that succeeds leaves the batch behind with its answer. -/
theorem answered_of_process
    (h : process codec sha256 environmentId db request receivedAt = .ok (acknowledgement, db')) :
    ∃ row, db'.findBatch request.batchId = some row ∧
      Answered sha256 request acknowledgement row := by
  obtain ⟨-, built, ingest, -, hprepared, h⟩ := process_eq_ok.mp h
  obtain ⟨-, -, hingest⟩ := prepare_ok.mp hprepared
  have hbatchId : ingest.batchId = request.batchId := by rw [hingest]
  have hreader : ingest.readerId = request.readerId := by rw [hingest]
  have hfingerprint : ingest.requestFingerprint = request.fingerprint sha256 := by rw [hingest]
  have hcanonical : ingest.canonicalAcknowledgement = built := by rw [hingest]
  rcases h with ⟨hstored, rfl⟩ | ⟨hstored, row, hfound, rfl⟩
  · rcases storeStatements_ok hstored with ⟨-, hfresh, hwrites⟩ | ⟨h, -⟩
    · refine ⟨ingest.batchRow, ?_, hreader, hfingerprint, congrArg (·.withReplayed true) hcanonical⟩
      rw [← hbatchId]
      exact IngestDatabase.findBatch_appended ingest.batchRow hfresh hwrites.batches
    · cases h
  · rcases storeStatements_ok hstored with ⟨h, -⟩ | ⟨-, rfl, found, hrow, hmatches⟩
    · cases h
    · rw [hbatchId, hfound, Option.some.injEq] at hrow
      subst hrow
      exact ⟨row, hfound, hmatches.1.trans hreader, hmatches.2.trans hfingerprint, rfl⟩

/-! ## The replay law -/

/-- The digests of the two requests do not collide. -/
def Distinguishes (sha256 : Sha256) (a b : Request) : Prop :=
  sha256 a.fingerprintBytes = sha256 b.fingerprintBytes → a.fingerprintBytes = b.fingerprintBytes

theorem Distinguishes.fingerprint_ne {a b : Request} (h : Distinguishes sha256 a b)
    (hne : a ≠ b) : a.fingerprint sha256 ≠ b.fingerprint sha256 :=
  fun heq => hne (Request.fingerprintBytes_inj (h heq))

/-- The same request is answered from the stored row. -/
theorem process_of_answered {row : IngestBatchRow} (hacceptable : Acceptable codec request)
    (henvironment : request.environmentId = environmentId)
    (hfound : db.findBatch request.batchId = some row)
    (hanswered : Answered sha256 request acknowledgement row) (hreceived : 0 ≤ receivedAt)
    (hoperational : db.operational request.readerId = true) :
    process codec sha256 environmentId db request receivedAt =
      .ok (acknowledgement.withReplayed true, db) := by
  obtain ⟨built, hbuilt⟩ := exists_buildAcknowledgement request hreceived
  obtain ⟨ingest, hprepared⟩ := exists_prepare
    (buildAcknowledgement_fits hbuilt) hacceptable.envelopes
  obtain ⟨-, -, hingest⟩ := prepare_ok.mp hprepared
  have hbatchId : ingest.batchId = request.batchId := by rw [hingest]
  have hreader : ingest.readerId = request.readerId := by rw [hingest]
  have hfingerprint : ingest.requestFingerprint = request.fingerprint sha256 := by rw [hingest]
  have hstored := storeStatements_of_found (hreader ▸ hoperational) (hbatchId ▸ hfound)
  rw [if_pos ⟨hanswered.reader.trans hreader.symm,
    hanswered.fingerprint.trans hfingerprint.symm⟩] at hstored
  exact process_eq_ok.mpr
    ⟨validateRequestContext_ok.mpr ⟨hacceptable.version, henvironment⟩, built, ingest, hbuilt,
      hprepared, .inr ⟨hstored, row, hfound, hanswered.answer.symm⟩⟩

/-- A different request under the same batch is refused. -/
theorem process_of_conflict {other : Request} {row : IngestBatchRow}
    (hfound : db.findBatch other.batchId = some row)
    (hconflict : row.requestFingerprint ≠ other.fingerprint sha256) :
    ∃ e, process codec sha256 environmentId db other receivedAt = .error e := by
  cases h : process codec sha256 environmentId db other receivedAt with
  | error e => exact ⟨e, rfl⟩
  | ok answer =>
    obtain ⟨acknowledgement, committed⟩ := answer
    obtain ⟨found, hcommitted, hanswered⟩ := answered_of_process h
    have hkept : committed.findBatch other.batchId = some row := by
      rcases (process_ok h).2 with ⟨-, new, added, hingests⟩ | ⟨rfl, -⟩
      · exact IngestDatabase.findBatch_append hfound hingests.batches
      · exact hfound
    rw [hkept, Option.some.injEq] at hcommitted
    exact absurd (hcommitted ▸ hanswered.fingerprint) hconflict

/-- Once a request was answered, it is answered the same at every later time,
whatever happened since, and no other request takes over its batch. -/
theorem process_replay
    (h : process codec sha256 environmentId db request receivedAt = .ok (acknowledgement, db'))
    (calls : List ServiceCall) :
    let after := Runs.run (serve codec sha256 environmentId) db' calls
    (∀ later, 0 ≤ later → after.operational request.readerId = true →
      process codec sha256 environmentId after request later =
        .ok (acknowledgement.withReplayed true, after)) ∧
    ∀ other later, other.batchId = request.batchId → other ≠ request →
      Distinguishes sha256 other request →
      (∃ e, process codec sha256 environmentId after other later = .error e) ∧
        serve codec sha256 environmentId after (.process other later) = after := by
  intro after
  obtain ⟨row, hrow, hanswered⟩ := answered_of_process h
  have hfound : after.findBatch request.batchId = some row := findBatch_run hrow calls
  obtain ⟨hcontext, -⟩ := process_eq_ok.mp h
  constructor
  · intro later hlater hoperational
    exact process_of_answered (process_ok h).1 (validateRequestContext_ok.mp hcontext).2 hfound
      hanswered hlater hoperational
  · intro other later hbatchId hne hdistinct
    have hconflict : row.requestFingerprint ≠ other.fingerprint sha256 := by
      rw [hanswered.fingerprint]
      exact (hdistinct.fingerprint_ne hne).symm
    obtain ⟨e, herror⟩ := process_of_conflict (hbatchId ▸ hfound) hconflict
    refine ⟨⟨e, herror⟩, ?_⟩
    simp only [serve, herror]

/-- An active reader, and nothing ingested yet. -/
def sampleBackend : IngestDatabase := ⟨[⟨sampleReaderId, .active⟩], [], [], []⟩

theorem process_replay_suspended :
    ∃ acknowledgement stored,
      process sampleCodec Sha256.digest sampleEnvironmentId sampleBackend sampleRequest 5 =
        .ok (acknowledgement, stored) ∧
      let after := Runs.run (serve sampleCodec Sha256.digest sampleEnvironmentId) stored
        [.changeStatus sampleReaderId .disabled, .changeStatus sampleReaderId .offline]
      process sampleCodec Sha256.digest sampleEnvironmentId after sampleRequest 9 =
        .ok (acknowledgement.withReplayed true, after) := by
  have hprocess : (process sampleCodec Sha256.digest sampleEnvironmentId sampleBackend
      sampleRequest 5).isOk = true := by decide +kernel
  obtain ⟨⟨acknowledgement, stored⟩, h⟩ := isOk_iff.mp hprocess
  refine ⟨acknowledgement, stored, h, (process_replay h _).1 9 (by decide) ?_⟩
  have hequipment : stored.readerEquipment = sampleBackend.readerEquipment := by
    rcases (process_ok h).2 with ⟨-, row, added, hingests⟩ | ⟨rfl, -⟩
    · exact hingests.equipment
    · rfl
  simp only [Runs.run_cons, Runs.run_nil, serve, IngestDatabase.changeStatus,
    IngestDatabase.operational, hequipment]
  decide

end TransitGuard.Backend
