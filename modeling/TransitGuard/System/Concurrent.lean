import TransitGuard.Backend.Handling
import TransitGuard.System.Fleet

/-!
The fleet over a backend whose transactions run side by side. A handler of the
API prepares a request and begins its store; the statements of all stores, and of
changes of reader equipment, interleave under their row locks; and the handler
answers once its store is over. Stores, handlers and readers may fail at any
point.
-/

namespace TransitGuard.System

open Protocol Reader Backend

/-! ## The deployment -/

/-- A request under way at the API: what was built for it, and the session of
its store. -/
structure Handler where
  request : Request
  acknowledgement : Acknowledgement
  session : Nat

/-- Readers, a backend with its sessions and handlers, and what was ever posted
and answered. -/
structure Deployment (ι : Type) where
  nodes : ι → Node
  world : BackendWorld
  handlers : List Handler
  posted : List Request
  answers : List (Request × ApiResponse)

namespace Deployment

variable {ι : Type}

def initial (databases : ι → ReaderDatabase) (equipment : List EquipmentRow) : Deployment ι :=
  ⟨fun i => ⟨databases i, []⟩, .start ⟨equipment, [], [], []⟩, [], [], []⟩

/-- The readers beside the committed tables. -/
def fleet (d : Deployment ι) : Fleet ι :=
  ⟨d.nodes, d.world.database.ingest, d.posted, d.answers⟩

def answer (d : Deployment ι) (request : Request) (response : ApiResponse) : Deployment ι :=
  { d with answers := d.answers ++ [(request, response)] }

def act (d : Deployment ι) (action : BackendAction) : Deployment ι :=
  { d with world := backendSystem.step d.world action }

end Deployment

/-- What can happen next. Posted requests, sessions and handlers are named by
their place in the lists of the deployment. -/
inductive Occurrence (ι : Type)
  /-- What happens at a reader. The backend's own events have no effect here. -/
  | node (i : ι) (event : Event)
  /-- A handler takes up a posted request. -/
  | receive (request : Nat) (elapsed : Option Nat)
  /-- A session runs its next statement, or ends. -/
  | advance (session : Nat)
  /-- A deadlock, or a lost connection, rolls a session back. -/
  | abort (session : Nat) (error : PersistenceError)
  | changeReader (id : ReaderId) (operations : List ReaderEquipment.Operation)
  /-- A handler answers what has become of its store. -/
  | reply (handler : Nat)
  /-- A handler loses its session, which may commit nevertheless. -/
  | fault (handler : Nat)

section Step

variable {ι : Type} (codec : Json.Codec) (sha256 : Sha256) (environmentId : EnvironmentId)

/-- `submit_synchronization_batch` up to the store. -/
def Deployment.receive (d : Deployment ι) (request : Request) (elapsed : Option Nat) :
    Deployment ι :=
  match currentUnixMilliseconds elapsed with
  | none => d.answer request (.error .backendTemporarilyUnavailable)
  | some receivedAt =>
    match prepareIngest codec sha256 environmentId request receivedAt with
    | .error e => d.answer request (.error e.failureCategory)
    | .ok (acknowledgement, ingest) =>
      { d.act (.begin (.store ingest)) with
        handlers := d.handlers ++ [⟨request, acknowledgement, d.world.sessions.length⟩] }

/-- The response to a request whose store has ended. -/
def Deployment.response (d : Deployment ι) (handler : Handler)
    (outcome : Except BackendError BackendResult) : ApiResponse :=
  (respond d.world.database.ingest handler.request handler.acknowledgement outcome).mapError
    (·.failureCategory)

/-- An event at the reader `i`. -/
def Deployment.node [DecidableEq ι] (d : Deployment ι) (i : ι) (event : Event) : Deployment ι :=
  let f := d.fleet.step codec sha256 environmentId (i, event)
  { d with nodes := f.nodes, posted := f.posted, answers := f.answers }

def Deployment.step [DecidableEq ι] (d : Deployment ι) : Occurrence ι → Deployment ι
  | .node i event => if event.atReader then d.node codec sha256 environmentId i event else d
  | .receive index elapsed =>
    match d.posted[index]? with
    | some request => d.receive codec sha256 environmentId request elapsed
    | none => d
  | .advance session => d.act (.advance session)
  | .abort session error => d.act (.abort session (.ingest (.persistence error)))
  | .changeReader id operations => d.act (.begin (.changeReader id operations))
  | .reply index =>
    match d.handlers[index]? with
    | some handler =>
      match d.world.sessions[handler.session]? with
      | some ⟨_, .ended outcome⟩ =>
        { d.answer handler.request (d.response handler outcome) with
          handlers := d.handlers.eraseIdx index }
      | _ => d
    | none => d
  | .fault index =>
    match d.handlers[index]? with
    | some handler =>
      { d.answer handler.request (.error .backendTemporarilyUnavailable) with
        handlers := d.handlers.eraseIdx index }
    | none => d

end Step

variable {ι : Type} {codec : Json.Codec} {sha256 : Sha256} {environmentId : EnvironmentId}
  {equipment : List EquipmentRow} {d : Deployment ι}

/-! ## The invariant -/

/-- What is stored was prepared from a posted request. -/
def Admitted (codec : Json.Codec) (sha256 : Sha256) (environmentId : EnvironmentId)
    (posted : List Request) (ingest : PreparedIngest) : Prop :=
  ∃ request ∈ posted, ∃ receivedAt acknowledgement,
    prepareIngest codec sha256 environmentId request receivedAt = .ok (acknowledgement, ingest)

/-- The session of a handler stores what was prepared for its request. -/
def Handler.Sound (codec : Json.Codec) (sha256 : Sha256) (environmentId : EnvironmentId)
    (calls : List BackendCall) (handler : Handler) : Prop :=
  ∃ ingest receivedAt, calls[handler.session]? = some (.store ingest) ∧
    prepareIngest codec sha256 environmentId handler.request receivedAt =
      .ok (handler.acknowledgement, ingest)

structure DeploymentInvariant (codec : Json.Codec) (sha256 : Sha256)
    (environmentId : EnvironmentId) (equipment : List EquipmentRow) (d : Deployment ι) :
    Prop where
  fleet : FleetInvariant codec sha256 d.fleet
  world : ∃ actions, d.world = backendRun ⟨equipment, [], [], []⟩ actions
  admitted : ∀ ingest, .store ingest ∈ d.world.calls →
    Admitted codec sha256 environmentId d.posted ingest
  handlers : ∀ handler ∈ d.handlers,
    handler.Sound codec sha256 environmentId d.world.calls

namespace DeploymentInvariant

/-- The fleet meets the committed tables, whatever the next action of the
backend commits. -/
theorem fleet_act (inv : DeploymentInvariant codec sha256 environmentId equipment d)
    (hequipment : Keyed ⟨equipment, [], [], []⟩) (action : BackendAction) :
    FleetInvariant codec sha256 (d.act action).fleet := by
  have hsound : Isolation.Sound backendSystem backendDiscipline Commits ⟨equipment, [], [], []⟩
      d.world := by
    obtain ⟨actions, hworld⟩ := inv.world
    rw [hworld]
    exact backendRun_sound hequipment actions
  rcases hsound.step_cases action with hsame | ⟨i, call, result, rfl, hended, -, hcommits⟩
  · have hfleet : (d.act action).fleet = d.fleet := by
      simp only [Deployment.fleet, Deployment.act, hsame]
    rw [hfleet]
    exact inv.fleet
  · -- the call was there before its last step
    have hcall : call ∈ d.world.calls := by
      have hafter := Isolation.getElem?_calls hended
      rw [Isolation.calls_step] at hafter
      simpa [Isolation.Action.begun] using List.mem_of_getElem? hafter
    cases call with
    | changeReader id operations =>
      obtain ⟨readerEquipment, htables⟩ := hcommits.ingest_of_change
      have hbackend : (d.act (.advance i)).world.database.ingest =
          { d.fleet.backend with readerEquipment } := htables
      refine inv.fleet.withBackend ?_ ?_
      · rw [hbackend]
        exact inv.fleet.hub.withEquipment readerEquipment
      · rw [hbackend]
        exact List.Subset.refl _
    | store ingest =>
      obtain ⟨request, hposted, receivedAt, acknowledgement, hprepared⟩ := inv.admitted ingest hcall
      obtain ⟨disposition, hstore⟩ := hcommits.ingest_of_store
      obtain ⟨answer, hprocess⟩ := process_of_store hprepared hstore
      obtain ⟨hhub, hbatches⟩ := inv.fleet.hub.process hposted hprocess
      exact inv.fleet.withBackend hhub hbatches

/-- An action of the backend that stores nothing new. -/
theorem act (inv : DeploymentInvariant codec sha256 environmentId equipment d)
    (hequipment : Keyed ⟨equipment, [], [], []⟩) {action : BackendAction}
    (hadmitted : ∀ ingest, action.begun = some (.store ingest) →
      Admitted codec sha256 environmentId d.posted ingest) :
    DeploymentInvariant codec sha256 environmentId equipment (d.act action) where
  fleet := inv.fleet_act hequipment action
  world := by
    obtain ⟨actions, hworld⟩ := inv.world
    refine ⟨actions ++ [action], ?_⟩
    rw [backendRun, Runs.run_append, Runs.run_cons, Runs.run_nil, ← backendRun, ← hworld]
    rfl
  admitted ingest hingest := by
    rw [Deployment.act, Isolation.calls_step, List.mem_append, Option.mem_toList] at hingest
    exact hingest.elim (inv.admitted ingest) (hadmitted ingest)
  handlers handler hhandler := by
    obtain ⟨ingest, receivedAt, hcall, hprepared⟩ := inv.handlers handler hhandler
    refine ⟨ingest, receivedAt, ?_, hprepared⟩
    rw [Deployment.act, Isolation.calls_step,
      List.getElem?_append_left (List.getElem?_eq_some_iff.mp hcall).1, hcall]

/-- An answer is given that a reader can rely on. -/
theorem answer (inv : DeploymentInvariant codec sha256 environmentId equipment d)
    {request : Request} {response : ApiResponse}
    (h : Answered codec d.world.database.ingest request response) :
    DeploymentInvariant codec sha256 environmentId equipment (d.answer request response) :=
  ⟨inv.fleet.withAnswer h, inv.world, inv.admitted, inv.handlers⟩

theorem eraseHandler (inv : DeploymentInvariant codec sha256 environmentId equipment d)
    (index : Nat) :
    DeploymentInvariant codec sha256 environmentId equipment
      { d with handlers := d.handlers.eraseIdx index } :=
  ⟨inv.fleet, inv.world, inv.admitted,
    fun handler hhandler => inv.handlers handler (List.mem_of_mem_eraseIdx hhandler)⟩

/-- What a handler makes of the outcome of its store, a reader can rely on. -/
theorem answered (inv : DeploymentInvariant codec sha256 environmentId equipment d)
    (hequipment : Keyed ⟨equipment, [], [], []⟩) {handler : Handler}
    (hhandler : handler ∈ d.handlers) {call : BackendCall}
    {outcome : Except BackendError BackendResult}
    (hsession : d.world.sessions[handler.session]? = some ⟨call, .ended outcome⟩) :
    Answered codec d.world.database.ingest handler.request (d.response handler outcome) := by
  obtain ⟨ingest, receivedAt, hcall, hprepared⟩ := inv.handlers handler hhandler
  obtain ⟨-, hbuilt, hingest⟩ := prepareIngest_ok.mp hprepared
  obtain rfl : call = .store ingest := by
    rw [Isolation.getElem?_calls hsession] at hcall
    exact Option.some.inj hcall
  -- no error of a store condemns the request
  have hfails : ∀ e : ServiceError, e.isFinal = false →
      Answered codec d.world.database.ingest handler.request (.error e.failureCategory) := by
    intro e hfinal hpermanent
    rw [isFinal_of_permanentFailure hpermanent] at hfinal
    cases hfinal
  unfold Deployment.response
  match outcome with
  | .error (.ingest e) => exact hfails _ (mapIngestError_isFinal e)
  | .error (.application e) => exact hfails _ rfl
  | .error (.readerEquipment e) => exact hfails _ rfl
  | .ok .changed => exact hfails _ rfl
  | .ok (.ingested .stored) =>
    have hrow : ingest.batchRow ∈ d.world.database.batches := by
      obtain ⟨actions, hworld⟩ := inv.world
      rw [hworld] at hsession ⊢
      exact batchRow_of_stored hequipment actions hsession
    have hcanonical : ingest.batchRow.canonicalAcknowledgement = handler.acknowledgement := by
      rw [(prepare_ok.mp hingest).2.2]
      rfl
    refine ⟨⟨ingest.batchRow, hrow, false, ?_⟩,
      congrArg (·.batchId) (buildAcknowledgement_ok.mp hbuilt)⟩
    rw [hcanonical]
    exact (withReplayed_of_built hbuilt).symm
  | .ok (.ingested .replayed) =>
    simp only [respond, loadAcknowledgement_eq, Except.mapError, Fallible.ok_bind]
    cases hfound : d.world.database.ingest.findBatch handler.request.batchId with
    | none => exact hfails .backendTemporarilyUnavailable rfl
    | some row =>
      obtain ⟨hrow, hid⟩ := IngestDatabase.findBatch_eq_some hfound
      obtain ⟨origin, -, hingested⟩ := inv.fleet.hub.invariant.batches row hrow
      exact ⟨⟨row, hrow, true, rfl⟩, hingested.acknowledgement_batchId.trans hid⟩

/-- A request is taken up. -/
theorem receive (inv : DeploymentInvariant codec sha256 environmentId equipment d)
    (hequipment : Keyed ⟨equipment, [], [], []⟩) {request : Request}
    (hposted : request ∈ d.posted) (elapsed : Option Nat) :
    DeploymentInvariant codec sha256 environmentId equipment
      (d.receive codec sha256 environmentId request elapsed) := by
  unfold Deployment.receive
  cases hclock : currentUnixMilliseconds elapsed with
  | none => exact inv.answer (answered_unavailable request)
  | some receivedAt =>
    dsimp only
    cases hprepared : prepareIngest codec sha256 environmentId request receivedAt with
    | error e =>
      refine inv.answer fun hpermanent => .inl ?_
      exact process_final (currentUnixMilliseconds_nonneg hclock)
        (process_of_unprepared hprepared d.world.database.ingest)
        (isFinal_of_permanentFailure hpermanent)
    | ok prepared =>
      obtain ⟨acknowledgement, ingest⟩ := prepared
      have hbegun : DeploymentInvariant codec sha256 environmentId equipment
          (d.act (.begin (.store ingest))) := by
        refine inv.act hequipment fun other hother => ?_
        cases hother
        exact ⟨request, hposted, receivedAt, acknowledgement, hprepared⟩
      refine ⟨hbegun.fleet, hbegun.world, hbegun.admitted, fun handler hhandler => ?_⟩
      rcases List.mem_append.mp hhandler with hhandler | hhandler
      · exact hbegun.handlers handler hhandler
      · rw [List.mem_singleton.mp hhandler]
        have hcall : (d.act (.begin (.store ingest))).world.calls[d.world.sessions.length]? =
            some (.store ingest) :=
          Isolation.getElem?_calls (Isolation.getElem?_step_begin _)
        exact ⟨ingest, receivedAt, hcall, hprepared⟩

/-- A reader goes on, and the backend does not. -/
theorem node [DecidableEq ι] (inv : DeploymentInvariant codec sha256 environmentId equipment d)
    {event : Event} (hreader : event.atReader = true) (i : ι) :
    DeploymentInvariant codec sha256 environmentId equipment
      (d.node codec sha256 environmentId i event) := by
  have hbackend : (d.fleet.step codec sha256 environmentId (i, event)).backend =
      d.world.database.ingest := step_atReader hreader (d.fleet.view i)
  have hposted : d.posted ⊆ (d.fleet.step codec sha256 environmentId (i, event)).posted :=
    step_posted (d.fleet.view i) event
  refine ⟨?_, inv.world, fun ingest hingest => ?_, inv.handlers⟩
  · rw [Deployment.fleet, Deployment.node, ← hbackend]
    exact inv.fleet.step (i, event)
  · obtain ⟨request, hrequest, hprepared⟩ := inv.admitted ingest hingest
    exact ⟨request, hposted hrequest, hprepared⟩

/-- Whatever happens next keeps the invariant. -/
theorem step [DecidableEq ι] (inv : DeploymentInvariant codec sha256 environmentId equipment d)
    (hequipment : Keyed ⟨equipment, [], [], []⟩) (occurrence : Occurrence ι) :
    DeploymentInvariant codec sha256 environmentId equipment
      (d.step codec sha256 environmentId occurrence) := by
  cases occurrence with
  | node i event =>
    simp only [Deployment.step]
    split
    · next hreader => exact inv.node hreader i
    · exact inv
  | receive index elapsed =>
    simp only [Deployment.step]
    cases hrequest : d.posted[index]? with
    | none => exact inv
    | some request => exact inv.receive hequipment (List.mem_of_getElem? hrequest) elapsed
  | advance session => exact inv.act hequipment fun _ hbegun => by cases hbegun
  | abort session error => exact inv.act hequipment fun _ hbegun => by cases hbegun
  | changeReader id operations => exact inv.act hequipment fun _ hbegun => by cases hbegun
  | reply index =>
    simp only [Deployment.step]
    cases hhandler : d.handlers[index]? with
    | none => exact inv
    | some handler =>
      dsimp only
      split
      · next hsession =>
        have hanswered := inv.answered hequipment (List.mem_of_getElem? hhandler) hsession
        exact (inv.answer hanswered).eraseHandler index
      · exact inv
  | fault index =>
    simp only [Deployment.step]
    cases d.handlers[index]? with
    | none => exact inv
    | some handler =>
      exact (inv.answer (answered_unavailable handler.request)).eraseHandler index

end DeploymentInvariant

theorem deploymentInvariant_initial {databases : ι → ReaderDatabase}
    (h : ∀ i, FreshlyBound (databases i))
    (hdistinct : Function.Injective fun i => (databases i).readerState.map (·.readerId))
    (equipment : List EquipmentRow) :
    DeploymentInvariant codec sha256 environmentId equipment (.initial databases equipment) := by
  refine ⟨fleetInvariant_initial h hdistinct (equipment.map EquipmentRow.reader), ⟨[], rfl⟩,
    fun ingest hingest => ?_, fun handler hhandler => ?_⟩
  · cases hingest
  · cases hhandler

theorem deploymentInvariant_run [DecidableEq ι] {databases : ι → ReaderDatabase}
    (h : ∀ i, FreshlyBound (databases i))
    (hdistinct : Function.Injective fun i => (databases i).readerState.map (·.readerId))
    (hequipment : Keyed ⟨equipment, [], [], []⟩) (occurrences : List (Occurrence ι)) :
    DeploymentInvariant codec sha256 environmentId equipment
      (Runs.run (Deployment.step codec sha256 environmentId) (.initial databases equipment)
        occurrences) :=
  Runs.invariant (fun _ occurrence inv => inv.step hequipment occurrence)
    (deploymentInvariant_initial h hdistinct equipment) occurrences

/-! ## The fleet agrees -/

/-- However the statements of the backend's transactions interleave, with each
other and with the events of any number of readers, the readers agree with the
committed tables, and every transaction in them is ingested once. -/
theorem concurrent_fleet [DecidableEq ι] {databases : ι → ReaderDatabase}
    (h : ∀ i, FreshlyBound (databases i))
    (hdistinct : Function.Injective fun i => (databases i).readerState.map (·.readerId))
    (hequipment : Keyed ⟨equipment, [], [], []⟩) (occurrences : List (Occurrence ι)) :
    let d := Runs.run (Deployment.step codec sha256 environmentId)
      (.initial databases equipment) occurrences
    d.fleet.Agrees codec sha256 ∧ d.fleet.ExactlyOnce codec sha256 :=
  have inv := deploymentInvariant_run h hdistinct hequipment occurrences
  ⟨inv.fleet.agrees, inv.fleet.exactlyOnce⟩

def secondKeyId : EquipmentKeyId := ⟨⟨0x70008000000000000073#128, by decide⟩⟩

def secondReader : ReaderEquipment :=
  { sampleReader with
    id := secondReaderId
    identity := ⟨secondReaderId, secondKeyId⟩
    identity_readerId := rfl }

/-- Two readers that differ in their identifier. -/
def sampleDepotIdentity (second : Bool) : ReaderDatabaseIdentity :=
  if second then { sampleIdentity with readerId := secondReaderId } else sampleIdentity

def sampleDepot (second : Bool) : ReaderDatabase :=
  (bindReaderDatabase .empty (sampleDepotIdentity second)).database

theorem sampleDepot_freshlyBound (second : Bool) : FreshlyBound (sampleDepot second) := by
  cases second with
  | false => exact ⟨sampleIdentity, _, rfl⟩
  | true => exact ⟨{ sampleIdentity with readerId := secondReaderId }, _, rfl⟩

theorem sampleDepot_readerId (second : Bool) :
    (sampleDepot second).readerState.map (·.readerId) =
      (sampleFleet second).readerState.map (·.readerId) := by
  cases second <;> rfl

theorem sampleDepot_distinct :
    Function.Injective fun i => (sampleDepot i).readerState.map (·.readerId) := by
  simp only [sampleDepot_readerId]
  exact sampleFleet_distinct

def sampleDepotEquipment : List EquipmentRow :=
  [.fromDomain sampleReader 1, .fromDomain secondReader 1]

theorem sampleDepotEquipment_keyed : Keyed ⟨sampleDepotEquipment, [], [], []⟩ where
  readers := by decide
  loads row hrow := by
    rcases List.mem_cons.mp hrow with rfl | hrow
    · exact ⟨sampleReader, 1, rfl⟩
    · exact ⟨secondReader, 1, List.mem_singleton.mp hrow⟩
  batches := List.nodup_nil
  transactions := List.nodup_nil
  sequences := List.nodup_nil

/-- Both readers use one batch identifier, and neither store finds the batch; the
second waits at its insert until the first has committed, and then fails. -/
def sampleRace : List (Occurrence Bool) :=
  [.node false (.call (.enqueue sampleReaderId (sampleDraft (.object [])))),
    .node true (.call (.enqueue secondReaderId
      { sampleDraft (.object []) with transactionId := secondTransactionId })),
    .node true (.call (.createBatch secondReaderId .current 1 10 sampleBatchId)),
    .node false (.call (.createBatch sampleReaderId .current 1 10 sampleBatchId)),
    .node true (.call (.markBatch secondReaderId sampleBatchId 2)),
    .node false (.call (.markBatch sampleReaderId sampleBatchId 2)),
    .node false (.submit sampleReaderId sampleBatchId 3 4),
    .node true (.submit secondReaderId sampleBatchId 3 4),
    .receive 0 (some 3), .receive 1 (some 3),
    .advance 0, .advance 1, .advance 0, .advance 1, .advance 0, .advance 1,
    .advance 0, .advance 0, .advance 0, .advance 0, .advance 1,
    .reply 1, .reply 0,
    .node false (.deliver 0 1), .node true (.deliver 0 0),
    .node false (.proceed 0), .node true (.proceed 0), .node false (.proceed 0)]

theorem concurrent_fleet_race :
    (∀ second, FreshlyBound (sampleDepot second)) ∧
    let d := Runs.run (Deployment.step sampleCodec Sha256.digest sampleEnvironmentId)
      (.initial sampleDepot sampleDepotEquipment) sampleRace
    d.world.database.batches.length = 1 ∧
      d.fleet.Agrees sampleCodec Sha256.digest ∧ d.fleet.ExactlyOnce sampleCodec Sha256.digest :=
  ⟨sampleDepot_freshlyBound, by decide +kernel,
    @concurrent_fleet Bool sampleCodec Sha256.digest sampleEnvironmentId sampleDepotEquipment _
      sampleDepot sampleDepot_freshlyBound sampleDepot_distinct sampleDepotEquipment_keyed
      sampleRace⟩

end TransitGuard.System
