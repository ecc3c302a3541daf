import TransitGuard.Library.Sha256
import TransitGuard.Library.Sessions
import TransitGuard.Backend.Service
import TransitGuard.Backend.Serializability

/-!
What every interleaving of the store with itself and with changes of equipment
leaves behind: the tables and results of the committed calls taken one after
another, one set of rows for each batch, and no batch of a reader that may not
authenticate.
-/

namespace TransitGuard.Backend

open Protocol Fallible Isolation

/-- The calls on `db` under a schedule. -/
def backendRun (db : BackendDatabase) (actions : List BackendAction) : BackendWorld :=
  Runs.run backendSystem.step (World.start db) actions

/-- The database after the calls, one after another. -/
def BackendDatabase.performAll (db : BackendDatabase) (calls : List BackendCall) :
    BackendDatabase :=
  Runs.run (fun db call => (db.perform call).2) db calls

/-- The ingest that a committed call has stored. -/
def storedIngest : BackendCall × BackendResult → Option PreparedIngest
  | (.store ingest, .ingested .stored) => some ingest
  | _ => none

theorem backendRun_sound {db : BackendDatabase} (hdb : Keyed db) (actions : List BackendAction) :
    Isolation.Sound backendSystem backendDiscipline Commits db (backendRun db actions) :=
  sound_run backendSystem_allSafe hdb actions

/-! ## What the history says -/

section History

variable {db db' : BackendDatabase} {history : List (BackendCall × BackendResult)}

/-- The committed calls, one after another, lead to the database that was
reached and have the results that were returned. -/
theorem performAll_of_replays (h : Replays Commits db history db') :
    db' = db.performAll (history.map Prod.fst) ∧
      ∀ earlier call result later, history = earlier ++ (call, result) :: later →
        ((db.performAll (earlier.map Prod.fst)).perform call).1 = .ok result := by
  induction h with
  | nil => exact ⟨rfl, fun earlier _ _ _ h => by simp at h⟩
  | @commit history d' d'' call result earlier last ih =>
    obtain ⟨rfl, hresults⟩ := ih
    have hperform := last.performed
    refine ⟨?_, fun before call' result' later hsplit => ?_⟩
    · rw [List.map_append, List.map_singleton, BackendDatabase.performAll, Runs.run_append,
        Runs.run_cons, Runs.run_nil]
      exact (congrArg Prod.snd hperform).symm
    · rcases List.eq_nil_or_concat later with rfl | ⟨later, other, rfl⟩
      · obtain ⟨rfl, hlast⟩ := List.append_inj' hsplit rfl
        cases hlast
        rw [hperform]
      · rw [List.concat_eq_append, ← List.cons_append, ← List.append_assoc] at hsplit
        obtain ⟨rfl, -⟩ := List.append_inj' hsplit rfl
        exact hresults before call' result' later rfl

/-- A committed call appends the rows of the ingest it has stored. -/
theorem Commits.rows {call : BackendCall} {result : BackendResult}
    (h : Commits db call result db') :
    db'.batches = db.batches ++ (storedIngest (call, result)).toList.map (·.batchRow) ∧
      db'.entries = db.entries ++
        (storedIngest (call, result)).toList.flatMap fun ingest =>
          ingest.entries.map ingest.entryRow := by
  cases call with
  | changeReader id operations =>
    obtain ⟨hbatches, -, hentries⟩ := h.kept id operations rfl
    simp [storedIngest, hbatches, hentries]
  | store ingest =>
    obtain ⟨disposition, committed, hstatements, rfl, rfl⟩ := perform_store_ok h.performed
    rcases storeStatements_ok hstatements with ⟨rfl, -, hstores⟩ | ⟨rfl, rfl, -⟩
    · have hbatches : committed.batches = db.batches ++ [ingest.batchRow] := hstores.batches
      have hentries : committed.entries = db.entries ++ ingest.entries.map ingest.entryRow :=
        hstores.entries
      simp [storedIngest, BackendDatabase.withIngest, hbatches, hentries]
    · simp [storedIngest, BackendDatabase.withIngest, BackendDatabase.ingest]

/-- The batches and entries are those there were and those of the ingests that
the history reports as stored. -/
theorem rows_of_replays (h : Replays Commits db history db') :
    db'.batches = db.batches ++ (history.filterMap storedIngest).map (·.batchRow) ∧
      db'.entries = db.entries ++
        (history.filterMap storedIngest).flatMap fun ingest =>
          ingest.entries.map ingest.entryRow := by
  induction h with
  | nil => simp
  | commit earlier last ih =>
    obtain ⟨hbatches, hentries⟩ := last.rows
    rw [hbatches, hentries, ih.1, ih.2, List.filterMap_append, List.map_append,
      List.flatMap_append]
    cases hstored : storedIngest _ with
    | none => simp [List.filterMap_cons_none hstored]
    | some ingest => simp [List.filterMap_cons_some hstored]

end History

/-- Two sessions that have stored the same batch are one. -/
theorem stored_once {sessions : List (Session BackendDatabase BackendWrite BackendKey BackendError
      BackendCall BackendResult)} {history : List (BackendCall × BackendResult)}
    (hrecorded : (sessions.filterMap Session.committed).Perm history)
    (hids : ((history.filterMap storedIngest).map (·.batchId)).Nodup) {i j : Nat}
    {a b : PreparedIngest}
    (hi : sessions[i]? = some ⟨.store a, .ended (.ok (.ingested .stored))⟩)
    (hj : sessions[j]? = some ⟨.store b, .ended (.ok (.ingested .stored))⟩)
    (hbatch : a.batchId = b.batchId) : i = j := by
  have hperm := (hrecorded.filterMap storedIngest).map (·.batchId)
  have hnodup := hperm.nodup_iff.mpr hids
  rw [List.filterMap_filterMap, List.map_filterMap] at hnodup
  exact index_unique hnodup hi hj rfl (congrArg some hbatch.symm)

/-- The tables that an interleaving leaves are those of the committed calls, one
after another in the order of their commits, and so are the results. Every batch
is stored by one session and has one set of rows. -/
theorem concurrent_ingest_serializable (db : BackendDatabase) (hdb : Keyed db)
    (actions : List BackendAction) (world : BackendWorld) (hworld : world = backendRun db actions) :
    world.database = db.performAll (world.history.map Prod.fst) ∧
    (∀ earlier call result later, world.history = earlier ++ (call, result) :: later →
      ((db.performAll (earlier.map Prod.fst)).perform call).1 = .ok result) ∧
    (world.sessions.filterMap Session.committed).Perm world.history ∧
    (∀ (i j : Nat) (a b : PreparedIngest),
      world.sessions[i]? = some ⟨.store a, .ended (.ok (.ingested .stored))⟩ →
      world.sessions[j]? = some ⟨.store b, .ended (.ok (.ingested .stored))⟩ →
      a.batchId = b.batchId → i = j) ∧
    (world.database.batches.map (·.batchId)).Nodup ∧
    world.database.batches =
      db.batches ++ (world.history.filterMap storedIngest).map (·.batchRow) ∧
    world.database.entries = db.entries ++
      (world.history.filterMap storedIngest).flatMap fun ingest =>
        ingest.entries.map ingest.entryRow := by
  subst hworld
  have hsound := backendRun_sound hdb actions
  have hrecorded : Recorded (backendRun db actions) := recorded_run db actions
  obtain ⟨hdatabase, hresults⟩ := performAll_of_replays hsound.replays
  obtain ⟨hbatches, hentries⟩ := rows_of_replays hsound.replays
  have hids := hsound.invariant.batches
  refine ⟨hdatabase, hresults, hrecorded, fun i j a b => stored_once hrecorded ?_, hids, hbatches,
    hentries⟩
  rw [hbatches, List.map_append, List.map_map] at hids
  exact (List.nodup_append.mp hids).2.1

/-! A small system: one active reader, and the same ingest submitted twice. -/

def sampleReader : ReaderEquipment where
  id := sampleReaderId
  identity := ⟨sampleReaderId, ⟨⟨0x70008000000000000031#128, by decide⟩⟩⟩
  status := .active
  disablementReason := none
  revocationReason := none
  identity_readerId := rfl
  disablementReason_isSome := by decide
  revocationReason_isSome := by decide

def sampleBackendDatabase : BackendDatabase := ⟨[.fromDomain sampleReader 1], [], [], []⟩

theorem sampleBackendDatabase_keyed : Keyed sampleBackendDatabase where
  readers := List.nodup_singleton _
  loads _ hrow := ⟨sampleReader, 1, List.mem_singleton.mp hrow⟩
  batches := List.nodup_nil
  transactions := List.nodup_nil
  sequences := List.nodup_nil

def sampleReceipt : Acknowledgement where
  protocolVersion := .current
  environmentId := sampleEnvironmentId
  readerId := sampleReaderId
  batchId := sampleBatchId
  firstLocalSequenceNumber := .first
  lastLocalSequenceNumber := .first
  receivedAt := 3
  replayed := false
  entries := sampleRequest.entries.map acknowledgeEntry
  valid := by decide

def sampleIngest : PreparedIngest where
  protocolVersion := sampleRequest.protocolVersion
  environmentId := sampleRequest.environmentId
  readerId := sampleRequest.readerId
  readerSoftwareVersion := sampleRequest.readerSoftwareVersion
  batchId := sampleRequest.batchId
  firstLocalSequenceNumber := sampleRequest.firstLocalSequenceNumber
  lastLocalSequenceNumber := sampleRequest.lastLocalSequenceNumber
  submittedAt := sampleRequest.submittedAt
  receivedAt := sampleReceipt.receivedAt
  requestFingerprint := sampleRequest.fingerprint Sha256.digest
  canonicalRequest := sampleRequest
  acknowledgementFingerprint := sampleReceipt.fingerprint Sha256.digest
  canonicalAcknowledgement := sampleReceipt
  entries := [{
    entryPosition := 0
    transactionId := sampleTransactionId
    localSequenceNumber := .first
    transactionFingerprint := Sha256.digest []
    canonicalTransactionEnvelope := .object []
    outcome := .acknowledged
    failureCategory := none
    nextRetryAt := none
    resolvedAt := 3 }]

/-- Both submissions look for the batch before either stores it; the second waits
at its insert until the first has committed, and a third comes later. -/
def sampleSubmissions : List BackendAction :=
  [.begin (.store sampleIngest), .begin (.store sampleIngest), .advance 0, .advance 1, .advance 1,
    .advance 0, .advance 0, .advance 1, .advance 0, .advance 0, .advance 0, .advance 1,
    .advance 0, .advance 1, .begin (.store sampleIngest), .advance 2, .advance 2, .advance 2]

theorem concurrent_ingest_serializable_sample :
    (backendRun sampleBackendDatabase sampleSubmissions).history.map Prod.snd =
      [.ingested .stored, .ingested .replayed] ∧
    (backendRun sampleBackendDatabase sampleSubmissions).database =
      sampleBackendDatabase.performAll
        ((backendRun sampleBackendDatabase sampleSubmissions).history.map Prod.fst) :=
  ⟨by decide +kernel, (concurrent_ingest_serializable sampleBackendDatabase
    sampleBackendDatabase_keyed sampleSubmissions _ rfl).1⟩

/-! ## Readers that may not authenticate -/

section Readers

variable {db : BackendDatabase} {id : ReaderId}

/-- The reader is stored, and may authenticate to the backend. -/
def BackendDatabase.Authenticates (db : BackendDatabase) (id : ReaderId) : Prop :=
  ∃ reader version, db.findReader id = some (.fromDomain reader version) ∧
    reader.mayAuthenticateToBackend = true

/-- What the status read of the store asks is what the domain asks. -/
theorem Keyed.authenticates_iff (h : Keyed db) :
    db.Authenticates id ↔ db.readerOperational id = some true := by
  constructor
  · rintro ⟨reader, version, hreader, hmay⟩
    rw [BackendDatabase.findReader] at hreader
    rw [BackendDatabase.readerOperational, hreader, Option.map_some,
      EquipmentRow.operational_fromDomain, hmay]
  · intro hoperational
    rw [BackendDatabase.readerOperational, Option.map_eq_some_iff] at hoperational
    obtain ⟨row, hrow, hstatus⟩ := hoperational
    obtain ⟨reader, version, rfl⟩ := h.loads row (List.mem_of_find?_eq_some hrow)
    exact ⟨reader, version, hrow, (EquipmentRow.operational_fromDomain reader version).symm.trans
      hstatus⟩

theorem checkReader_eq_ok {operational : Option Bool} {u : Unit} :
    checkReader id operational = .ok u ↔ operational = some true := by
  match operational with
  | some true => exact ⟨fun _ => rfl, fun _ => rfl⟩
  | some false => exact ⟨nofun, nofun⟩
  | none => exact ⟨nofun, nofun⟩

theorem checkReader_error {operational : Option Bool} (h : operational ≠ some true) :
    ∃ e, checkReader id operational = .error e ∧
      (e = .readerNotOperational id ∨ e = .readerNotRegistered id) := by
  match operational with
  | some true => exact absurd rfl h
  | some false => exact ⟨_, rfl, .inl rfl⟩
  | none => exact ⟨_, rfl, .inr rfl⟩

/-- A call that stores a batch finds its reader fit to authenticate, and leaves
it so. -/
theorem Commits.authenticates {db' : BackendDatabase} {call : BackendCall}
    {result : BackendResult} (h : Commits db call result db') (hdb : Keyed db)
    {row : IngestBatchRow} (hrow : row ∈ db'.batches.drop db.batches.length) :
    db.Authenticates row.readerId ∧ db'.Authenticates row.readerId := by
  rw [h.rows.1, List.drop_left] at hrow
  cases call with
  | changeReader id operations => exact absurd hrow List.not_mem_nil
  | store ingest =>
    obtain ⟨disposition, committed, hstatements, rfl, rfl⟩ := perform_store_ok h.performed
    cases disposition with
    | replayed => exact absurd hrow List.not_mem_nil
    | stored =>
      obtain rfl : row = ingest.batchRow := by simpa [storedIngest] using hrow
      simp only [storeStatements, bind_eq_ok] at hstatements
      obtain ⟨u, hvalid, -⟩ := hstatements
      rw [validateReader_eq] at hvalid
      have hreader : db.Authenticates ingest.readerId :=
        hdb.authenticates_iff.mpr (checkReader_eq_ok.mp hvalid)
      exact ⟨hreader, hreader⟩

/-- A store that reads its reader as not fit to authenticate is bound to fail. -/
theorem failing_of_read {world : BackendWorld} (hdb : Keyed world.database) {i : Nat}
    {ingest : PreparedIngest}
    (hsession : world.sessions[i]? =
      some ⟨.store ingest, .running (BackendCall.store ingest).script [] []⟩)
    (hfree : System.blocked world i [⟨.reader ingest.readerId, .share⟩] = false)
    (hreader : ¬ world.database.Authenticates ingest.readerId) :
    ∃ e, (e = .readerNotOperational ingest.readerId ∨ e = .readerNotRegistered ingest.readerId) ∧
      (backendSystem.step world (.advance i)).database = world.database ∧
      (backendSystem.step world (.advance i)).sessions[i]? =
        some ⟨.store ingest, .running (.fail (.ingest e)) []
          [⟨.reader ingest.readerId, .share⟩]⟩ := by
  rw [hdb.authenticates_iff] at hreader
  obtain ⟨e, hchecked, he⟩ := checkReader_error hreader
  -- the first statement of the store is the status read
  obtain ⟨next, hscript, hnext⟩ : ∃ next, (BackendCall.store ingest).script =
      .statement [⟨.reader ingest.readerId, .share⟩] (fun _ => .ok []) next ∧
        next world.database = .fail (.ingest e) := by
    refine ⟨_, rfl, ?_⟩
    change (ingestResult (checkReader ingest.readerId
      (world.database.readerOperational ingest.readerId)) >>= _ >>= _) = _
    rw [hchecked]
    rfl
  rw [hscript] at hsession
  refine ⟨e, he, ?_⟩
  simp only [System.step, System.advance, hsession, hfree, view_nil]
  refine ⟨rfl, ?_⟩
  rw [← hnext]
  exact List.getElem?_set_self (List.getElem?_eq_some_iff.mp hsession).1

end Readers

/-- Every batch is committed while its reader is stored and may authenticate; and
a store whose status read finds its reader otherwise, or finds no reader, fails
and changes nothing, whatever runs beside it. -/
theorem ingest_for_authenticating_readers (db : BackendDatabase) (hdb : Keyed db)
    (actions : List BackendAction) (world : BackendWorld) (hworld : world = backendRun db actions) :
    (∀ action next, next = backendSystem.step world action →
      world.database.batches <+: next.database.batches ∧
      ∀ row ∈ next.database.batches.drop world.database.batches.length,
        world.database.Authenticates row.readerId ∧ next.database.Authenticates row.readerId) ∧
    ∀ (i : Nat) (ingest : PreparedIngest),
      world.sessions[i]? =
        some ⟨.store ingest, .running (BackendCall.store ingest).script [] []⟩ →
      System.blocked world i [⟨.reader ingest.readerId, .share⟩] = false →
      ¬ world.database.Authenticates ingest.readerId →
      ∃ e, (e = .readerNotOperational ingest.readerId ∨
          e = .readerNotRegistered ingest.readerId) ∧
        (backendSystem.step world (.advance i)).database = world.database ∧
        (Runs.run backendSystem.step world [.advance i, .advance i]).sessions[i]? =
          some ⟨.store ingest, .ended (.error (.ingest e))⟩ ∧
        ∀ later after, after = Runs.run backendSystem.step world (.advance i :: later) →
          (∀ outcome, after.sessions[i]? = some ⟨.store ingest, .ended outcome⟩ →
            ∃ error, outcome = .error error) ∧
          ∀ action, (action = .advance i ∨ ∃ error, action = .abort i error) →
            (backendSystem.step after action).database = after.database := by
  subst hworld
  have hsound := backendRun_sound hdb actions
  refine ⟨?_, ?_⟩
  · rintro action next rfl
    rcases hsound.step_cases action with hsame | ⟨i, call, result, -, -, -, hcommits⟩
    · rw [hsame, List.drop_length]
      exact ⟨List.prefix_refl _, fun row hrow => absurd hrow List.not_mem_nil⟩
    · refine ⟨?_, fun row hrow => hcommits.authenticates hsound.invariant hrow⟩
      rw [hcommits.rows.1]
      exact List.prefix_append _ _
  · intro i ingest hsession hfree hreader
    obtain ⟨e, he, hdatabase, hread⟩ := failing_of_read hsound.invariant hsession hfree hreader
    have hfailing : Failing (backendSystem.step (backendRun db actions) (.advance i)) i
        (.store ingest) := .inl ⟨_, _, _, hread⟩
    refine ⟨e, he, hdatabase, ?_, ?_⟩
    · rw [Runs.run_cons, Runs.run_cons, Runs.run_nil]
      exact step_fail hread
    · rintro later after rfl
      rw [Runs.run_cons]
      have hafter := hfailing.run (S := backendSystem) later
      exact ⟨fun outcome => hafter.outcome, fun action haction => hafter.database haction⟩

/-- The reader is disabled while a store holds it; the change waits for the store
to commit. -/
def sampleDisablement : List BackendAction :=
  [.begin (.store sampleIngest), .advance 0,
    .begin (.changeReader sampleReaderId [.disable .lostEquipment]), .advance 1, .advance 1,
    .advance 0, .advance 0, .advance 0, .advance 0, .advance 0, .advance 0,
    .advance 1, .advance 1]

/-- A second submission, after the reader was disabled, fails. -/
theorem ingest_for_authenticating_readers_sample :
    (backendRun sampleBackendDatabase sampleDisablement).database.batches.map (·.batchId) =
      [sampleBatchId] ∧
    ∃ e, (Runs.run backendSystem.step
      (backendRun sampleBackendDatabase (sampleDisablement ++ [.begin (.store sampleIngest)]))
      [.advance 2, .advance 2]).sessions[2]? =
        some ⟨.store sampleIngest, .ended (.error (.ingest e))⟩ := by
  have hfacts : (backendRun sampleBackendDatabase sampleDisablement).sessions.length = 2 ∧
      (backendRun sampleBackendDatabase sampleDisablement).database.readerOperational
        sampleIngest.readerId = some false ∧
      (backendRun sampleBackendDatabase sampleDisablement).database.batches.map (·.batchId) =
        [sampleBatchId] := by decide +kernel
  obtain ⟨hsessions, hstatus, hbatches⟩ := hfacts
  have hbegun : backendRun sampleBackendDatabase
      (sampleDisablement ++ [.begin (.store sampleIngest)]) =
        backendSystem.step (backendRun sampleBackendDatabase sampleDisablement)
          (.begin (.store sampleIngest)) := Runs.run_append _ _ _
  have hsession := getElem?_step_begin (S := backendSystem)
    (w := backendRun sampleBackendDatabase sampleDisablement) (.store sampleIngest)
  rw [hsessions, ← hbegun] at hsession
  have hreader : ¬ (backendRun sampleBackendDatabase
      (sampleDisablement ++ [.begin (.store sampleIngest)])).database.Authenticates
        sampleIngest.readerId := by
    rw [(backendRun_sound sampleBackendDatabase_keyed _).invariant.authenticates_iff, hbegun,
      database_step_begin, hstatus]
    nofun
  have hfree : System.blocked (backendRun sampleBackendDatabase
      (sampleDisablement ++ [.begin (.store sampleIngest)])) 2
        [⟨.reader sampleIngest.readerId, .share⟩] = false := by decide +kernel
  obtain ⟨e, -, -, hended, -⟩ := (ingest_for_authenticating_readers sampleBackendDatabase
    sampleBackendDatabase_keyed (sampleDisablement ++ [.begin (.store sampleIngest)]) _ rfl).2 2
    sampleIngest hsession hfree hreader
  exact ⟨hbatches, e, hended⟩

end TransitGuard.Backend
