import TransitGuard.Library.Sessions
import TransitGuard.Backend.Committed

/-!
The event log of a credential. Its events are numbered 1, 2, .. up to the stored
version, the first one issues the credential, each later one starts from the
status the one before it led to, and the last one leads to the stored status.
This holds of every database that the use cases reach, however they are
interleaved.
-/

namespace TransitGuard.Backend

open Isolation

/-! ## Logs -/

/-- The events of a credential, in the order they were committed. -/
def eventsOf (events : List DomainEventRow) (id : FareCredentialId) : List DomainEventRow :=
  events.filter (·.aggregateId == .fareCredential id)

/-- The events are status changes of the credential `id`, one after another,
that lead from `status` to `last`. -/
def Follows (id : FareCredentialId) (status : FareCredentialStatus) :
    List DomainEventRow → FareCredentialStatus → Prop
  | [], last => status = last
  | event :: rest, last => ∃ next,
    event.payload = .fareCredentialStatusChanged id status next ∧ Follows id next rest last

/-- The events tell the life of the credential up to `version`. -/
structure EventLog (events : List DomainEventRow) (credential : FareCredential) (version : Nat) :
    Prop where
  versions : (eventsOf events credential.id).map (·.aggregateVersion) = List.range' 1 version
  life : ∃ first rest, eventsOf events credential.id = first :: rest ∧
    first.payload =
      .fareCredentialIssued credential.id credential.transitAccountId credential.kind ∧
    Follows credential.id .pending rest credential.status

theorem Follows.append {id : FareCredentialId} {status last next : FareCredentialStatus}
    {events : List DomainEventRow} {event : DomainEventRow} (h : Follows id status events last)
    (hevent : event.payload = .fareCredentialStatusChanged id last next) :
    Follows id status (events ++ [event]) next := by
  induction events generalizing status with
  | nil => exact ⟨next, h ▸ hevent, rfl⟩
  | cons first rest ih =>
    obtain ⟨mid, hfirst, hrest⟩ := h
    exact ⟨mid, hfirst, ih hrest⟩

section Events

variable {events : List DomainEventRow} {event : DomainEventRow} {id : FareCredentialId}

theorem eventsOf_append_self (h : event.aggregateId = .fareCredential id) :
    eventsOf (events ++ [event]) id = eventsOf events id ++ [event] := by
  simp [eventsOf, List.filter_append, h]

theorem eventsOf_append_of_ne {other : FareCredentialId}
    (h : event.aggregateId = .fareCredential id) (hne : other ≠ id) :
    eventsOf (events ++ [event]) other = eventsOf events other := by
  simp [eventsOf, List.filter_append, h, Ne.symm hne]

end Events

theorem FareCredentialRow.fromDomain_inj {c c' : FareCredential} {version version' : Nat}
    (h : fromDomain c version = fromDomain c' version') : c = c' ∧ version = version' := by
  obtain ⟨id, account, kind, status, reason, successor, _, _, _⟩ := c
  obtain ⟨id', account', kind', status', reason', successor', _, _, _⟩ := c'
  simp only [fromDomain, FareCredentialRow.mk.injEq] at h
  obtain ⟨rfl, rfl, hkind, hstatus, hreason, rfl, rfl⟩ := h
  have hkind' : kind = kind' := by
    have := congrArg PostgresValueCodec.decodeCredentialKind hkind
    simpa [PostgresValueCodec.decode_encodeCredentialKind] using this
  have hreason' : reason = reason' := by
    refine Option.map_injective ?_ hreason
    intro r r' hr
    have := congrArg PostgresValueCodec.decodeCredentialRevocationReason hr
    simpa [PostgresValueCodec.decode_encodeCredentialRevocationReason] using this
  obtain rfl := PostgresValueCodec.encodeCredentialStatus_inj hstatus
  subst hkind' hreason'
  exact ⟨rfl, rfl⟩

/-! ## The invariant -/

/-- Every stored credential has its log, and nothing is logged of a credential
that is not stored. -/
structure Logged (db : CoreDatabase) : Prop where
  loadable : Loadable db
  log : ∀ credential version,
    db.findCredential credential.id = some (.fromDomain credential version) →
    EventLog db.events credential version
  silent : ∀ id, db.findCredential id = none → eventsOf db.events id = []

variable {db db' : CoreDatabase} {credential before after : FareCredential} {version : Nat}
  {event : DomainEventRow}

theorem Creates.logged (h : Creates db credential event) (hdb : Logged db) :
    Logged (db.created credential event) where
  loadable := h.loadable hdb.loadable
  log := by
    intro other version' hother
    by_cases hid : other.id = credential.id
    · rw [hid, h.findCredential_self, Option.some.injEq] at hother
      obtain ⟨rfl, rfl⟩ := FareCredentialRow.fromDomain_inj hother
      have hevents : eventsOf (db.created credential event).events credential.id = [event] := by
        rw [CoreDatabase.created, eventsOf_append_self h.aggregateId, hdb.silent _ h.fresh]
        rfl
      refine ⟨by rw [hevents]; simp [h.aggregateVersion], event, [], hevents, h.payload, ?_⟩
      exact h.pending.symm
    · rw [findCredential_created _ hid] at hother
      have hlog := hdb.log other version' hother
      have hevents : eventsOf (db.created credential event).events other.id =
          eventsOf db.events other.id := eventsOf_append_of_ne h.aggregateId hid
      exact ⟨by rw [hevents]; exact hlog.versions, by rw [hevents]; exact hlog.life⟩
  silent := by
    intro id hid
    have hne : id ≠ credential.id := by
      rintro rfl
      rw [h.findCredential_self] at hid
      cases hid
    rw [findCredential_created _ hne] at hid
    exact (eventsOf_append_of_ne h.aggregateId hne).trans (hdb.silent id hid)

theorem Transitions.logged (h : Transitions db before after version event) (hdb : Logged db) :
    Logged (db.changed after (version + 1) event) where
  loadable := h.loadable hdb.loadable
  log := by
    intro other version' hother
    by_cases hid : other.id = after.id
    · rw [hid, h.findCredential_self, Option.some.injEq] at hother
      obtain ⟨rfl, rfl⟩ := FareCredentialRow.fromDomain_inj hother
      -- the log of the credential before the change, with one more event
      obtain ⟨hversions, first, rest, hlife, hfirst, hfollows⟩ := hdb.log before version h.stored
      have hevents : eventsOf (db.changed after (version + 1) event).events after.id =
          eventsOf db.events before.id ++ [event] := by
        rw [h.after_id]
        exact eventsOf_append_self h.aggregateId
      refine ⟨?_, first, rest ++ [event], by rw [hevents, hlife]; rfl, ?_, ?_⟩
      · rw [hevents, List.map_append, hversions, List.map_singleton, h.aggregateVersion,
          List.range'_1_concat, Nat.add_comm 1]
      · rw [hfirst, h.changes.id, h.changes.transitAccountId, h.changes.kind]
      · rw [h.after_id]
        exact hfollows.append h.payload
    · rw [findCredential_changed _ hid] at hother
      have hlog := hdb.log other version' hother
      have hevents : eventsOf (db.changed after (version + 1) event).events other.id =
          eventsOf db.events other.id :=
        eventsOf_append_of_ne h.aggregateId (h.after_id ▸ hid)
      exact ⟨by rw [hevents]; exact hlog.versions, by rw [hevents]; exact hlog.life⟩
  silent := by
    intro id hid
    have hnone := (findCredential_changed_eq_none id).mp hid
    have hne : id ≠ before.id := by
      rintro rfl
      rw [h.stored] at hnone
      cases hnone
    exact (eventsOf_append_of_ne h.aggregateId hne).trans (hdb.silent id hnone)

theorem Effect.logged {call : CredentialCall} {result : CredentialResult}
    (h : Effect db call result db') (hdb : Logged db) : Logged db' := by
  cases h with
  | unchanged => exact hdb
  | issued _ _ _ _ _ hcreates => exact hcreates.logged hdb
  | changed _ _ htransitions => exact htransitions.logged hdb
  | replaced _ _ _ htransitions _ _ hcreates => exact hcreates.logged (htransitions.logged hdb)

/-- A terminal credential stays as it is. -/
theorem Effect.terminal {call : CredentialCall} {result : CredentialResult}
    (h : Effect db call result db')
    (hstored : db.findCredential credential.id = some (.fromDomain credential version))
    (hterminal : credential.status.isTerminal = true) :
    db'.findCredential credential.id = some (.fromDomain credential version) := by
  have hchanged : ∀ {before after : FareCredential} {version' : Nat} {event : DomainEventRow},
      Transitions db before after version' event →
        (db.changed after (version' + 1) event).findCredential credential.id =
          some (.fromDomain credential version) := by
    intro before after version' event htransitions
    rw [findCredential_changed, hstored]
    intro hid
    have hbefore := htransitions.stored
    rw [← htransitions.after_id, ← hid, hstored, Option.some.injEq] at hbefore
    obtain ⟨rfl, -⟩ := FareCredentialRow.fromDomain_inj hbefore
    rw [htransitions.changes.live] at hterminal
    cases hterminal
  have hcreated : ∀ {db : CoreDatabase} {new : FareCredential} {event : DomainEventRow},
      Creates db new event →
        db.findCredential credential.id = some (.fromDomain credential version) →
        (db.created new event).findCredential credential.id =
          some (.fromDomain credential version) := by
    intro db new event hcreates hstored
    rw [findCredential_created, hstored]
    intro hid
    rw [hid, hcreates.fresh] at hstored
    cases hstored
  cases h with
  | unchanged => exact hstored
  | issued _ _ _ _ _ hcreates => exact hcreated hcreates hstored
  | changed _ _ htransitions => exact hchanged htransitions
  | replaced _ _ _ htransitions _ _ hcreates => exact hcreated hcreates (hchanged htransitions)

theorem Effect.eq_of_not_changed {call : CredentialCall} {result : CredentialResult}
    (h : Effect db call result db') (hresult : result.changed = false) : db' = db := by
  cases h with
  | unchanged => rfl
  | issued hchanged | changed hchanged | replaced hchanged =>
    rw [hresult] at hchanged
    cases hchanged

/-! ## Every interleaving -/

/-- No credential was ever stored; accounts and the events of other aggregates
may be there. -/
structure CoreDatabase.WithoutCredentials (db : CoreDatabase) : Prop where
  credentials : db.credentials = []
  events : ∀ event ∈ db.events, ∀ id, event.aggregateId ≠ .fareCredential id

/-- The use cases on `db` under a schedule. -/
def credentialRun (db : CoreDatabase) (actions : List CredentialAction) : CredentialWorld :=
  Runs.run credentialSystem.step (World.start db) actions

theorem CoreDatabase.WithoutCredentials.logged (h : db.WithoutCredentials) : Logged db where
  loadable := ⟨by simp [h.credentials], by simp [h.credentials]⟩
  log := by
    intro credential version hfind
    simp [CoreDatabase.findCredential, h.credentials] at hfind
  silent := by
    intro id _
    refine List.filter_eq_nil_iff.mpr fun event hevent => ?_
    simpa using h.events event hevent id

theorem credentialRun_append (db : CoreDatabase) (actions later : List CredentialAction) :
    credentialRun db (actions ++ later) =
      Runs.run credentialSystem.step (credentialRun db actions) later :=
  Runs.run_append _ _ _

theorem credentialRun_sound (h : db.WithoutCredentials) (actions : List CredentialAction) :
    Isolation.Sound credentialSystem credentialDiscipline Effect db (credentialRun db actions) :=
  sound_run credentialSystem_allSafe h.logged.loadable actions

theorem credentialRun_logged (h : db.WithoutCredentials) (actions : List CredentialAction) :
    Logged (credentialRun db actions).database :=
  (credentialRun_sound h actions).replays.invariant
    (fun _ _ _ _ hdb heffect => heffect.logged hdb) h.logged

/-- A terminal credential stays as it is in every later state of the system. -/
theorem credentialRun_terminal (h : db.WithoutCredentials) (actions later : List CredentialAction)
    (hstored : (credentialRun db actions).database.findCredential credential.id =
      some (.fromDomain credential version))
    (hterminal : credential.status.isTerminal = true) :
    (credentialRun db (actions ++ later)).database.findCredential credential.id =
      some (.fromDomain credential version) := by
  induction later using List.reverseRecOn with
  | nil => rwa [List.append_nil]
  | append_singleton later action ih =>
    rw [← List.append_assoc, credentialRun_append]
    rcases (credentialRun_sound h (actions ++ later)).step_cases action with
      hsame | ⟨i, call, result, -, -, -, heffect⟩
    · rw [Runs.run_cons, Runs.run_nil, hsame]
      exact ih
    · exact heffect.terminal ih hterminal

/-- The log of every stored credential is complete and leads to what is stored;
revoked and replaced credentials never change again; and an execution that fails
or reports no change has changed nothing. -/
theorem credential_event_log (db : CoreDatabase) (hdb : db.WithoutCredentials)
    (actions : List CredentialAction) :
    (∀ row ∈ (credentialRun db actions).database.credentials, ∃ credential version,
      row = .fromDomain credential version ∧
        EventLog (credentialRun db actions).database.events credential version) ∧
    (∀ credential version,
      (credentialRun db actions).database.findCredential credential.id =
        some (.fromDomain credential version) →
      credential.status = .revoked ∨ credential.status = .replaced → ∀ later,
        (credentialRun db (actions ++ later)).database.findCredential credential.id =
          some (.fromDomain credential version)) ∧
    ∀ (i : Nat) (action : CredentialAction) (later : List CredentialAction) (call : CredentialCall)
      (outcome : Except ApplicationError CredentialResult),
      (action = .advance i ∨ ∃ e, action = .abort i e) →
      (credentialRun db (actions ++ action :: later)).sessions[i]? =
        some ⟨call, .ended outcome⟩ →
      (∀ result, outcome = .ok result → result.changed = false) →
        (credentialRun db (actions ++ [action])).database =
          (credentialRun db actions).database := by
  refine ⟨?_, ?_, ?_⟩
  · intro row hrow
    have hlogged := credentialRun_logged hdb actions
    obtain ⟨credential, version, -, rfl⟩ := hlogged.loadable.loads row hrow
    exact ⟨credential, version.value, rfl,
      hlogged.log credential version.value (hlogged.loadable.findCredential hrow)⟩
  · intro credential version hstored hstatus later
    refine credentialRun_terminal hdb actions later hstored ?_
    rcases hstatus with hstatus | hstatus <;> rw [hstatus] <;> rfl
  · intro i action later call outcome haction hended houtcome
    rw [credentialRun_append, Runs.run_cons] at hended
    rw [credentialRun_append, Runs.run_cons, Runs.run_nil]
    rcases (credentialRun_sound hdb actions).step_cases action with
      hsame | ⟨j, call', result, rfl, hcommitted, -, heffect⟩
    · exact hsame
    · -- the step was the commit of the execution, and its outcome stands to the end
      have hij : j = i := by
        rcases haction with h | ⟨e, h⟩ <;> cases h
        rfl
      subst hij
      have hstays := getElem?_run_of_ended (S := credentialSystem) hcommitted later
      rw [hended] at hstays
      cases hstays
      exact heffect.eq_of_not_changed (houtcome result rfl)

/-! A small system: one active account without credentials. -/

def sampleAccountId : TransitAccountId := ⟨⟨0x70008000000000000021#128, by decide⟩⟩

def sampleAccount : TransitAccount where
  id := sampleAccountId
  riderId := ⟨⟨0x70008000000000000022#128, by decide⟩⟩
  status := .active
  eligibility := .standard
  storedValue := ⟨⟨500, .usd⟩, by decide⟩

def sampleCoreDatabase : CoreDatabase := ⟨[.fromDomain sampleAccount 1], [], []⟩

def sampleIssuedId : FareCredentialId := ⟨⟨0x70008000000000000023#128, by decide⟩⟩

def sampleReplacementId : FareCredentialId := ⟨⟨0x70008000000000000024#128, by decide⟩⟩

def samplePorts (credentialId : FareCredentialId) (event : BitVec 8) : Ports where
  now := .ok ⟨2000, by decide⟩
  credentialId := credentialId
  eventId := ⟨⟨0x700080000000000100#120 ++ event, by
    revert event; decide +kernel⟩⟩
  nextEventId := ⟨⟨0x700080000000000200#120 ++ event, by
    revert event; decide +kernel⟩⟩

theorem sampleCoreDatabase_withoutCredentials : sampleCoreDatabase.WithoutCredentials :=
  ⟨rfl, fun _ h => absurd h List.not_mem_nil⟩

/-- A credential is issued and activated; then two replacements of it, with the
same new identifier, run side by side. -/
def sampleSchedule : List CredentialAction :=
  .begin (.issue ⟨sampleAccountId, .card⟩ (samplePorts sampleIssuedId 1)) ::
    List.replicate 4 (.advance 0) ++
  .begin (.activate ⟨sampleIssuedId⟩ (samplePorts sampleIssuedId 2)) ::
    List.replicate 4 (.advance 1) ++
  [.begin (.replace ⟨sampleIssuedId, .mobile⟩ (samplePorts sampleReplacementId 3)),
    .begin (.replace ⟨sampleIssuedId, .card⟩ (samplePorts sampleReplacementId 4)),
    .advance 2, .advance 3, .advance 2, .advance 3, .advance 2, .advance 2, .advance 2,
    .advance 2, .advance 3]

theorem credential_event_log_sample :
    (credentialRun sampleCoreDatabase sampleSchedule).database.credentials.map
      (·.aggregateVersion) = [3, 1] ∧
    ∀ row ∈ (credentialRun sampleCoreDatabase sampleSchedule).database.credentials,
      ∃ credential version, row = .fromDomain credential version ∧
        EventLog (credentialRun sampleCoreDatabase sampleSchedule).database.events credential
          version :=
  ⟨by decide +kernel, (credential_event_log sampleCoreDatabase
    sampleCoreDatabase_withoutCredentials sampleSchedule).1⟩

end TransitGuard.Backend
