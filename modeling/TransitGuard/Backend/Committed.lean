import TransitGuard.Backend.Credentials

/-!
What the credential use cases commit, whatever runs beside them: nothing, a new
pending credential with its first event, the next status of a live credential
with the next event, or the last two together for a replacement. The version
check of the update and the unique keys of the inserts turn what a use case has
read into what is stored when it commits.
-/

namespace TransitGuard.Backend

open Fallible Isolation

/-! ## Changes of the tables -/

/-- A new credential and its event. -/
def CoreDatabase.created (db : CoreDatabase) (credential : FareCredential)
    (event : DomainEventRow) : CoreDatabase :=
  { db with
    credentials := db.credentials ++ [.fromDomain credential 1]
    events := db.events ++ [event] }

/-- A credential at its next version and the event of the change. -/
def CoreDatabase.changed (db : CoreDatabase) (credential : FareCredential) (version : Nat)
    (event : DomainEventRow) : CoreDatabase :=
  { db with
    credentials := Table.updateWhere (·.id == credential.id)
      (fun _ => .fromDomain credential version) db.credentials
    events := db.events ++ [event] }

/-- The credential is new and the event records its issue. -/
structure Creates (db : CoreDatabase) (credential : FareCredential) (event : DomainEventRow) :
    Prop where
  pending : credential.status = .pending
  fresh : db.findCredential credential.id = none
  aggregateId : event.aggregateId = .fareCredential credential.id
  aggregateVersion : event.aggregateVersion = 1
  payload : event.payload =
    .fareCredentialIssued credential.id credential.transitAccountId credential.kind

/-- The credential `before` is stored at `version`, may become `after`, and the
event records the change. -/
structure Transitions (db : CoreDatabase) (before after : FareCredential) (version : Nat)
    (event : DomainEventRow) : Prop where
  stored : db.findCredential before.id = some (.fromDomain before version)
  version_lt : version < i64Max
  changes : before.Changes after.status after
  aggregateId : event.aggregateId = .fareCredential before.id
  aggregateVersion : event.aggregateVersion = version + 1
  payload : event.payload =
    .fareCredentialStatusChanged before.id before.status after.status

/-- What a use case may commit in the database `db`. -/
inductive Effect (db : CoreDatabase) : CredentialCall → CredentialResult → CoreDatabase → Prop
  | unchanged {call : CredentialCall} {result : CredentialResult}
      (hresult : result.changed = false) : Effect db call result db
  | issued {command : IssueFareCredentialCommand} {ports : Ports} {result : CredentialResult}
      {row : TransitAccountRow} {account : VersionedAggregate TransitAccount}
      {credential : FareCredential} {event : DomainEventRow} (hresult : result.changed = true)
      (hrow : db.findAccount command.transitAccountId = some row)
      (hload : row.intoVersioned = .ok account) (hactive : account.aggregate.isActive = true)
      (howner : credential.transitAccountId = command.transitAccountId)
      (hcreates : Creates db credential event) :
      Effect db (.issue command ports) result (db.created credential event)
  | changed {call : CredentialCall} {result : CredentialResult} {before after : FareCredential}
      {version : Nat} {event : DomainEventRow} (hresult : result.changed = true)
      (hstatus : after.status ≠ .replaced)
      (htransitions : Transitions db before after version event) :
      Effect db call result (db.changed after (version + 1) event)
  | replaced {command : ReplaceFareCredentialCommand} {ports : Ports} {result : CredentialResult}
      {before after replacement : FareCredential} {version : Nat}
      {event replacementEvent : DomainEventRow} (hresult : result.changed = true)
      (hid : before.id = command.credentialId)
      (hlive : before.status = .active ∨ before.status = .suspended)
      (htransitions : Transitions db before after version event)
      (hsuccessor : after.replacementId = some replacement.id)
      (howner : replacement.transitAccountId = before.transitAccountId)
      (hcreates : Creates (db.changed after (version + 1) event) replacement replacementEvent) :
      Effect db (.replace command ports) result
        ((db.changed after (version + 1) event).created replacement replacementEvent)

/-! ## The discipline -/

/-- The primary key holds and every row is a credential at a version. -/
structure Loadable (db : CoreDatabase) : Prop where
  unique : (db.credentials.map (·.id)).Nodup
  loads : ∀ row ∈ db.credentials, ∃ (credential : FareCredential) (version : AggregateVersion),
    version.value ≤ i64Max ∧ row = .fromDomain credential version.value

/-- Accounts stay, and a stored credential keeps its content as long as it keeps
its version. -/
structure Grows (db db' : CoreDatabase) : Prop where
  accounts : db'.accounts = db.accounts
  credentials : ∀ row ∈ db.credentials, ∃ row' ∈ db'.credentials, row'.id = row.id ∧
    row.aggregateVersion ≤ row'.aggregateVersion ∧
      (row'.aggregateVersion = row.aggregateVersion → row' = row)

theorem Grows.refl (db : CoreDatabase) : Grows db db :=
  ⟨rfl, Table.Ages.refl FareCredentialRow.id FareCredentialRow.aggregateVersion db.credentials⟩

theorem Grows.trans {db db' db'' : CoreDatabase} (h : Grows db db') (h' : Grows db' db'') :
    Grows db db'' where
  accounts := h'.accounts.trans h.accounts
  credentials := Table.Ages.trans (k := FareCredentialRow.id) h.credentials h'.credentials

/-- Only the row of a credential is ever relied on through its lock. -/
def credentialDiscipline : Discipline CoreDatabase CoreKey where
  invariant := Loadable
  grows := Grows
  agree
    | .credential id, db, db' => db'.findCredential id = db.findCredential id
    | _, _, _ => True
  grows_refl := Grows.refl
  grows_trans _ _ _ := Grows.trans
  agree_refl key _ := by cases key <;> trivial
  agree_trans key db db' db'' h h' := by
    cases key
    case credential id => exact Eq.trans h' h
    all_goals trivial

section Tables

variable {db : CoreDatabase} {credential before after : FareCredential} {version : Nat}
  {event : DomainEventRow}

theorem findCredential_created (id : FareCredentialId) (hne : id ≠ credential.id) :
    (db.created credential event).findCredential id = db.findCredential id :=
  Table.find_append_of_ne (Ne.symm hne)

theorem findCredential_changed (id : FareCredentialId) (hne : id ≠ credential.id) :
    (db.changed credential version event).findCredential id = db.findCredential id :=
  Table.find_updateWhere_of_ne (k := FareCredentialRow.id)
    (f := fun _ => .fromDomain credential version) (fun _ => rfl) hne

theorem findCredential_changed_eq_none (id : FareCredentialId) :
    (db.changed credential version event).findCredential id = none ↔
      db.findCredential id = none :=
  Table.find_updateWhere_eq_none (k := FareCredentialRow.id)
    (f := fun _ => .fromDomain credential version) fun _ => rfl

theorem mem_of_findCredential {id : FareCredentialId} {row : FareCredentialRow}
    (h : db.findCredential id = some row) : row ∈ db.credentials ∧ row.id = id :=
  ⟨List.mem_of_find?_eq_some h, Table.key_of_find h⟩

theorem Loadable.findCredential (h : Loadable db) {row : FareCredentialRow}
    (hrow : row ∈ db.credentials) : db.findCredential row.id = some row :=
  Table.find_of_mem h.unique hrow

/-- A stored credential, as its use case loads it. -/
theorem Loadable.load (h : Loadable db) {id : FareCredentialId}
    {loaded : VersionedAggregate FareCredential}
    (hload : loadRow FareCredentialRow.intoVersioned (db.findCredential id) = .ok (some loaded)) :
    db.findCredential loaded.aggregate.id =
        some (.fromDomain loaded.aggregate loaded.version.value) ∧
      loaded.aggregate.id = id := by
  obtain ⟨row, hfind, hrow⟩ := loadRow_eq_some hload
  obtain ⟨hmem, hid⟩ := mem_of_findCredential hfind
  obtain ⟨credential, version, -, rfl⟩ := h.loads row hmem
  rw [FareCredentialRow.intoVersioned_fromDomain] at hrow
  cases hrow
  exact ⟨by rw [← hfind, ← hid]; rfl, hid⟩

theorem Creates.findCredential_self (h : Creates db credential event) :
    (db.created credential event).findCredential credential.id =
      some (.fromDomain credential 1) := by
  have hfresh : db.credentials.find?
      (·.id == (FareCredentialRow.fromDomain credential 1).id) = none := h.fresh
  exact Table.find_append_of_fresh hfresh

theorem Creates.loadable (h : Creates db credential event) (hdb : Loadable db) :
    Loadable (db.created credential event) where
  unique := Table.nodup_map_append hdb.unique fun other hother hid =>
    Table.find_eq_none.mp h.fresh other hother hid.symm
  loads := by
    intro row hrow
    rcases List.mem_append.mp hrow with hrow | hrow
    · exact hdb.loads row hrow
    · rw [List.mem_singleton] at hrow
      exact ⟨credential, .initial, by decide, hrow⟩

theorem Creates.grows : Grows db (db.created credential event) where
  accounts := rfl
  credentials row hrow :=
    ⟨row, List.mem_append_left _ hrow, rfl, le_rfl, fun _ => rfl⟩

theorem Transitions.after_id (h : Transitions db before after version event) :
    after.id = before.id :=
  h.changes.id

theorem Transitions.findCredential_self (h : Transitions db before after version event)
    (next : Nat) :
    (db.changed after next event).findCredential after.id = some (.fromDomain after next) := by
  have hstored : db.credentials.find? (·.id == after.id) = some (.fromDomain before version) :=
    h.after_id ▸ h.stored
  exact Table.find_updateWhere_self (k := FareCredentialRow.id)
    (f := fun _ => .fromDomain after next) (fun _ => rfl) hstored

theorem Transitions.loadable (h : Transitions db before after version event)
    (hdb : Loadable db) : Loadable (db.changed after (version + 1) event) where
  unique := by
    have hkeys : (db.changed after (version + 1) event).credentials.map (·.id) =
        db.credentials.map (·.id) :=
      Table.map_replaced FareCredentialRow.id (.fromDomain after (version + 1)) db.credentials
    exact hkeys ▸ hdb.unique
  loads := by
    refine Table.forall_updateWhere hdb.loads fun row _ _ => ?_
    have hlt : version + 1 < 2 ^ 64 := by have := h.version_lt; simp [i64Max] at this; omega
    exact ⟨after, ⟨version + 1, by omega, hlt⟩, h.version_lt, rfl⟩

theorem Transitions.grows (h : Transitions db before after version event) (hdb : Loadable db) :
    Grows db (db.changed after (version + 1) event) where
  accounts := rfl
  credentials := by
    have hnewer : ∀ row ∈ db.credentials,
        row.id = (FareCredentialRow.fromDomain after (version + 1)).id →
          row.aggregateVersion < version + 1 := by
      -- the row of the credential is the one it was loaded from
      intro row hrow hid
      have hfound := hdb.findCredential hrow
      rw [hid, FareCredentialRow.fromDomain, h.after_id, h.stored] at hfound
      cases hfound
      exact Nat.lt_succ_self version
    exact Table.Ages.replaced (k := FareCredentialRow.id) hnewer

theorem Creates.guarantee (h : Creates db credential event) (hdb : Loadable db)
    {held : List (Lock CoreKey)} (hlock : ⟨.credential credential.id, .exclusive⟩ ∈ held) :
    credentialDiscipline.Guarantee held db (db.created credential event) where
  invariant := h.loadable hdb
  grows := Creates.grows
  agree key hkey := by
    cases key
    case credential id =>
      exact findCredential_created id fun hid => hkey (hid ▸ hlock)
    all_goals trivial

theorem Transitions.guarantee (h : Transitions db before after version event) (hdb : Loadable db)
    {held : List (Lock CoreKey)} (hlock : ⟨.credential before.id, .exclusive⟩ ∈ held) :
    credentialDiscipline.Guarantee held db (db.changed after (version + 1) event) where
  invariant := h.loadable hdb
  grows := h.grows hdb
  agree key hkey := by
    cases key
    case credential id =>
      exact findCredential_changed id fun hid => hkey (hid ▸ h.after_id ▸ hlock)
    all_goals trivial

end Tables

/-! ## The statements -/

section Statements

variable {p : Point CoreDatabase CoreWrite CoreKey} {credential : FareCredential}
  {post : Unit → Point CoreDatabase CoreWrite CoreKey → Prop}

theorem wp_writing {D : Discipline CoreDatabase CoreKey} {entity operation : String}
    {locks : List (Lock CoreKey)} {statement : CoreDatabase → Except PersistenceError Unit}
    {write : CoreWrite}
    (h : ∀ db, D.Rely p.held p.database db →
      statement (view CoreDatabase.apply p.pending db) = .ok () →
        post () ⟨db, p.pending ++ [write], locks ++ p.held⟩) :
    wp D CoreDatabase.apply post (writing entity operation locks statement write) p := by
  intro db hrely writes hwrites
  simp only [map_eq_ok, mapError_eq_ok] at hwrites
  obtain ⟨u, hstatement, rfl⟩ := hwrites
  exact h db hrely hstatement

/-- An insert finds no credential under its key. -/
theorem wp_saveNew
    (h : ∀ db, credentialDiscipline.Rely p.held p.database db →
      (view CoreDatabase.apply p.pending db).findCredential credential.id = none →
        post () ⟨db, p.pending ++ [.insertCredential (.fromDomain credential 1)],
          (FareCredentialRow.fromDomain credential 1).locks ++ p.held⟩) :
    wp credentialDiscipline CoreDatabase.apply post
      (saveFareCredential credential .mustNotExist) p := by
  refine wp_writing fun db hrely hstatement => h db hrely ?_
  obtain ⟨-, hfree, -⟩ := insertStatement_eq_ok.mp hstatement
  refine Table.find_eq_none.mpr fun row hrow hid => ?_
  have hconflict := hfree row hrow
  simp [FareCredentialRow.conflicts, FareCredentialRow.fromDomain, hid] at hconflict

/-- An update finds the credential at the version it was loaded at. -/
theorem wp_saveVersion {version : AggregateVersion}
    (h : ∀ db, credentialDiscipline.Rely p.held p.database db → version.value < i64Max →
      (∃ row ∈ (view CoreDatabase.apply p.pending db).credentials,
        row.id = credential.id ∧ row.aggregateVersion = version.value) →
        post () ⟨db, p.pending ++ [.updateCredential (.fromDomain credential (version.value + 1))],
          (FareCredentialRow.fromDomain credential (version.value + 1)).locks ++ p.held⟩) :
    wp credentialDiscipline CoreDatabase.apply post
      (saveFareCredential credential (.ifVersion version)) p := by
  simp only [saveFareCredential, wp_bind, wp_ofExcept, mapError_eq_ok]
  rintro ⟨current, next⟩ hencoded
  obtain ⟨rfl, rfl, hlt⟩ := encodeNextVersion_ok hencoded
  refine wp_writing fun db hrely hstatement => h db hrely hlt ?_
  obtain ⟨-, -, -, hcount⟩ := updateStatement_eq_ok.mp hstatement
  obtain ⟨row, hrow, hselected⟩ := List.countP_pos_iff.mp (hcount ▸ Nat.one_pos)
  simp only [Bool.and_eq_true, beq_iff_eq] at hselected
  exact ⟨row, hrow, hselected⟩

theorem wp_append {event : DomainEvent}
    (h : ∀ db row, credentialDiscipline.Rely p.held p.database db →
      row.aggregateId = event.payload.aggregateId →
      row.aggregateVersion = event.aggregateVersion.value → row.payload = event.payload →
        post () ⟨db, p.pending ++ [.insertEvent row], row.locks ++ p.held⟩) :
    wp credentialDiscipline CoreDatabase.apply post (appendDomainEvent event) p := by
  simp only [appendDomainEvent, wp_bind, wp_ofExcept, mapError_eq_ok]
  intro row hrow
  simp only [DomainEventRow.fromDomain, PostgresValueCodec.encodeAggregateVersion,
    bind_eq_ok] at hrow
  obtain ⟨value, hvalue, hrow⟩ := hrow
  split at hvalue
  · cases hvalue
  · cases hvalue
    cases hrow
    exact wp_writing fun db hrely _ => h db _ hrely event.owner rfl rfl

end Statements

/-! ## The use cases -/

/-- The session has `before` locked as it is stored at `version`. -/
structure Holds (before : FareCredential) (version : Nat) (held : List (Lock CoreKey))
    (db : CoreDatabase) : Prop where
  locked : ⟨.credential before.id, .exclusive⟩ ∈ held
  stored : db.findCredential before.id = some (.fromDomain before version)

/-- The session has the identifier `id` reserved for a new credential. -/
structure Reserves (id : FareCredentialId) (held : List (Lock CoreKey)) (db : CoreDatabase) :
    Prop where
  locked : ⟨.credential id, .exclusive⟩ ∈ held
  fresh : db.findCredential id = none

section UseCases

variable {before after credential : FareCredential} {id : FareCredentialId}
  {held locks : List (Lock CoreKey)} {db db' : CoreDatabase} {ports : Ports}

theorem Holds.rely {version : Nat} (h : Holds before version held db)
    (hrely : credentialDiscipline.Rely held db db') : Holds before version held db' where
  locked := h.locked
  stored := (hrely.key h.locked).trans h.stored

theorem Holds.more {version : Nat} (h : Holds before version held db) :
    Holds before version (locks ++ held) db :=
  ⟨List.mem_append_right _ h.locked, h.stored⟩

theorem Reserves.rely (h : Reserves id held db)
    (hrely : credentialDiscipline.Rely held db db') : Reserves id held db' where
  locked := h.locked
  fresh := (hrely.key h.locked).trans h.fresh

theorem Reserves.more (h : Reserves id held db) : Reserves id (locks ++ held) db :=
  ⟨List.mem_append_right _ h.locked, h.fresh⟩

/-- The version check turns what was loaded into what is stored: a credential
keeps its content as long as it keeps its version. -/
theorem wp_saveLoaded {version : AggregateVersion}
    {post : Unit → Point CoreDatabase CoreWrite CoreKey → Prop}
    (hstored : db.findCredential before.id = some (.fromDomain before version.value))
    (hid : after.id = before.id)
    (h : ∀ db' held', version.value < i64Max → Holds before version.value held' db' →
      post () ⟨db', [.updateCredential (.fromDomain after (version.value + 1))], held'⟩) :
    wp credentialDiscipline CoreDatabase.apply post
      (saveFareCredential after (.ifVersion version)) ⟨db, [], held⟩ := by
  refine wp_saveVersion fun db' hrely hlt ⟨row, hrow, hrowid, hversion⟩ => ?_
  obtain ⟨row', hrow', hid', -, hsame⟩ :=
    hrely.grows.credentials _ (mem_of_findCredential hstored).1
  have hrow_eq : row' = row := by
    refine Table.eq_of_key_eq hrely.invariant.unique hrow' hrow ?_
    rw [hid', hrowid, hid]
    rfl
  subst hrow_eq
  rw [hsame hversion] at hrow
  refine h db' _ hlt ⟨List.mem_append_left _ ?_, hrely.invariant.findCredential hrow⟩
  exact hid ▸ List.mem_cons_self ..

/-- What a plan of a status change writes records the change. -/
theorem planStatusChange_ok {op : StatusOperation}
    (hop : ∀ c c', c.status ≠ op.target → op.change c = .ok c' → c.Changes op.target c')
    {loaded : VersionedAggregate FareCredential} {event : DomainEvent}
    (hnew : loaded.aggregate.status ≠ op.target)
    (h : planStatusChange op id ports loaded = .ok (credential, event)) :
    credential.status = op.target ∧ loaded.aggregate.Changes credential.status credential ∧
      event.aggregateVersion.value = loaded.version.value + 1 ∧
      event.payload =
        .fareCredentialStatusChanged id loaded.aggregate.status credential.status := by
  simp only [planStatusChange, bind_eq_ok, orFail_eq_ok, mapError_eq_ok, statusChangedEvent] at h
  obtain ⟨version, hversion, changed, hchanged, occurredAt, -, created, hevent, h⟩ := h
  cases h
  obtain ⟨-, heventVersion, -, hpayload⟩ := DomainEvent.new_ok hevent
  have hchanges := hop _ _ hnew hchanged
  refine ⟨hchanges.status, hchanges.status.symm ▸ hchanges, ?_, ?_⟩
  · rw [heventVersion, AggregateVersion.new_eq_some hversion]
  · rw [hpayload, hchanges.status]

/-- A status change writes nothing, or the change of the credential it has
locked. -/
theorem wp_changeStatus (op : StatusOperation)
    (hop : ∀ c c', c.status ≠ op.target → op.change c = .ok c' → c.Changes op.target c') :
    wp credentialDiscipline CoreDatabase.apply
      (fun change p => (change.changed = false ∧ p.pending = []) ∨
        (change.changed = true ∧ ∃ before after version event,
          p.pending = [.updateCredential (.fromDomain after (version + 1)), .insertEvent event] ∧
          after.status = op.target ∧ Holds before version p.held p.database ∧
          ∀ db, db.findCredential before.id = some (.fromDomain before version) →
            Transitions db before after version event))
      (changeStatus op id ports) ⟨db, [], []⟩ := by
  simp only [changeStatus, findFareCredential, wp_bind, wp_select, wp_ofExcept, mapError_eq_ok,
    orFail_eq_ok, view_nil]
  intro db₁ hrely₁ found hload loaded hfound
  subst hfound
  obtain ⟨hstored, hid⟩ := hrely₁.invariant.load hload
  split
  · exact .inl ⟨rfl, rfl⟩
  · rename_i hnew
    simp only [wp_bind, wp_ofExcept]
    rintro ⟨after, event⟩ hplan
    obtain ⟨htarget, hchanges, hversion, hpayload⟩ := planStatusChange_ok hop hnew hplan
    subst hid
    refine wp_saveLoaded hstored hchanges.id fun db₂ held₂ hlt hholds => ?_
    refine wp_bind.mpr (wp_append fun db₃ row hrely₃ howner hrowVersion hrowPayload => ?_)
    refine .inr ⟨rfl, loaded.aggregate, after, loaded.version.value, row, rfl, htarget,
      (hholds.rely hrely₃).more, fun db hdb => ?_⟩
    exact ⟨hdb, hlt, hchanges, by rw [howner, hpayload]; rfl, hrowVersion.trans hversion,
      hrowPayload.trans hpayload⟩

theorem issuedEvent_ok {operation reason : String} {eventId : DomainEventId}
    {occurredAt : DomainEventTime} {event : DomainEvent}
    (h : issuedEvent operation reason eventId occurredAt credential = .ok event) :
    event.aggregateVersion.value = 1 ∧
      event.payload = .fareCredentialIssued credential.id credential.transitAccountId
        credential.kind := by
  rw [issuedEvent, mapError_eq_ok] at h
  obtain ⟨-, hversion, -, hpayload⟩ := DomainEvent.new_ok h
  exact ⟨by rw [hversion]; rfl, hpayload⟩

/-- A row that records a new pending credential creates it wherever its
identifier is free. -/
theorem creates_of_row {event : DomainEvent} {row : DomainEventRow}
    (hpending : credential.status = .pending)
    (hevent : event.aggregateVersion.value = 1 ∧ event.payload =
      .fareCredentialIssued credential.id credential.transitAccountId credential.kind)
    (howner : row.aggregateId = event.payload.aggregateId)
    (hversion : row.aggregateVersion = event.aggregateVersion.value)
    (hpayload : row.payload = event.payload) (hfresh : db.findCredential credential.id = none) :
    Creates db credential row where
  pending := hpending
  fresh := hfresh
  aggregateId := by rw [howner, hevent.2]; rfl
  aggregateVersion := hversion.trans hevent.1
  payload := hpayload.trans hevent.2

theorem planIssue_ok {command : IssueFareCredentialCommand} {occurredAt : DomainEventTime}
    {account : VersionedAggregate TransitAccount} {event : DomainEvent}
    (h : planIssue command ports occurredAt account = .ok (credential, event)) :
    account.aggregate.isActive = true ∧
      credential = .newPending ports.credentialId command.transitAccountId command.kind ∧
      event.aggregateVersion.value = 1 ∧ event.payload =
        .fareCredentialIssued credential.id credential.transitAccountId credential.kind := by
  simp only [planIssue, guard_eq_ok, bind_eq_ok] at h
  obtain ⟨hactive, created, hevent, h⟩ := h
  cases h
  exact ⟨by simpa using hactive, rfl, issuedEvent_ok hevent⟩

/-- Issuing writes a credential under an identifier it has reserved, for an
account it has found active. -/
theorem wp_issue {command : IssueFareCredentialCommand} :
    wp credentialDiscipline CoreDatabase.apply
      (fun _ p => ∃ row account credential event,
        p.pending = [.insertCredential (.fromDomain credential 1), .insertEvent event] ∧
        p.database.findAccount command.transitAccountId = some row ∧
        row.intoVersioned = .ok account ∧ account.aggregate.isActive = true ∧
        credential.transitAccountId = command.transitAccountId ∧
        Reserves credential.id p.held p.database ∧
        ∀ db, db.findCredential credential.id = none → Creates db credential event)
      (issueFareCredential command ports) ⟨db, [], []⟩ := by
  simp only [issueFareCredential, findTransitAccount, wp_bind, wp_select, wp_ofExcept,
    mapError_eq_ok, orFail_eq_ok, view_nil]
  intro occurredAt _ db₁ hrely₁ found hload account hfound
  subst hfound
  rintro ⟨credential, event⟩ hplan
  obtain ⟨hactive, rfl, hevent⟩ := planIssue_ok hplan
  refine wp_saveNew fun db₂ hrely₂ hfree => ?_
  refine wp_bind.mpr (wp_append fun db₃ row hrely₃ howner hversion hpayload => ?_)
  obtain ⟨stored, hrow, hloaded⟩ := loadRow_eq_some hload
  have haccounts : db₃.accounts = db₁.accounts :=
    hrely₃.grows.accounts.trans hrely₂.grows.accounts
  have hreserves : Reserves ports.credentialId ((FareCredentialRow.fromDomain (.newPending
      ports.credentialId command.transitAccountId command.kind) 1).locks ++ []) db₂ :=
    ⟨List.mem_cons_self .., hfree⟩
  refine ⟨stored, account, _, row, rfl, ?_, hloaded, hactive, rfl,
    (hreserves.rely hrely₃).more, fun db hfresh => ?_⟩
  · rw [CoreDatabase.findAccount, haccounts]
    exact hrow
  · exact creates_of_row rfl hevent howner hversion hpayload hfresh

theorem planReplacement_ok {command : ReplaceFareCredentialCommand} {plan : Replacement}
    {loaded : VersionedAggregate FareCredential} (hnew : loaded.aggregate.status ≠ .replaced)
    (h : planReplacement command ports loaded = .ok plan) :
    (loaded.aggregate.Changes plan.original.status plan.original ∧
      plan.original.replacementId = some plan.replacement.id ∧
      plan.replacement.id ≠ loaded.aggregate.id ∧
      (loaded.aggregate.status = .active ∨ loaded.aggregate.status = .suspended)) ∧
    (plan.originalEvent.aggregateVersion.value = loaded.version.value + 1 ∧
      plan.originalEvent.payload = .fareCredentialStatusChanged command.credentialId
        loaded.aggregate.status plan.original.status) ∧
    plan.replacement = .newPending ports.credentialId loaded.aggregate.transitAccountId
      command.replacementKind ∧
    plan.replacementEvent.aggregateVersion.value = 1 ∧
      plan.replacementEvent.payload = .fareCredentialIssued plan.replacement.id
        plan.replacement.transitAccountId plan.replacement.kind := by
  simp only [planReplacement, bind_eq_ok, orFail_eq_ok, mapError_eq_ok, statusChangedEvent] at h
  obtain ⟨version, hversion, original, horiginal, occurredAt, -, event, hevent, replacementEvent,
    hreplacementEvent, h⟩ := h
  cases h
  obtain ⟨-, heventVersion, -, hpayload⟩ := DomainEvent.new_ok hevent
  obtain ⟨hchanges, hsuccessor, hself, hlive⟩ :=
    FareCredential.replaceWith_changes hnew horiginal
  refine ⟨⟨hchanges.status.symm ▸ hchanges, hsuccessor, hself, hlive⟩, ⟨?_, ?_⟩, rfl,
    issuedEvent_ok hreplacementEvent⟩
  · rw [heventVersion, AggregateVersion.new_eq_some hversion]
  · rw [hpayload, hchanges.status]

/-- A repeated replacement only reads. -/
theorem wp_repeatReplacement {command : ReplaceFareCredentialCommand} {original : FareCredential} :
    wp credentialDiscipline CoreDatabase.apply
      (fun result p => result.changed = false ∧ p.pending = [])
      (repeatReplacement command original) ⟨db, [], held⟩ := by
  simp only [repeatReplacement, findFareCredential, wp_bind, wp_select, wp_ofExcept, wp_pure]
  exact fun _ _ _ _ _ _ _ _ => ⟨trivial, trivial⟩

/-- A replacement writes nothing, or the change of the original it has locked
and a successor under an identifier it has reserved. -/
theorem wp_replace {command : ReplaceFareCredentialCommand} :
    wp credentialDiscipline CoreDatabase.apply
      (fun result p => (result.changed = false ∧ p.pending = []) ∨
        (result.changed = true ∧
          ∃ before after replacement version event replacementEvent,
            p.pending = [.updateCredential (.fromDomain after (version + 1)),
              .insertCredential (.fromDomain replacement 1), .insertEvent event,
              .insertEvent replacementEvent] ∧
            before.id = command.credentialId ∧
            (before.status = .active ∨ before.status = .suspended) ∧
            after.replacementId = some replacement.id ∧
            replacement.transitAccountId = before.transitAccountId ∧
            Holds before version p.held p.database ∧
            Reserves replacement.id p.held p.database ∧
            (∀ db, db.findCredential before.id = some (.fromDomain before version) →
              Transitions db before after version event) ∧
            ∀ db, db.findCredential replacement.id = none →
              Creates db replacement replacementEvent))
      (replaceFareCredential command ports) ⟨db, [], []⟩ := by
  simp only [replaceFareCredential, findFareCredential, wp_bind, wp_select, wp_ofExcept,
    mapError_eq_ok, orFail_eq_ok, view_nil]
  intro db₁ hrely₁ found hload loaded hfound
  subst hfound
  obtain ⟨hstored, hid⟩ := hrely₁.invariant.load hload
  split
  · exact wp_mono (fun result p h => .inl h) wp_repeatReplacement
  · rename_i hnew
    simp only [wp_bind, wp_ofExcept]
    intro plan hplan
    obtain ⟨⟨hchanges, hsuccessor, hself, hlive⟩, ⟨hversion, hpayload⟩, hpending, hcreated⟩ :=
      planReplacement_ok hnew hplan
    refine wp_saveLoaded hstored hchanges.id fun db₂ held₂ hlt hholds₂ => ?_
    refine wp_bind.mpr (wp_saveNew fun db₃ hrely₃ hfree => ?_)
    have hholds₃ := hholds₂.rely hrely₃
    have hreserves₃ : Reserves plan.replacement.id
        ((FareCredentialRow.fromDomain plan.replacement 1).locks ++ held₂) db₃ :=
      ⟨List.mem_cons_self .., (Table.find_updateWhere_eq_none (k := FareCredentialRow.id)
        (f := fun _ => .fromDomain plan.original (loaded.version.value + 1)) fun _ => rfl).mp hfree⟩
    refine wp_bind.mpr (wp_append fun db₄ row hrely₄ howner hrowVersion hrowPayload => ?_)
    refine wp_bind.mpr (wp_append fun db₅ row' hrely₅ howner' hrowVersion' hrowPayload' => ?_)
    refine .inr ⟨rfl, loaded.aggregate, plan.original, plan.replacement, loaded.version.value, row,
      row', rfl, hid, hlive, hsuccessor, by rw [hpending]; rfl,
      ((hholds₃.more.rely hrely₄).more.rely hrely₅).more,
      ((hreserves₃.rely hrely₄).more.rely hrely₅).more, fun db hdb => ?_, fun db hfresh => ?_⟩
    · refine ⟨hdb, hlt, hchanges, ?_, hrowVersion.trans hversion, ?_⟩
      · rw [howner, hpayload, hid]
        rfl
      · rw [hrowPayload, hpayload, hid]
    · exact creates_of_row (by rw [hpending]; rfl) hcreated howner' hrowVersion' hrowPayload' hfresh

end UseCases

/-! ## The commits -/

section Commits

variable {call : CredentialCall} {result : CredentialResult} {db : CoreDatabase}
  {p : Point CoreDatabase CoreWrite CoreKey}

/-- The commit of a session that has written nothing. -/
theorem commit_unchanged (hresult : result.changed = false) (hpending : p.pending = [])
    (hrely : credentialDiscipline.Rely p.held p.database db) :
    Effect db call result (view CoreDatabase.apply p.pending db) ∧
      credentialDiscipline.Guarantee p.held db (view CoreDatabase.apply p.pending db) := by
  rw [hpending]
  exact ⟨.unchanged hresult, .refl hrely.invariant⟩

/-- The commit of a status change other than a replacement. -/
theorem commit_changeStatus {op : StatusOperation} (htarget : op.target ≠ .replaced)
    {change : StatusChange} (hresult : result.changed = change.changed)
    (h : (change.changed = false ∧ p.pending = []) ∨
      (change.changed = true ∧ ∃ before after version event,
        p.pending = [.updateCredential (.fromDomain after (version + 1)), .insertEvent event] ∧
        after.status = op.target ∧ Holds before version p.held p.database ∧
        ∀ db, db.findCredential before.id = some (.fromDomain before version) →
          Transitions db before after version event))
    (hrely : credentialDiscipline.Rely p.held p.database db) :
    Effect db call result (view CoreDatabase.apply p.pending db) ∧
      credentialDiscipline.Guarantee p.held db (view CoreDatabase.apply p.pending db) := by
  rcases h with ⟨hchanged, hpending⟩ | ⟨hchanged, before, after, version, event, hpending, hstatus,
    hholds, htransitions⟩
  · exact commit_unchanged (hresult.trans hchanged) hpending hrely
  · have hdb := htransitions db (hholds.rely hrely).stored
    rw [hpending]
    exact ⟨.changed (hresult.trans hchanged) (hstatus ▸ htarget) hdb,
      hdb.guarantee hrely.invariant hholds.locked⟩

/-- Every use case commits one of the effects, whatever runs beside it. -/
theorem credentialSystem_allSafe : AllSafe credentialSystem credentialDiscipline Effect := by
  intro call db _
  cases call with
  | issue command ports =>
    refine wp_bind.mpr (wp_mono ?_ wp_issue)
    rintro issued p ⟨row, account, credential, event, hpending, hrow, hload, hactive, howner,
      hreserves, hcreates⟩ db' hrely -
    have hdb := hcreates db' (hreserves.rely hrely).fresh
    have hrow' : db'.findAccount command.transitAccountId = some row := by
      rw [CoreDatabase.findAccount, hrely.grows.accounts]
      exact hrow
    rw [hpending]
    exact ⟨.issued rfl hrow' hload hactive howner hdb,
      hdb.guarantee hrely.invariant hreserves.locked⟩
  | activate command ports =>
    refine wp_bind.mpr (wp_bind.mpr (wp_mono ?_
      (wp_changeStatus activateOperation fun _ _ => FareCredential.activate_changes)))
    exact fun change p h db' hrely _ => commit_changeStatus (by decide) rfl h hrely
  | suspend command ports =>
    refine wp_bind.mpr (wp_bind.mpr (wp_mono ?_
      (wp_changeStatus suspendOperation fun _ _ => FareCredential.suspend_changes)))
    exact fun change p h db' hrely _ => commit_changeStatus (by decide) rfl h hrely
  | revoke command ports =>
    refine wp_bind.mpr (wp_bind.mpr (wp_mono ?_
      (wp_changeStatus (revokeOperation command.reason)
        fun _ _ => FareCredential.revoke_changes)))
    exact fun change p h db' hrely _ =>
      commit_changeStatus (by simp [revokeOperation]) rfl h hrely
  | replace command ports =>
    refine wp_bind.mpr (wp_mono ?_ wp_replace)
    rintro replaced p (⟨hresult, hpending⟩ | ⟨hresult, before, after, replacement, version, event,
      replacementEvent, hpending, hid, hlive, hsuccessor, howner, hholds, hreserves, htransitions,
      hcreates⟩) db' hrely -
    · exact commit_unchanged hresult hpending hrely
    · have hdb := htransitions db' (hholds.rely hrely).stored
      have hdb' := hcreates (db'.changed after (version + 1) event)
        ((findCredential_changed_eq_none _).mpr (hreserves.rely hrely).fresh)
      have hguarantee := hdb.guarantee hrely.invariant hholds.locked
      rw [hpending]
      exact ⟨.replaced hresult hid hlive hdb hsuccessor howner hdb',
        hguarantee.trans (hdb'.guarantee hguarantee.invariant hreserves.locked)⟩

end Commits

end TransitGuard.Backend
