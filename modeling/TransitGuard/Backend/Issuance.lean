import TransitGuard.Backend.EventLog

/-!
Who gets a credential. Issuing looks at the account and refuses one that is not
active; replacing looks at the credential only, so the successor of an active or
suspended credential is issued whatever has become of its account. The claim
that credentials go to active accounts holds of the runs in which nobody
replaces the credential of an account that is not active.
-/

namespace TransitGuard.Backend

open Fallible Isolation PostgresValueCodec

/-! ## Changes of an account -/

inductive AccountChange
  | suspend
  | reactivate
  | close
  deriving DecidableEq

def AccountChange.apply (account : TransitAccount) :
    AccountChange → Except TransitAccountError TransitAccount
  | .suspend => account.suspend
  | .reactivate => account.reactivate
  | .close => .ok account.close

inductive AccountOutcome
  | missing
  | refused (error : TransitAccountError)
  | saved

/-- Loads an account, changes it and saves it under the version it was loaded
at, through the application transaction. -/
def changeTransitAccount (id : TransitAccountId) (change : AccountChange) :
    CoreScript AccountOutcome := do
  match ← findTransitAccount id with
  | none => pure .missing
  | some loaded =>
    match change.apply loaded.aggregate with
    | .error error => pure (.refused error)
    | .ok account => do
      saveTransitAccount account (.ifVersion loaded.version)
      pure .saved

abbrev AccountSystem :=
  System CoreDatabase CoreWrite CoreKey ApplicationError (TransitAccountId × AccountChange)
    AccountOutcome

def accountSystem : AccountSystem where
  script call := changeTransitAccount call.1 call.2
  apply := CoreDatabase.apply
  deferred := CoreDatabase.deferred

/-- Credentials and events stay as they are. -/
def AccountsOnly (db : CoreDatabase) (_ : TransitAccountId × AccountChange) (_ : AccountOutcome)
    (db' : CoreDatabase) : Prop :=
  db'.credentials = db.credentials ∧ db'.events = db.events

theorem accountSystem_allSafe : AllSafe accountSystem .free AccountsOnly := by
  rintro ⟨id, change⟩ db -
  change wp _ _ _ (changeTransitAccount id change) _
  simp only [changeTransitAccount, findTransitAccount, wp_bind, wp_select, wp_ofExcept]
  intro db₁ _ found _
  cases found with
  | none => exact fun db₂ _ _ => ⟨⟨rfl, rfl⟩, Discipline.free_guarantee⟩
  | some loaded =>
    cases hchange : change.apply loaded.aggregate with
    | error error =>
      simp only [hchange]
      exact fun db₂ _ _ => ⟨⟨rfl, rfl⟩, Discipline.free_guarantee⟩
    | ok account =>
      simp only [hchange, saveTransitAccount, wp_bind, wp_ofExcept]
      rintro ⟨current, next⟩ - db₂ _ writes hwrites
      simp only [map_eq_ok] at hwrites
      obtain ⟨-, -, rfl⟩ := hwrites
      exact fun db₃ _ _ => ⟨⟨rfl, rfl⟩, Discipline.free_guarantee⟩

/-! ## Serial runs -/

/-- A change of an account, or the execution of a use case. -/
inductive CoreCall
  | account (id : TransitAccountId) (change : AccountChange)
  | credential (call : CredentialCall)

/-- The database after a call with nothing beside it. -/
def CoreDatabase.perform (db : CoreDatabase) : CoreCall → CoreDatabase
  | .account id change => (accountSystem.execute db (id, change)).2
  | .credential call => (credentialSystem.execute db call).2

/-- A change of an account leaves credentials and events alone. -/
theorem perform_account (db : CoreDatabase) (id : TransitAccountId) (change : AccountChange) :
    (db.perform (.account id change)).credentials = db.credentials ∧
      (db.perform (.account id change)).events = db.events := by
  rw [CoreDatabase.perform]
  cases hexecute : accountSystem.execute db (id, change) with
  | mk outcome db' =>
    cases outcome with
    | ok result => exact (execute_commits accountSystem_allSafe trivial hexecute).1
    | error e => rw [executeFrom_error hexecute]; exact ⟨rfl, rfl⟩

/-- A use case leaves the database as it is, or has one of the effects. -/
theorem perform_credential {db : CoreDatabase} (hdb : Loadable db) (call : CredentialCall) :
    db.perform (.credential call) = db ∨
      ∃ result, Effect db call result (db.perform (.credential call)) := by
  rw [CoreDatabase.perform]
  cases hexecute : credentialSystem.execute db call with
  | mk outcome db' =>
    cases outcome with
    | ok result => exact .inr ⟨result, (execute_commits credentialSystem_allSafe hdb hexecute).1⟩
    | error e => exact .inl (executeFrom_error hexecute)

theorem Effect.loadable {db db' : CoreDatabase} {call : CredentialCall}
    {result : CredentialResult} (h : Effect db call result db') (hdb : Loadable db) :
    Loadable db' := by
  cases h with
  | unchanged => exact hdb
  | issued _ _ _ _ _ hcreates => exact hcreates.loadable hdb
  | changed _ _ htransitions => exact htransitions.loadable hdb
  | replaced _ _ _ htransitions _ _ hcreates =>
    exact hcreates.loadable (htransitions.loadable hdb)

theorem Loadable.perform {db : CoreDatabase} (h : Loadable db) (call : CoreCall) :
    Loadable (db.perform call) := by
  cases call with
  | account id change =>
    obtain ⟨hcredentials, -⟩ := perform_account db id change
    exact ⟨hcredentials ▸ h.unique, hcredentials ▸ h.loads⟩
  | credential call =>
    rcases perform_credential h call with hsame | ⟨result, heffect⟩
    · rwa [hsame]
    · exact heffect.loadable h

/-! ## Accounts that are active -/

/-- The stored status of the account. -/
def CoreDatabase.accountActive (db : CoreDatabase) (id : TransitAccountId) : Bool :=
  (db.findAccount id).any (·.status == encodeAccountStatus .active)

theorem decodeAccountStatus_ok {text : String} {status : TransitAccountStatus}
    (h : decodeAccountStatus text = .ok status) : text = encodeAccountStatus status := by
  unfold decodeAccountStatus at h
  split at h <;> cases h <;> rfl

theorem TransitAccountRow.restoreStatus_status {account restored : TransitAccount}
    {status : TransitAccountStatus} (hactive : account.status = .active)
    (h : restoreStatus account status = .ok restored) : restored.status = status := by
  cases status with
  | active => cases h; exact hactive
  | suspended =>
    simp only [restoreStatus, TransitAccount.suspend, hactive, mapError_eq_ok] at h
    cases h
    rfl
  | closed => cases h; rfl

/-- A loaded account has the status its row says. -/
theorem TransitAccountRow.intoVersioned_status {row : TransitAccountRow}
    {loaded : VersionedAggregate TransitAccount} (h : row.intoVersioned = .ok loaded) :
    row.status = encodeAccountStatus loaded.aggregate.status := by
  simp only [intoVersioned, bind_eq_ok, mapError_eq_ok] at h
  obtain ⟨status, hstatus, eligibility, -, currency, -, created, hcreated, account, haccount,
    version, -, h⟩ := h
  cases h
  have hactive : created.status = .active := by
    simp only [TransitAccount.new, bind_eq_ok] at hcreated
    obtain ⟨balance, -, hcreated⟩ := hcreated
    cases hcreated
    rfl
  rw [restoreStatus_status hactive haccount]
  exact decodeAccountStatus_ok hstatus

/-! ## What is issued -/

/-- The events a call has committed. -/
def CoreDatabase.committed (db : CoreDatabase) (call : CoreCall) : List DomainEventRow :=
  (db.perform call).events.drop db.events.length

/-- A replacement is of a credential that cannot be replaced, or of one whose
account is active. -/
def CoreCall.replacesForActive (db : CoreDatabase) : CoreCall → Bool
  | .credential (.replace command _) =>
    (db.findCredential command.credentialId).all fun row =>
      row.status != encodeCredentialStatus .active &&
          row.status != encodeCredentialStatus .suspended ||
        db.accountActive row.transitAccountId
  | _ => true

section Issues

variable {db : CoreDatabase} {event : DomainEventRow} {id : FareCredentialId}
  {account : TransitAccountId} {kind : FareCredentialKind}

theorem Transitions.not_issued {before after : FareCredential} {version : Nat}
    (h : Transitions db before after version event) :
    event.payload ≠ .fareCredentialIssued id account kind := by
  rw [h.payload]
  nofun

theorem Creates.issued_account {credential : FareCredential} (h : Creates db credential event)
    (hissued : event.payload = .fareCredentialIssued id account kind) :
    account = credential.transitAccountId := by
  rw [h.payload] at hissued
  cases hissued
  rfl

/-- An effect issues to active accounts, where replacements are for active
accounts. -/
theorem Effect.issued_active {db' : CoreDatabase} {call : CredentialCall}
    {result : CredentialResult} (h : Effect db call result db')
    (hmeets : CoreCall.replacesForActive db (.credential call) = true)
    (hevent : event ∈ db'.events.drop db.events.length)
    (hissued : event.payload = .fareCredentialIssued id account kind) :
    db'.accountActive account = true := by
  cases h with
  | unchanged =>
    rw [List.drop_length] at hevent
    cases hevent
  | @issued command _ _ row loaded _ _ _ hrow hload hactive howner hcreates =>
    simp only [CoreDatabase.created, List.drop_left, List.mem_singleton] at hevent
    subst hevent
    rw [hcreates.issued_account hissued, howner]
    change db.accountActive command.transitAccountId = true
    have hstatus := TransitAccountRow.intoVersioned_status hload
    simp only [TransitAccount.isActive, beq_iff_eq] at hactive
    simp [CoreDatabase.accountActive, hrow, hstatus, hactive]
  | changed _ _ htransitions =>
    simp only [CoreDatabase.changed, List.drop_left, List.mem_singleton] at hevent
    subst hevent
    exact absurd hissued htransitions.not_issued
  | @replaced command _ _ before after replacement version statusEvent _ _ hid hlive htransitions
      _ howner hcreates =>
    simp only [CoreDatabase.created, CoreDatabase.changed, List.append_assoc, List.drop_left,
      List.mem_append, List.mem_singleton] at hevent
    rcases hevent with rfl | rfl
    · exact absurd hissued htransitions.not_issued
    · rw [hcreates.issued_account hissued, howner]
      change db.accountActive before.transitAccountId = true
      have hstored := htransitions.stored
      rw [hid] at hstored
      have hstatus : (FareCredentialRow.fromDomain before version).status =
          encodeCredentialStatus before.status := rfl
      rw [CoreCall.replacesForActive, hstored] at hmeets
      rcases hlive with hlive | hlive <;>
        simpa [hstatus, hlive, FareCredentialRow.fromDomain] using hmeets

end Issues

/-- In a run in which nobody replaces the credential of an account that is not
active, every issued credential is committed while its account is active. -/
theorem issued_to_active_accounts (db : CoreDatabase) (hdb : db.WithoutCredentials)
    (calls : List CoreCall)
    (hmeets : Runs.StepsMeet CoreDatabase.perform
      (fun db call => call.replacesForActive db = true) db calls) :
    ∀ earlier call later, calls = earlier ++ call :: later →
      ∀ event ∈ (Runs.run CoreDatabase.perform db earlier).committed call,
        ∀ credential account kind,
          event.payload = .fareCredentialIssued credential account kind →
            ((Runs.run CoreDatabase.perform db earlier).perform call).accountActive account =
              true := by
  rintro earlier call later rfl event hevent credential account kind hissued
  obtain ⟨-, hcall, -⟩ := Runs.stepsMeet_append.mp hmeets
  have hconsistent : Loadable (Runs.run CoreDatabase.perform db earlier) :=
    Runs.invariant (P := Loadable) (fun _ call h => h.perform call) hdb.logged.loadable earlier
  generalize Runs.run CoreDatabase.perform db earlier = reached at *
  rw [CoreDatabase.committed] at hevent
  cases call with
  | account id change =>
    rw [(perform_account reached id change).2, List.drop_length] at hevent
    cases hevent
  | credential call =>
    rcases perform_credential hconsistent call with hsame | ⟨result, heffect⟩
    · rw [hsame, List.drop_length] at hevent
      cases hevent
    · exact heffect.issued_active hcall hevent hissued

/-- A credential is issued and activated, and replaced after `between`. -/
def sampleReplacement (between : List CoreCall) : List CoreCall :=
  [.credential (.issue ⟨sampleAccountId, .card⟩ (samplePorts sampleIssuedId 1)),
    .credential (.activate ⟨sampleIssuedId⟩ (samplePorts sampleIssuedId 2))] ++ between ++
  [.credential (.replace ⟨sampleIssuedId, .mobile⟩ (samplePorts sampleReplacementId 3))]

/-- The two credentials of an account that is suspended and reactivated. -/
theorem issued_to_active_accounts_reactivated :
    Runs.StepsMeet CoreDatabase.perform (fun db call => call.replacesForActive db = true)
      sampleCoreDatabase
      (sampleReplacement
        [.account sampleAccountId .suspend, .account sampleAccountId .reactivate]) ∧
    ∀ earlier call later,
      sampleReplacement [.account sampleAccountId .suspend,
        .account sampleAccountId .reactivate] = earlier ++ call :: later →
      ∀ event ∈ (Runs.run CoreDatabase.perform sampleCoreDatabase earlier).committed call,
        ∀ credential account kind,
          event.payload = .fareCredentialIssued credential account kind →
            ((Runs.run CoreDatabase.perform sampleCoreDatabase earlier).perform
              call).accountActive account = true := by
  have hmeets : Runs.StepsMeet CoreDatabase.perform
      (fun db call => call.replacesForActive db = true) sampleCoreDatabase
      (sampleReplacement [.account sampleAccountId .suspend,
        .account sampleAccountId .reactivate]) :=
    ⟨rfl, rfl, rfl, rfl, by decide +kernel, trivial⟩
  exact ⟨hmeets, issued_to_active_accounts sampleCoreDatabase sampleCoreDatabase_withoutCredentials
    _ hmeets⟩

/-- The account is suspended before the replacement, and gets a credential. -/
theorem issued_to_suspended_account :
    ∃ event ∈ (Runs.run CoreDatabase.perform sampleCoreDatabase
        ((sampleReplacement [.account sampleAccountId .suspend]).take 3)).committed
          (.credential (.replace ⟨sampleIssuedId, .mobile⟩ (samplePorts sampleReplacementId 3))),
      event.payload = .fareCredentialIssued sampleReplacementId sampleAccountId .mobile ∧
      ((Runs.run CoreDatabase.perform sampleCoreDatabase
        (sampleReplacement [.account sampleAccountId .suspend])).findAccount
          sampleAccountId).map (·.status) = some "suspended" := by
  decide +kernel

end TransitGuard.Backend
