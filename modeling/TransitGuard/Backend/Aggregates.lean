import TransitGuard.Library.Isolation
import TransitGuard.Domain.Event
import TransitGuard.Backend.Ingest

/-!
The PostgreSQL tables of transit accounts, fare credentials and domain events,
and the application transaction over them. A row holds the text its columns
hold; loading a row rebuilds the aggregate through its own operations. The
payload column of an event holds the value its JSON is written from, and the
stamps of the database clock are left out.
-/

namespace TransitGuard.Backend

open Fallible Isolation

/-! ## Encodings -/

/-- `PersistenceError::InvalidStoredValue`. -/
def invalid {α : Type} (field : String) : Except PersistenceError α :=
  .error (.invalidStoredValue field)

namespace PostgresValueCodec

def encodeCurrency : Currency → String
  | .usd => "USD"
  | .cad => "CAD"
  | .eur => "EUR"
  | .gbp => "GBP"

def decodeCurrency : String → Except PersistenceError Currency
  | "USD" => .ok .usd
  | "CAD" => .ok .cad
  | "EUR" => .ok .eur
  | "GBP" => .ok .gbp
  | _ => invalid "transit_accounts.stored_value_currency"

def encodeAccountStatus : TransitAccountStatus → String
  | .active => "active"
  | .suspended => "suspended"
  | .closed => "closed"

def decodeAccountStatus : String → Except PersistenceError TransitAccountStatus
  | "active" => .ok .active
  | "suspended" => .ok .suspended
  | "closed" => .ok .closed
  | _ => invalid "transit_accounts.status"

def encodeEligibility : EligibilityClassification → String
  | .standard => "standard"
  | .youth => "youth"
  | .senior => "senior"
  | .reducedFare => "reduced_fare"
  | .employeeTestAccount => "employee_test_account"

def decodeEligibility : String → Except PersistenceError EligibilityClassification
  | "standard" => .ok .standard
  | "youth" => .ok .youth
  | "senior" => .ok .senior
  | "reduced_fare" => .ok .reducedFare
  | "employee_test_account" => .ok .employeeTestAccount
  | _ => invalid "transit_accounts.eligibility"

def encodeCredentialKind : FareCredentialKind → String
  | .card => "card"
  | .mobile => "mobile"
  | .developmentTestToken => "development_test_token"

def decodeCredentialKind : String → Except PersistenceError FareCredentialKind
  | "card" => .ok .card
  | "mobile" => .ok .mobile
  | "development_test_token" => .ok .developmentTestToken
  | _ => invalid "fare_credentials.kind"

def encodeCredentialStatus : FareCredentialStatus → String
  | .pending => "pending"
  | .active => "active"
  | .suspended => "suspended"
  | .revoked => "revoked"
  | .expired => "expired"
  | .replaced => "replaced"

def decodeCredentialStatus : String → Except PersistenceError FareCredentialStatus
  | "pending" => .ok .pending
  | "active" => .ok .active
  | "suspended" => .ok .suspended
  | "revoked" => .ok .revoked
  | "expired" => .ok .expired
  | "replaced" => .ok .replaced
  | _ => invalid "fare_credentials.status"

def encodeCredentialRevocationReason : RevocationReason → String
  | .reportedLost => "reported_lost"
  | .reportedStolen => "reported_stolen"
  | .replaced => "replaced"
  | .accountSuspended => "account_suspended"
  | .administrativeAction => "administrative_action"
  | .securityIncident => "security_incident"
  | .testCleanup => "test_cleanup"

def decodeCredentialRevocationReason : String → Except PersistenceError RevocationReason
  | "reported_lost" => .ok .reportedLost
  | "reported_stolen" => .ok .reportedStolen
  | "replaced" => .ok .replaced
  | "account_suspended" => .ok .accountSuspended
  | "administrative_action" => .ok .administrativeAction
  | "security_incident" => .ok .securityIncident
  | "test_cleanup" => .ok .testCleanup
  | _ => invalid "fare_credentials.revocation_reason"

def encodeAggregateVersion (version : AggregateVersion) : Except PersistenceError Nat :=
  if i64Max < version.value then .error (.numericValueOutOfRange "aggregate_version")
  else .ok version.value

def decodeAggregateVersion (value : Nat) : Except PersistenceError AggregateVersion :=
  orFail (.invalidStoredValue "aggregate_version") (AggregateVersion.new value)

/-- The `aggregate_kind` column. -/
def aggregateKind : DomainAggregateId → String
  | .transitAccount _ => "transit_account"
  | .fareCredential _ => "fare_credential"
  | .readerEquipment _ => "reader_equipment"
  | .fareTransaction _ => "fare_transaction"

theorem decode_encodeCurrency (c : Currency) : decodeCurrency (encodeCurrency c) = .ok c := by
  cases c <;> rfl

theorem decode_encodeAccountStatus (s : TransitAccountStatus) :
    decodeAccountStatus (encodeAccountStatus s) = .ok s := by
  cases s <;> rfl

theorem decode_encodeEligibility (e : EligibilityClassification) :
    decodeEligibility (encodeEligibility e) = .ok e := by
  cases e <;> rfl

theorem decode_encodeCredentialKind (k : FareCredentialKind) :
    decodeCredentialKind (encodeCredentialKind k) = .ok k := by
  cases k <;> rfl

theorem decode_encodeCredentialStatus (s : FareCredentialStatus) :
    decodeCredentialStatus (encodeCredentialStatus s) = .ok s := by
  cases s <;> rfl

theorem decode_encodeCredentialRevocationReason (r : RevocationReason) :
    decodeCredentialRevocationReason (encodeCredentialRevocationReason r) = .ok r := by
  cases r <;> rfl

theorem encodeCredentialStatus_inj {s t : FareCredentialStatus}
    (h : encodeCredentialStatus s = encodeCredentialStatus t) : s = t :=
  Except.ok.inj ((decode_encodeCredentialStatus s).symm.trans
    (h ▸ decode_encodeCredentialStatus t))

end PostgresValueCodec

open PostgresValueCodec

/-- `VersionedAggregate`. -/
structure VersionedAggregate (α : Type) where
  aggregate : α
  version : AggregateVersion

def VersionedAggregate.nextVersion {α : Type} (loaded : VersionedAggregate α) :
    Option AggregateVersion :=
  AggregateVersion.new (loaded.version.value + 1)

inductive SaveCondition
  | mustNotExist
  | ifVersion (version : AggregateVersion)
  deriving DecidableEq

/-! ## Accounts -/

structure TransitAccountRow where
  id : TransitAccountId
  riderId : RiderId
  status : String
  eligibility : String
  storedValueMinorUnits : Int64
  storedValueCurrency : String
  aggregateVersion : Nat
  deriving DecidableEq

namespace TransitAccountRow

def fromDomain (account : TransitAccount) (aggregateVersion : Nat) : TransitAccountRow where
  id := account.id
  riderId := account.riderId
  status := encodeAccountStatus account.status
  eligibility := encodeEligibility account.eligibility
  storedValueMinorUnits := account.storedValue.amount.minorUnits
  storedValueCurrency := encodeCurrency account.storedValue.currency
  aggregateVersion := aggregateVersion

/-- The account of a row in its stored status. -/
def restoreStatus (account : TransitAccount) :
    TransitAccountStatus → Except PersistenceError TransitAccount
  | .active => .ok account
  | .suspended => account.suspend.mapError fun _ => .invalidStoredValue "transit_accounts.status"
  | .closed => .ok account.close

def intoVersioned (row : TransitAccountRow) :
    Except PersistenceError (VersionedAggregate TransitAccount) := do
  let status ← decodeAccountStatus row.status
  let eligibility ← decodeEligibility row.eligibility
  let currency ← decodeCurrency (Text.trim row.storedValueCurrency)
  let created ← (TransitAccount.new row.id row.riderId eligibility
    (Money.fromMinorUnits row.storedValueMinorUnits currency)).mapError
      fun _ => .invalidStoredValue "transit_accounts.stored_value_minor_units"
  let account ← restoreStatus created status
  let version ← decodeAggregateVersion row.aggregateVersion
  .ok ⟨account, version⟩

def check (row : TransitAccountRow) : Bool :=
  ["active", "suspended", "closed"].contains row.status &&
    ["standard", "youth", "senior", "reduced_fare", "employee_test_account"].contains
      row.eligibility &&
    decide (0 ≤ row.storedValueMinorUnits) &&
    ["USD", "CAD", "EUR", "GBP"].contains row.storedValueCurrency && 0 < row.aggregateVersion

/-- The primary key, and `UNIQUE (rider_id)`. -/
def conflicts (a b : TransitAccountRow) : Bool := a.id == b.id || a.riderId == b.riderId

end TransitAccountRow

/-! ## Credentials -/

structure FareCredentialRow where
  id : FareCredentialId
  transitAccountId : TransitAccountId
  kind : String
  status : String
  revocationReason : Option String
  replacementId : Option FareCredentialId
  aggregateVersion : Nat
  deriving DecidableEq

namespace FareCredentialRow

def fromDomain (credential : FareCredential) (aggregateVersion : Nat) : FareCredentialRow where
  id := credential.id
  transitAccountId := credential.transitAccountId
  kind := encodeCredentialKind credential.kind
  status := encodeCredentialStatus credential.status
  revocationReason := credential.revocationReason.map encodeCredentialRevocationReason
  replacementId := credential.replacementId
  aggregateVersion := aggregateVersion

/-- `validate_lifecycle_fields`. -/
def validateLifecycleFields (status : FareCredentialStatus)
    (revocationReason : Option RevocationReason) (replacementId : Option FareCredentialId) :
    Except PersistenceError Unit :=
  match status with
  | .revoked =>
    if revocationReason.isNone then invalid "fare_credentials.revocation_reason"
    else if replacementId.isSome then invalid "fare_credentials.replacement_id"
    else .ok ()
  | .replaced =>
    if revocationReason.isSome then invalid "fare_credentials.revocation_reason"
    else if replacementId.isNone then invalid "fare_credentials.replacement_id"
    else .ok ()
  | .pending | .active | .suspended | .expired =>
    if revocationReason.isSome then invalid "fare_credentials.revocation_reason"
    else if replacementId.isSome then invalid "fare_credentials.replacement_id"
    else .ok ()

/-- A pending credential taken to the stored status through its operations. -/
def restoreStatus (credential : FareCredential) (status : FareCredentialStatus)
    (revocationReason : Option RevocationReason) (replacementId : Option FareCredentialId) :
    Except PersistenceError FareCredential :=
  let refused (field : String) (_ : FareCredentialError) :=
    PersistenceError.invalidStoredValue field
  match status with
  | .pending => .ok credential
  | .active => credential.activate.mapError (refused "fare_credentials.status")
  | .suspended => do
    let activated ← credential.activate.mapError (refused "fare_credentials.status")
    activated.suspend.mapError (refused "fare_credentials.status")
  | .revoked => do
    let reason ← orFail (.invalidStoredValue "fare_credentials.revocation_reason") revocationReason
    (credential.revoke reason).mapError (refused "fare_credentials.status")
  | .expired => credential.expire.mapError (refused "fare_credentials.status")
  | .replaced => do
    let successor ← orFail (.invalidStoredValue "fare_credentials.replacement_id") replacementId
    let activated ← credential.activate.mapError (refused "fare_credentials.status")
    (activated.replaceWith successor).mapError (refused "fare_credentials.replacement_id")

def intoVersioned (row : FareCredentialRow) :
    Except PersistenceError (VersionedAggregate FareCredential) := do
  let kind ← decodeCredentialKind row.kind
  let status ← decodeCredentialStatus row.status
  let revocationReason ← row.revocationReason.mapM decodeCredentialRevocationReason
  validateLifecycleFields status revocationReason row.replacementId
  let credential ← restoreStatus (.newPending row.id row.transitAccountId kind) status
    revocationReason row.replacementId
  let version ← decodeAggregateVersion row.aggregateVersion
  .ok ⟨credential, version⟩

def check (row : FareCredentialRow) : Bool :=
  ["card", "mobile", "development_test_token"].contains row.kind &&
    ["pending", "active", "suspended", "revoked", "expired", "replaced"].contains row.status &&
    row.revocationReason.all
      ["reported_lost", "reported_stolen", "replaced", "account_suspended",
        "administrative_action", "security_incident", "test_cleanup"].contains &&
    row.revocationReason.isSome == (row.status == "revoked") &&
    row.replacementId.isSome == (row.status == "replaced") &&
    row.replacementId != some row.id && 0 < row.aggregateVersion

/-- The primary key, and `UNIQUE (replacement_id)`, where nulls are distinct. -/
def conflicts (a b : FareCredentialRow) : Bool :=
  a.id == b.id || (a.replacementId.isSome && a.replacementId == b.replacementId)

end FareCredentialRow

theorem FareCredentialRow.restoreStatus_newPending (c : FareCredential) :
    restoreStatus (.newPending c.id c.transitAccountId c.kind) c.status c.revocationReason
      c.replacementId = .ok c := by
  obtain ⟨id, account, kind, status, reason, successor, hreason, hsuccessor, hself⟩ := c
  cases status <;> cases reason <;> cases hreason <;> cases successor <;> cases hsuccessor
  case replaced.none.refl.some.refl successor =>
    have hne : successor ≠ id := fun h => hself (congrArg some h)
    simp [restoreStatus, FareCredential.activate, FareCredential.newPending, orFail,
      Except.mapError, FareCredential.replaceWith, FareCredential.withStatus, hne, ok_bind]
  all_goals rfl

theorem FareCredentialRow.validateLifecycleFields_ok (c : FareCredential) :
    validateLifecycleFields c.status c.revocationReason c.replacementId = .ok () := by
  obtain ⟨id, account, kind, status, reason, successor, hreason, hsuccessor, -⟩ := c
  cases status <;> cases reason <;> cases hreason <;> cases successor <;> cases hsuccessor <;> rfl

/-- Loading a stored credential gives back the credential and its version. -/
theorem FareCredentialRow.intoVersioned_fromDomain (c : FareCredential)
    (version : AggregateVersion) :
    intoVersioned (fromDomain c version.value) = .ok ⟨c, version⟩ := by
  have hreason : (fromDomain c version.value).revocationReason.mapM
      decodeCredentialRevocationReason = .ok c.revocationReason := by
    cases hsome : c.revocationReason with
    | none => simp [fromDomain, hsome]; rfl
    | some reason =>
      simp [fromDomain, hsome, decode_encodeCredentialRevocationReason]
  simp only [intoVersioned, hreason]
  simp only [fromDomain, decode_encodeCredentialKind, decode_encodeCredentialStatus, ok_bind,
    validateLifecycleFields_ok, restoreStatus_newPending, decodeAggregateVersion,
    AggregateVersion.new_value]
  rfl

/-! ## Events -/

structure DomainEventRow where
  id : DomainEventId
  aggregateId : DomainAggregateId
  aggregateVersion : Nat
  eventName : String
  occurredAt : UnixMilliseconds
  payload : DomainEventPayload
  deriving DecidableEq

namespace DomainEventRow

/-- `DomainEventRecord::from_domain`. -/
def fromDomain (event : DomainEvent) : Except PersistenceError DomainEventRow := do
  let aggregateVersion ← encodeAggregateVersion event.aggregateVersion
  .ok { id := event.id
        aggregateId := event.aggregateId
        aggregateVersion
        eventName := event.payload.eventName
        occurredAt := event.occurredAt.unixMilliseconds
        payload := event.payload }

/-- `text LIKE pattern || '%'`, where an underscore stands for any character. -/
def likeStart : List Char → List Char → Bool
  | [], _ => true
  | _ :: _, [] => false
  | p :: pattern, c :: text => (p == '_' || p == c) && likeStart pattern text

def check (row : DomainEventRow) : Bool :=
  0 < row.aggregateVersion && decide (0 ≤ row.occurredAt) && row.eventName != "" &&
    likeStart (aggregateKind row.aggregateId ++ ".").toList row.eventName.toList

/-- The primary key, and the version of an aggregate. -/
def conflicts (a b : DomainEventRow) : Bool :=
  a.id == b.id || (a.aggregateId == b.aggregateId && a.aggregateVersion == b.aggregateVersion)

end DomainEventRow

/-! ## The database -/

structure CoreDatabase where
  accounts : List TransitAccountRow
  credentials : List FareCredentialRow
  events : List DomainEventRow

/-- What a statement locks: a row, or the value of a unique column. -/
inductive CoreKey
  | account (id : TransitAccountId)
  | rider (id : RiderId)
  | credential (id : FareCredentialId)
  | successor (id : FareCredentialId)
  | event (id : DomainEventId)
  | aggregateVersion (aggregate : DomainAggregateId) (version : Nat)
  deriving DecidableEq

inductive CoreWrite
  | insertAccount (row : TransitAccountRow)
  | updateAccount (row : TransitAccountRow)
  | insertCredential (row : FareCredentialRow)
  | updateCredential (row : FareCredentialRow)
  | insertEvent (row : DomainEventRow)

def CoreDatabase.apply (db : CoreDatabase) : CoreWrite → CoreDatabase
  | .insertAccount row => { db with accounts := db.accounts ++ [row] }
  | .updateAccount row =>
    { db with accounts := Table.updateWhere (·.id == row.id) (fun _ => row) db.accounts }
  | .insertCredential row => { db with credentials := db.credentials ++ [row] }
  | .updateCredential row =>
    { db with credentials := Table.updateWhere (·.id == row.id) (fun _ => row) db.credentials }
  | .insertEvent row => { db with events := db.events ++ [row] }

def CoreDatabase.findAccount (db : CoreDatabase) (id : TransitAccountId) :
    Option TransitAccountRow :=
  db.accounts.find? (·.id == id)

def CoreDatabase.findCredential (db : CoreDatabase) (id : FareCredentialId) :
    Option FareCredentialRow :=
  db.credentials.find? (·.id == id)

/-! ## The application transaction -/

/-- `RepositoryError`. -/
structure RepositoryError where
  entity : String
  operation : String
  source : PersistenceError
  deriving DecidableEq

/-- `ClockError`. -/
structure ClockError where
  operation : String
  deriving DecidableEq

inductive ApplicationError
  | notFound (entity identifier : String)
  | conflict (operation reason : String)
  | fareCredential (error : FareCredentialError)
  | repository (error : RepositoryError)
  | clock (error : ClockError)
  deriving DecidableEq

/-- `PersistenceError::write` on a refused statement. -/
def PersistenceError.write (entity : String) : Table.Violation → PersistenceError
  | .unique => .writeConditionFailed entity
  | .foreignKey => .constraintViolation entity "foreign-key"
  | .check => .constraintViolation entity "check"

def repositoryError (entity operation : String) (error : PersistenceError) : ApplicationError :=
  .repository ⟨entity, operation, error⟩

abbrev CoreScript := Script CoreDatabase CoreWrite CoreKey ApplicationError

/-- `row.map(into_versioned).transpose()`. -/
def loadRow {ρ α : Type} (into : ρ → Except PersistenceError α) :
    Option ρ → Except PersistenceError (Option α)
  | none => .ok none
  | some row => (into row).map some

def findTransitAccount (id : TransitAccountId) :
    CoreScript (Option (VersionedAggregate TransitAccount)) := do
  let row ← Script.select (·.findAccount id)
  .ofExcept ((loadRow TransitAccountRow.intoVersioned row).mapError
    (repositoryError "transit account" "find by identifier"))

def findFareCredential (id : FareCredentialId) :
    CoreScript (Option (VersionedAggregate FareCredential)) := do
  let row ← Script.select (·.findCredential id)
  .ofExcept ((loadRow FareCredentialRow.intoVersioned row).mapError
    (repositoryError "fare credential" "find by identifier"))

/-- `encode_next_version`: the expected version and the one after it. -/
def encodeNextVersion (version : AggregateVersion) (field : String) :
    Except PersistenceError (Nat × Nat) := do
  let current ← encodeAggregateVersion version
  if current = i64Max then .error (.numericValueOutOfRange field)
  else .ok (current, current + 1)

/-- `enforce_single_write`. -/
def enforceSingleWrite (entity : String) (affected : Nat) : Except PersistenceError Unit :=
  if affected ≠ 1 then .error (.writeConditionFailed entity) else .ok ()

/-- An `INSERT` of one row. -/
def insertStatement {ρ : Type} (entity : String) (check : ρ → Bool) (conflicts : ρ → ρ → Bool)
    (references : Bool) (row : ρ) (rows : List ρ) : Except PersistenceError Unit :=
  ((Table.insert check conflicts references row rows).mapError (.write entity)).map fun _ => ()

/-- An `UPDATE` of one row under the expected version. -/
def updateStatement {ρ : Type} (entity : String) (check : ρ → Bool) (conflicts : ρ → ρ → Bool)
    (references : Bool) (p : ρ → Bool) (row : ρ) (rows : List ρ) :
    Except PersistenceError Unit := do
  let affected ← (Table.replace check conflicts references p row rows).mapError (.write entity)
  enforceSingleWrite entity affected

def CoreDatabase.insertAccount (db : CoreDatabase) (row : TransitAccountRow) :
    Except PersistenceError Unit :=
  insertStatement "transit account" TransitAccountRow.check TransitAccountRow.conflicts true row
    db.accounts

def CoreDatabase.updateAccount (db : CoreDatabase) (row : TransitAccountRow) (expected : Nat) :
    Except PersistenceError Unit :=
  updateStatement "transit account" TransitAccountRow.check TransitAccountRow.conflicts true
    (fun stored => stored.id == row.id && stored.aggregateVersion == expected) row db.accounts

/-- The foreign key to the account; the one to the successor is deferred. -/
def CoreDatabase.owns (db : CoreDatabase) (row : FareCredentialRow) : Bool :=
  db.accounts.any (·.id == row.transitAccountId)

def CoreDatabase.insertCredential (db : CoreDatabase) (row : FareCredentialRow) :
    Except PersistenceError Unit :=
  insertStatement "fare credential" FareCredentialRow.check FareCredentialRow.conflicts
    (db.owns row) row db.credentials

def CoreDatabase.updateCredential (db : CoreDatabase) (row : FareCredentialRow) (expected : Nat) :
    Except PersistenceError Unit :=
  updateStatement "fare credential" FareCredentialRow.check FareCredentialRow.conflicts
    (db.owns row) (fun stored => stored.id == row.id && stored.aggregateVersion == expected) row
    db.credentials

def CoreDatabase.insertEvent (db : CoreDatabase) (row : DomainEventRow) :
    Except PersistenceError Unit :=
  insertStatement "domain event" DomainEventRow.check DomainEventRow.conflicts true row db.events

def TransitAccountRow.locks (row : TransitAccountRow) : List (Lock CoreKey) :=
  [⟨.account row.id, .exclusive⟩, ⟨.rider row.riderId, .exclusive⟩]

def FareCredentialRow.locks (row : FareCredentialRow) : List (Lock CoreKey) :=
  ⟨.credential row.id, .exclusive⟩ ::
    row.replacementId.toList.map fun successor => ⟨.successor successor, .exclusive⟩

def DomainEventRow.locks (row : DomainEventRow) : List (Lock CoreKey) :=
  [⟨.event row.id, .exclusive⟩,
    ⟨.aggregateVersion row.aggregateId row.aggregateVersion, .exclusive⟩]

/-- A write that goes through `statement` and then stands as `write`. -/
def writing (entity operation : String) (locks : List (Lock CoreKey))
    (statement : CoreDatabase → Except PersistenceError Unit) (write : CoreWrite) :
    CoreScript Unit :=
  .write locks fun db =>
    ((statement db).mapError (repositoryError entity operation)).map fun _ => [write]

def saveTransitAccount (account : TransitAccount) : SaveCondition → CoreScript Unit
  | .mustNotExist =>
    let row := TransitAccountRow.fromDomain account 1
    writing "transit account" "save" row.locks (·.insertAccount row) (.insertAccount row)
  | .ifVersion version => do
    let (current, next) ← .ofExcept
      ((encodeNextVersion version "transit_accounts.aggregate_version").mapError
        (repositoryError "transit account" "save"))
    let row := TransitAccountRow.fromDomain account next
    writing "transit account" "save" row.locks (·.updateAccount row current) (.updateAccount row)

def saveFareCredential (credential : FareCredential) : SaveCondition → CoreScript Unit
  | .mustNotExist =>
    let row := FareCredentialRow.fromDomain credential 1
    writing "fare credential" "save" row.locks (·.insertCredential row) (.insertCredential row)
  | .ifVersion version => do
    let (current, next) ← .ofExcept
      ((encodeNextVersion version "fare_credentials.aggregate_version").mapError
        (repositoryError "fare credential" "save"))
    let row := FareCredentialRow.fromDomain credential next
    writing "fare credential" "save" row.locks (·.updateCredential row current)
      (.updateCredential row)

def appendDomainEvent (event : DomainEvent) : CoreScript Unit := do
  let row ← .ofExcept ((DomainEventRow.fromDomain event).mapError
    (repositoryError "domain event" "append"))
  writing "domain event" "append" row.locks (·.insertEvent row) (.insertEvent row)

/-! ## What a statement that succeeds has found -/

theorem loadRow_eq_some {ρ α : Type} {into : ρ → Except PersistenceError α} {found : Option ρ}
    {a : α} (h : loadRow into found = .ok (some a)) :
    ∃ row, found = some row ∧ into row = .ok a := by
  cases found with
  | none => cases h
  | some row =>
    rw [loadRow, map_eq_ok] at h
    obtain ⟨b, hb, hsome⟩ := h
    cases hsome
    exact ⟨row, rfl, hb⟩

theorem encodeNextVersion_ok {version : AggregateVersion} {field : String} {current next : Nat}
    (h : encodeNextVersion version field = .ok (current, next)) :
    current = version.value ∧ next = version.value + 1 ∧ version.value < i64Max := by
  simp only [encodeNextVersion, encodeAggregateVersion, bind_eq_ok] at h
  obtain ⟨value, hvalue, h⟩ := h
  split at hvalue
  · cases hvalue
  · cases hvalue
    split at h
    · cases h
    · cases h
      exact ⟨rfl, rfl, by omega⟩

section Statements

variable {ρ : Type} {entity : String} {check : ρ → Bool} {conflicts : ρ → ρ → Bool}
  {references : Bool} {row : ρ} {rows : List ρ} {u : Unit}

theorem insertStatement_eq_ok :
    insertStatement entity check conflicts references row rows = .ok u ↔
      check row = true ∧ (∀ other ∈ rows, conflicts row other = false) ∧ references = true := by
  simp only [insertStatement, map_eq_ok, mapError_eq_ok, Table.insert_eq_ok]
  exact ⟨fun ⟨_, ⟨hcheck, hfree, hreferences, _⟩, _⟩ => ⟨hcheck, hfree, hreferences⟩,
    fun ⟨hcheck, hfree, hreferences⟩ => ⟨_, ⟨hcheck, hfree, hreferences, rfl⟩, trivial⟩⟩

theorem updateStatement_eq_ok {p : ρ → Bool} :
    updateStatement entity check conflicts references p row rows = .ok u ↔
      check row = true ∧ (∀ other ∈ rows, p other = false → conflicts row other = false) ∧
        references = true ∧ rows.countP p = 1 := by
  have hsingle : ∀ affected, enforceSingleWrite entity affected = .ok u ↔ affected = 1 := by
    intro affected
    unfold enforceSingleWrite
    by_cases h : affected = 1 <;> simp [h]
  simp only [updateStatement, bind_eq_ok, mapError_eq_ok, hsingle, exists_eq_right]
  exact Table.replace_eq_ok Nat.one_pos

end Statements

/-- The deferred foreign key of `replacement_id`, checked at the commit. -/
def CoreDatabase.deferred (db : CoreDatabase) : Except ApplicationError Unit :=
  if db.credentials.all fun row =>
      row.replacementId.all fun successor => db.credentials.any (·.id == successor) then .ok ()
  else .error (repositoryError "application transaction" "commit"
    (.database "commit application transaction"))

end TransitGuard.Backend
