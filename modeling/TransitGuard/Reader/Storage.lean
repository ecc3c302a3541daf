import TransitGuard.Reader.Schema

/-!
The durable identity of a reader database. Binding writes the single
`reader_state` row the first time and only verifies it afterwards.
-/

namespace TransitGuard.Reader

/-- `ReaderDatabaseIdentity`: what `new` accepts, already trimmed. -/
structure ReaderDatabaseIdentity where
  readerId : ReaderId
  environmentId : String
  softwareVersion : String
  protocolVersion : DeviceProtocolVersion
  initializedAt : UnixMilliseconds
  environment_trimmed : Text.trim environmentId = environmentId
  environment_nonempty : environmentId ≠ ""
  software_trimmed : Text.trim softwareVersion = softwareVersion
  software_nonempty : softwareVersion ≠ ""
  initializedAt_nonneg : 0 ≤ initializedAt

/-- `ReaderStorageError`, the variants these functions produce. -/
inductive ReaderStorageError
  | emptyEnvironmentId
  | emptySoftwareVersion
  | negativeInitializationTime (unixMilliseconds : UnixMilliseconds)
  | readerIdentityMismatch (expected actual : ReaderId)
  | environmentMismatch (expected actual : String)
  | invalidStoredValue (field : String)
  | database (operation : String)
  deriving DecidableEq

def ReaderDatabaseIdentity.new (readerId : ReaderId) (environmentId softwareVersion : String)
    (protocolVersion : DeviceProtocolVersion) (initializedAt : UnixMilliseconds) :
    Except ReaderStorageError ReaderDatabaseIdentity :=
  if henv : Text.trim environmentId = "" then .error .emptyEnvironmentId
  else if hsoft : Text.trim softwareVersion = "" then .error .emptySoftwareVersion
  else if ht : 0 ≤ initializedAt then
    .ok { readerId, protocolVersion, initializedAt
          environmentId := Text.trim environmentId
          softwareVersion := Text.trim softwareVersion
          environment_trimmed := Text.trim_trim _
          environment_nonempty := henv
          software_trimmed := Text.trim_trim _
          software_nonempty := hsoft
          initializedAt_nonneg := ht }
  else .error (.negativeInitializationTime initializedAt)

structure ReaderDatabaseState where
  readerId : ReaderId
  environmentId : String
  softwareVersion : String
  protocolVersion : DeviceProtocolVersion
  nextLocalSequence : Nat
  lastAcknowledgedSequence : Nat
  createdAt : UnixMilliseconds
  updatedAt : UnixMilliseconds
  deriving DecidableEq

def decodeStoredState (stored : ReaderStateRow) :
    Except ReaderStorageError ReaderDatabaseState := do
  let protocolVersion ←
    decodeProtocolVersion (.invalidStoredValue "protocol_version") stored.protocolVersion
  if stored.nextLocalSequence = 0 then .error (.invalidStoredValue "next_local_sequence")
  if stored.nextLocalSequence ≤ stored.lastAcknowledgedSequence then
    .error (.invalidStoredValue "last_acknowledged_sequence")
  if stored.createdAt < 0 then .error (.invalidStoredValue "created_at_unix_milliseconds")
  if stored.updatedAt < stored.createdAt then
    .error (.invalidStoredValue "updated_at_unix_milliseconds")
  .ok { readerId := stored.readerId
        environmentId := stored.environmentId
        softwareVersion := stored.softwareVersion
        protocolVersion
        nextLocalSequence := stored.nextLocalSequence
        lastAcknowledgedSequence := stored.lastAcknowledgedSequence
        createdAt := stored.createdAt
        updatedAt := stored.updatedAt }

/-- The row `INSERT .. VALUES (1, ?, ?, ?, ?, 1, 0, ?, ?)` writes. -/
def ReaderDatabaseIdentity.initialRow (identity : ReaderDatabaseIdentity) : ReaderStateRow where
  readerId := identity.readerId
  environmentId := identity.environmentId
  softwareVersion := identity.softwareVersion
  protocolVersion := identity.protocolVersion.value
  nextLocalSequence := 1
  lastAcknowledgedSequence := 0
  createdAt := identity.initializedAt
  updatedAt := identity.initializedAt

/-- The statements of `bind_reader_database`. The insertion is `ON CONFLICT DO
NOTHING`, so a row that exists is kept as it is. -/
def bindStatements (db : ReaderDatabase) (identity : ReaderDatabaseIdentity) :
    Except ReaderStorageError (ReaderDatabaseState × ReaderDatabase) := do
  if !identity.initialRow.check then .error (.database "initialize reader identity")
  let row := db.readerState.getD identity.initialRow
  let state ← decodeStoredState row
  if state.readerId ≠ identity.readerId then
    .error (.readerIdentityMismatch identity.readerId state.readerId)
  if state.environmentId ≠ identity.environmentId then
    .error (.environmentMismatch identity.environmentId state.environmentId)
  .ok (state, { db with readerState := some row })

/-- `bind_reader_database`. -/
def bindReaderDatabase (db : ReaderDatabase) (identity : ReaderDatabaseIdentity) :
    Outcome ReaderStorageError ReaderDatabaseState :=
  transact db (bindStatements db identity)

/-- A database right after its first binding. -/
def FreshlyBound (db : ReaderDatabase) : Prop :=
  ∃ identity state, bindReaderDatabase .empty identity = ⟨db, .ok state⟩

end TransitGuard.Reader
