import TransitGuard.Backend.Aggregates

/-!
The five use cases on fare credentials. Each reads, decides and writes in one
application transaction; what its clock and its identifier generators answer is
an input of the execution, and may be anything, identifiers in use included.
-/

namespace TransitGuard.Backend

open Fallible Isolation

/-- The answers of the clock and the identifier generators to one execution. -/
structure Ports where
  now : Except ClockError DomainEventTime
  credentialId : FareCredentialId
  eventId : DomainEventId
  nextEventId : DomainEventId

/-! ## Issuing -/

structure IssueFareCredentialCommand where
  transitAccountId : TransitAccountId
  kind : FareCredentialKind

structure IssuedFareCredential where
  credentialId : FareCredentialId
  transitAccountId : TransitAccountId
  kind : FareCredentialKind
  status : FareCredentialStatus
  deriving DecidableEq

/-- The event of a new credential. -/
def issuedEvent (operation reason : String) (eventId : DomainEventId)
    (occurredAt : DomainEventTime) (credential : FareCredential) :
    Except ApplicationError DomainEvent :=
  (DomainEvent.new eventId .initial occurredAt
    (.fareCredentialIssued credential.id credential.transitAccountId credential.kind)).mapError
      fun _ => .conflict operation reason

/-- What `IssueFareCredentialService::execute` prepares for a found account. -/
def planIssue (command : IssueFareCredentialCommand) (ports : Ports)
    (occurredAt : DomainEventTime) (account : VersionedAggregate TransitAccount) :
    Except ApplicationError (FareCredential × DomainEvent) := do
  if !account.aggregate.isActive then
    .error (.conflict "issue fare credential" "transit account is not active")
  let credential := FareCredential.newPending ports.credentialId command.transitAccountId
    command.kind
  let event ← issuedEvent "issue fare credential" "credential issuance event is invalid"
    ports.eventId occurredAt credential
  .ok (credential, event)

/-- `IssueFareCredentialService::execute`. -/
def issueFareCredential (command : IssueFareCredentialCommand) (ports : Ports) :
    CoreScript IssuedFareCredential := do
  let occurredAt ← .ofExcept (ports.now.mapError .clock)
  let found ← findTransitAccount command.transitAccountId
  let account ← .ofExcept (orFail (.notFound "transit account" command.transitAccountId.toText)
    found)
  let (credential, event) ← .ofExcept (planIssue command ports occurredAt account)
  saveFareCredential credential .mustNotExist
  appendDomainEvent event
  pure ⟨credential.id, command.transitAccountId, command.kind, credential.status⟩

/-! ## Changing the status -/

/-- What a status change reports: the credential as it is now, its status before
and after, and whether anything was written. -/
structure StatusChange where
  credential : FareCredential
  previousStatus : FareCredentialStatus
  currentStatus : FareCredentialStatus
  changed : Bool

/-- What one of the status changes does to a loaded credential. -/
structure StatusOperation where
  operation : String
  invalidEvent : String
  target : FareCredentialStatus
  change : FareCredential → Except FareCredentialError FareCredential

/-- The event of a status change. -/
def statusChangedEvent (operation reason : String) (eventId : DomainEventId)
    (version : AggregateVersion) (occurredAt : DomainEventTime) (credentialId : FareCredentialId)
    (previous current : FareCredentialStatus) : Except ApplicationError DomainEvent :=
  (DomainEvent.new eventId version occurredAt
    (.fareCredentialStatusChanged credentialId previous current)).mapError
      fun _ => .conflict operation reason

def planStatusChange (op : StatusOperation) (credentialId : FareCredentialId) (ports : Ports)
    (loaded : VersionedAggregate FareCredential) :
    Except ApplicationError (FareCredential × DomainEvent) := do
  let nextVersion ← orFail (.conflict op.operation "aggregate version is exhausted")
    loaded.nextVersion
  let credential ← (op.change loaded.aggregate).mapError .fareCredential
  let occurredAt ← ports.now.mapError .clock
  let event ← statusChangedEvent op.operation op.invalidEvent ports.eventId nextVersion occurredAt
    credentialId loaded.aggregate.status op.target
  .ok (credential, event)

/-- The common body of the status changes. -/
def changeStatus (op : StatusOperation) (credentialId : FareCredentialId) (ports : Ports) :
    CoreScript StatusChange := do
  let found ← findFareCredential credentialId
  let loaded ← .ofExcept (orFail (.notFound "fare credential" credentialId.toText) found)
  if loaded.aggregate.status = op.target then
    pure ⟨loaded.aggregate, loaded.aggregate.status, op.target, false⟩
  else do
    let (credential, event) ← .ofExcept (planStatusChange op credentialId ports loaded)
    saveFareCredential credential (.ifVersion loaded.version)
    appendDomainEvent event
    pure ⟨credential, loaded.aggregate.status, credential.status, true⟩

structure ActivatedFareCredential where
  credentialId : FareCredentialId
  previousStatus : FareCredentialStatus
  currentStatus : FareCredentialStatus
  changed : Bool
  deriving DecidableEq

structure ActivateFareCredentialCommand where
  credentialId : FareCredentialId

def activateOperation : StatusOperation where
  operation := "activate fare credential"
  invalidEvent := "credential activation event is invalid"
  target := .active
  change := FareCredential.activate

/-- `ActivateFareCredentialService::execute`. -/
def activateFareCredential (command : ActivateFareCredentialCommand) (ports : Ports) :
    CoreScript ActivatedFareCredential := do
  let change ← changeStatus activateOperation command.credentialId ports
  pure ⟨command.credentialId, change.previousStatus, change.currentStatus, change.changed⟩

structure SuspendedFareCredential where
  credentialId : FareCredentialId
  previousStatus : FareCredentialStatus
  currentStatus : FareCredentialStatus
  changed : Bool
  deriving DecidableEq

structure SuspendFareCredentialCommand where
  credentialId : FareCredentialId

def suspendOperation : StatusOperation where
  operation := "suspend fare credential"
  invalidEvent := "credential suspension event is invalid"
  target := .suspended
  change := FareCredential.suspend

/-- `SuspendFareCredentialService::execute`. -/
def suspendFareCredential (command : SuspendFareCredentialCommand) (ports : Ports) :
    CoreScript SuspendedFareCredential := do
  let change ← changeStatus suspendOperation command.credentialId ports
  pure ⟨command.credentialId, change.previousStatus, change.currentStatus, change.changed⟩

structure RevokedFareCredential where
  credentialId : FareCredentialId
  previousStatus : FareCredentialStatus
  currentStatus : FareCredentialStatus
  reason : RevocationReason
  changed : Bool
  deriving DecidableEq

structure RevokeFareCredentialCommand where
  credentialId : FareCredentialId
  reason : RevocationReason

def revokeOperation (reason : RevocationReason) : StatusOperation where
  operation := "revoke fare credential"
  invalidEvent := "credential revocation event is invalid"
  target := .revoked
  change := (·.revoke reason)

/-- `RevokeFareCredentialService::execute`. The reason reported is the recorded
one. -/
def revokeFareCredential (command : RevokeFareCredentialCommand) (ports : Ports) :
    CoreScript RevokedFareCredential := do
  let change ← changeStatus (revokeOperation command.reason) command.credentialId ports
  pure ⟨command.credentialId, change.previousStatus, change.currentStatus,
    change.credential.revocationReason.getD command.reason, change.changed⟩

/-! ## Replacing -/

structure ReplaceFareCredentialCommand where
  credentialId : FareCredentialId
  replacementKind : FareCredentialKind

structure ReplacedFareCredential where
  originalCredentialId : FareCredentialId
  replacementCredentialId : FareCredentialId
  previousStatus : FareCredentialStatus
  currentStatus : FareCredentialStatus
  replacementStatus : FareCredentialStatus
  changed : Bool
  deriving DecidableEq

/-- The recorded successor, where it belongs to the same account. -/
def checkSuccessor (original : FareCredential)
    (found : Option (VersionedAggregate FareCredential)) :
    Except ApplicationError FareCredential := do
  let recorded ← orFail (.conflict "replace fare credential"
    "recorded replacement credential is missing") found
  if recorded.aggregate.transitAccountId ≠ original.transitAccountId then
    .error (.conflict "replace fare credential" "recorded replacement belongs to another account")
  .ok recorded.aggregate

/-- The branch of a credential that is replaced already. -/
def repeatReplacement (command : ReplaceFareCredentialCommand) (original : FareCredential) :
    CoreScript ReplacedFareCredential := do
  let successor ← .ofExcept (orFail (.conflict "replace fare credential"
    "replaced credential has no successor") original.replacementId)
  let found ← findFareCredential successor
  let recorded ← .ofExcept (checkSuccessor original found)
  pure ⟨command.credentialId, successor, original.status, .replaced, recorded.status, false⟩

/-- What a first replacement writes. -/
structure Replacement where
  original : FareCredential
  replacement : FareCredential
  originalEvent : DomainEvent
  replacementEvent : DomainEvent

def planReplacement (command : ReplaceFareCredentialCommand) (ports : Ports)
    (loaded : VersionedAggregate FareCredential) : Except ApplicationError Replacement := do
  let nextVersion ← orFail (.conflict "replace fare credential" "aggregate version is exhausted")
    loaded.nextVersion
  let replacement := FareCredential.newPending ports.credentialId
    loaded.aggregate.transitAccountId command.replacementKind
  let original ← (loaded.aggregate.replaceWith ports.credentialId).mapError .fareCredential
  let occurredAt ← ports.now.mapError .clock
  let originalEvent ← statusChangedEvent "replace fare credential"
    "original credential event is invalid" ports.eventId nextVersion occurredAt
    command.credentialId loaded.aggregate.status .replaced
  let replacementEvent ← issuedEvent "replace fare credential"
    "replacement issuance event is invalid" ports.nextEventId occurredAt replacement
  .ok { original, replacement, originalEvent, replacementEvent }

/-- `ReplaceFareCredentialService::execute`. -/
def replaceFareCredential (command : ReplaceFareCredentialCommand) (ports : Ports) :
    CoreScript ReplacedFareCredential := do
  let found ← findFareCredential command.credentialId
  let loaded ← .ofExcept (orFail (.notFound "fare credential" command.credentialId.toText) found)
  if loaded.aggregate.status = .replaced then repeatReplacement command loaded.aggregate
  else do
    let plan ← .ofExcept (planReplacement command ports loaded)
    saveFareCredential plan.original (.ifVersion loaded.version)
    saveFareCredential plan.replacement .mustNotExist
    appendDomainEvent plan.originalEvent
    appendDomainEvent plan.replacementEvent
    pure ⟨command.credentialId, ports.credentialId, loaded.aggregate.status, plan.original.status,
      plan.replacement.status, true⟩

/-! ## The system -/

/-- An execution of one of the use cases. -/
inductive CredentialCall
  | issue (command : IssueFareCredentialCommand) (ports : Ports)
  | activate (command : ActivateFareCredentialCommand) (ports : Ports)
  | suspend (command : SuspendFareCredentialCommand) (ports : Ports)
  | revoke (command : RevokeFareCredentialCommand) (ports : Ports)
  | replace (command : ReplaceFareCredentialCommand) (ports : Ports)

inductive CredentialResult
  | issued (result : IssuedFareCredential)
  | activated (result : ActivatedFareCredential)
  | suspended (result : SuspendedFareCredential)
  | revoked (result : RevokedFareCredential)
  | replaced (result : ReplacedFareCredential)
  deriving DecidableEq

/-- Whether the execution reports a change. Issuing always makes one. -/
def CredentialResult.changed : CredentialResult → Bool
  | .issued _ => true
  | .activated result => result.changed
  | .suspended result => result.changed
  | .revoked result => result.changed
  | .replaced result => result.changed

def CredentialCall.script : CredentialCall → CoreScript CredentialResult
  | .issue command ports => do pure (.issued (← issueFareCredential command ports))
  | .activate command ports => do pure (.activated (← activateFareCredential command ports))
  | .suspend command ports => do pure (.suspended (← suspendFareCredential command ports))
  | .revoke command ports => do pure (.revoked (← revokeFareCredential command ports))
  | .replace command ports => do pure (.replaced (← replaceFareCredential command ports))

abbrev CredentialSystem :=
  System CoreDatabase CoreWrite CoreKey ApplicationError CredentialCall CredentialResult

abbrev CredentialWorld :=
  World CoreDatabase CoreWrite CoreKey ApplicationError CredentialCall CredentialResult

abbrev CredentialAction := Action CredentialCall ApplicationError

/-- The use cases over one database. -/
def credentialSystem : CredentialSystem where
  script := CredentialCall.script
  apply := CoreDatabase.apply
  deferred := CoreDatabase.deferred

end TransitGuard.Backend
