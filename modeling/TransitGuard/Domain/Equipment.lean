import TransitGuard.Library.Fallible
import TransitGuard.Domain.Identifier

/-!
Reader equipment: registration, connectivity, disablement, revocation and
removal from service. The fields are private, so a value carries what the
operations keep: each reason is recorded exactly in its own status.
-/

namespace TransitGuard

inductive ReaderEquipmentStatus
  | pendingRegistration
  | active
  | offline
  | disabled
  | revoked
  | decommissioned
  deriving DecidableEq, Repr

/-- The status permanently prevents normal operation. -/
def ReaderEquipmentStatus.isTerminal : ReaderEquipmentStatus → Bool
  | .revoked | .decommissioned => true
  | _ => false

inductive ReaderDisablementReason
  | suspectedCompromise
  | lostEquipment
  | invalidConfiguration
  | administrativeAction
  | testCleanup
  deriving DecidableEq, Repr

inductive ReaderRevocationReason
  | suspectedCompromise
  | credentialExposure
  | administrativeAction
  | securityIncident
  | testCleanup
  deriving DecidableEq, Repr

inductive ReaderEquipmentError
  | invalidStatusTransition (source target : ReaderEquipmentStatus)
  | terminalEquipment (status : ReaderEquipmentStatus)
  deriving DecidableEq, Repr

structure EquipmentIdentity where
  readerId : ReaderId
  keyId : EquipmentKeyId
  deriving DecidableEq

structure ReaderEquipment where
  id : ReaderId
  identity : EquipmentIdentity
  status : ReaderEquipmentStatus
  disablementReason : Option ReaderDisablementReason
  revocationReason : Option ReaderRevocationReason
  identity_readerId : identity.readerId = id
  disablementReason_isSome : disablementReason.isSome = (status == .disabled)
  revocationReason_isSome : revocationReason.isSome = (status == .revoked)
  deriving DecidableEq

namespace ReaderEquipment

def newPending (id : ReaderId) (keyId : EquipmentKeyId) : ReaderEquipment where
  id := id
  identity := ⟨id, keyId⟩
  status := .pendingRegistration
  disablementReason := none
  revocationReason := none
  identity_readerId := rfl
  disablementReason_isSome := rfl
  revocationReason_isSome := rfl

def canAcceptFarePresentations (reader : ReaderEquipment) : Bool :=
  reader.status matches .active | .offline

def mayAuthenticateToBackend (reader : ReaderEquipment) : Bool :=
  reader.status matches .active | .offline

/-- A change between statuses that carry no reason. -/
def withStatus (reader : ReaderEquipment) (status : ReaderEquipmentStatus)
    (hdisabled : (status == .disabled) = (reader.status == .disabled))
    (hrevoked : (status == .revoked) = (reader.status == .revoked)) : ReaderEquipment :=
  { reader with
    status
    disablementReason_isSome := reader.disablementReason_isSome.trans hdisabled.symm
    revocationReason_isSome := reader.revocationReason_isSome.trans hrevoked.symm }

/-- Activating active equipment is idempotent. -/
def activate (reader : ReaderEquipment) : Except ReaderEquipmentError ReaderEquipment :=
  match h : reader.status with
  | .pendingRegistration => .ok (reader.withStatus .active (by rw [h]; rfl) (by rw [h]; rfl))
  | .active => .ok reader
  | current => .error (.invalidStatusTransition current .active)

def markOffline (reader : ReaderEquipment) : Except ReaderEquipmentError ReaderEquipment :=
  match h : reader.status with
  | .active => .ok (reader.withStatus .offline (by rw [h]; rfl) (by rw [h]; rfl))
  | .offline => .ok reader
  | current => .error (.invalidStatusTransition current .offline)

def markOnline (reader : ReaderEquipment) : Except ReaderEquipmentError ReaderEquipment :=
  match h : reader.status with
  | .offline => .ok (reader.withStatus .active (by rw [h]; rfl) (by rw [h]; rfl))
  | .active => .ok reader
  | current => .error (.invalidStatusTransition current .active)

/-- A repeated disablement keeps the first reason. -/
def disable (reader : ReaderEquipment) (reason : ReaderDisablementReason) :
    Except ReaderEquipmentError ReaderEquipment :=
  match h : reader.status with
  | .pendingRegistration | .active | .offline =>
    .ok { reader with
      status := .disabled
      disablementReason := some reason
      disablementReason_isSome := rfl
      revocationReason_isSome := by rw [reader.revocationReason_isSome, h]; rfl }
  | .disabled => .ok reader
  | current => .error (.invalidStatusTransition current .disabled)

def enable (reader : ReaderEquipment) : Except ReaderEquipmentError ReaderEquipment :=
  match h : reader.status with
  | .disabled =>
    .ok { reader with
      status := .active
      disablementReason := none
      disablementReason_isSome := rfl
      revocationReason_isSome := by rw [reader.revocationReason_isSome, h]; rfl }
  | .active => .ok reader
  | current => .error (.invalidStatusTransition current .active)

/-- A repeated revocation keeps the first reason. -/
def revoke (reader : ReaderEquipment) (reason : ReaderRevocationReason) :
    Except ReaderEquipmentError ReaderEquipment :=
  match reader.status with
  | .pendingRegistration | .active | .offline | .disabled =>
    .ok { reader with
      status := .revoked
      disablementReason := none
      revocationReason := some reason
      disablementReason_isSome := rfl
      revocationReason_isSome := rfl }
  | .revoked => .ok reader
  | .decommissioned => .error (.invalidStatusTransition .decommissioned .revoked)

def decommission (reader : ReaderEquipment) : Except ReaderEquipmentError ReaderEquipment :=
  match reader.status with
  | .pendingRegistration | .active | .offline | .disabled =>
    .ok { reader with
      status := .decommissioned
      disablementReason := none
      revocationReason := none
      disablementReason_isSome := rfl
      revocationReason_isSome := rfl }
  | .decommissioned => .ok reader
  | .revoked => .error (.invalidStatusTransition .revoked .decommissioned)

def rotateEquipmentKey (reader : ReaderEquipment) (keyId : EquipmentKeyId) :
    Except ReaderEquipmentError ReaderEquipment :=
  if reader.status.isTerminal then .error (.terminalEquipment reader.status)
  else
    .ok { reader with
      identity := { reader.identity with keyId }
      identity_readerId := reader.identity_readerId }

/-- An operation on reader equipment. -/
inductive Operation
  | activate
  | markOffline
  | markOnline
  | disable (reason : ReaderDisablementReason)
  | enable
  | revoke (reason : ReaderRevocationReason)
  | decommission
  | rotateEquipmentKey (keyId : EquipmentKeyId)
  deriving DecidableEq

def perform (reader : ReaderEquipment) : Operation → Except ReaderEquipmentError ReaderEquipment
  | .activate => reader.activate
  | .markOffline => reader.markOffline
  | .markOnline => reader.markOnline
  | .disable reason => reader.disable reason
  | .enable => reader.enable
  | .revoke reason => reader.revoke reason
  | .decommission => reader.decommission
  | .rotateEquipmentKey keyId => reader.rotateEquipmentKey keyId

/-- The equipment that a call leaves. -/
def step (reader : ReaderEquipment) (operation : Operation) : ReaderEquipment :=
  (Fallible.inPlace reader (reader.perform operation)).2

/-! ## What the operations do -/

/-- The status that a call leaves. -/
def nextStatus : ReaderEquipmentStatus → Operation → ReaderEquipmentStatus
  | .pendingRegistration, .activate | .offline, .markOnline | .disabled, .enable => .active
  | .active, .markOffline => .offline
  | .pendingRegistration, .disable _ | .active, .disable _ | .offline, .disable _ => .disabled
  | .pendingRegistration, .revoke _ | .active, .revoke _ | .offline, .revoke _
  | .disabled, .revoke _ => .revoked
  | .pendingRegistration, .decommission | .active, .decommission | .offline, .decommission
  | .disabled, .decommission => .decommissioned
  | status, _ => status

theorem step_status (reader : ReaderEquipment) (operation : Operation) :
    (reader.step operation).status = nextStatus reader.status operation := by
  obtain ⟨id, identity, status, disablement, revocation, hreader, hdisabled, hrevoked⟩ := reader
  cases status <;> cases operation <;> rfl

/-- Activation succeeds on pending and on active equipment. -/
theorem activate_isOk (reader : ReaderEquipment) :
    reader.activate.isOk = (reader.status == .pendingRegistration || reader.status == .active) := by
  obtain ⟨id, identity, status, disablement, revocation, hreader, hdisabled, hrevoked⟩ := reader
  cases status <;> rfl

/-- No call changes equipment in a terminal status. -/
theorem step_terminal {reader : ReaderEquipment} (h : reader.status.isTerminal = true)
    (operation : Operation) : reader.step operation = reader := by
  obtain ⟨id, identity, status, disablement, revocation, hreader, hdisabled, hrevoked⟩ := reader
  cases status <;> cases h <;> cases operation <;> rfl

/-- No operation changes which reader it is. -/
theorem perform_id {reader changed : ReaderEquipment} {operation : Operation}
    (h : reader.perform operation = .ok changed) : changed.id = reader.id := by
  cases operation <;>
    simp only [perform, activate, markOffline, markOnline, disable, enable, revoke, decommission,
      rotateEquipmentKey] at h <;>
    split at h <;> cases h <;> rfl

theorem performAll_id {reader changed : ReaderEquipment} {operations : List Operation}
    (h : operations.foldlM perform reader = .ok changed) : changed.id = reader.id := by
  induction operations generalizing reader with
  | nil => cases h; rfl
  | cons operation rest ih =>
    rw [List.foldlM_cons, Fallible.bind_eq_ok] at h
    obtain ⟨next, hnext, hrest⟩ := h
    exact (ih hrest).trans (perform_id hnext)

end ReaderEquipment

end TransitGuard
