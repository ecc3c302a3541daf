import TransitGuard.Domain.Equipment
import TransitGuard.Backend.Aggregates

/-!
The table of reader equipment with all its columns, as the application
transaction loads and saves it. The ingest store reads two of these columns,
the identifier and the status.
-/

namespace TransitGuard.Backend

open Fallible

/-! ## Encodings -/

namespace PostgresValueCodec

def encodeReaderStatus : ReaderEquipmentStatus → String
  | .pendingRegistration => "pending_registration"
  | .active => "active"
  | .offline => "offline"
  | .disabled => "disabled"
  | .revoked => "revoked"
  | .decommissioned => "decommissioned"

def decodeReaderStatus : String → Except PersistenceError ReaderEquipmentStatus
  | "pending_registration" => .ok .pendingRegistration
  | "active" => .ok .active
  | "offline" => .ok .offline
  | "disabled" => .ok .disabled
  | "revoked" => .ok .revoked
  | "decommissioned" => .ok .decommissioned
  | _ => invalid "reader_equipment.status"

def encodeReaderDisablementReason : ReaderDisablementReason → String
  | .suspectedCompromise => "suspected_compromise"
  | .lostEquipment => "lost_equipment"
  | .invalidConfiguration => "invalid_configuration"
  | .administrativeAction => "administrative_action"
  | .testCleanup => "test_cleanup"

def decodeReaderDisablementReason : String → Except PersistenceError ReaderDisablementReason
  | "suspected_compromise" => .ok .suspectedCompromise
  | "lost_equipment" => .ok .lostEquipment
  | "invalid_configuration" => .ok .invalidConfiguration
  | "administrative_action" => .ok .administrativeAction
  | "test_cleanup" => .ok .testCleanup
  | _ => invalid "reader_equipment.disablement_reason"

def encodeReaderRevocationReason : ReaderRevocationReason → String
  | .suspectedCompromise => "suspected_compromise"
  | .credentialExposure => "credential_exposure"
  | .administrativeAction => "administrative_action"
  | .securityIncident => "security_incident"
  | .testCleanup => "test_cleanup"

def decodeReaderRevocationReason : String → Except PersistenceError ReaderRevocationReason
  | "suspected_compromise" => .ok .suspectedCompromise
  | "credential_exposure" => .ok .credentialExposure
  | "administrative_action" => .ok .administrativeAction
  | "security_incident" => .ok .securityIncident
  | "test_cleanup" => .ok .testCleanup
  | _ => invalid "reader_equipment.revocation_reason"

end PostgresValueCodec

open PostgresValueCodec

/-! ## Rows -/

/-- A row of `reader_equipment`. -/
structure EquipmentRow where
  id : ReaderId
  equipmentKeyId : EquipmentKeyId
  status : String
  disablementReason : Option String
  revocationReason : Option String
  aggregateVersion : Nat
  deriving DecidableEq

namespace EquipmentRow

def fromDomain (reader : ReaderEquipment) (aggregateVersion : Nat) : EquipmentRow where
  id := reader.id
  equipmentKeyId := reader.identity.keyId
  status := encodeReaderStatus reader.status
  disablementReason := reader.disablementReason.map encodeReaderDisablementReason
  revocationReason := reader.revocationReason.map encodeReaderRevocationReason
  aggregateVersion := aggregateVersion

/-- `validate_lifecycle_fields`. -/
def validateLifecycleFields (status : ReaderEquipmentStatus)
    (disablementReason : Option ReaderDisablementReason)
    (revocationReason : Option ReaderRevocationReason) : Except PersistenceError Unit :=
  match status with
  | .disabled =>
    if disablementReason.isNone then invalid "reader_equipment.disablement_reason"
    else if revocationReason.isSome then invalid "reader_equipment.revocation_reason"
    else .ok ()
  | .revoked =>
    if disablementReason.isSome then invalid "reader_equipment.disablement_reason"
    else if revocationReason.isNone then invalid "reader_equipment.revocation_reason"
    else .ok ()
  | .pendingRegistration | .active | .offline | .decommissioned =>
    if disablementReason.isSome then invalid "reader_equipment.disablement_reason"
    else if revocationReason.isSome then invalid "reader_equipment.revocation_reason"
    else .ok ()

/-- Pending equipment taken to the stored status through its operations. -/
def restoreStatus (reader : ReaderEquipment) (status : ReaderEquipmentStatus)
    (disablementReason : Option ReaderDisablementReason)
    (revocationReason : Option ReaderRevocationReason) : Except PersistenceError ReaderEquipment :=
  let refused (_ : ReaderEquipmentError) :=
    PersistenceError.invalidStoredValue "reader_equipment.status"
  match status with
  | .pendingRegistration => .ok reader
  | .active => reader.activate.mapError refused
  | .offline => do
    let activated ← reader.activate.mapError refused
    activated.markOffline.mapError refused
  | .disabled => do
    let reason ← orFail (.invalidStoredValue "reader_equipment.disablement_reason")
      disablementReason
    (reader.disable reason).mapError refused
  | .revoked => do
    let reason ← orFail (.invalidStoredValue "reader_equipment.revocation_reason") revocationReason
    (reader.revoke reason).mapError refused
  | .decommissioned => reader.decommission.mapError refused

def intoVersioned (row : EquipmentRow) :
    Except PersistenceError (VersionedAggregate ReaderEquipment) := do
  let status ← decodeReaderStatus row.status
  let disablementReason ← row.disablementReason.mapM decodeReaderDisablementReason
  let revocationReason ← row.revocationReason.mapM decodeReaderRevocationReason
  validateLifecycleFields status disablementReason revocationReason
  let reader ← restoreStatus (.newPending row.id row.equipmentKeyId) status disablementReason
    revocationReason
  let version ← decodeAggregateVersion row.aggregateVersion
  .ok ⟨reader, version⟩

def check (row : EquipmentRow) : Bool :=
  ["pending_registration", "active", "offline", "disabled", "revoked", "decommissioned"].contains
      row.status &&
    row.disablementReason.all
      ["suspected_compromise", "lost_equipment", "invalid_configuration",
        "administrative_action", "test_cleanup"].contains &&
    row.revocationReason.all
      ["suspected_compromise", "credential_exposure", "administrative_action",
        "security_incident", "test_cleanup"].contains &&
    row.disablementReason.isSome == (row.status == "disabled") &&
    row.revocationReason.isSome == (row.status == "revoked") && 0 < row.aggregateVersion

/-- The primary key, and `UNIQUE (equipment_key_id)`. -/
def conflicts (a b : EquipmentRow) : Bool :=
  a.id == b.id || a.equipmentKeyId == b.equipmentKeyId

theorem restoreStatus_id {reader restored : ReaderEquipment} {status : ReaderEquipmentStatus}
    {disablementReason : Option ReaderDisablementReason}
    {revocationReason : Option ReaderRevocationReason}
    (h : restoreStatus reader status disablementReason revocationReason = .ok restored) :
    restored.id = reader.id := by
  cases status with
  | pendingRegistration => cases h; rfl
  | active =>
    exact ReaderEquipment.perform_id (show reader.perform .activate = _ from mapError_eq_ok.mp h)
  | offline =>
    simp only [restoreStatus, bind_eq_ok, mapError_eq_ok] at h
    obtain ⟨activated, hactivated, hoffline⟩ := h
    exact (ReaderEquipment.perform_id (show activated.perform .markOffline = _ from hoffline)).trans
      (ReaderEquipment.perform_id (show reader.perform .activate = _ from hactivated))
  | disabled =>
    simp only [restoreStatus, bind_eq_ok, mapError_eq_ok] at h
    obtain ⟨reason, -, hdisabled⟩ := h
    exact ReaderEquipment.perform_id (show reader.perform (.disable reason) = _ from hdisabled)
  | revoked =>
    simp only [restoreStatus, bind_eq_ok, mapError_eq_ok] at h
    obtain ⟨reason, -, hrevoked⟩ := h
    exact ReaderEquipment.perform_id (show reader.perform (.revoke reason) = _ from hrevoked)
  | decommissioned =>
    exact ReaderEquipment.perform_id
      (show reader.perform .decommission = _ from mapError_eq_ok.mp h)

/-- A loaded reader is the one of its row, at the version of the row. -/
theorem intoVersioned_ok {row : EquipmentRow} {loaded : VersionedAggregate ReaderEquipment}
    (h : row.intoVersioned = .ok loaded) :
    loaded.aggregate.id = row.id ∧ loaded.version.value = row.aggregateVersion := by
  simp only [intoVersioned, bind_eq_ok, decodeAggregateVersion, orFail_eq_ok] at h
  obtain ⟨status, -, disablement, -, revocation, -, -, -, reader, hreader, version, hversion, h⟩ :=
    h
  cases h
  exact ⟨restoreStatus_id hreader, AggregateVersion.new_eq_some hversion⟩

/-- The expression of `VALIDATE_READER_SQL`: `status IN ('active', 'offline')`. -/
def operational (row : EquipmentRow) : Bool := ["active", "offline"].contains row.status

/-- The status of the row as the ingest store knows it. -/
def readerStatus (row : EquipmentRow) : ReaderStatus :=
  match row.status with
  | "active" => .active
  | "offline" => .offline
  | "disabled" => .disabled
  | "revoked" => .revoked
  | "decommissioned" => .decommissioned
  | _ => .pendingRegistration

/-- The columns the ingest store reads. -/
def reader (row : EquipmentRow) : ReaderEquipmentRow := ⟨row.id, row.readerStatus⟩

theorem isOperational_readerStatus (row : EquipmentRow) :
    row.readerStatus.isOperational = row.operational := by
  unfold readerStatus operational
  split <;> simp_all [ReaderStatus.isOperational]

/-- The list of the statement is the predicate of the domain. -/
theorem operational_fromDomain (reader : ReaderEquipment) (version : Nat) :
    (fromDomain reader version).operational = reader.mayAuthenticateToBackend := by
  unfold operational ReaderEquipment.mayAuthenticateToBackend fromDomain
  cases reader.status <;> rfl

end EquipmentRow

end TransitGuard.Backend
