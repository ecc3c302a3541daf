import TransitGuard.Domain.Account
import TransitGuard.Domain.Credential
import TransitGuard.Domain.Equipment

/-!
Domain events: immutable facts about an aggregate, each with the version of the
aggregate after it. An event carries that its owner is the one its payload names
and that its payload records a real change.
-/

namespace TransitGuard

open Fallible

/-- A version of an aggregate, a positive `u64`. -/
@[ext] structure AggregateVersion where
  value : Nat
  pos : 0 < value
  lt : value < 2 ^ 64

instance : DecidableEq AggregateVersion := fun a b =>
  decidable_of_iff (a.value = b.value) AggregateVersion.ext_iff.symm

def AggregateVersion.new (value : Nat) : Option AggregateVersion :=
  if h : PositiveU64 value then some ⟨value, h.pos, h.lt⟩ else none

/-- The version of a new aggregate. -/
def AggregateVersion.initial : AggregateVersion :=
  ⟨1, LocalSequenceNumber.first.pos, LocalSequenceNumber.first.lt⟩

theorem AggregateVersion.new_value (version : AggregateVersion) :
    new version.value = some version :=
  dif_pos ⟨version.pos, version.lt⟩

theorem AggregateVersion.new_eq_some {value : Nat} {version : AggregateVersion}
    (h : new value = some version) : version.value = value := by
  unfold new at h
  split at h
  · cases h
    rfl
  · cases h

@[ext] structure DomainEventTime where
  unixMilliseconds : UnixMilliseconds
  nonneg : 0 ≤ unixMilliseconds

instance : DecidableEq DomainEventTime := fun a b =>
  decidable_of_iff (a.unixMilliseconds = b.unixMilliseconds) DomainEventTime.ext_iff.symm

/-- The aggregate that owns an event. -/
inductive DomainAggregateId
  | transitAccount (id : TransitAccountId)
  | fareCredential (id : FareCredentialId)
  | readerEquipment (id : ReaderId)
  | fareTransaction (id : FareTransactionId)
  deriving DecidableEq

inductive StoredValueChangeReason
  | simulatedFundsCredit
  | fareDebit
  | administrativeAdjustment
  | reconciliationAdjustment
  deriving DecidableEq, Repr

inductive DomainEventPayload
  | transitAccountCreated (accountId : TransitAccountId) (riderId : RiderId)
      (initialBalance : StoredValueBalance)
  | transitAccountStatusChanged (accountId : TransitAccountId)
      (previousStatus currentStatus : TransitAccountStatus)
  | storedValueChanged (accountId : TransitAccountId)
      (previousBalance currentBalance : StoredValueBalance) (reason : StoredValueChangeReason)
  | fareCredentialIssued (credentialId : FareCredentialId) (accountId : TransitAccountId)
      (kind : FareCredentialKind)
  | fareCredentialStatusChanged (credentialId : FareCredentialId)
      (previousStatus currentStatus : FareCredentialStatus)
  | readerEquipmentRegistered (readerId : ReaderId) (equipmentKeyId : EquipmentKeyId)
  | readerEquipmentStatusChanged (readerId : ReaderId)
      (previousStatus currentStatus : ReaderEquipmentStatus)
  | equipmentKeyRotated (readerId : ReaderId) (previousKeyId currentKeyId : EquipmentKeyId)
  | fareTransactionDecided (transactionId : FareTransactionId) (decision : FareDecision)
  | fareTransactionReconciled (transactionId : FareTransactionId)
  deriving DecidableEq

namespace DomainEventPayload

def eventName : DomainEventPayload → String
  | transitAccountCreated .. => "transit_account.created"
  | transitAccountStatusChanged .. => "transit_account.status_changed"
  | storedValueChanged .. => "transit_account.stored_value_changed"
  | fareCredentialIssued .. => "fare_credential.issued"
  | fareCredentialStatusChanged .. => "fare_credential.status_changed"
  | readerEquipmentRegistered .. => "reader_equipment.registered"
  | readerEquipmentStatusChanged .. => "reader_equipment.status_changed"
  | equipmentKeyRotated .. => "reader_equipment.key_rotated"
  | fareTransactionDecided .. => "fare_transaction.decided"
  | fareTransactionReconciled .. => "fare_transaction.reconciled"

def aggregateId : DomainEventPayload → DomainAggregateId
  | transitAccountCreated accountId .. => .transitAccount accountId
  | transitAccountStatusChanged accountId .. => .transitAccount accountId
  | storedValueChanged accountId .. => .transitAccount accountId
  | fareCredentialIssued credentialId .. => .fareCredential credentialId
  | fareCredentialStatusChanged credentialId .. => .fareCredential credentialId
  | readerEquipmentRegistered readerId .. => .readerEquipment readerId
  | readerEquipmentStatusChanged readerId .. => .readerEquipment readerId
  | equipmentKeyRotated readerId .. => .readerEquipment readerId
  | fareTransactionDecided transactionId .. => .fareTransaction transactionId
  | fareTransactionReconciled transactionId => .fareTransaction transactionId

end DomainEventPayload

inductive DomainEventError
  | noStatusChange (eventName : String)
  | noStoredValueChange
  | storedValueCurrencyChanged (previous current : Currency)
  | noEquipmentKeyChange
  deriving DecidableEq

/-- `DomainEvent::validate_payload`. -/
def DomainEventPayload.validate (payload : DomainEventPayload) : Except DomainEventError Unit :=
  match payload with
  | transitAccountStatusChanged _ previous current =>
    if previous = current then .error (.noStatusChange payload.eventName) else .ok ()
  | fareCredentialStatusChanged _ previous current =>
    if previous = current then .error (.noStatusChange payload.eventName) else .ok ()
  | readerEquipmentStatusChanged _ previous current =>
    if previous = current then .error (.noStatusChange payload.eventName) else .ok ()
  | storedValueChanged _ previous current _ =>
    if previous.currency ≠ current.currency then
      .error (.storedValueCurrencyChanged previous.currency current.currency)
    else if previous = current then .error .noStoredValueChange
    else .ok ()
  | equipmentKeyRotated _ previous current =>
    if previous = current then .error .noEquipmentKeyChange else .ok ()
  | _ => .ok ()

structure DomainEvent where
  id : DomainEventId
  aggregateId : DomainAggregateId
  aggregateVersion : AggregateVersion
  occurredAt : DomainEventTime
  payload : DomainEventPayload
  owner : aggregateId = payload.aggregateId
  valid : payload.validate = .ok ()
  deriving DecidableEq

def DomainEvent.new (id : DomainEventId) (aggregateVersion : AggregateVersion)
    (occurredAt : DomainEventTime) (payload : DomainEventPayload) :
    Except DomainEventError DomainEvent :=
  match h : payload.validate with
  | .ok () =>
    .ok { id, aggregateId := payload.aggregateId, aggregateVersion, occurredAt, payload,
          owner := rfl, valid := h }
  | .error e => .error e

theorem DomainEvent.new_ok {id : DomainEventId} {aggregateVersion : AggregateVersion}
    {occurredAt : DomainEventTime} {payload : DomainEventPayload} {event : DomainEvent}
    (h : DomainEvent.new id aggregateVersion occurredAt payload = .ok event) :
    event.id = id ∧ event.aggregateVersion = aggregateVersion ∧ event.occurredAt = occurredAt ∧
      event.payload = payload := by
  unfold DomainEvent.new at h
  split at h
  · cases h
    exact ⟨rfl, rfl, rfl, rfl⟩
  · cases h

end TransitGuard
