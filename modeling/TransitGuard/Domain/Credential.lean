import TransitGuard.Library.Fallible
import TransitGuard.Domain.Identifier

/-!
Fare credentials and their lifecycle. The fields of a credential are private and
change only through the operations below, so a credential carries what these
operations keep: a revocation reason exactly while it is revoked, a successor
exactly while it is replaced, and never itself as its successor.
-/

namespace TransitGuard

open Fallible

inductive FareCredentialKind
  | card
  | mobile
  | developmentTestToken
  deriving DecidableEq, Repr

inductive FareCredentialStatus
  | pending
  | active
  | suspended
  | revoked
  | expired
  | replaced
  deriving DecidableEq, Repr

/-- No later usable status is permitted. -/
def FareCredentialStatus.isTerminal : FareCredentialStatus → Bool
  | .revoked | .expired | .replaced => true
  | _ => false

inductive RevocationReason
  | reportedLost
  | reportedStolen
  | replaced
  | accountSuspended
  | administrativeAction
  | securityIncident
  | testCleanup
  deriving DecidableEq, Repr

inductive FareCredentialError
  | invalidStatusTransition (source target : FareCredentialStatus)
  | selfReplacement
  | replacementAlreadyRecorded (existing requested : FareCredentialId)
  deriving DecidableEq

structure FareCredential where
  id : FareCredentialId
  transitAccountId : TransitAccountId
  kind : FareCredentialKind
  status : FareCredentialStatus
  revocationReason : Option RevocationReason
  replacementId : Option FareCredentialId
  revocationReason_isSome : revocationReason.isSome = (status == .revoked)
  replacementId_isSome : replacementId.isSome = (status == .replaced)
  replacementId_ne : replacementId ≠ some id
  deriving DecidableEq

namespace FareCredential

def newPending (id : FareCredentialId) (transitAccountId : TransitAccountId)
    (kind : FareCredentialKind) : FareCredential where
  id
  transitAccountId
  kind
  status := .pending
  revocationReason := none
  replacementId := none
  revocationReason_isSome := rfl
  replacementId_isSome := rfl
  replacementId_ne := nofun

/-- The status changes to one that carries neither a reason nor a successor,
from one that does not either. -/
def withStatus (credential : FareCredential) (status : FareCredentialStatus)
    (hreason : (status == .revoked) = (credential.status == .revoked))
    (hsuccessor : (status == .replaced) = (credential.status == .replaced)) : FareCredential :=
  { credential with
    status
    revocationReason_isSome := credential.revocationReason_isSome.trans hreason.symm
    replacementId_isSome := credential.replacementId_isSome.trans hsuccessor.symm }

/-- Activating an active credential is idempotent. -/
def activate (credential : FareCredential) : Except FareCredentialError FareCredential :=
  match h : credential.status with
  | .pending | .suspended => .ok (credential.withStatus .active (by rw [h]; rfl) (by rw [h]; rfl))
  | .active => .ok credential
  | current => .error (.invalidStatusTransition current .active)

/-- Suspending a suspended credential is idempotent. -/
def suspend (credential : FareCredential) : Except FareCredentialError FareCredential :=
  match h : credential.status with
  | .active => .ok (credential.withStatus .suspended (by rw [h]; rfl) (by rw [h]; rfl))
  | .suspended => .ok credential
  | current => .error (.invalidStatusTransition current .suspended)

/-- Revoking a revoked credential is idempotent and keeps the first reason. -/
def revoke (credential : FareCredential) (reason : RevocationReason) :
    Except FareCredentialError FareCredential :=
  match credential.status with
  | .revoked => .ok credential
  | .expired | .replaced => .error (.invalidStatusTransition credential.status .revoked)
  | .pending | .active | .suspended =>
    .ok { credential with
      status := .revoked
      revocationReason := some reason
      replacementId := none
      revocationReason_isSome := rfl
      replacementId_isSome := rfl
      replacementId_ne := nofun }

/-- Expiring an expired credential is idempotent. -/
def expire (credential : FareCredential) : Except FareCredentialError FareCredential :=
  match credential.status with
  | .expired => .ok credential
  | .revoked | .replaced => .error (.invalidStatusTransition credential.status .expired)
  | .pending | .active | .suspended =>
    .ok { credential with
      status := .expired
      revocationReason := none
      replacementId := none
      revocationReason_isSome := rfl
      replacementId_isSome := rfl
      replacementId_ne := nofun }

/-- Recording the same successor again is idempotent. -/
def replaceWith (credential : FareCredential) (replacementId : FareCredentialId) :
    Except FareCredentialError FareCredential :=
  if h : replacementId = credential.id then .error .selfReplacement
  else
    match credential.status with
    | .active | .suspended =>
      .ok { credential with
        status := .replaced
        revocationReason := none
        replacementId := some replacementId
        revocationReason_isSome := rfl
        replacementId_isSome := rfl
        replacementId_ne := fun hself => h (Option.some.inj hself) }
    | .replaced =>
      match credential.replacementId with
      | some existing =>
        if existing = replacementId then .ok credential
        else .error (.replacementAlreadyRecorded existing replacementId)
      | none => .error (.invalidStatusTransition .replaced .replaced)
    | current => .error (.invalidStatusTransition current .replaced)

def reactivate (credential : FareCredential) : Except FareCredentialError FareCredential :=
  credential.activate

/-- An operation on a credential. -/
inductive Operation
  | activate
  | suspend
  | reactivate
  | revoke (reason : RevocationReason)
  | expire
  | replaceWith (replacementId : FareCredentialId)
  deriving DecidableEq

def perform (credential : FareCredential) : Operation → Except FareCredentialError FareCredential
  | .activate => credential.activate
  | .suspend => credential.suspend
  | .reactivate => credential.reactivate
  | .revoke reason => credential.revoke reason
  | .expire => credential.expire
  | .replaceWith replacementId => credential.replaceWith replacementId

/-- The credential that a call leaves. -/
def step (credential : FareCredential) (operation : Operation) : FareCredential :=
  (inPlace credential (credential.perform operation)).2

/-! ## What the operations do -/

/-- A live credential moves to another status and stays the credential it is. -/
structure Changes (target : FareCredentialStatus) (c c' : FareCredential) : Prop where
  live : c.status.isTerminal = false
  status : c'.status = target
  id : c'.id = c.id
  transitAccountId : c'.transitAccountId = c.transitAccountId
  kind : c'.kind = c.kind

variable {c c' : FareCredential}

theorem activate_changes (hnew : c.status ≠ .active) (h : c.activate = .ok c') :
    Changes .active c c' := by
  unfold activate at h
  split at h <;> rename_i hstatus <;> cases h
  · exact ⟨by rw [hstatus]; rfl, rfl, rfl, rfl, rfl⟩
  · exact ⟨by rw [hstatus]; rfl, rfl, rfl, rfl, rfl⟩
  · exact absurd hstatus hnew

theorem suspend_changes (hnew : c.status ≠ .suspended) (h : c.suspend = .ok c') :
    Changes .suspended c c' := by
  unfold suspend at h
  split at h <;> rename_i hstatus <;> cases h
  · exact ⟨by rw [hstatus]; rfl, rfl, rfl, rfl, rfl⟩
  · exact absurd hstatus hnew

theorem revoke_changes {reason : RevocationReason} (hnew : c.status ≠ .revoked)
    (h : c.revoke reason = .ok c') : Changes .revoked c c' := by
  unfold revoke at h
  split at h <;> rename_i hstatus <;> cases h
  · exact absurd hstatus hnew
  all_goals exact ⟨by rw [hstatus]; rfl, rfl, rfl, rfl, rfl⟩

/-- A replacement starts from an active or suspended credential and records the
successor. -/
theorem replaceWith_changes {replacementId : FareCredentialId} (hnew : c.status ≠ .replaced)
    (h : c.replaceWith replacementId = .ok c') :
    Changes .replaced c c' ∧ c'.replacementId = some replacementId ∧ replacementId ≠ c.id ∧
      (c.status = .active ∨ c.status = .suspended) := by
  unfold replaceWith at h
  split at h
  · cases h
  · rename_i hself
    split at h
    · rename_i hstatus
      cases h
      exact ⟨⟨by rw [hstatus]; rfl, rfl, rfl, rfl, rfl⟩, rfl, hself, .inl hstatus⟩
    · rename_i hstatus
      cases h
      exact ⟨⟨by rw [hstatus]; rfl, rfl, rfl, rfl, rfl⟩, rfl, hself, .inr hstatus⟩
    · rename_i hstatus
      exact absurd hstatus hnew
    · cases h

theorem replacementId_eq_none (hstatus : c.status ≠ .replaced) : c.replacementId = none := by
  rw [← Option.not_isSome_iff_eq_none, c.replacementId_isSome]
  simpa using hstatus

end FareCredential

end TransitGuard
