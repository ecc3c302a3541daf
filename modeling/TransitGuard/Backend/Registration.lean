import TransitGuard.Backend.RoundTrip

/-!
Registration of reader equipment. Whether a reader was registered is no field
of its own: it is meant to follow from the status. A run is any list of calls,
failing ones included, with the equipment saved and loaded in between; next to
it stands what the equipment does not record, whether an activation succeeded.
-/

namespace TransitGuard.Backend

open Fallible

/-- A call on the equipment, or saving it at a version and loading it again. -/
inductive EquipmentAction
  | call (operation : ReaderEquipment.Operation)
  | reload (aggregateVersion : Nat)
  deriving DecidableEq

structure RecordedEquipment where
  reader : ReaderEquipment
  activated : Bool

namespace RecordedEquipment

def newPending (id : ReaderId) (keyId : EquipmentKeyId) : RecordedEquipment :=
  ⟨.newPending id keyId, false⟩

/-- Loading what was saved; a load that fails leaves the value in memory. -/
def reloaded (reader : ReaderEquipment) (aggregateVersion : Nat) : ReaderEquipment :=
  match (EquipmentRow.fromDomain reader aggregateVersion).intoVersioned with
  | .ok loaded => loaded.aggregate
  | .error _ => reader

/-- The action is a call of `activate` that succeeds. -/
def activates (reader : ReaderEquipment) : EquipmentAction → Bool
  | .call .activate => reader.activate.isOk
  | _ => false

def step (s : RecordedEquipment) (action : EquipmentAction) : RecordedEquipment where
  reader :=
    match action with
    | .call operation => s.reader.step operation
    | .reload aggregateVersion => reloaded s.reader aggregateVersion
  activated := s.activated || activates s.reader action

/-- Nobody enables equipment that was disabled before its registration. -/
def EnablesRegistered (s : RecordedEquipment) (action : EquipmentAction) : Prop :=
  action = .call .enable → s.reader.status = .disabled → s.activated = true

/-- Equipment that works was activated. -/
def Registered (s : RecordedEquipment) : Prop :=
  (s.reader.canAcceptFarePresentations = true ∨ s.reader.mayAuthenticateToBackend = true) →
    s.activated = true

/-- A terminal status is final and freezes the equipment. -/
def Frozen (s : RecordedEquipment) : Prop :=
  s.reader.status.isTerminal = true → ∀ later, (Runs.run step s later).reader = s.reader

/-- Each reason is recorded exactly in its own status. -/
def Reasoned (s : RecordedEquipment) : Prop :=
  (s.reader.disablementReason.isSome = true ↔ s.reader.status = .disabled) ∧
    (s.reader.revocationReason.isSome = true ↔ s.reader.status = .revoked)

variable {s : RecordedEquipment}

/-! ## Steps -/

/-- Saving and loading is invisible. -/
@[simp] theorem reloaded_eq (reader : ReaderEquipment) (aggregateVersion : Nat) :
    reloaded reader aggregateVersion = reader := by
  unfold reloaded
  split
  · next loaded h =>
    have hrow := EquipmentRow.fromDomain_of_intoVersioned h
    have hloaded := EquipmentRow.intoVersioned_fromDomain reader loaded.version
    have hversion : loaded.version.value = aggregateVersion :=
      congrArg EquipmentRow.aggregateVersion hrow
    rw [hversion, h, Except.ok.injEq] at hloaded
    exact congrArg VersionedAggregate.aggregate hloaded
  · rfl

theorem works_iff : (s.reader.canAcceptFarePresentations = true ∨
    s.reader.mayAuthenticateToBackend = true) ↔
      s.reader.status = .active ∨ s.reader.status = .offline := by
  unfold ReaderEquipment.canAcceptFarePresentations ReaderEquipment.mayAuthenticateToBackend
  cases s.reader.status <;> simp

/-- A call leads to a working reader from a working one, from pending equipment
it activates, or from disabled equipment it enables. -/
theorem works_of_nextStatus {status : ReaderEquipmentStatus}
    {operation : ReaderEquipment.Operation}
    (h : ReaderEquipment.nextStatus status operation = .active ∨
      ReaderEquipment.nextStatus status operation = .offline) :
    status = .active ∨ status = .offline ∨
      (status = .pendingRegistration ∧ operation = .activate) ∨
        status = .disabled ∧ operation = .enable := by
  cases status <;> cases operation <;> simp_all [ReaderEquipment.nextStatus]

/-- A step keeps working readers registered unless it enables equipment that
never was. -/
theorem Registered.step_iff (hs : s.Registered) (action : EquipmentAction) :
    (s.step action).Registered ↔ s.EnablesRegistered action := by
  unfold Registered at hs ⊢
  rw [works_iff] at hs ⊢
  cases action with
  | reload aggregateVersion =>
    simp only [RecordedEquipment.step, reloaded_eq, activates, Bool.or_false]
    exact ⟨fun _ h => (by cases h), fun _ => hs⟩
  | call operation =>
    simp only [RecordedEquipment.step, ReaderEquipment.step_status]
    constructor
    · intro hregistered henable hdisabled
      cases henable
      rw [hdisabled] at hregistered
      have hactivated := hregistered (.inl rfl)
      have hnone : activates s.reader (.call .enable) = false := rfl
      rwa [hnone, Bool.or_false] at hactivated
    · intro hmeets hworks
      rw [Bool.or_eq_true]
      rcases works_of_nextStatus hworks with h | h | ⟨h, rfl⟩ | ⟨h, rfl⟩
      · exact .inl (hs (.inl h))
      · exact .inl (hs (.inr h))
      · right
        rw [activates, ReaderEquipment.activate_isOk, h]
        rfl
      · exact .inl (hmeets rfl h)

theorem frozen (s : RecordedEquipment) : s.Frozen := by
  intro hterminal later
  refine Runs.invariant (P := fun t : RecordedEquipment => t.reader = s.reader) ?_ rfl later
  intro t action ht
  cases action with
  | call operation =>
    show t.reader.step operation = s.reader
    rw [ht, ReaderEquipment.step_terminal hterminal]
  | reload aggregateVersion =>
    show reloaded t.reader aggregateVersion = s.reader
    rw [reloaded_eq, ht]

theorem reasoned (s : RecordedEquipment) : s.Reasoned := by
  refine ⟨?_, ?_⟩
  · rw [s.reader.disablementReason_isSome, beq_iff_eq]
  · rw [s.reader.revocationReason_isSome, beq_iff_eq]

/-! ## Runs -/

theorem newPending_registered (id : ReaderId) (keyId : EquipmentKeyId) :
    (newPending id keyId).Registered := by
  rintro (h | h) <;> cases h

/-- In every state of a run works only what was activated, terminal statuses
are final, and reasons stand in their statuses, exactly when the run never
enables equipment that was disabled before its registration. -/
theorem registration_iff (id : ReaderId) (keyId : EquipmentKeyId)
    (actions : List EquipmentAction) :
    (∀ k, let s := Runs.run step (newPending id keyId) (actions.take k)
      s.Registered ∧ s.Frozen ∧ s.Reasoned) ↔
        Runs.StepsMeet step EnablesRegistered (newPending id keyId) actions := by
  rw [← Runs.forall_take_iff_stepsMeet (P := Registered) (Q := fun _ => True)
    (fun _ _ _ => trivial) (fun _ action _ hs => hs.step_iff action) trivial
    (newPending_registered id keyId)]
  exact forall_congr' fun k => ⟨fun h => h.1, fun h => ⟨h, frozen _, reasoned _⟩⟩

/-- Equipment that is disabled and enabled before its registration works. -/
theorem registration_bypassed :
    ¬ ∀ id keyId (actions : List EquipmentAction) (k : Nat),
      let s := Runs.run step (newPending id keyId) (actions.take k)
      s.Registered ∧ s.Frozen ∧ s.Reasoned := by
  intro h
  have hregistered := (h sampleReaderId ⟨sampleReaderId.toIdentifier⟩
    [.call (.disable .testCleanup), .call .enable] 2).1
  exact absurd (hregistered (.inl rfl)) (by decide)

end RecordedEquipment

end TransitGuard.Backend
