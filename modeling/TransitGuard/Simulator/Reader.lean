import TransitGuard.Fare.Identifiers
import TransitGuard.Library.Text

/-!
The reader simulator: its lifecycle, the presentation of a credential, and the
fare of a tap. A method on the reader returns what the call returns together
with the reader it leaves, also where it fails.
-/

namespace TransitGuard.Simulator

open Fallible Fare

/-! ## Presentations -/

/-- `ProtocolZoneId`, a positive `u16`. -/
structure ProtocolZoneId where
  value : Nat
  pos : 0 < value
  lt : value < 2 ^ 16

inductive CredentialMedium
  | card
  | mobile
  deriving DecidableEq, Repr

/-- `CredentialPresentation`; `from_definition` copies every field. -/
structure CredentialPresentation where
  protocolVersion : DeviceProtocolVersion
  transactionId : FareTransactionId
  readerId : ReaderId
  localSequenceNumber : LocalSequenceNumber
  credentialId : FareCredentialId
  credentialMedium : CredentialMedium
  eventTime : EventTime
  originZone : ProtocolZoneId
  destinationZone : ProtocolZoneId
  processingMode : FareProcessingMode

/-- `ReaderPresentationInput`. -/
structure ReaderPresentationInput where
  credentialId : FareCredentialId
  credentialMedium : CredentialMedium
  eventTime : EventTime
  originZone : ProtocolZoneId
  destinationZone : ProtocolZoneId

/-! ## The reader -/

inductive ReaderConnectivity
  | connected
  | disconnected
  deriving DecidableEq, Repr

inductive ReaderOperatingState
  | booting
  | readyOnline
  | readyOffline
  | stopped
  deriving DecidableEq, Repr

inductive ReaderSimulatorError
  | invalidSoftwareVersion
  | invalidStateTransition (state : ReaderOperatingState) (operation : String)
  | notReady (state : ReaderOperatingState)
  | sequenceExhausted
  deriving DecidableEq

/-- `validate_software_version`. The bytes of a character outside ASCII are not
alphanumeric either. -/
def validateSoftwareVersion (value : String) : Bool :=
  !value.isEmpty && Text.byteLength value ≤ 64 &&
    value.toList.all fun c => c.isAlphanum || ['.', '-', '+', '_'].contains c

/-- `ReaderSimulator`, with a software version that `new` accepted. -/
structure ReaderSimulator where
  readerId : ReaderId
  protocolVersion : DeviceProtocolVersion
  softwareVersion : String
  state : ReaderOperatingState
  nextLocalSequence : UInt64
  softwareVersion_valid : validateSoftwareVersion softwareVersion = true

/-- `state_for_connectivity`. -/
def stateForConnectivity : ReaderConnectivity → ReaderOperatingState
  | .connected => .readyOnline
  | .disconnected => .readyOffline

/-- The `match` on the state at the head of `present_credential` and of
`process_fare`. -/
def ReaderOperatingState.processingMode :
    ReaderOperatingState → Except ReaderSimulatorError FareProcessingMode
  | .readyOnline => .ok .online
  | .readyOffline => .ok .offline
  | .booting => .error (.notReady .booting)
  | .stopped => .error (.notReady .stopped)

namespace ReaderSimulator

def new (readerId : ReaderId) (protocolVersion : DeviceProtocolVersion)
    (softwareVersion : String) : Except ReaderSimulatorError ReaderSimulator :=
  if h : validateSoftwareVersion softwareVersion = true then
    .ok ⟨readerId, protocolVersion, softwareVersion, .booting, 1, h⟩
  else .error .invalidSoftwareVersion

def start (reader : ReaderSimulator) (connectivity : ReaderConnectivity) :
    Except ReaderSimulatorError Unit × ReaderSimulator :=
  if reader.state ≠ .booting then
    (.error (.invalidStateTransition reader.state "start"), reader)
  else (.ok (), { reader with state := stateForConnectivity connectivity })

def setConnectivity (reader : ReaderSimulator) (connectivity : ReaderConnectivity) :
    Except ReaderSimulatorError Unit × ReaderSimulator :=
  match reader.state with
  | .readyOnline | .readyOffline =>
    (.ok (), { reader with state := stateForConnectivity connectivity })
  | .booting | .stopped =>
    (.error (.invalidStateTransition reader.state "set_connectivity"), reader)

def stop (reader : ReaderSimulator) : Except ReaderSimulatorError Unit × ReaderSimulator :=
  if reader.state = .stopped then (.error (.invalidStateTransition reader.state "stop"), reader)
  else (.ok (), { reader with state := .stopped })

/-- `present_credential`. The transaction identifier is the one
`FareTransactionId::generate` returns in the call. -/
def presentCredential (reader : ReaderSimulator) (generated : FareTransactionId)
    (input : ReaderPresentationInput) :
    Except ReaderSimulatorError CredentialPresentation × ReaderSimulator :=
  match reader.state.processingMode with
  | .error e => (.error e, reader)
  | .ok processingMode =>
    match Checked.addUnsigned reader.nextLocalSequence 1 with
    | none => (.error .sequenceExhausted, reader)
    | some followingSequence =>
      match LocalSequenceNumber.new reader.nextLocalSequence.toNat with
      | none => (.error .sequenceExhausted, reader)
      | some localSequenceNumber =>
        (.ok { protocolVersion := reader.protocolVersion
               transactionId := generated
               readerId := reader.readerId
               localSequenceNumber
               credentialId := input.credentialId
               credentialMedium := input.credentialMedium
               eventTime := input.eventTime
               originZone := input.originZone
               destinationZone := input.destinationZone
               processingMode },
          { reader with nextLocalSequence := followingSequence })

end ReaderSimulator

/-! ## The fare of a tap -/

/-- `ReaderFareContext`; `online` leaves the offline context out. -/
structure ReaderFareContext where
  eligibility : EligibilityClassification
  transferHistory : TransferHistory
  fareCapHistory : FareCapHistory
  transitProduct : Option TransitProduct
  availableBalance : Money
  offlineContext : Option OfflineEvaluationContext

inductive ReaderFareEvaluation
  | online (evaluation : FareEvaluation)
  | offline (evaluation : OfflineFareEvaluation)
  deriving DecidableEq

/-- `ReaderFareEvaluation::evaluation`. -/
def ReaderFareEvaluation.evaluation : ReaderFareEvaluation → FareEvaluation
  | .online evaluation => evaluation
  | .offline evaluation => evaluation.evaluation

structure ReaderTapDecision where
  presentation : CredentialPresentation
  fareEvaluation : ReaderFareEvaluation

inductive ReaderFareProcessingError
  | reader (error : ReaderSimulatorError)
  | fareEvaluation (error : FareEvaluationError)
  | offlineEvaluation (error : OfflineEvaluationError)
  | missingOfflineContext
  | zoneTranslationFailed (value : Nat)
  deriving DecidableEq

/-- `translate_zone`. -/
def translateZone (zone : ProtocolZoneId) : Except ReaderFareProcessingError ZoneId :=
  if h : PositiveU16 zone.value then .ok ⟨zone.value, h.pos, h.lt⟩
  else .error (.zoneTranslationFailed zone.value)

/-- `process_fare` up to the presentation of the credential. -/
def ReaderSimulator.evaluateTap (reader : ReaderSimulator) (policy : FarePolicy)
    (presentationInput : ReaderPresentationInput) (fareContext : ReaderFareContext) :
    Except ReaderFareProcessingError ReaderFareEvaluation := do
  let processingMode ← reader.state.processingMode.mapError .reader
  let originZone ← translateZone presentationInput.originZone
  let destinationZone ← translateZone presentationInput.destinationZone
  let evaluationInput : FareEvaluationInput :=
    { eventTime := presentationInput.eventTime
      originZone, destinationZone
      eligibility := fareContext.eligibility
      transferHistory := fareContext.transferHistory
      fareCapHistory := fareContext.fareCapHistory
      transitProduct := fareContext.transitProduct
      availableBalance := fareContext.availableBalance }
  match processingMode with
  | .online => do
    let evaluation ← (evaluateFare policy evaluationInput).mapError .fareEvaluation
    .ok (.online evaluation)
  | .offline => do
    let offlineContext ← orFail .missingOfflineContext fareContext.offlineContext
    let evaluation ← (evaluateFareOffline policy evaluationInput offlineContext).mapError
      .offlineEvaluation
    .ok (.offline evaluation)

/-- `process_fare`. -/
def ReaderSimulator.processFare (reader : ReaderSimulator) (generated : FareTransactionId)
    (policy : FarePolicy) (presentationInput : ReaderPresentationInput)
    (fareContext : ReaderFareContext) :
    Except ReaderFareProcessingError ReaderTapDecision × ReaderSimulator :=
  match reader.evaluateTap policy presentationInput fareContext with
  | .error e => (.error e, reader)
  | .ok fareEvaluation =>
    match reader.presentCredential generated presentationInput with
    | (.error e, reader) => (.error (.reader e), reader)
    | (.ok presentation, reader) => (.ok ⟨presentation, fareEvaluation⟩, reader)

/-! ## What the reader does -/

/-- The state and the next sequence alone decide whether a presentation fails,
leaving the reader as it was, or takes the next sequence in the mode of the
state. -/
theorem ReaderSimulator.presentCredential_cases (state : ReaderOperatingState) (next : UInt64) :
    (∃ e, ∀ (reader : ReaderSimulator) (generated : FareTransactionId)
        (input : ReaderPresentationInput), reader.state = state →
        reader.nextLocalSequence = next →
        reader.presentCredential generated input = (.error e, reader)) ∨
      ∃ (mode : FareProcessingMode) (following : UInt64), state.processingMode = .ok mode ∧
        following.toNat = next.toNat + 1 ∧
        ∀ (reader : ReaderSimulator) (generated : FareTransactionId)
          (input : ReaderPresentationInput), reader.state = state →
          reader.nextLocalSequence = next →
          ∃ presentation, reader.presentCredential generated input =
              (.ok presentation, { reader with nextLocalSequence := following }) ∧
            presentation.localSequenceNumber.value = next.toNat ∧
            presentation.processingMode = mode := by
  cases hmode : state.processingMode with
  | error e =>
    refine .inl ⟨e, fun reader generated input hstate hnext => ?_⟩
    simp only [presentCredential, hstate, hmode]
  | ok mode =>
    cases hfollowing : Checked.addUnsigned next 1 with
    | none =>
      refine .inl ⟨.sequenceExhausted, fun reader generated input hstate hnext => ?_⟩
      simp only [presentCredential, hstate, hnext, hmode, hfollowing]
    | some following =>
      cases hnumber : LocalSequenceNumber.new next.toNat with
      | none =>
        refine .inl ⟨.sequenceExhausted, fun reader generated input hstate hnext => ?_⟩
        simp only [presentCredential, hstate, hnext, hmode, hfollowing, hnumber]
      | some number =>
        refine .inr ⟨mode, following, rfl, Checked.toNat_of_addUnsigned hfollowing,
          fun reader generated input hstate hnext => ?_⟩
        simp only [presentCredential, hstate, hnext, hmode, hfollowing, hnumber]
        exact ⟨_, rfl, LocalSequenceNumber.new_eq_some.mp hnumber, rfl⟩

/-- No call moves a stopped reader. -/
theorem ReaderSimulator.eq_of_stopped {reader : ReaderSimulator} (h : reader.state = .stopped)
    (connectivity : ReaderConnectivity) (generated : FareTransactionId)
    (input : ReaderPresentationInput) :
    (reader.start connectivity).2 = reader ∧ (reader.setConnectivity connectivity).2 = reader ∧
      reader.stop.2 = reader ∧ (reader.presentCredential generated input).2 = reader := by
  have hmode : reader.state.processingMode = .error (.notReady .stopped) := by rw [h]; rfl
  refine ⟨?_, ?_, ?_, ?_⟩
  · rw [start, if_pos (by rw [h]; decide)]
  · simp only [setConnectivity, h]
  · rw [stop, if_pos h]
  · simp only [presentCredential, hmode]

/-! ## What a tap is evaluated on -/

theorem translateZone_eq (zone : ProtocolZoneId) :
    translateZone zone = .ok ⟨zone.value, zone.pos, zone.lt⟩ := dif_pos ⟨zone.pos, zone.lt⟩

/-- The evaluation input of a tap: its own time and zones, the rest from the
context. -/
def ReaderPresentationInput.evaluationInput (input : ReaderPresentationInput)
    (context : ReaderFareContext) : FareEvaluationInput where
  eventTime := input.eventTime
  originZone := ⟨input.originZone.value, input.originZone.pos, input.originZone.lt⟩
  destinationZone :=
    ⟨input.destinationZone.value, input.destinationZone.pos, input.destinationZone.lt⟩
  eligibility := context.eligibility
  transferHistory := context.transferHistory
  fareCapHistory := context.fareCapHistory
  transitProduct := context.transitProduct
  availableBalance := context.availableBalance

/-- The evaluation of a tap in a processing mode. -/
def evaluateIn (policy : FarePolicy) (input : FareEvaluationInput)
    (offlineContext : Option OfflineEvaluationContext) :
    FareProcessingMode → Except ReaderFareProcessingError ReaderFareEvaluation
  | .online => (.online ·) <$> (evaluateFare policy input).mapError .fareEvaluation
  | .offline => do
    let context ← orFail .missingOfflineContext offlineContext
    (.offline ·) <$> (evaluateFareOffline policy input context).mapError .offlineEvaluation

section Evaluation

variable (reader : ReaderSimulator) (policy : FarePolicy) (input : ReaderPresentationInput)
  (context : ReaderFareContext)

/-- Zones always translate, so only the state and the evaluation can fail. -/
theorem ReaderSimulator.evaluateTap_eq :
    reader.evaluateTap policy input context =
      (reader.state.processingMode.mapError .reader >>=
        evaluateIn policy (input.evaluationInput context) context.offlineContext) := by
  simp only [evaluateTap, translateZone_eq, ok_bind]
  refine bind_congr fun mode => ?_
  cases mode with
  | online => rfl
  | offline => rfl

/-- A tap is evaluated in the mode of the state. -/
theorem ReaderSimulator.evaluateTap_eq_ok {evaluation : ReaderFareEvaluation} :
    reader.evaluateTap policy input context = .ok evaluation ↔
      ∃ mode, reader.state.processingMode = .ok mode ∧
        evaluateIn policy (input.evaluationInput context) context.offlineContext mode =
          .ok evaluation := by
  simp only [evaluateTap_eq, bind_eq_ok, mapError_eq_ok]

/-! Under other identifiers -/

/-- The same context with the product under other identifiers. -/
def ReaderFareContext.withIds (context : ReaderFareContext) (productId : TransitProductId)
    (instanceId : TransitProductInstanceId) : ReaderFareContext :=
  { context with transitProduct := context.transitProduct.map (·.withIds productId instanceId) }

/-- The same evaluation, of the policy with another identifier. -/
def ReaderFareEvaluation.withPolicyId (id : FarePolicyId) :
    ReaderFareEvaluation → ReaderFareEvaluation
  | .online evaluation => .online { evaluation with policyId := id }
  | .offline evaluation =>
    .offline { evaluation with evaluation := { evaluation.evaluation with policyId := id } }

@[simp] theorem ReaderFareEvaluation.evaluation_withPolicyId (id : FarePolicyId)
    (evaluation : ReaderFareEvaluation) :
    (evaluation.withPolicyId id).evaluation = { evaluation.evaluation with policyId := id } := by
  cases evaluation with
  | online => rfl
  | offline => rfl

variable (id : FarePolicyId) (credentialId : FareCredentialId) (productId : TransitProductId)
  (instanceId : TransitProductInstanceId)

theorem evaluateIn_withIds (input : FareEvaluationInput)
    (offlineContext : Option OfflineEvaluationContext) (mode : FareProcessingMode) :
    evaluateIn (policy.withId id) (input.withIds productId instanceId) offlineContext mode =
      (·.withPolicyId id) <$> evaluateIn policy input offlineContext mode := by
  cases mode with
  | online =>
    simp only [evaluateIn, evaluateFare_withIds, mapError_map, Functor.map_map]
    rfl
  | offline =>
    simp only [evaluateIn, evaluateFareOffline_withIds, mapError_map, map_bind, Functor.map_map]
    rfl

/-- The credential, the policy and the product leave no trace in how a tap is
evaluated but the policy's own identifier. -/
theorem ReaderSimulator.evaluateTap_withIds {reader' : ReaderSimulator}
    (hstate : reader'.state = reader.state) :
    reader'.evaluateTap (policy.withId id) { input with credentialId }
        (context.withIds productId instanceId) =
      (·.withPolicyId id) <$> reader.evaluateTap policy input context := by
  rw [evaluateTap_eq, evaluateTap_eq, hstate, map_bind]
  refine bind_congr fun mode => ?_
  exact evaluateIn_withIds policy id productId instanceId (input.evaluationInput context) _ mode

end Evaluation

end TransitGuard.Simulator
