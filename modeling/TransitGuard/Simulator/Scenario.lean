import TransitGuard.Fare.Journeys
import TransitGuard.Library.Transcript
import TransitGuard.Simulator.Reader

/-!
Scenarios. `run_scenario` hands every action to the reader, whatever happened
before, and records what an observer sees; identifiers are left out of the
record on purpose. The law of a scenario says where each part of a record comes
from and that the identifiers indeed leave no trace.
-/

namespace TransitGuard.Simulator

open Fallible Fare

/-! ## The scenario runner -/

inductive ScenarioAction
  | setConnectivity (connectivity : ReaderConnectivity)
  | processFare (presentationInput : ReaderPresentationInput) (fareContext : ReaderFareContext)

inductive ScenarioActionKind
  | connectivityChange
  | farePresentation
  deriving DecidableEq, Repr

inductive ScenarioFailureCategory
  | readerConfiguration
  | readerNotReady
  | readerStateTransition
  | sequenceExhausted
  | fareEvaluation
  | offlineEvaluation
  | missingOfflineContext
  | zoneTranslation
  deriving DecidableEq, Repr

inductive ScenarioStepResult
  | connectivityChanged (connectivity : ReaderConnectivity)
  | fareProcessed (localSequence : Nat) (processingMode : FareProcessingMode)
      (outcome : FareEvaluationOutcome) (finalFare : Money)
  | failed (category : ScenarioFailureCategory)
  deriving DecidableEq

structure ScenarioStepRecord where
  stepNumber : Nat
  action : ScenarioActionKind
  state : ReaderOperatingState
  nextLocalSequence : UInt64
  result : ScenarioStepResult
  deriving DecidableEq

structure ScenarioReport where
  steps : List ScenarioStepRecord
  deriving DecidableEq

/-- `map_reader_error`. -/
def mapReaderError : ReaderSimulatorError → ScenarioFailureCategory
  | .invalidSoftwareVersion => .readerConfiguration
  | .invalidStateTransition .. => .readerStateTransition
  | .notReady _ => .readerNotReady
  | .sequenceExhausted => .sequenceExhausted

/-- `map_fare_error`. -/
def mapFareError : ReaderFareProcessingError → ScenarioFailureCategory
  | .reader error => mapReaderError error
  | .fareEvaluation _ => .fareEvaluation
  | .offlineEvaluation _ => .offlineEvaluation
  | .missingOfflineContext => .missingOfflineContext
  | .zoneTranslationFailed _ => .zoneTranslation

def ScenarioAction.kind : ScenarioAction → ScenarioActionKind
  | .setConnectivity _ => .connectivityChange
  | .processFare .. => .farePresentation

/-- The result `run_scenario` makes of a processed fare. -/
def fareResult : Except ReaderFareProcessingError ReaderTapDecision → ScenarioStepResult
  | .ok decision =>
    .fareProcessed decision.presentation.localSequenceNumber.value
      decision.presentation.processingMode decision.fareEvaluation.evaluation.outcome
      decision.fareEvaluation.evaluation.evidence.finalFare
  | .error error => .failed (mapFareError error)

/-- The `match` of `run_scenario` on one action. -/
def runAction (generated : FareTransactionId) (policy : FarePolicy) (reader : ReaderSimulator) :
    ScenarioAction → ScenarioStepResult × ReaderSimulator
  | .setConnectivity connectivity =>
    match reader.setConnectivity connectivity with
    | (.ok (), reader) => (.connectivityChanged connectivity, reader)
    | (.error error, reader) => (.failed (mapReaderError error), reader)
  | .processFare presentationInput fareContext =>
    let (result, reader) := reader.processFare generated policy presentationInput fareContext
    (fareResult result, reader)

/-- One turn of the loop of `run_scenario`. -/
def runStep (generate : Nat → FareTransactionId) (policy : FarePolicy) (reader : ReaderSimulator)
    (step : ScenarioAction × Nat) : ScenarioStepRecord × ReaderSimulator :=
  let (action, index) := step
  let (result, reader) := runAction (generate index) policy reader action
  ({ stepNumber := index + 1
     action := action.kind
     state := reader.state
     nextLocalSequence := reader.nextLocalSequence
     result }, reader)

/-- `run_scenario`, with the transaction identifiers generated in its turns: the
report, and the reader it leaves. -/
def runScenario (generate : Nat → FareTransactionId) (reader : ReaderSimulator)
    (policy : FarePolicy) (actions : List ScenarioAction) : ScenarioReport × ReaderSimulator :=
  (⟨Transcript.outputs (runStep generate policy) reader actions.zipIdx⟩,
    Runs.run (Transcript.next (runStep generate policy)) reader actions.zipIdx)

/-! ## What a record says -/

/-- The local sequence of a record of a processed fare. -/
def ScenarioStepRecord.localSequence (record : ScenarioStepRecord) : Option Nat :=
  match record.result with
  | .fareProcessed localSequence .. => some localSequence
  | .connectivityChanged _ | .failed _ => none

/-- What an action leaves of a state: a ready reader follows its connectivity,
and nothing else moves a reader. -/
def ScenarioAction.stateAfter (state : ReaderOperatingState) :
    ScenarioAction → ReaderOperatingState
  | .setConnectivity connectivity =>
    match state with
    | .readyOnline | .readyOffline => stateForConnectivity connectivity
    | .booting | .stopped => state
  | .processFare .. => state

/-- The outcome and the final fare the engine gives in a processing mode. -/
def EvaluatesTo (policy : FarePolicy) (input : FareEvaluationInput)
    (offlineContext : Option OfflineEvaluationContext) (outcome : FareEvaluationOutcome)
    (finalFare : Money) : FareProcessingMode → Prop
  | .online => ∃ evaluation, evaluateFare policy input = .ok evaluation ∧
      evaluation.outcome = outcome ∧ evaluation.evidence.finalFare = finalFare
  | .offline => ∃ context evaluation, offlineContext = some context ∧
      evaluateFareOffline policy input context = .ok evaluation ∧
      evaluation.evaluation.outcome = outcome ∧
      evaluation.evaluation.evidence.finalFare = finalFare

theorem evaluatesTo_of_evaluateIn {policy : FarePolicy} {input : FareEvaluationInput}
    {offlineContext : Option OfflineEvaluationContext} {mode : FareProcessingMode}
    {evaluation : ReaderFareEvaluation}
    (h : evaluateIn policy input offlineContext mode = .ok evaluation) :
    EvaluatesTo policy input offlineContext evaluation.evaluation.outcome
      evaluation.evaluation.evidence.finalFare mode := by
  cases mode with
  | online =>
    obtain ⟨online, hevaluate, rfl⟩ := map_eq_ok.mp h
    exact ⟨online, mapError_eq_ok.mp hevaluate, rfl, rfl⟩
  | offline =>
    obtain ⟨context, hcontext, h⟩ := bind_eq_ok.mp h
    obtain ⟨offline, hevaluate, rfl⟩ := map_eq_ok.mp h
    exact ⟨context, offline, orFail_eq_ok.mp hcontext, mapError_eq_ok.mp hevaluate, rfl, rfl⟩

/-- The law of one turn, with the reader before and after it. -/
def ResultLaw (policy : FarePolicy) (before after : ReaderSimulator) (action : ScenarioAction) :
    ScenarioStepResult → Prop
  | .failed _ => after = before
  | .connectivityChanged connectivity => action = .setConnectivity connectivity ∧
      after.nextLocalSequence = before.nextLocalSequence
  | .fareProcessed localSequence mode outcome finalFare =>
    ∃ input context, action = .processFare input context ∧
      localSequence = before.nextLocalSequence.toNat ∧
      after.nextLocalSequence.toNat = localSequence + 1 ∧
      before.state.processingMode = .ok mode ∧
      EvaluatesTo policy (input.evaluationInput context) context.offlineContext outcome
        finalFare mode

section Turn

variable (generated : FareTransactionId) (policy : FarePolicy) (reader : ReaderSimulator)
  (action : ScenarioAction)

theorem runAction_law :
    (runAction generated policy reader action).2.state = action.stateAfter reader.state ∧
      ResultLaw policy reader (runAction generated policy reader action).2 action
        (runAction generated policy reader action).1 := by
  cases action with
  | setConnectivity connectivity =>
    simp only [runAction, ReaderSimulator.setConnectivity, ScenarioAction.stateAfter]
    cases hstate : reader.state with
    | readyOnline | readyOffline => exact ⟨rfl, rfl, rfl⟩
    | booting | stopped => exact ⟨hstate, rfl⟩
  | processFare input context =>
    simp only [runAction, ReaderSimulator.processFare, ScenarioAction.stateAfter]
    cases hevaluation : reader.evaluateTap policy input context with
    | error e => exact ⟨rfl, rfl⟩
    | ok evaluation =>
      obtain ⟨mode, hmode, hevaluate⟩ := reader.evaluateTap_eq_ok policy input context |>.mp
        hevaluation
      rcases ReaderSimulator.presentCredential_cases reader.state reader.nextLocalSequence with
        ⟨e, hfails⟩ | ⟨mode', following, hmode', hfollowing, hpresents⟩
      · rw [hfails reader generated input rfl rfl]
        exact ⟨rfl, rfl⟩
      · obtain ⟨presentation, hpresent, hsequence, rfl⟩ :=
          hpresents reader generated input rfl rfl
        obtain rfl : mode = presentation.processingMode :=
          Except.ok.inj (hmode.symm.trans hmode')
        rw [hpresent]
        exact ⟨rfl, input, context, rfl, hsequence, hsequence ▸ hfollowing, hmode,
          evaluatesTo_of_evaluateIn hevaluate⟩

end Turn

/-- What the record of an action says of the turn that took the reader from
`before` to `after`. -/
structure RecordLaw (policy : FarePolicy) (before after : ReaderSimulator) (index : Nat)
    (action : ScenarioAction) (record : ScenarioStepRecord) : Prop where
  stepNumber : record.stepNumber = index + 1
  kind : record.action = action.kind
  state : record.state = after.state
  nextLocalSequence : record.nextLocalSequence = after.nextLocalSequence
  result : ResultLaw policy before after action record.result

/-! ## Scenarios that differ in identifiers -/

/-- Two readers with the same state and the same next sequence. -/
structure ReaderSimulator.Agrees (reader reader' : ReaderSimulator) : Prop where
  state : reader'.state = reader.state
  nextLocalSequence : reader'.nextLocalSequence = reader.nextLocalSequence

/-- Two actions that differ at most in the credential of the tap and in the
identifiers of its product. -/
inductive ScenarioAction.SameButIds : ScenarioAction → ScenarioAction → Prop
  | setConnectivity (connectivity : ReaderConnectivity) :
    SameButIds (.setConnectivity connectivity) (.setConnectivity connectivity)
  | processFare (input : ReaderPresentationInput) (context : ReaderFareContext)
      (credentialId : FareCredentialId) (productId : TransitProductId)
      (instanceId : TransitProductInstanceId) :
    SameButIds (.processFare input context)
      (.processFare { input with credentialId } (context.withIds productId instanceId))

theorem ScenarioAction.SameButIds.kind_eq {action action' : ScenarioAction}
    (h : action.SameButIds action') : action.kind = action'.kind := by
  cases h with
  | setConnectivity => rfl
  | processFare => rfl

/-- One turn on two readers: the same result, and the readers still agree. -/
theorem runAction_sameButIds {reader reader' : ReaderSimulator} (hreader : reader.Agrees reader')
    {action action' : ScenarioAction} (haction : action.SameButIds action')
    (generated generated' : FareTransactionId) (policy : FarePolicy) (id : FarePolicyId) :
    (runAction generated policy reader action).1 =
        (runAction generated' (policy.withId id) reader' action').1 ∧
      (runAction generated policy reader action).2.Agrees
        (runAction generated' (policy.withId id) reader' action').2 := by
  cases haction with
  | setConnectivity connectivity =>
    simp only [runAction, ReaderSimulator.setConnectivity, hreader.state]
    cases reader.state with
    | readyOnline | readyOffline => exact ⟨rfl, rfl, hreader.nextLocalSequence⟩
    | booting | stopped => exact ⟨rfl, hreader⟩
  | processFare input context credentialId productId instanceId =>
    simp only [runAction, ReaderSimulator.processFare,
      reader.evaluateTap_withIds policy input context id credentialId productId instanceId
        hreader.state]
    cases reader.evaluateTap policy input context with
    | error e => exact ⟨rfl, hreader⟩
    | ok evaluation =>
      rcases ReaderSimulator.presentCredential_cases reader.state reader.nextLocalSequence with
        ⟨e, hfails⟩ | ⟨mode, following, -, -, hpresents⟩
      · rw [hfails reader generated input rfl rfl, map_ok]
        dsimp only
        rw [hfails reader' generated' _ hreader.state hreader.nextLocalSequence]
        exact ⟨rfl, hreader⟩
      · obtain ⟨presentation, hpresent, hsequence, hmode⟩ :=
          hpresents reader generated input rfl rfl
        obtain ⟨presentation', hpresent', hsequence', hmode'⟩ :=
          hpresents reader' generated' { input with credentialId } hreader.state
            hreader.nextLocalSequence
        rw [hpresent, map_ok]
        dsimp only
        rw [hpresent']
        refine ⟨?_, hreader.state, rfl⟩
        simp only [fareResult, hsequence, hsequence', hmode, hmode',
          ReaderFareEvaluation.evaluation_withPolicyId]

/-! ## The law of a scenario -/

section Scenario

variable (generate : Nat → FareTransactionId) (reader : ReaderSimulator) (policy : FarePolicy)
  (actions : List ScenarioAction)

/-- The reader that the first `k` actions lead to. -/
def reached (k : Nat) : ReaderSimulator :=
  (runScenario generate reader policy (actions.take k)).2

theorem reached_eq (k : Nat) :
    reached generate reader policy actions k =
      Runs.run (Transcript.next (runStep generate policy)) reader (actions.zipIdx.take k) := by
  rw [reached, runScenario, Transcript.take_zipIdx]

theorem getElem?_zipIdx_actions {actions : List ScenarioAction} {k : Nat}
    {action : ScenarioAction} (h : actions[k]? = some action) :
    actions.zipIdx[k]? = some (action, k) := by
  rw [List.getElem?_zipIdx, h, Option.map_some, Nat.zero_add]

/-- The record of an action is that of its turn on the reader reached. -/
theorem record_eq {k : Nat} {action : ScenarioAction} (h : actions[k]? = some action) :
    (runScenario generate reader policy actions).1.steps[k]? =
      some (runStep generate policy (reached generate reader policy actions k) (action, k)).1 := by
  rw [runScenario, Transcript.getElem?_outputs, getElem?_zipIdx_actions h, Option.map_some,
    ← reached_eq]

theorem reached_succ {k : Nat} {action : ScenarioAction} (h : actions[k]? = some action) :
    reached generate reader policy actions (k + 1) =
      (runStep generate policy (reached generate reader policy actions k) (action, k)).2 := by
  rw [reached_eq, reached_eq, Transcript.run_take_succ (getElem?_zipIdx_actions h)]

/-- The connectivity changes alone lead the state. -/
theorem state_run (steps : List (ScenarioAction × Nat)) :
    (Runs.run (Transcript.next (runStep generate policy)) reader steps).state =
      Runs.run ScenarioAction.stateAfter reader.state (steps.map Prod.fst) := by
  induction steps generalizing reader with
  | nil => rfl
  | cons step steps ih =>
    rw [Runs.run_cons, List.map_cons, Runs.run_cons, ih]
    exact congrArg (Runs.run ScenarioAction.stateAfter · _)
      (runAction_law (generate step.2) policy reader step.1).1

theorem reached_state (k : Nat) :
    (reached generate reader policy actions k).state =
      Runs.run ScenarioAction.stateAfter reader.state (actions.take k) := by
  rw [reached, runScenario, state_run, List.zipIdx_map_fst]

/-- A record carries the next sequence and moves it on, or leaves it. -/
theorem runStep_counts (step : ScenarioAction × Nat) :
    ((runStep generate policy reader step).1.localSequence = none ∧
        (runStep generate policy reader step).2.nextLocalSequence.toNat =
          reader.nextLocalSequence.toNat) ∨
      ((runStep generate policy reader step).1.localSequence =
          some reader.nextLocalSequence.toNat ∧
        (runStep generate policy reader step).2.nextLocalSequence.toNat =
          reader.nextLocalSequence.toNat + 1) := by
  have hlaw := (runAction_law (generate step.2) policy reader step.1).2
  unfold runStep ScenarioStepRecord.localSequence
  cases hresult : (runAction (generate step.2) policy reader step.1).1 with
  | connectivityChanged connectivity =>
    rw [hresult] at hlaw
    exact .inl ⟨by simp only [hresult], congrArg _ hlaw.2⟩
  | failed category =>
    rw [hresult] at hlaw
    exact .inl ⟨by simp only [hresult], congrArg (·.nextLocalSequence.toNat) hlaw⟩
  | fareProcessed localSequence mode outcome finalFare =>
    rw [hresult] at hlaw
    obtain ⟨input, context, -, hsequence, hnext, -⟩ := hlaw
    exact .inr ⟨by simp only [hresult, hsequence], hsequence ▸ hnext⟩

/-- One turn on two readers gives the same record. -/
theorem runStep_sameButIds (generate' : Nat → FareTransactionId) (id : FarePolicyId)
    (reader reader' : ReaderSimulator) (step step' : ScenarioAction × Nat)
    (hreader : reader.Agrees reader') (hstep : step.1.SameButIds step'.1 ∧ step.2 = step'.2) :
    (runStep generate policy reader step).1 =
        (runStep generate' (policy.withId id) reader' step').1 ∧
      (runStep generate policy reader step).2.Agrees
        (runStep generate' (policy.withId id) reader' step').2 := by
  obtain ⟨action, index⟩ := step
  obtain ⟨action', index'⟩ := step'
  obtain ⟨haction, rfl⟩ : action.SameButIds action' ∧ index = index' := hstep
  obtain ⟨hresult, hagrees⟩ := runAction_sameButIds hreader haction (generate index)
    (generate' index) policy id
  refine ⟨?_, hagrees⟩
  simp only [runStep, haction.kind_eq, hresult, hagrees.state, hagrees.nextLocalSequence]

/-- A scenario keeps one record for every action, in order, each with the state
and the fare of its own turn; the processed fares are numbered without a gap,
and no identifier is seen in the report. -/
theorem scenario_law :
    (runScenario generate reader policy actions).1.steps.length = actions.length ∧
      (∀ k action, actions[k]? = some action →
        ∃ record, (runScenario generate reader policy actions).1.steps[k]? = some record ∧
          RecordLaw policy (reached generate reader policy actions k)
            (reached generate reader policy actions (k + 1)) k action record ∧
          (reached generate reader policy actions k).state =
            Runs.run ScenarioAction.stateAfter reader.state (actions.take k)) ∧
      (runScenario generate reader policy actions).1.steps.filterMap (·.localSequence) =
        List.range' reader.nextLocalSequence.toNat
          ((runScenario generate reader policy actions).1.steps.filterMap
            (·.localSequence)).length ∧
      ∀ (generate' : Nat → FareTransactionId) (reader' : ReaderSimulator) (id : FarePolicyId)
        (actions' : List ScenarioAction), reader.Agrees reader' →
        List.Forall₂ ScenarioAction.SameButIds actions actions' →
        (runScenario generate' reader' (policy.withId id) actions').1 =
          (runScenario generate reader policy actions).1 := by
  refine ⟨?_, fun k action h => ?_, ?_, fun generate' reader' id actions' hreader hactions => ?_⟩
  · rw [runScenario, Transcript.length_outputs, List.length_zipIdx]
  · refine ⟨_, record_eq generate reader policy actions h, ?_,
      reached_state generate reader policy actions k⟩
    rw [reached_succ generate reader policy actions h]
    exact ⟨rfl, rfl, rfl, rfl, (runAction_law (generate k) policy _ action).2⟩
  · exact Transcript.counts_up (·.nextLocalSequence.toNat) ScenarioStepRecord.localSequence
      (fun reader => runStep_counts generate reader policy) reader actions.zipIdx
  · exact congrArg ScenarioReport.mk (Transcript.outputs_congr
      (runStep_sameButIds generate policy generate' id) hreader
      (Transcript.forall₂_zipIdx hactions 0)).symm

end Scenario

/-! ## A scenario for the examples -/

/-- A reader of the given identifier, as `start` leaves it with a connection. -/
def sampleReader (readerId : ReaderId) : ReaderSimulator where
  readerId
  protocolVersion := .current
  softwareVersion := "0.1.0"
  state := .readyOnline
  nextLocalSequence := 1
  softwareVersion_valid := by decide

example (readerId : ReaderId) :
    (ReaderSimulator.new readerId .current "0.1.0").map (·.start .connected |>.2) =
      .ok (sampleReader readerId) := rfl

/-- A tap across three zones. -/
def sampleTap (credentialId : FareCredentialId) : ScenarioAction :=
  .processFare
    { credentialId
      credentialMedium := .card
      eventTime := sampleJourney.eventTime
      originZone := ⟨41, by decide, by decide⟩
      destinationZone := ⟨43, by decide, by decide⟩ }
    { eligibility := .standard
      transferHistory := ⟨none⟩
      fareCapHistory := .zero .usd
      transitProduct := none
      availableBalance := .fromMinorUnits 1000 .usd
      offlineContext := none }

def sampleActions (credentialId : FareCredentialId) : List ScenarioAction :=
  [sampleTap credentialId, .setConnectivity .disconnected, sampleTap credentialId,
    .setConnectivity .connected, sampleTap credentialId]

def sampleUuid : Identifier := ⟨0x70008000000000000041#128, by decide⟩

def sampleOtherUuid : Identifier := ⟨0x70008000000000000042#128, by decide⟩

def sampleReport (uuid : Identifier) (policy : FarePolicy) : ScenarioReport :=
  (runScenario (fun _ => ⟨uuid⟩) (sampleReader ⟨uuid⟩) policy (sampleActions ⟨uuid⟩)).1

/-- The tap without a connection fails, and the tap after it takes its sequence. -/
example : (sampleReport sampleUuid samplePolicy).steps.map (·.result) =
    [.fareProcessed 1 .online (.approved (.fromMinorUnits 400 .usd) .standardFare)
        (.fromMinorUnits 400 .usd),
      .connectivityChanged .disconnected, .failed .missingOfflineContext,
      .connectivityChanged .connected,
      .fareProcessed 2 .online (.approved (.fromMinorUnits 400 .usd) .standardFare)
        (.fromMinorUnits 400 .usd)] := by decide

theorem scenario_law_sample :
    (sampleReport sampleUuid samplePolicy).steps.length = 5 ∧
      sampleReport sampleOtherUuid (samplePolicy.withId ⟨sampleOtherUuid⟩) =
        sampleReport sampleUuid samplePolicy := by
  obtain ⟨hlength, -, -, hsame⟩ := scenario_law (fun _ => ⟨sampleUuid⟩)
    (sampleReader ⟨sampleUuid⟩) samplePolicy (sampleActions ⟨sampleUuid⟩)
  have hactions : List.Forall₂ ScenarioAction.SameButIds (sampleActions ⟨sampleUuid⟩)
      (sampleActions ⟨sampleOtherUuid⟩) := by
    have htap : (sampleTap ⟨sampleUuid⟩).SameButIds (sampleTap ⟨sampleOtherUuid⟩) :=
      .processFare _ _ ⟨sampleOtherUuid⟩ ⟨sampleOtherUuid⟩ ⟨sampleOtherUuid⟩
    exact .cons htap (.cons (.setConnectivity _) (.cons htap (.cons (.setConnectivity _)
      (.cons htap .nil))))
  exact ⟨hlength, hsame _ _ _ _ ⟨rfl, rfl⟩ hactions⟩

end TransitGuard.Simulator
