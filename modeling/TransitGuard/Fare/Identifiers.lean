import TransitGuard.Fare.Offline

/-!
Identifiers in fares. No rule looks at the identifier of the policy or of a
product: under other identifiers a fare is evaluated in the same way, and the
evaluation only reports the other policy.
-/

namespace TransitGuard.Fare

open Fallible

/-- The same policy under another identifier. -/
def FarePolicy.withId (policy : FarePolicy) (id : FarePolicyId) : FarePolicy where
  toFarePolicyDefinition := { policy.toFarePolicyDefinition with id }
  checked := policy.checked

/-- The same product under other identifiers. -/
def TransitProduct.withIds (product : TransitProduct) (productId : TransitProductId)
    (instanceId : TransitProductInstanceId) : TransitProduct :=
  { product with productId, instanceId }

/-- The same input with the product under other identifiers. -/
def FareEvaluationInput.withIds (input : FareEvaluationInput) (productId : TransitProductId)
    (instanceId : TransitProductInstanceId) : FareEvaluationInput :=
  { input with transitProduct := input.transitProduct.map (·.withIds productId instanceId) }

variable (policy : FarePolicy) (id : FarePolicyId) (productId : TransitProductId)
  (instanceId : TransitProductInstanceId)

theorem applyTransfer_withId (time : EventTime) (history : TransferHistory) (fare : Money) :
    applyTransfer (policy.withId id) time history fare =
      (fun application => { application with policyId := id }) <$>
        applyTransfer policy time history fare := by
  simp only [applyTransfer, map_bind]
  rfl

theorem applyFareCaps_withId (history : FareCapHistory) (fare : Money) :
    applyFareCaps (policy.withId id) history fare =
      (fun application => { application with policyId := id }) <$>
        applyFareCaps policy history fare := by
  simp only [applyFareCaps, map_bind, apply_ite]
  rfl

theorem applyTransitProduct_withIds (product : Option TransitProduct) (time : EventTime)
    (originZone destinationZone : ZoneId) (fare : Money) :
    applyTransitProduct (policy.withId id) (product.map (·.withIds productId instanceId)) time
        originZone destinationZone fare =
      (fun application =>
          { application with
            policyId := id
            productId := application.productId.map fun _ => productId
            instanceId := application.instanceId.map fun _ => instanceId }) <$>
        applyTransitProduct policy product time originZone destinationZone fare := by
  cases product with
  | none | some =>
    simp only [applyTransitProduct, map_bind]
    rfl

/-- Under other identifiers the evaluation is the same, of the other policy. -/
theorem evaluateFare_withIds (input : FareEvaluationInput) :
    evaluateFare (policy.withId id) (input.withIds productId instanceId) =
      (fun evaluation => { evaluation with policyId := id }) <$> evaluateFare policy input := by
  simp only [evaluateFare, FareEvaluationInput.withIds, applyTransfer_withId, applyFareCaps_withId,
    applyTransitProduct_withIds, mapError_map, bind_map_left, map_bind]
  rfl

theorem applyOfflineRules_withId (context : OfflineEvaluationContext)
    (policyAge revocationAge : Nat) (evaluation : FareEvaluation) :
    applyOfflineRules context policyAge revocationAge { evaluation with policyId := id } =
      (fun evaluation => { evaluation with policyId := id }) <$>
        applyOfflineRules context policyAge revocationAge evaluation := by
  unfold applyOfflineRules
  split_ifs
  · rfl
  · rfl
  · cases houtcome : evaluation.outcome with
    | rejected reason =>
      simp only [applyOfflineLimit, houtcome]
      rfl
    | approved amount reason =>
      simp only [applyOfflineLimit, houtcome, map_bind]
      refine bind_congr fun comparison => ?_
      split_ifs <;> rfl

theorem evaluateFareOffline_withIds (input : FareEvaluationInput)
    (context : OfflineEvaluationContext) :
    evaluateFareOffline (policy.withId id) (input.withIds productId instanceId) context =
      (fun offline =>
          { offline with evaluation := { offline.evaluation with policyId := id } }) <$>
        evaluateFareOffline policy input context := by
  simp only [evaluateFareOffline, evaluateFare_withIds, applyOfflineRules_withId, mapError_map,
    bind_map_left, map_bind]
  rfl

end TransitGuard.Fare
