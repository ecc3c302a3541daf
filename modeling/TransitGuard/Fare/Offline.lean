import TransitGuard.Fare.Evaluation

/-!
Evaluation on a reader without a connection. The fare is the one the shared
evaluation computes; the age of the cached data and the provisional limit can
only turn an approval into a rejection, never change the fare or its evidence.
-/

namespace TransitGuard.Fare

open Fallible

inductive OfflineSnapshotKind
  | farePolicy
  | revocationData
  deriving DecidableEq, Repr

/-- `OfflineEvaluationContext`. The two maximal ages are `u64`. -/
structure OfflineEvaluationContext where
  policyCachedAt : EventTime
  maximumPolicyAgeMilliseconds : Nat
  revocationDataCachedAt : EventTime
  maximumRevocationAgeMilliseconds : Nat
  provisionalChargeLimit : Money
  policyAge_lt : maximumPolicyAgeMilliseconds < 2 ^ 64
  revocationAge_lt : maximumRevocationAgeMilliseconds < 2 ^ 64

inductive OfflineEvaluationError
  | fareEvaluation (error : FareEvaluationError)
  | provisionalLimitCurrencyMismatch (expected actual : Currency)
  | negativeProvisionalLimit (limit : Money)
  | snapshotOccursAfterEvent (snapshot : OfflineSnapshotKind)
      (snapshotUnixMilliseconds eventUnixMilliseconds : UnixMilliseconds)
  deriving DecidableEq

structure OfflineFareEvaluation where
  evaluation : FareEvaluation
  policyAgeMilliseconds : Nat
  revocationDataAgeMilliseconds : Nat
  provisionalChargeLimit : Money
  deriving DecidableEq

/-- `validate_provisional_limit`. -/
def validateProvisionalLimit (policy : FarePolicy) (limit : Money) :
    Except OfflineEvaluationError Unit :=
  validateMoney policy.currency limit
    (.provisionalLimitCurrencyMismatch policy.currency limit.currency)
    (.negativeProvisionalLimit limit)

/-- `snapshot_age`. -/
def snapshotAge (snapshot : OfflineSnapshotKind) (cachedAt eventTime : EventTime) :
    Except OfflineEvaluationError Nat :=
  if cachedAt.unixMilliseconds > eventTime.unixMilliseconds then
    .error (.snapshotOccursAfterEvent snapshot cachedAt.unixMilliseconds
      eventTime.unixMilliseconds)
  else .ok (Checked.unsignedAbs (eventTime.unixMilliseconds - cachedAt.unixMilliseconds))

/-- `apply_offline_limit`. -/
def applyOfflineLimit (evaluation : FareEvaluation) (limit : Money) :
    Except OfflineEvaluationError FareEvaluation :=
  match evaluation.outcome with
  | .rejected reason => .ok { evaluation with outcome := .rejected reason }
  | .approved chargedAmount _ => do
    let comparison ← (chargedAmount.checkedCmp limit).mapError fun _ =>
      .provisionalLimitCurrencyMismatch limit.currency chargedAmount.currency
    if comparison = .gt then .ok { evaluation with outcome := .rejected .offlineLimitExceeded }
    else .ok { evaluation with outcome := .approved chargedAmount .offlineProvisional }

/-- The rules of offline evaluation on an evaluated fare. -/
def applyOfflineRules (context : OfflineEvaluationContext) (policyAge revocationAge : Nat)
    (evaluation : FareEvaluation) : Except OfflineEvaluationError FareEvaluation :=
  if policyAge > context.maximumPolicyAgeMilliseconds then
    .ok { evaluation with outcome := .rejected .stalePolicy }
  else if revocationAge > context.maximumRevocationAgeMilliseconds then
    .ok { evaluation with outcome := .rejected .staleRevocationData }
  else applyOfflineLimit evaluation context.provisionalChargeLimit

/-- `evaluate_fare_offline`. -/
def evaluateFareOffline (policy : FarePolicy) (input : FareEvaluationInput)
    (context : OfflineEvaluationContext) : Except OfflineEvaluationError OfflineFareEvaluation := do
  validateProvisionalLimit policy context.provisionalChargeLimit
  let policyAgeMilliseconds ← snapshotAge .farePolicy context.policyCachedAt input.eventTime
  let revocationDataAgeMilliseconds ←
    snapshotAge .revocationData context.revocationDataCachedAt input.eventTime
  let evaluation ← (evaluateFare policy input).mapError .fareEvaluation
  let evaluation ←
    applyOfflineRules context policyAgeMilliseconds revocationDataAgeMilliseconds evaluation
  .ok { evaluation
        policyAgeMilliseconds
        revocationDataAgeMilliseconds
        provisionalChargeLimit := context.provisionalChargeLimit }

/-! ## Parity -/

variable {policy : FarePolicy} {input : FareEvaluationInput} {context : OfflineEvaluationContext}
  {online : FareEvaluation}

/-- The age of cached data at the event. -/
def cacheAge (cachedAt eventTime : EventTime) : Int :=
  eventTime.unixMilliseconds.toInt - cachedAt.unixMilliseconds.toInt

theorem snapshotAge_ok {snapshot : OfflineSnapshotKind} {cachedAt eventTime : EventTime}
    {age : Nat} : snapshotAge snapshot cachedAt eventTime = .ok age ↔
      cachedAt.unixMilliseconds ≤ eventTime.unixMilliseconds ∧
        (age : Int) = cacheAge cachedAt eventTime := by
  simp only [snapshotAge, ite_error_eq_ok, gt_iff_lt, Int64.not_lt, Except.ok.injEq,
    cacheAge]
  constructor
  · rintro ⟨hle, rfl⟩
    exact ⟨hle, Checked.unsignedAbs_sub cachedAt.nonneg hle⟩
  · rintro ⟨hle, hage⟩
    have hexact := Checked.unsignedAbs_sub cachedAt.nonneg hle
    exact ⟨hle, by omega⟩

theorem snapshotAge_of_le (snapshot : OfflineSnapshotKind) {cachedAt eventTime : EventTime}
    (h : cachedAt.unixMilliseconds ≤ eventTime.unixMilliseconds) :
    ∃ age, snapshotAge snapshot cachedAt eventTime = .ok age :=
  ⟨_, snapshotAge_ok.mpr ⟨h, Checked.unsignedAbs_sub cachedAt.nonneg h⟩⟩

/-- How a decision of the shared evaluation becomes one of the reader. -/
inductive OfflineDecision (context : OfflineEvaluationContext) (policyAge revocationAge : Int) :
    FareEvaluationOutcome → FareEvaluationOutcome → Prop
  | stalePolicy {outcome : FareEvaluationOutcome}
      (stale : context.maximumPolicyAgeMilliseconds < policyAge) :
    OfflineDecision context policyAge revocationAge outcome (.rejected .stalePolicy)
  | staleRevocationData {outcome : FareEvaluationOutcome}
      (fresh : policyAge ≤ context.maximumPolicyAgeMilliseconds)
      (stale : context.maximumRevocationAgeMilliseconds < revocationAge) :
    OfflineDecision context policyAge revocationAge outcome (.rejected .staleRevocationData)
  | rejected {reason : FareRejectionReason}
      (fresh : policyAge ≤ context.maximumPolicyAgeMilliseconds)
      (fresh' : revocationAge ≤ context.maximumRevocationAgeMilliseconds) :
    OfflineDecision context policyAge revocationAge (.rejected reason) (.rejected reason)
  | offlineLimitExceeded {amount : Money} {reason : FareApprovalReason}
      (fresh : policyAge ≤ context.maximumPolicyAgeMilliseconds)
      (fresh' : revocationAge ≤ context.maximumRevocationAgeMilliseconds)
      (exceeds : context.provisionalChargeLimit.units < amount.units) :
    OfflineDecision context policyAge revocationAge (.approved amount reason)
      (.rejected .offlineLimitExceeded)
  | approved {amount : Money} {reason : FareApprovalReason}
      (fresh : policyAge ≤ context.maximumPolicyAgeMilliseconds)
      (fresh' : revocationAge ≤ context.maximumRevocationAgeMilliseconds)
      (within : amount.units ≤ context.provisionalChargeLimit.units) :
    OfflineDecision context policyAge revocationAge (.approved amount reason)
      (.approved amount .offlineProvisional)

section Decisions

variable {policyAge revocationAge : Int} {before after : FareEvaluationOutcome}

theorem OfflineDecision.approved_iff
    (h : OfflineDecision context policyAge revocationAge before after) {amount : Money} :
    (∃ reason, after = .approved amount reason) ↔
      (∃ reason, before = .approved amount reason) ∧
        policyAge ≤ context.maximumPolicyAgeMilliseconds ∧
        revocationAge ≤ context.maximumRevocationAgeMilliseconds ∧
        amount.units ≤ context.provisionalChargeLimit.units := by
  cases h with
  | stalePolicy stale => simp [stale]
  | staleRevocationData fresh stale => simp [stale]
  | rejected => simp
  | offlineLimitExceeded fresh fresh' exceeds =>
    simp only [reduceCtorEq, exists_false, FareEvaluationOutcome.approved.injEq, false_iff]
    rintro ⟨⟨_, rfl, -⟩, -, -, hle⟩
    omega
  | approved fresh fresh' within =>
    simp only [FareEvaluationOutcome.approved.injEq, exists_and_left, exists_eq', and_true]
    constructor
    · rintro rfl
      exact ⟨rfl, fresh, fresh', within⟩
    · exact And.left

theorem OfflineDecision.rejected_iff
    (h : OfflineDecision context policyAge revocationAge before after)
    {reason : FareRejectionReason} :
    after = .rejected reason ↔
      if context.maximumPolicyAgeMilliseconds < policyAge then reason = .stalePolicy
      else if context.maximumRevocationAgeMilliseconds < revocationAge then
        reason = .staleRevocationData
      else before = .rejected reason ∨
        (∃ amount approval, before = .approved amount approval ∧
          context.provisionalChargeLimit.units < amount.units) ∧
            reason = .offlineLimitExceeded := by
  cases h with
  | stalePolicy stale => simp [stale, eq_comm]
  | staleRevocationData fresh stale => simp [Int.not_lt.mpr fresh, stale, eq_comm]
  | rejected fresh fresh' => simp [Int.not_lt.mpr fresh, Int.not_lt.mpr fresh']
  | offlineLimitExceeded fresh fresh' exceeds =>
    simp [Int.not_lt.mpr fresh, Int.not_lt.mpr fresh', exceeds, eq_comm]
  | approved fresh fresh' within =>
    simp [Int.not_lt.mpr fresh, Int.not_lt.mpr fresh', Int.not_lt.mpr within]

end Decisions

/-- The rules always reach a decision, and replace nothing but the outcome. -/
theorem applyOfflineRules_spec (hlimit : context.provisionalChargeLimit.Owed policy.currency)
    (honline : evaluateFare policy input = .ok online) (policyAge revocationAge : Nat) :
    ∃ outcome,
      applyOfflineRules context policyAge revocationAge online =
        .ok { online with outcome := outcome } ∧
      OfflineDecision context policyAge revocationAge online.outcome outcome := by
  unfold applyOfflineRules
  by_cases hpolicy : policyAge > context.maximumPolicyAgeMilliseconds
  · rw [if_pos hpolicy]
    exact ⟨_, rfl, .stalePolicy (by omega)⟩
  rw [if_neg hpolicy]
  by_cases hrevocation : revocationAge > context.maximumRevocationAgeMilliseconds
  · rw [if_pos hrevocation]
    exact ⟨_, rfl, .staleRevocationData (by omega) (by omega)⟩
  rw [if_neg hrevocation, applyOfflineLimit]
  cases houtcome : online.outcome with
  | rejected reason => exact ⟨_, rfl, .rejected (by omega) (by omega)⟩
  | approved amount reason =>
    obtain ⟨ordering, hordering, -, hgt⟩ :=
      (evaluateFare_approved honline houtcome).1.checkedCmp hlimit
    simp only [hordering, Except.mapError, ok_bind]
    by_cases hexceeds : ordering = .gt
    · rw [if_pos hexceeds]
      exact ⟨_, rfl, .offlineLimitExceeded (by omega) (by omega) (hgt.mp hexceeds)⟩
    · rw [if_neg hexceeds]
      refine ⟨_, rfl, .approved (by omega) (by omega) ?_⟩
      exact Int.not_lt.mp fun hlt => hexceeds (hgt.mpr hlt)

/-- An offline evaluation that succeeds is the online one under a decision of
the reader. -/
theorem evaluateFareOffline_ok {offline : OfflineFareEvaluation}
    (h : evaluateFareOffline policy input context = .ok offline) :
    ∃ online outcome, evaluateFare policy input = .ok online ∧
      offline.evaluation = { online with outcome := outcome } ∧
      OfflineDecision context (cacheAge context.policyCachedAt input.eventTime)
        (cacheAge context.revocationDataCachedAt input.eventTime) online.outcome outcome := by
  simp only [evaluateFareOffline, validateProvisionalLimit, bind_eq_ok, validateMoney_ok,
    snapshotAge_ok, mapError_eq_ok] at h
  obtain ⟨-, hlimit, policyAge, ⟨-, hpolicyAge⟩, revocationAge, ⟨-, hrevocationAge⟩, online,
    honline, evaluation, hrules, h⟩ := h
  obtain ⟨outcome, hspec, hdecision⟩ :=
    applyOfflineRules_spec hlimit honline policyAge revocationAge
  rw [hrules] at hspec
  cases hspec
  cases h
  rw [hpolicyAge, hrevocationAge] at hdecision
  exact ⟨online, outcome, honline, rfl, hdecision⟩

/-- Offline evaluation fails on its own data or where the shared one does. -/
theorem evaluateFareOffline_error :
    (∃ e, evaluateFareOffline policy input context = .error e) ↔
      ¬ context.provisionalChargeLimit.Owed policy.currency ∨
        input.eventTime.unixMilliseconds < context.policyCachedAt.unixMilliseconds ∨
        input.eventTime.unixMilliseconds < context.revocationDataCachedAt.unixMilliseconds ∨
        ∃ e, evaluateFare policy input = .error e := by
  constructor
  · rintro ⟨e, h⟩
    by_contra hnone
    simp only [not_or, not_not, Int64.not_lt, not_exists] at hnone
    obtain ⟨hlimit, hpolicy, hrevocation, hevaluates⟩ := hnone
    cases honline : evaluateFare policy input with
    | error e' => exact hevaluates e' honline
    | ok online =>
    obtain ⟨policyAge, hpolicyAge⟩ := snapshotAge_of_le .farePolicy hpolicy
    obtain ⟨revocationAge, hrevocationAge⟩ := snapshotAge_of_le .revocationData hrevocation
    obtain ⟨outcome, hrules, -⟩ :=
      applyOfflineRules_spec hlimit honline policyAge revocationAge
    simp only [evaluateFareOffline, validateProvisionalLimit, validateMoney_of_owed hlimit,
      hpolicyAge, hrevocationAge, honline, Except.mapError, ok_bind, hrules] at h
    cases h
  · intro hcause
    cases hoffline : evaluateFareOffline policy input context with
    | error e => exact ⟨e, rfl⟩
    | ok offline =>
    simp only [evaluateFareOffline, validateProvisionalLimit, bind_eq_ok, validateMoney_ok,
      snapshotAge_ok, mapError_eq_ok] at hoffline
    obtain ⟨-, hlimit, _, ⟨hpolicy, -⟩, _, ⟨hrevocation, -⟩, online, honline, -⟩ := hoffline
    rcases hcause with hlimit' | hpolicy' | hrevocation' | ⟨e, he⟩
    · exact absurd hlimit hlimit'
    · exact absurd hpolicy' (Int64.not_lt.mpr hpolicy)
    · exact absurd hrevocation' (Int64.not_lt.mpr hrevocation)
    · rw [honline] at he
      cases he

/-- A reader and the backend agree on every tap, up to the age of what the
reader has cached and its limit. -/
theorem offline_online_parity (policy : FarePolicy) (input : FareEvaluationInput)
    (context : OfflineEvaluationContext) :
    let policyAge := cacheAge context.policyCachedAt input.eventTime
    let revocationAge := cacheAge context.revocationDataCachedAt input.eventTime
    let limit := context.provisionalChargeLimit
    (∀ offline, evaluateFareOffline policy input context = .ok offline →
      ∃ online, evaluateFare policy input = .ok online ∧
        offline.evaluation.policyId = online.policyId ∧
        offline.evaluation.policyVersion = online.policyVersion ∧
        offline.evaluation.eventTime = online.eventTime ∧
        offline.evaluation.evidence = online.evidence ∧
        (∀ amount, (∃ reason, offline.evaluation.outcome = .approved amount reason) ↔
          (∃ reason, online.outcome = .approved amount reason) ∧
            policyAge ≤ context.maximumPolicyAgeMilliseconds ∧
            revocationAge ≤ context.maximumRevocationAgeMilliseconds ∧
            amount.units ≤ limit.units) ∧
        ∀ reason, offline.evaluation.outcome = .rejected reason ↔
          if context.maximumPolicyAgeMilliseconds < policyAge then reason = .stalePolicy
          else if context.maximumRevocationAgeMilliseconds < revocationAge then
            reason = .staleRevocationData
          else online.outcome = .rejected reason ∨
            (∃ amount approval, online.outcome = .approved amount approval ∧
              limit.units < amount.units) ∧ reason = .offlineLimitExceeded) ∧
    ((∃ e, evaluateFareOffline policy input context = .error e) ↔
      limit.currency ≠ policy.currency ∨ limit.units < 0 ∨
        input.eventTime.unixMilliseconds < context.policyCachedAt.unixMilliseconds ∨
        input.eventTime.unixMilliseconds < context.revocationDataCachedAt.unixMilliseconds ∨
        ∃ e, evaluateFare policy input = .error e) := by
  intro policyAge revocationAge limit
  refine ⟨fun offline h => ?_, ?_⟩
  · obtain ⟨online, outcome, honline, heq, hdecision⟩ := evaluateFareOffline_ok h
    refine ⟨online, honline, by rw [heq], by rw [heq], by rw [heq], by rw [heq], ?_, ?_⟩
    · intro amount
      rw [heq]
      exact hdecision.approved_iff
    · intro reason
      rw [heq]
      exact hdecision.rejected_iff
  · rw [evaluateFareOffline_error, Money.not_owed, or_assoc]

end TransitGuard.Fare
