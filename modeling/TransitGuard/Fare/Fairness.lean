import TransitGuard.Fare.ClosedForm

/-!
Fairness between two evaluations under one policy. Without a product the final
fare is a function of the terms of the journey that is monotone in each of
them, so whatever improves a term for the rider never makes the journey dearer.
-/

namespace TransitGuard.Fare

open Fallible

variable {policy : FarePolicy} {input input' : FareEvaluationInput}
  {evaluation evaluation' : FareEvaluation}

/-- Better terms, no dearer fare. -/
theorem finalFare_le (h : evaluateFare policy input = .ok evaluation)
    (h' : evaluateFare policy input' = .ok evaluation') (hproduct : input.transitProduct = none)
    (hproduct' : input'.transitProduct = none)
    (hle : (input.terms policy).Le (input'.terms policy)) :
    evaluation.evidence.finalFare.units ≤ evaluation'.evidence.finalFare.units := by
  rw [(follows_of_ok h).finalFare_of_none hproduct, (follows_of_ok h').finalFare_of_none hproduct']
  exact hle.afterCaps (input.terms_sound policy) (input'.terms_sound policy)

/-! ## Terms that improve -/

/-- A previous fare that is no longer ago keeps the journey in the window. -/
theorem withinWindow_of_elapsed
    (helapsed : ∀ previous, input.transferHistory.previousPaidFareEventTime = some previous →
      ∃ previous', input'.transferHistory.previousPaidFareEventTime = some previous' ∧
        input'.eventTime.unixMilliseconds.toInt - previous'.unixMilliseconds.toInt ≤
          input.eventTime.unixMilliseconds.toInt - previous.unixMilliseconds.toInt)
    (hwindow : input.withinWindow policy = true) : input'.withinWindow policy = true := by
  unfold FareEvaluationInput.withinWindow at hwindow ⊢
  cases hprevious : input.transferHistory.previousPaidFareEventTime with
  | none =>
    rw [hprevious] at hwindow
    cases hwindow
  | some previous =>
    obtain ⟨previous', hprevious', hshorter⟩ := helapsed previous hprevious
    rw [hprevious, Option.any_some, decide_eq_true_eq] at hwindow
    rw [hprevious', Option.any_some, decide_eq_true_eq]
    exact hshorter.trans hwindow

/-- A shorter journey, a larger rate, a journey still in the window and larger
charges so far make better terms. -/
theorem terms_le (hdistance : input.zoneDistance ≤ input'.zoneDistance)
    (hrate : (policy.eligibilityDiscounts.rateFor input'.eligibility).value ≤
      (policy.eligibilityDiscounts.rateFor input.eligibility).value)
    (hwindow : input'.withinWindow policy = true → input.withinWindow policy = true)
    (hdaily : input'.fareCapHistory.dailyCharged.units ≤ input.fareCapHistory.dailyCharged.units)
    (hweekly :
      input'.fareCapHistory.weeklyCharged.units ≤ input.fareCapHistory.weeklyCharged.units) :
    (input.terms policy).Le (input'.terms policy) where
  fullFare := by
    have hsurcharge : (input.zoneDistance : Int) * policy.zoneSurcharge.units ≤
        input'.zoneDistance * policy.zoneSurcharge.units :=
      Int.mul_le_mul_of_nonneg_right (Int.ofNat_le.mpr hdistance) policy.sound.zoneSurcharge.nonneg
    exact Int.add_le_add_left hsurcharge _
  rate := Int.ofNat_le.mpr hrate
  transferDiscount := by
    show (if input'.withinWindow policy then policy.transferDiscount.units else 0) ≤
      if input.withinWindow policy then policy.transferDiscount.units else 0
    by_cases hinside : input'.withinWindow policy = true
    · rw [if_pos hinside, if_pos (hwindow hinside)]
    · rw [if_neg hinside]
      exact (input.terms_sound policy).transferDiscount
  dailyRemaining := max_le_max_left 0 (Int.sub_le_sub_left hdaily _)
  weeklyRemaining := max_le_max_left 0 (Int.sub_le_sub_left hweekly _)

/-! ## The laws -/

/-- The zones enter an evaluation without a product through their distance. -/
theorem evaluateFare_swap (policy : FarePolicy) (hproduct : input.transitProduct = none) :
    evaluateFare policy
        { input with originZone := input.destinationZone, destinationZone := input.originZone } =
      evaluateFare policy input := by
  have hdistance : additionalZones input.destinationZone input.originZone =
      additionalZones input.originZone input.destinationZone := by
    unfold additionalZones
    omega
  simp only [evaluateFare, hdistance, hproduct, applyTransitProduct]

/-- A larger balance keeps an approval and its charge. -/
theorem evaluateFare_balance {balance : Money} (h : evaluateFare policy input = .ok evaluation)
    (h' : evaluateFare policy { input with availableBalance := balance } = .ok evaluation')
    (hproduct : input.transitProduct = none)
    (hle : input.availableBalance.units ≤ balance.units) :
    evaluation'.evidence.finalFare = evaluation.evidence.finalFare ∧
      ∀ amount reason, evaluation.outcome = .approved amount reason →
        evaluation'.outcome = .approved amount reason := by
  have hfollows := follows_of_ok h
  have hfollows' := follows_of_ok h'
  -- the terms do not read the balance
  have hcapDiscount := hfollows'.fareCapDiscount.trans hfollows.fareCapDiscount.symm
  have htransferDiscount := hfollows'.transferDiscount.trans hfollows.transferDiscount.symm
  have hfinal : evaluation'.evidence.finalFare = evaluation.evidence.finalFare := Money.ext
    ((hfollows'.finalFare_of_none hproduct).trans (hfollows.finalFare_of_none hproduct).symm)
    (hfollows'.finalFare_owed.currency_eq.trans hfollows.finalFare_owed.currency_eq.symm)
  refine ⟨hfinal, fun amount reason happroved => ?_⟩
  rw [hfollows.outcome_storedValue hproduct] at happroved
  split at happroved
  · next henough =>
    rw [← happroved, ← hfinal, ← hcapDiscount, ← htransferDiscount]
    exact (hfollows'.outcome_storedValue hproduct).trans (if_pos (henough.trans hle))
  · cases happroved

/-- Fairness: with no product presented, direction does not matter, a larger
balance changes nothing but a rejection, and the final fare follows the
distance, the charges so far, the eligibility rate and the time since the
previous paid fare. -/
theorem evaluateFare_fair (hproduct : input.transitProduct = none)
    (h : evaluateFare policy input = .ok evaluation) :
    evaluateFare policy
        { input with originZone := input.destinationZone, destinationZone := input.originZone } =
      .ok evaluation ∧
    (∀ balance other, evaluateFare policy { input with availableBalance := balance } = .ok other →
      input.availableBalance.units ≤ balance.units →
      other.evidence.finalFare = evaluation.evidence.finalFare ∧
        ∀ amount reason, evaluation.outcome = .approved amount reason →
          other.outcome = .approved amount reason) ∧
    (∀ origin destination other, evaluateFare policy
        { input with originZone := origin, destinationZone := destination } = .ok other →
      ((input.originZone.value : Int) - input.destinationZone.value).natAbs ≤
        ((origin.value : Int) - destination.value).natAbs →
      evaluation.evidence.finalFare.units ≤ other.evidence.finalFare.units) ∧
    (∀ history other, evaluateFare policy { input with fareCapHistory := history } = .ok other →
      input.fareCapHistory.dailyCharged.units ≤ history.dailyCharged.units →
      input.fareCapHistory.weeklyCharged.units ≤ history.weeklyCharged.units →
      other.evidence.finalFare.units ≤ evaluation.evidence.finalFare.units) ∧
    (∀ eligibility other,
      evaluateFare policy { input with eligibility := eligibility } = .ok other →
      (policy.eligibilityDiscounts.rateFor input.eligibility).value ≤
        (policy.eligibilityDiscounts.rateFor eligibility).value →
      other.evidence.finalFare.units ≤ evaluation.evidence.finalFare.units) ∧
    (∀ eventTime history other, evaluateFare policy
        { input with eventTime := eventTime, transferHistory := history } = .ok other →
      (∀ previous, input.transferHistory.previousPaidFareEventTime = some previous →
        ∃ previous', history.previousPaidFareEventTime = some previous' ∧
          eventTime.unixMilliseconds.toInt - previous'.unixMilliseconds.toInt ≤
            input.eventTime.unixMilliseconds.toInt - previous.unixMilliseconds.toInt) →
      other.evidence.finalFare.units ≤ evaluation.evidence.finalFare.units) := by
  refine ⟨(evaluateFare_swap policy hproduct).trans h, ?_, ?_, ?_, ?_, ?_⟩
  · intro balance other hother hle
    exact evaluateFare_balance h hother hproduct hle
  · intro origin destination other hother hle
    exact finalFare_le h hother hproduct hproduct
      (terms_le hle (le_refl _) id (le_refl _) (le_refl _))
  · intro history other hother hdaily hweekly
    exact finalFare_le hother h hproduct hproduct
      (terms_le (le_refl _) (le_refl _) id hdaily hweekly)
  · intro eligibility other hother hrate
    exact finalFare_le hother h hproduct hproduct
      (terms_le (le_refl _) hrate id (le_refl _) (le_refl _))
  · intro eventTime history other hother helapsed
    exact finalFare_le hother h hproduct hproduct
      (terms_le (le_refl _) (le_refl _) (withinWindow_of_elapsed helapsed) (le_refl _) (le_refl _))

/-- The way back costs the same, and less within the transfer window. -/
theorem evaluateFare_fair_sample :
    let first : FareEvaluationInput := { sampleTransfer with transferHistory := ⟨none⟩ }
    ∃ evaluation transferred, evaluateFare samplePolicy first = .ok evaluation ∧
      evaluateFare samplePolicy { first with
        originZone := first.destinationZone
        destinationZone := first.originZone } = .ok evaluation ∧
      evaluateFare samplePolicy sampleTransfer = .ok transferred ∧
      evaluation.evidence.finalFare.units = 200 ∧
      transferred.evidence.finalFare.units ≤ evaluation.evidence.finalFare.units := by
  intro first
  obtain ⟨evaluation, heval⟩ : ∃ evaluation, evaluateFare samplePolicy first =
      .ok evaluation := isOk_iff.mp (by decide)
  obtain ⟨transferred, htransferred⟩ : ∃ transferred, evaluateFare samplePolicy sampleTransfer =
      .ok transferred := isOk_iff.mp (by decide)
  have hfare : (evaluateFare samplePolicy first).toOption.map (·.evidence.finalFare.units) =
      some 200 := by
    decide
  rw [heval] at hfare
  obtain ⟨hswap, -, -, -, -, hsooner⟩ := evaluateFare_fair rfl heval
  have hle := hsooner sampleTransfer.eventTime sampleTransfer.transferHistory transferred
    htransferred nofun
  exact ⟨evaluation, transferred, heval, hswap, htransferred, Option.some.inj hfare, hle⟩

end TransitGuard.Fare
