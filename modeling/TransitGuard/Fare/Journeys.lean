import TransitGuard.Fare.Evaluation

/-!
Journeys one after another. The fare engine keeps nothing between two
evaluations: the caller adds each approved charge to the totals of the day and
the week, takes it from the balance, and starts a total again with a new day or
week. The caps then hold over any number of journeys.
-/

namespace TransitGuard.Fare

open Fallible

/-- What the caller keeps, with the charges approved so far. -/
structure FareLedger where
  fareCapHistory : FareCapHistory
  availableBalance : Money
  charges : List Money
  deriving DecidableEq

/-- An evaluation input less what the ledger supplies. -/
structure Journey where
  eventTime : EventTime
  originZone : ZoneId
  destinationZone : ZoneId
  eligibility : EligibilityClassification
  transferHistory : TransferHistory
  transitProduct : Option TransitProduct
  deriving DecidableEq

inductive FareEvent
  | journey (journey : Journey)
  | newDay
  | newWeek
  deriving DecidableEq

def FareLedger.opening (policy : FarePolicy) (balance : Money) : FareLedger where
  fareCapHistory := .zero policy.currency
  availableBalance := balance
  charges := []

def Journey.input (journey : Journey) (ledger : FareLedger) : FareEvaluationInput where
  eventTime := journey.eventTime
  originZone := journey.originZone
  destinationZone := journey.destinationZone
  eligibility := journey.eligibility
  transferHistory := journey.transferHistory
  fareCapHistory := ledger.fareCapHistory
  transitProduct := journey.transitProduct
  availableBalance := ledger.availableBalance

/-- An approved charge goes into both totals and out of the balance. -/
def FareLedger.charge (ledger : FareLedger) (amount : Money) : Except MoneyError FareLedger := do
  let dailyCharged ← ledger.fareCapHistory.dailyCharged.checkedAdd amount
  let weeklyCharged ← ledger.fareCapHistory.weeklyCharged.checkedAdd amount
  let availableBalance ← ledger.availableBalance.checkedSubtract amount
  .ok { fareCapHistory := ⟨dailyCharged, weeklyCharged⟩
        availableBalance
        charges := ledger.charges ++ [amount] }

/-- The charge of an evaluation, if it approved one. -/
def FareEvaluationOutcome.charged : FareEvaluationOutcome → Option Money
  | .approved amount _ => some amount
  | .rejected _ => none

/-- One journey or the start of a new period. A journey that fails or is
rejected leaves the ledger as it is. -/
def FareLedger.next (policy : FarePolicy) (ledger : FareLedger) :
    FareEvent → Except MoneyError FareLedger
  | .newDay =>
    .ok { ledger with
      fareCapHistory := { ledger.fareCapHistory with dailyCharged := .zero policy.currency } }
  | .newWeek => .ok { ledger with fareCapHistory := .zero policy.currency }
  | .journey journey =>
    match (evaluateFare policy (journey.input ledger)).toOption.bind (·.outcome.charged) with
    | none => .ok ledger
    | some amount => ledger.charge amount

/-! ## The invariant -/

structure FareLedger.Sound (policy : FarePolicy) (initial : Money) (ledger : FareLedger) :
    Prop where
  history : ledger.fareCapHistory.Valid policy.currency
  balance : ledger.availableBalance.Owed policy.currency
  daily_le_cap : ledger.fareCapHistory.dailyCharged.units ≤ policy.dailyCap.units
  weekly_le_cap : ledger.fareCapHistory.weeklyCharged.units ≤ policy.weeklyCap.units
  conserved : ledger.availableBalance.units + (ledger.charges.map (·.units)).sum = initial.units

variable {policy : FarePolicy} {initial : Money} {ledger : FareLedger}

theorem FareCapHistory.Valid.zero (currency : Currency) :
    (FareCapHistory.zero currency).Valid currency :=
  ⟨.zero currency, .zero currency, le_refl _⟩

theorem FareLedger.Sound.opening (h : initial.Owed policy.currency) :
    (FareLedger.opening policy initial).Sound policy initial where
  history := .zero policy.currency
  balance := h
  daily_le_cap := (Money.units_zero _).trans_le policy.sound.dailyCap.nonneg
  weekly_le_cap := (Money.units_zero _).trans_le policy.sound.weeklyCap.nonneg
  conserved := Int.add_zero _

/-- A charge within the balance and both caps is booked. -/
theorem FareLedger.Sound.charge (h : ledger.Sound policy initial) {amount : Money}
    (howed : amount.Owed policy.currency) (hbalance : amount.units ≤ ledger.availableBalance.units)
    (hdaily : ledger.fareCapHistory.dailyCharged.units + amount.units ≤ policy.dailyCap.units)
    (hweekly : ledger.fareCapHistory.weeklyCharged.units + amount.units ≤ policy.weeklyCap.units) :
    ∃ ledger', ledger.charge amount = .ok ledger' ∧ ledger'.Sound policy initial := by
  obtain ⟨daily, hdailyOk, hdailyOwed, hdailyUnits⟩ := h.history.daily.checkedAdd howed hdaily
  obtain ⟨weekly, hweeklyOk, hweeklyOwed, hweeklyUnits⟩ :=
    h.history.weekly.checkedAdd howed hweekly
  obtain ⟨balance, hbalanceOk, hbalanceOwed, hbalanceUnits⟩ :=
    h.balance.checkedSubtract howed hbalance
  refine ⟨⟨⟨daily, weekly⟩, balance, ledger.charges ++ [amount]⟩, ?_, ?_⟩
  · simp only [FareLedger.charge, hdailyOk, hweeklyOk, hbalanceOk, ok_bind]
  · have hle := h.history.daily_le_weekly
    have hconserved := h.conserved
    refine ⟨⟨hdailyOwed, hweeklyOwed, ?_⟩, hbalanceOwed, ?_, ?_, ?_⟩
    · show daily.units ≤ weekly.units
      omega
    · show daily.units ≤ policy.dailyCap.units
      omega
    · show weekly.units ≤ policy.weeklyCap.units
      omega
    · rw [List.map_append, List.sum_append, List.map_singleton, List.sum_singleton]
      show balance.units + _ = _
      omega

theorem FareLedger.Sound.next (h : ledger.Sound policy initial) (event : FareEvent) :
    ∃ ledger', ledger.next policy event = .ok ledger' ∧ ledger'.Sound policy initial := by
  cases event with
  | newDay =>
    refine ⟨_, rfl, { h with history := ⟨.zero _, h.history.weekly, ?_⟩, daily_le_cap := ?_ }⟩
    · exact (Money.units_zero _).trans_le h.history.weekly.nonneg
    · exact (Money.units_zero _).trans_le policy.sound.dailyCap.nonneg
  | newWeek =>
    exact ⟨_, rfl, { h with
      history := .zero policy.currency
      daily_le_cap := (Money.units_zero _).trans_le policy.sound.dailyCap.nonneg
      weekly_le_cap := (Money.units_zero _).trans_le policy.sound.weeklyCap.nonneg }⟩
  | journey journey =>
    cases heval : evaluateFare policy (journey.input ledger) with
    | error e => exact ⟨ledger, by simp only [FareLedger.next, heval]; rfl, h⟩
    | ok evaluation =>
    cases houtcome : evaluation.outcome with
    | rejected reason =>
      refine ⟨ledger, ?_, h⟩
      simp only [FareLedger.next, heval, Except.toOption, Option.bind_some, houtcome,
        FareEvaluationOutcome.charged]
    | approved amount reason =>
      obtain ⟨howed, hbalance, hdaily, hweekly⟩ := evaluateFare_approved heval houtcome
      have hdailyCap := h.daily_le_cap
      have hweeklyCap := h.weekly_le_cap
      simp only [Journey.input] at hbalance hdaily hweekly
      obtain ⟨ledger', hcharge, hsound⟩ := h.charge howed hbalance (by omega) (by omega)
      refine ⟨ledger', ?_, hsound⟩
      simp only [FareLedger.next, heval, Except.toOption, Option.bind_some, houtcome,
        FareEvaluationOutcome.charged]
      exact hcharge

/-- A sound ledger lets every journey through that the opening ledger does. -/
theorem FareLedger.Sound.fails_alike {ledger' : FareLedger} (h : ledger.Sound policy initial)
    (h' : ledger'.Sound policy initial) (journey : Journey) (e : FareEvaluationError) :
    evaluateFare policy (journey.input ledger) = .error e ↔
      evaluateFare policy (journey.input ledger') = .error e := by
  rw [evaluateFare_eq_error_iff h.balance h.history,
    evaluateFare_eq_error_iff h'.balance h'.history]
  exact Iff.rfl

/-- After any journeys, in any periods: the totals are within their caps, the
balance is not negative and nothing is lost, and an evaluation fails exactly
where it would fail for a rider without history. -/
theorem fareCaps_never_exceeded (policy : FarePolicy) {initial : Money}
    (hcurrency : initial.currency = policy.currency) (hopening : 0 ≤ initial.units)
    (events : List FareEvent) :
    ∃ ledger, events.foldlM (FareLedger.next policy) (.opening policy initial) = .ok ledger ∧
      ledger.fareCapHistory.dailyCharged.units ≤ policy.dailyCap.units ∧
      ledger.fareCapHistory.weeklyCharged.units ≤ policy.weeklyCap.units ∧
      ledger.fareCapHistory.dailyCharged.units ≤ ledger.fareCapHistory.weeklyCharged.units ∧
      0 ≤ ledger.availableBalance.units ∧
      ledger.availableBalance.units + (ledger.charges.map (·.units)).sum = initial.units ∧
      ∀ (journey : Journey) (e : FareEvaluationError),
        evaluateFare policy (journey.input ledger) = .error e ↔
          evaluateFare policy (journey.input (.opening policy initial)) = .error e := by
  have hstart : (FareLedger.opening policy initial).Sound policy initial :=
    .opening ⟨hcurrency, hopening⟩
  obtain ⟨ledger, hrun, hsound⟩ :=
    foldlM_invariant (fun ledger event h => FareLedger.Sound.next h event) hstart events
  exact ⟨ledger, hrun, hsound.daily_le_cap, hsound.weekly_le_cap, hsound.history.daily_le_weekly,
    hsound.balance.nonneg, hsound.conserved, hsound.fails_alike hstart⟩

/-! ## A policy for the examples -/

def samplePolicy : FarePolicy where
  id := ⟨⟨0x70008000000000000010#128, by decide⟩⟩
  version := .first
  currency := .usd
  baseFare := .fromMinorUnits 250 .usd
  zoneSurcharge := .fromMinorUnits 75 .usd
  transferWindow := ⟨5400000, by decide, by decide⟩
  transferDiscount := .fromMinorUnits 250 .usd
  dailyCap := .fromMinorUnits 750 .usd
  weeklyCap := .fromMinorUnits 3000 .usd
  eligibilityDiscounts := ⟨⟨5000, by decide⟩, .zero, .zero, ⟨10000, by decide⟩⟩
  checked := by decide

def sampleJourney : Journey where
  eventTime := ⟨1000, by decide⟩
  originZone := ⟨1, LocalSequenceNumber.first.pos, DeviceProtocolVersion.current.lt⟩
  destinationZone := ⟨3, by decide, by decide⟩
  eligibility := .standard
  transferHistory := ⟨none⟩
  transitProduct := none

/-- Two journeys on one day: the second is charged what the daily cap leaves. -/
example : ([.journey sampleJourney, .journey sampleJourney].foldlM (FareLedger.next samplePolicy)
    (.opening samplePolicy (.fromMinorUnits 1000 .usd))).map (·.charges.map (·.minorUnits)) =
      .ok [400, 350] := by decide

theorem fareCaps_never_exceeded_sample :
    (Money.fromMinorUnits 1000 .usd).currency = samplePolicy.currency ∧
      0 ≤ (Money.fromMinorUnits 1000 .usd).units ∧
      ∃ ledger, [.journey sampleJourney, .journey sampleJourney, .newDay,
          .journey sampleJourney].foldlM (FareLedger.next samplePolicy)
          (.opening samplePolicy (.fromMinorUnits 1000 .usd)) = .ok ledger ∧
        ledger.fareCapHistory.dailyCharged.units ≤ samplePolicy.dailyCap.units := by
  have hcurrency : (Money.fromMinorUnits 1000 .usd).currency = samplePolicy.currency := rfl
  have hopening : 0 ≤ (Money.fromMinorUnits 1000 .usd).units := by decide
  obtain ⟨ledger, hrun, hdaily, -⟩ := fareCaps_never_exceeded samplePolicy hcurrency hopening
    [.journey sampleJourney, .journey sampleJourney, .newDay, .journey sampleJourney]
  exact ⟨hcurrency, hopening, ledger, hrun, hdaily⟩

end TransitGuard.Fare
