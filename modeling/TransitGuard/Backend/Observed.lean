import TransitGuard.Library.Sha256
import TransitGuard.Backend.Api
import TransitGuard.Backend.Replay

/-!
What the telemetry of the backend says about the requests it has answered. The
handlers run side by side and every increment is a step of its own, so the
counters of a moment may be between two handlers; they are exact whenever no
handler is under way.
-/

namespace TransitGuard.Backend

open Protocol Text Json Http Telemetry Counters

variable {codec : Codec} {sha256 : Sha256} {environmentId : EnvironmentId}

/-- The counters after the increments that the events make. -/
def telemetryAfter (events : List (Counters.Event Counter)) : Inner :=
  (Runs.trace Counters.step incremented World.initial events).foldl Inner.increment Inner.default

theorem load_after (events : List (Counters.Event Counter)) (k : Counter) :
    (telemetryAfter events).load k =
      (Runs.run Counters.step (World.initial : World Counter) events).count k := by
  rw [telemetryAfter, load_foldl, load_default, count_trace]
  rfl

/-! ## The answers in numbers -/

def isAcknowledgement : ApiResponse → Bool
  | .ok _ => true
  | .error _ => false

def isFailureOf (category : FailureCategory) : ApiResponse → Bool
  | .ok _ => false
  | .error c => c == category

/-- The entries that an answer acknowledges. -/
def acknowledgedEntries : ApiResponse → List AcknowledgementEntry
  | .ok acknowledgement => acknowledgement.entries
  | .error _ => []

theorem count_recordEntries (entries : List AcknowledgementEntry) :
    let records := entries.flatMap fun entry => recordEntryOutcome entry.outcome
    records.count .requestsTotal = 0 ∧ records.count .acknowledgementsTotal = 0 ∧
      records.count .requestFailuresTotal = 0 ∧ records.count .entriesTotal = entries.length ∧
      (∀ category, records.count (.failure category) = 0) ∧
      ∀ outcome, records.count (.outcome outcome) = entries.countP (·.outcome == outcome) := by
  induction entries with
  | nil => simp
  | cons entry entries ih =>
    obtain ⟨hrequests, hacknowledgements, hfailures, hentries, hcategories, houtcomes⟩ := ih
    refine ⟨?_, ?_, ?_, ?_, fun category => ?_, fun outcome => ?_⟩
    · simpa [recordEntryOutcome] using hrequests
    · simpa [recordEntryOutcome] using hacknowledgements
    · simpa [recordEntryOutcome] using hfailures
    · rw [List.flatMap_cons, List.count_append, hentries]
      simp [recordEntryOutcome]
      omega
    · simpa [recordEntryOutcome] using hcategories category
    · rw [List.flatMap_cons, List.count_append, houtcomes]
      simp [recordEntryOutcome, List.countP_cons, List.count_cons]
      omega

/-- What one answer adds to each counter. -/
theorem count_recordResponse (answer : ApiResponse) :
    (recordResponse answer).count .requestsTotal = 1 ∧
      (recordResponse answer).count .acknowledgementsTotal =
        (if isAcknowledgement answer then 1 else 0) ∧
      (recordResponse answer).count .requestFailuresTotal =
        (if isAcknowledgement answer then 0 else 1) ∧
      (recordResponse answer).count .entriesTotal = (acknowledgedEntries answer).length ∧
      (∀ category, (recordResponse answer).count (.failure category) =
        if isFailureOf category answer then 1 else 0) ∧
      ∀ outcome, (recordResponse answer).count (.outcome outcome) =
        (acknowledgedEntries answer).countP (·.outcome == outcome) := by
  cases answer with
  | ok acknowledgement =>
    obtain ⟨hrequests, hacknowledgements, hfailures, hentries, hcategories, houtcomes⟩ :=
      count_recordEntries acknowledgement.entries
    simp [recordResponse, recordRequestStarted, recordAcknowledgement, isAcknowledgement,
      isFailureOf, acknowledgedEntries, hrequests, hacknowledgements, hfailures, hentries,
      hcategories, houtcomes]
  | error category =>
    refine ⟨rfl, rfl, rfl, rfl, fun other => ?_, fun _ => rfl⟩
    simp [recordResponse, recordRequestStarted, recordRequestFailure, isFailureOf,
      List.count_cons]

/-! ## At every moment -/

/-- A handler counts its request before it counts the result. -/
theorem results_le_requests {answer : ApiResponse} {made : List Counter}
    (h : made <+: recordResponse answer) :
    made.count .acknowledgementsTotal + made.count .requestFailuresTotal ≤
      made.count .requestsTotal := by
  obtain ⟨-, hacknowledgements, hfailures, -⟩ := count_recordResponse answer
  have hmade : made = [] ∨ ∃ rest, made = .requestsTotal :: rest := by
    have hhead : ∃ tail, recordResponse answer = .requestsTotal :: tail := by
      cases answer <;> exact ⟨_, rfl⟩
    obtain ⟨tail, htail⟩ := hhead
    rw [htail, List.prefix_cons_iff] at h
    exact h.imp_right fun ⟨rest, heq, _⟩ => ⟨rest, heq⟩
  rcases hmade with rfl | ⟨rest, rfl⟩
  · simp
  · have hack := h.sublist.count_le .acknowledgementsTotal
    have hfail := h.sublist.count_le .requestFailuresTotal
    have hrequests : 1 ≤ (Counter.requestsTotal :: rest).count .requestsTotal := by simp
    cases hanswer : isAcknowledgement answer <;> simp [hanswer] at hacknowledgements hfailures <;>
      omega

def outcomeCounts (made : List Counter) : Nat :=
  made.count (.outcome .acknowledged) + made.count (.outcome .retryableFailure) +
    made.count (.outcome .permanentFailure) + made.count (.outcome .manualReview)

theorem outcomeCounts_cons (k : Counter) (made : List Counter) :
    outcomeCounts (k :: made) = outcomeCounts made + outcomeCounts [k] := by
  simp only [outcomeCounts, List.count_cons, List.count_nil]
  omega

theorem outcomeCounts_outcome (outcome : EntryOutcome) :
    outcomeCounts [.outcome outcome] = 1 := by
  cases outcome <;> rfl

/-- An entry is counted before its outcome. -/
theorem outcomes_le_recordEntries (entries : List AcknowledgementEntry) {made : List Counter}
    (h : made <+: entries.flatMap fun entry => recordEntryOutcome entry.outcome) :
    outcomeCounts made ≤ made.count .entriesTotal := by
  induction entries generalizing made with
  | nil => simp [List.prefix_nil.mp h, outcomeCounts]
  | cons entry entries ih =>
    rw [List.flatMap_cons, recordEntryOutcome, List.cons_append, List.cons_append,
      List.nil_append, List.prefix_cons_iff] at h
    rcases h with rfl | ⟨rest, rfl, hrest⟩
    · simp [outcomeCounts]
    · rcases List.prefix_cons_iff.mp hrest with rfl | ⟨later, rfl, hlater⟩
      · simp [outcomeCounts]
      · have := ih hlater
        rw [outcomeCounts_cons, outcomeCounts_cons, outcomeCounts_outcome]
        simp [outcomeCounts] at this ⊢
        omega

theorem outcomes_le_entries {answer : ApiResponse} {made : List Counter}
    (h : made <+: recordResponse answer) : outcomeCounts made ≤ made.count .entriesTotal := by
  cases answer with
  | error category =>
    have hle : ∀ k, made.count k ≤ (recordResponse (.error category)).count k := fun k =>
      h.sublist.count_le k
    have hnone : ∀ outcome,
        (recordResponse (.error category)).count (.outcome outcome) = 0 := fun _ => rfl
    have hacknowledged := hle (.outcome .acknowledged)
    have hretryable := hle (.outcome .retryableFailure)
    have hpermanent := hle (.outcome .permanentFailure)
    have hmanual := hle (.outcome .manualReview)
    rw [hnone] at hacknowledged hretryable hpermanent hmanual
    unfold outcomeCounts
    omega
  | ok acknowledgement =>
    change made <+: .requestsTotal :: .acknowledgementsTotal :: acknowledgement.entries.flatMap
      (fun entry => recordEntryOutcome entry.outcome) at h
    rcases List.prefix_cons_iff.mp h with rfl | ⟨rest, rfl, hrest⟩
    · simp [outcomeCounts]
    · rcases List.prefix_cons_iff.mp hrest with rfl | ⟨later, rfl, hlater⟩
      · simp [outcomeCounts]
      · simpa [outcomeCounts] using outcomes_le_recordEntries acknowledgement.entries hlater

/-! ## Conservation -/

theorem sum_map_countP {α : Type} (p : α → Bool) (xs : List α) :
    (xs.map fun x => if p x then 1 else 0).sum = xs.countP p := by
  induction xs with
  | nil => rfl
  | cons x xs ih => rw [List.map_cons, List.sum_cons, ih, List.countP_cons, Nat.add_comm]

/-- The counters of the backend under any interleaving of its handlers: no
result is counted before its request and no outcome before its entry, and when
no handler is under way the counters are the numbers of the answers given. -/
theorem telemetry_conserved {handled : List Handled}
    (hhandled : ∀ result ∈ handled, ∃ db headers payload elapsed,
      Api.submitSynchronizationBatch codec sha256 environmentId db headers payload elapsed =
        result)
    {events : List (Counters.Event Counter)}
    (hscripts : Counters.scripts events = handled.map (·.records)) :
    let w := Runs.run Counters.step (World.initial : World Counter) events
    let inner := telemetryAfter events
    (∀ k, inner.load k = UInt64.ofNat (tally w.tasks k)) ∧
    tally w.tasks .acknowledgementsTotal + tally w.tasks .requestFailuresTotal ≤
      tally w.tasks .requestsTotal ∧
    tally w.tasks (.outcome .acknowledged) + tally w.tasks (.outcome .retryableFailure) +
        tally w.tasks (.outcome .permanentFailure) + tally w.tasks (.outcome .manualReview) ≤
      tally w.tasks .entriesTotal ∧
    ∃ answers, List.Forall₂ (fun result answer => Answers codec result.response answer)
      handled answers ∧
      (Quiet w →
        inner.requestsTotal = UInt64.ofNat handled.length ∧
        inner.acknowledgementsTotal = UInt64.ofNat (answers.countP isAcknowledgement) ∧
        inner.requestFailuresTotal = UInt64.ofNat (answers.countP (!isAcknowledgement ·)) ∧
        inner.entriesTotal = UInt64.ofNat (answers.flatMap acknowledgedEntries).length ∧
        (∀ category, inner.load (.failure category) =
          UInt64.ofNat (answers.countP (isFailureOf category))) ∧
        ∀ outcome, inner.load (.outcome outcome) =
          UInt64.ofNat ((answers.flatMap acknowledgedEntries).countP (·.outcome == outcome))) := by
  intro w inner
  have hload : ∀ k, inner.load k = w.count k := load_after events
  -- every script is what some answer records
  have hanswers : ∃ answers, List.Forall₂ (fun (result : Handled) answer =>
      Answers codec result.response answer ∧ result.records = recordResponse answer)
      handled answers := by
    refine Fallible.exists_forall₂ fun result hresult => ?_
    obtain ⟨db, headers, payload, elapsed, heq⟩ := hhandled result hresult
    obtain ⟨answer, hanswer, hrecords, -⟩ := handler_cases db headers payload elapsed heq
    exact ⟨answer, hanswer, hrecords⟩
  obtain ⟨answers, hanswers⟩ := hanswers
  have hrecorded : Counters.scripts events = answers.map recordResponse := by
    rw [hscripts]
    exact (Fallible.map_eq_of_forall₂ hanswers fun h => h.2.symm).symm
  have hscript : ∀ {f g : List Counter → Nat},
      (∀ answer made, made <+: recordResponse answer → f made ≤ g made) →
      (w.tasks.map fun task => f task.made).sum ≤ (w.tasks.map fun task => g task.made).sum := by
    intro f g h
    refine Counters.tally_le fun script hscript made hprefix => ?_
    rw [hrecorded] at hscript
    obtain ⟨answer, -, rfl⟩ := List.mem_map.mp hscript
    exact h answer made hprefix
  refine ⟨fun k => (hload k).trans (count_run events k), ?_, ?_, answers,
    hanswers.imp fun _ _ h => h.1, fun hquiet => ?_⟩
  · have h := hscript fun _ _ => results_le_requests
    rw [List.sum_map_add] at h
    exact h
  · have h := hscript fun _ _ => outcomes_le_entries
    simp only [outcomeCounts, List.sum_map_add] at h
    exact h
  · have hcount : ∀ k, inner.load k =
        UInt64.ofNat (answers.map fun answer => (recordResponse answer).count k).sum := by
      intro k
      rw [hload, count_of_quiet hquiet, hrecorded, List.map_map]
      rfl
    have hsum : ∀ {k f}, (∀ answer, (recordResponse answer).count k = f answer) →
        inner.load k = UInt64.ofNat (answers.map f).sum := by
      intro k f h
      rw [hcount, List.map_congr_left fun answer _ => h answer]
    refine ⟨?_, ?_, ?_, ?_, fun category => ?_, fun outcome => ?_⟩
    · have h := hsum fun answer => (count_recordResponse answer).1
      rw [hanswers.length_eq]
      simpa [Inner.load] using h
    · have h := hsum fun answer => (count_recordResponse answer).2.1
      rw [sum_map_countP] at h
      exact h
    · have h := hsum (f := fun answer => if (!isAcknowledgement answer) then 1 else 0)
        fun answer => by
          rw [(count_recordResponse answer).2.2.1]
          cases isAcknowledgement answer <;> rfl
      rw [sum_map_countP] at h
      exact h
    · have h := hsum fun answer => (count_recordResponse answer).2.2.2.1
      rw [List.length_flatMap]
      exact h
    · have h := hsum fun answer => (count_recordResponse answer).2.2.2.2.1 category
      rw [sum_map_countP] at h
      exact h
    · have h := hsum fun answer => (count_recordResponse answer).2.2.2.2.2 outcome
      rw [List.countP_flatMap]
      exact h

/-- A handler that is given a rejected body. -/
def rejected (status : Nat) : Handled :=
  Api.submitSynchronizationBatch sampleCodec Sha256.digest sampleEnvironmentId ⟨[], [], [], []⟩ []
    (.error status) none

/-- A handler that acknowledges the sample request. -/
def accepted : Handled :=
  Api.submitSynchronizationBatch sampleCodec Sha256.digest sampleEnvironmentId sampleBackend
    [(idempotencyKeyHeader, bytes sampleBatchId.toText), (protocolVersionHeader, bytes "1")]
    (.ok sampleRequest) (some 3)

theorem accepted_records :
    accepted.records =
      [.requestsTotal, .acknowledgementsTotal, .entriesTotal, .outcome .acknowledged] := by
  decide +kernel

/-- Three handlers that overtake one another. -/
def sampleInterleaving : List (Counters.Event Counter) :=
  [.start (rejected 413).records, .advance 0, .start accepted.records,
    .start (rejected 400).records, .advance 2, .advance 1, .advance 1, .advance 2, .advance 0,
    .advance 2, .advance 1, .advance 1, .advance 0]

theorem telemetry_conserved_sample :
    tally (Runs.run Counters.step World.initial sampleInterleaving).tasks .acknowledgementsTotal +
        tally (Runs.run Counters.step World.initial sampleInterleaving).tasks
          .requestFailuresTotal ≤
      tally (Runs.run Counters.step World.initial sampleInterleaving).tasks .requestsTotal ∧
    (telemetryAfter sampleInterleaving).requestsTotal = 3 ∧
    (telemetryAfter sampleInterleaving).acknowledgementsTotal = 1 ∧
    (telemetryAfter sampleInterleaving).load (.outcome .acknowledged) = 1 ∧
    (telemetryAfter sampleInterleaving).load (.failure .payloadTooLarge) = 1 := by
  have hhandled : ∀ result ∈ [rejected 413, accepted, rejected 400],
      ∃ db headers payload elapsed, Api.submitSynchronizationBatch sampleCodec Sha256.digest
        sampleEnvironmentId db headers payload elapsed = result := by
    simp only [List.forall_mem_cons]
    exact ⟨⟨_, _, _, _, rfl⟩, ⟨_, _, _, _, rfl⟩, ⟨_, _, _, _, rfl⟩, List.forall_mem_nil _⟩
  obtain ⟨-, hresults, -, answers, -, hquiet⟩ :=
    telemetry_conserved hhandled (show Counters.scripts sampleInterleaving = _ from rfl)
  have hrest : Quiet (Runs.run Counters.step World.initial sampleInterleaving) := by
    rw [sampleInterleaving, accepted_records]
    decide
  refine ⟨hresults, (hquiet hrest).1, ?_⟩
  rw [sampleInterleaving, accepted_records]
  decide

end TransitGuard.Backend
