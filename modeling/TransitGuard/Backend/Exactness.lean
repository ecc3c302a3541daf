import TransitGuard.Backend.Service
import TransitGuard.Library.Sha256
import TransitGuard.Protocol.Wire

/-!
What the validators of the protocol accept, stated apart from their loops: a
batch is well formed, and the metadata of a result fits its outcome. A request
that was accepted can always be answered.
-/

namespace TransitGuard.Protocol

open Fallible

/-- The identities of a batch fit its declared range, its time and each other. -/
structure WellFormed (stampedAt : UnixMilliseconds) (first last : LocalSequenceNumber)
    (entries : List (FareTransactionId × LocalSequenceNumber)) : Prop where
  nonempty : 1 ≤ entries.length
  bounded : entries.length ≤ 256
  stamped : 0 ≤ stampedAt
  range : first.value ≤ last.value
  starts : (entries.map Prod.snd).head? = some first
  ends : (entries.map Prod.snd).getLast? = some last
  distinct : (entries.map Prod.fst).Pairwise (· ≠ ·)
  increasing : (entries.map (·.2.value)).Pairwise (· < ·)

/-- The metadata each outcome asks for. -/
inductive OutcomeMetadata :
    EntryOutcome → Option FailureCategory → Option UnixMilliseconds → Prop
  | acknowledged : OutcomeMetadata .acknowledged none none
  | retryable (category : FailureCategory) {retryAt : UnixMilliseconds} (h : 0 ≤ retryAt) :
    OutcomeMetadata .retryableFailure (some category) (some retryAt)
  | permanent (category : FailureCategory) :
    OutcomeMetadata .permanentFailure (some category) none
  | review (category : FailureCategory) : OutcomeMetadata .manualReview (some category) none

theorem validateTimestamp_ok {field : String} {unixMilliseconds : UnixMilliseconds}
    {value : Unit} :
    validateTimestamp field unixMilliseconds = .ok value ↔ 0 ≤ unixMilliseconds := by
  rw [validateTimestamp, ite_error_eq_ok]
  simp only [and_true, Int64.not_lt]

/-- The validator of a batch, with its timestamp, decides the well formed ones. -/
theorem validateEntries_iff_wellFormed {field : String} {stampedAt : UnixMilliseconds}
    {first last : LocalSequenceNumber} {entries : List (FareTransactionId × LocalSequenceNumber)} :
    (do validateTimestamp field stampedAt; validateEntries first last entries) = .ok () ↔
      WellFormed stampedAt first last entries := by
  simp only [bind_eq_ok, validateTimestamp_ok, validateEntries_ok, exists_const]
  constructor
  · rintro ⟨hstamped, hbounded, hrange, hfirst, hlast, hdistinct, hincreasing⟩
    have hnonempty : 1 ≤ entries.length := by
      cases entries with
      | nil => cases hfirst
      | cons entry rest => exact Nat.succ_pos rest.length
    exact ⟨hnonempty, hbounded, hstamped, hrange, by rwa [List.head?_map],
      by rwa [List.getLast?_map], hdistinct, hincreasing⟩
  · intro h
    refine ⟨h.stamped, h.bounded, h.range, ?_, ?_, h.distinct, h.increasing⟩
    · rw [← List.head?_map]
      exact h.starts
    · rw [← List.getLast?_map]
      exact h.ends

theorem validateOutcomeMetadata_ok {outcome : EntryOutcome}
    {failureCategory : Option FailureCategory} {nextRetryAt : Option UnixMilliseconds} :
    validateOutcomeMetadata outcome failureCategory nextRetryAt = .ok () ↔
      OutcomeMetadata outcome failureCategory nextRetryAt := by
  constructor
  · intro h
    cases nextRetryAt with
    | none =>
      cases outcome <;> cases failureCategory <;> first | constructor | cases h
    | some retryAt =>
      obtain ⟨_, hretry, h⟩ := bind_eq_ok.mp h
      have hnonneg := validateTimestamp_ok.mp hretry
      cases outcome <;> cases failureCategory <;> first | exact .retryable _ hnonneg | cases h
  · intro h
    cases h with
    | retryable category hretry =>
      exact bind_eq_ok.mpr ⟨(), validateTimestamp_ok.mpr hretry, rfl⟩
    | acknowledged | permanent | review => rfl

/-! ## The constructors -/

theorem Request.new_iff {d : RequestDefinition} :
    (∃ request, Request.new d = .ok request ∧ request.toRequestDefinition = d) ↔
      WellFormed d.submittedAt d.firstLocalSequenceNumber d.lastLocalSequenceNumber
        (d.entries.map RequestEntry.identity) := by
  have hvalidate : d.validate = .ok () ↔ WellFormed d.submittedAt d.firstLocalSequenceNumber
      d.lastLocalSequenceNumber (d.entries.map RequestEntry.identity) :=
    validateEntries_iff_wellFormed
  rw [← hvalidate]
  constructor
  · rintro ⟨request, -, rfl⟩
    exact request.valid
  · intro hvalid
    exact ⟨⟨d, hvalid⟩, Request.new_ok.mpr rfl, rfl⟩

theorem AcknowledgementEntry.new_iff {transactionId : FareTransactionId}
    {localSequenceNumber : LocalSequenceNumber} {outcome : EntryOutcome}
    {failureCategory : Option FailureCategory} {nextRetryAt : Option UnixMilliseconds} :
    (∃ entry, AcknowledgementEntry.new transactionId localSequenceNumber outcome failureCategory
        nextRetryAt = .ok entry) ↔ OutcomeMetadata outcome failureCategory nextRetryAt := by
  rw [← validateOutcomeMetadata_ok]
  unfold AcknowledgementEntry.new
  constructor
  · rintro ⟨entry, h⟩
    split at h
    · cases h
    · assumption
  · intro hvalid
    split
    · next he => rw [hvalid] at he; cases he
    · exact ⟨_, rfl⟩

theorem Acknowledgement.new_iff {d : AcknowledgementDefinition} :
    (∃ acknowledgement, Acknowledgement.new d = .ok acknowledgement ∧
        acknowledgement.toAcknowledgementDefinition = d) ↔
      WellFormed d.receivedAt d.firstLocalSequenceNumber d.lastLocalSequenceNumber
          (d.entries.map AcknowledgementEntry.identity) ∧
        ∀ entry ∈ d.entries,
          OutcomeMetadata entry.outcome entry.failureCategory entry.nextRetryAt := by
  have hvalidate : d.validate = .ok () ↔ WellFormed d.receivedAt d.firstLocalSequenceNumber
      d.lastLocalSequenceNumber (d.entries.map AcknowledgementEntry.identity) :=
    validateEntries_iff_wellFormed
  rw [← hvalidate]
  constructor
  · rintro ⟨acknowledgement, -, rfl⟩
    exact ⟨acknowledgement.valid, fun entry _ => validateOutcomeMetadata_ok.mp entry.valid⟩
  · rintro ⟨hvalid, -⟩
    exact ⟨⟨d, hvalid⟩, Acknowledgement.new_ok.mpr rfl, rfl⟩

/-- The envelopes of a constructed request can be read again. -/
theorem Request.Constructed.parses {codec : Json.Codec} (hrereads : codec.Rereads)
    {request : Request} (h : request.Constructed codec) {entry : RequestEntry}
    (hentry : entry ∈ request.entries) :
    (codec.parse entry.transactionEnvelope.asStr).isSome = true := by
  obtain ⟨value, hvalue⟩ := h entry hentry
  obtain ⟨v, hparsed, -⟩ := CanonicalTransactionEnvelope.parse_asStr hrereads hvalue
  rw [hparsed]
  rfl

end TransitGuard.Protocol

namespace TransitGuard.Backend

open Protocol

variable {codec : Json.Codec} {sha256 : Sha256}

/-- The validators accept exactly what is well formed, and the backend answers
and prepares every request they accepted. -/
theorem validators_exact (hrereads : codec.Rereads) :
    (∀ d : RequestDefinition,
      (∃ request, Request.new d = .ok request ∧ request.toRequestDefinition = d) ↔
        WellFormed d.submittedAt d.firstLocalSequenceNumber d.lastLocalSequenceNumber
          (d.entries.map RequestEntry.identity)) ∧
    (∀ transactionId localSequenceNumber outcome failureCategory nextRetryAt,
      (∃ entry, AcknowledgementEntry.new transactionId localSequenceNumber outcome
          failureCategory nextRetryAt = .ok entry) ↔
        OutcomeMetadata outcome failureCategory nextRetryAt) ∧
    (∀ d : AcknowledgementDefinition,
      (∃ acknowledgement, Acknowledgement.new d = .ok acknowledgement ∧
          acknowledgement.toAcknowledgementDefinition = d) ↔
        WellFormed d.receivedAt d.firstLocalSequenceNumber d.lastLocalSequenceNumber
            (d.entries.map AcknowledgementEntry.identity) ∧
          ∀ entry ∈ d.entries,
            OutcomeMetadata entry.outcome entry.failureCategory entry.nextRetryAt) ∧
    (∀ (acknowledgement : Acknowledgement) (request : Request),
      acknowledgement.validateAgainstRequest request = .ok () ↔
        acknowledgement.protocolVersion = request.protocolVersion ∧
        acknowledgement.environmentId = request.environmentId ∧
        acknowledgement.readerId = request.readerId ∧
        acknowledgement.batchId = request.batchId ∧
        acknowledgement.firstLocalSequenceNumber = request.firstLocalSequenceNumber ∧
        acknowledgement.lastLocalSequenceNumber = request.lastLocalSequenceNumber ∧
        acknowledgement.entries.map AcknowledgementEntry.identity =
          request.entries.map RequestEntry.identity) ∧
    ∀ request : Request, request.Constructed codec → ∀ receivedAt : UnixMilliseconds,
      0 ≤ receivedAt → ∃ acknowledgement ingest,
        buildAcknowledgement request receivedAt = .ok acknowledgement ∧
        acknowledgement.validateAgainstRequest request = .ok () ∧
        prepare codec sha256 request acknowledgement = .ok ingest := by
  refine ⟨fun _ => Request.new_iff, fun _ _ _ _ _ => AcknowledgementEntry.new_iff,
    fun _ => Acknowledgement.new_iff, fun _ _ => Acknowledgement.validateAgainstRequest_ok,
    fun request hconstructed receivedAt hreceived => ?_⟩
  obtain ⟨acknowledgement, hbuilt⟩ := exists_buildAcknowledgement request hreceived
  have hfits := buildAcknowledgement_fits hbuilt
  obtain ⟨ingest, hprepared⟩ : ∃ ingest,
      prepare codec sha256 request acknowledgement = .ok ingest :=
    exists_prepare hfits fun _ hentry => hconstructed.parses hrereads hentry
  exact ⟨acknowledgement, ingest, hbuilt, hfits, hprepared⟩

theorem validators_exact_sample : ∃ acknowledgement ingest,
    buildAcknowledgement sampleRequest 5 = .ok acknowledgement ∧
    acknowledgement.validateAgainstRequest sampleRequest = .ok () ∧
    prepare sampleCodec Sha256.digest sampleRequest acknowledgement = .ok ingest :=
  (validators_exact sampleCodec_reprints.rereads).2.2.2.2 sampleRequest sampleRequest_constructed 5
    (by decide)

end TransitGuard.Backend
