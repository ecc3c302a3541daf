import TransitGuard.Library.Fallible
import TransitGuard.Domain.Transaction

/-!
Messages of the reader synchronization protocol and their validators. A
request or an acknowledgement is a definition that its validator accepted, so
the two message types carry the result of the validation.
-/

namespace TransitGuard.Protocol

open Json Fallible

/-- `MAX_SYNCHRONIZATION_BATCH_ENTRIES`. -/
def maxSynchronizationBatchEntries : Nat := 256

/-- `MAX_TRANSACTION_ENVELOPE_BYTES`. -/
def maxTransactionEnvelopeBytes : Nat := 64 * 1024

/-- `MAX_SYNCHRONIZATION_REQUEST_BYTES`. -/
def maxSynchronizationRequestBytes : Nat := 1024 * 1024

/-- `MAX_SYNCHRONIZATION_ACKNOWLEDGEMENT_BYTES`. -/
def maxSynchronizationAcknowledgementBytes : Nat := 1024 * 1024

def maxEnvironmentIdBytes : Nat := 128
def maxSoftwareVersionBytes : Nat := 128

/-- `SynchronizationFailureCategory`. -/
inductive FailureCategory
  | networkTimeout
  | connectionFailure
  | responseDecodeFailure
  | payloadTooLarge
  | unsupportedProtocol
  | readerNotRegistered
  | readerNotOperational
  | environmentMismatch
  | batchIdentityConflict
  | batchRangeMismatch
  | entryOrderMismatch
  | transactionIdentityConflict
  | backendTemporarilyUnavailable
  | backendValidationFailure
  | manualReviewRequired
  deriving DecidableEq, Repr

def FailureCategory.asStr : FailureCategory → String
  | .networkTimeout => "network_timeout"
  | .connectionFailure => "connection_failure"
  | .responseDecodeFailure => "response_decode_failure"
  | .payloadTooLarge => "payload_too_large"
  | .unsupportedProtocol => "unsupported_protocol"
  | .readerNotRegistered => "reader_not_registered"
  | .readerNotOperational => "reader_not_operational"
  | .environmentMismatch => "environment_mismatch"
  | .batchIdentityConflict => "batch_identity_conflict"
  | .batchRangeMismatch => "batch_range_mismatch"
  | .entryOrderMismatch => "entry_order_mismatch"
  | .transactionIdentityConflict => "transaction_identity_conflict"
  | .backendTemporarilyUnavailable => "backend_temporarily_unavailable"
  | .backendValidationFailure => "backend_validation_failure"
  | .manualReviewRequired => "manual_review_required"

/-- `SynchronizationEntryOutcome`. -/
inductive EntryOutcome
  | acknowledged
  | retryableFailure
  | permanentFailure
  | manualReview
  deriving DecidableEq, Repr

def EntryOutcome.asStr : EntryOutcome → String
  | .acknowledged => "acknowledged"
  | .retryableFailure => "retryable_failure"
  | .permanentFailure => "permanent_failure"
  | .manualReview => "manual_review"

theorem EntryOutcome.asStr_inj {a b : EntryOutcome} (h : a.asStr = b.asStr) : a = b := by
  cases a <;> cases b <;> first | rfl | exact absurd h (by decide)

/-- `SynchronizationProtocolError`. -/
inductive ProtocolError
  | emptyText (field : String)
  | textTooLong (field : String) (maxBytes actualBytes : Nat)
  | controlCharacter (field : String)
  | invalidTransactionEnvelopeJson
  | transactionEnvelopeNotObject
  | transactionEnvelopeTooLarge (maxBytes actualBytes : Nat)
  | negativeTimestamp (field : String) (unixMilliseconds : UnixMilliseconds)
  | emptyBatch
  | tooManyEntries (maxEntries actualEntries : Nat)
  | invalidSequenceRange (firstSequence lastSequence : Nat)
  | firstSequenceMismatch (declaredSequence actualSequence : Nat)
  | lastSequenceMismatch (declaredSequence actualSequence : Nat)
  | entrySequenceNotIncreasing (previousSequence currentSequence : Nat)
  | duplicateTransaction (transactionId : FareTransactionId)
  | invalidOutcomeMetadata (outcome : EntryOutcome)
  | acknowledgementIdentityMismatch (field : String)
  | acknowledgementEntryCountMismatch (expectedEntries actualEntries : Nat)
  | acknowledgementTransactionMismatch (position : Nat)
  | acknowledgementSequenceMismatch (position expectedSequence actualSequence : Nat)
  deriving DecidableEq

/-! ## Bounded text -/

def validateText (field value : String) (maxBytes : Nat) : Except ProtocolError String :=
  let normalized := Text.trim value
  if normalized = "" then .error (.emptyText field)
  else if maxBytes < Text.byteLength normalized then
    .error (.textTooLong field maxBytes (Text.byteLength normalized))
  else if normalized.toList.any Text.isControl then .error (.controlCharacter field)
  else .ok normalized

/-- A text that `validateText` produced under the bound `maxBytes`. -/
structure BoundedText (maxBytes : Nat) where
  asStr : String
  trimmed : Text.trim asStr = asStr
  nonempty : asStr ≠ ""
  bounded : Text.byteLength asStr ≤ maxBytes
  controlFree : asStr.toList.any Text.isControl = false
  deriving DecidableEq

/-- `ProtocolEnvironmentId`. -/
abbrev EnvironmentId := BoundedText maxEnvironmentIdBytes

/-- `ReaderSoftwareVersion`. -/
abbrev SoftwareVersion := BoundedText maxSoftwareVersionBytes

theorem validateText_ok {field value : String} {maxBytes : Nat} {text : String} :
    validateText field value maxBytes = .ok text ↔
      text = Text.trim value ∧ text ≠ "" ∧ Text.byteLength text ≤ maxBytes ∧
        text.toList.any Text.isControl = false := by
  simp only [validateText]
  constructor
  · intro h
    split at h
    · cases h
    · next hne =>
      split at h
      · cases h
      · next hle =>
        split at h
        · cases h
        · next hctl =>
          cases h
          exact ⟨rfl, hne, Nat.le_of_not_lt hle, Bool.not_eq_true _ ▸ hctl⟩
  · rintro ⟨rfl, hne, hle, hctl⟩
    rw [if_neg hne, if_neg (Nat.not_lt.mpr hle), if_neg (by simp [hctl])]

/-- The constructors `new` of the two bounded text types. -/
def BoundedText.new (field : String) (maxBytes : Nat) (value : String) :
    Except ProtocolError (BoundedText maxBytes) :=
  match h : validateText field value maxBytes with
  | .error e => .error e
  | .ok text =>
    have ht := validateText_ok.mp h
    .ok ⟨text, by rw [ht.1, Text.trim_trim], ht.2.1, ht.2.2.1, ht.2.2.2⟩

theorem BoundedText.new_asStr (field : String) {maxBytes : Nat} (text : BoundedText maxBytes) :
    BoundedText.new field maxBytes text.asStr = .ok text := by
  have hvalid : validateText field text.asStr maxBytes = .ok text.asStr :=
    validateText_ok.mpr ⟨text.trimmed.symm, text.nonempty, text.bounded, text.controlFree⟩
  unfold BoundedText.new
  split
  · next h => rw [hvalid] at h; cases h
  · next h =>
    rw [hvalid] at h
    cases h
    rfl

/-- `ProtocolEnvironmentId::new`. -/
def EnvironmentId.new (value : String) : Except ProtocolError EnvironmentId :=
  BoundedText.new "environment_id" maxEnvironmentIdBytes value

/-- `ReaderSoftwareVersion::new`. -/
def SoftwareVersion.new (value : String) : Except ProtocolError SoftwareVersion :=
  BoundedText.new "reader_software_version" maxSoftwareVersionBytes value

/-! ## Envelopes -/

/-- A transaction envelope in the printed form of its parsed JSON. -/
structure CanonicalTransactionEnvelope where
  asStr : String
  bounded : Text.byteLength asStr ≤ maxTransactionEnvelopeBytes
  deriving DecidableEq

/-- `CanonicalTransactionEnvelope::from_json`. -/
def CanonicalTransactionEnvelope.fromJson (codec : Codec) (value : String) :
    Except ProtocolError CanonicalTransactionEnvelope :=
  if maxTransactionEnvelopeBytes < Text.byteLength value then
    .error (.transactionEnvelopeTooLarge maxTransactionEnvelopeBytes (Text.byteLength value))
  else
    match codec.parse value with
    | none => .error .invalidTransactionEnvelopeJson
    | some parsed =>
      if parsed.isObject then
        let canonical := parsed.render codec
        if h : Text.byteLength canonical ≤ maxTransactionEnvelopeBytes then .ok ⟨canonical, h⟩
        else
          .error (.transactionEnvelopeTooLarge maxTransactionEnvelopeBytes
            (Text.byteLength canonical))
      else .error .transactionEnvelopeNotObject

theorem CanonicalTransactionEnvelope.fromJson_ok {codec : Codec} {value : String}
    {envelope : CanonicalTransactionEnvelope} :
    fromJson codec value = .ok envelope ↔
      Text.byteLength value ≤ maxTransactionEnvelopeBytes ∧
        ∃ parsed, codec.parse value = some parsed ∧ parsed.isObject = true ∧
          envelope.asStr = parsed.render codec := by
  unfold fromJson
  constructor
  · intro h
    split at h
    · cases h
    · next hvalue =>
      split at h
      · cases h
      · next parsed hparsed =>
        dsimp only at h
        split at h
        · next hobject =>
          split at h
          · cases h
            exact ⟨Nat.le_of_not_lt hvalue, parsed, hparsed, hobject, rfl⟩
          · cases h
        · cases h
  · rintro ⟨hvalue, parsed, hparsed, hobject, htext⟩
    obtain ⟨text, hbounded⟩ := envelope
    subst htext
    simp only [hparsed, hobject, hbounded, Nat.not_lt.mpr hvalue, if_true, if_false, dif_pos]

/-- An envelope that its constructor accepted can be read again. -/
theorem CanonicalTransactionEnvelope.parse_asStr {codec : Codec} (hrereads : codec.Rereads)
    {value : String} {envelope : CanonicalTransactionEnvelope}
    (h : fromJson codec value = .ok envelope) :
    ∃ v, codec.parse envelope.asStr = some v ∧ v.isObject = true := by
  obtain ⟨-, parsed, hparsed, hobject, htext⟩ := fromJson_ok.mp h
  rw [htext]
  exact hrereads value parsed hparsed hobject

/-! ## Validators shared by requests and acknowledgements -/

def validateTimestamp (field : String) (unixMilliseconds : UnixMilliseconds) :
    Except ProtocolError Unit :=
  if unixMilliseconds < 0 then .error (.negativeTimestamp field unixMilliseconds) else .ok ()

def validateEntryCount (entryCount : Nat) : Except ProtocolError Unit :=
  if entryCount = 0 then .error .emptyBatch
  else if maxSynchronizationBatchEntries < entryCount then
    .error (.tooManyEntries maxSynchronizationBatchEntries entryCount)
  else .ok ()

def validateRange (first last : LocalSequenceNumber) : Except ProtocolError Unit :=
  if last.value < first.value then .error (.invalidSequenceRange first.value last.value)
  else .ok ()

def validateBoundarySequences
    (declaredFirst declaredLast actualFirst actualLast : LocalSequenceNumber) :
    Except ProtocolError Unit :=
  if declaredFirst ≠ actualFirst then
    .error (.firstSequenceMismatch declaredFirst.value actualFirst.value)
  else if declaredLast ≠ actualLast then
    .error (.lastSequenceMismatch declaredLast.value actualLast.value)
  else .ok ()

/-- The loop over a growing set of transaction identifiers. -/
def validateDistinctTransactions (seen : List FareTransactionId) :
    List FareTransactionId → Except ProtocolError Unit
  | [] => .ok ()
  | id :: rest =>
    if id ∈ seen then .error (.duplicateTransaction id)
    else validateDistinctTransactions (id :: seen) rest

def validateIncreasingSequences (previous : Option LocalSequenceNumber) :
    List LocalSequenceNumber → Except ProtocolError Unit
  | [] => .ok ()
  | current :: rest =>
    match previous with
    | none => validateIncreasingSequences (some current) rest
    | some value =>
      if current.value ≤ value.value then
        .error (.entrySequenceNotIncreasing value.value current.value)
      else validateIncreasingSequences (some current) rest

/-- The body shared by `validate_request_entries` and
`validate_acknowledgement_entries`, over the identities of the entries. -/
def validateEntries (first last : LocalSequenceNumber)
    (entries : List (FareTransactionId × LocalSequenceNumber)) : Except ProtocolError Unit := do
  validateEntryCount entries.length
  validateRange first last
  match entries.head?, entries.getLast? with
  | some firstEntry, some lastEntry =>
    validateBoundarySequences first last firstEntry.2 lastEntry.2
  | _, _ => .error .emptyBatch
  validateDistinctTransactions [] (entries.map Prod.fst)
  validateIncreasingSequences none (entries.map Prod.snd)

theorem validateDistinctTransactions_ok {seen ids : List FareTransactionId} {value : Unit} :
    validateDistinctTransactions seen ids = .ok value ↔ ids.Nodup ∧ ∀ id ∈ ids, id ∉ seen := by
  induction ids generalizing seen with
  | nil => simp [validateDistinctTransactions]
  | cons id ids ih =>
    rw [validateDistinctTransactions, ite_error_eq_ok, ih, List.nodup_cons, List.forall_mem_cons]
    simp only [List.mem_cons, not_or]
    constructor
    · rintro ⟨hid, hnodup, hrest⟩
      exact ⟨⟨fun hmem => (hrest id hmem).1 rfl, hnodup⟩, hid, fun other hother =>
        (hrest other hother).2⟩
    · rintro ⟨⟨hnotin, hnodup⟩, hid, hrest⟩
      refine ⟨hid, hnodup, fun other hother => ⟨?_, hrest other hother⟩⟩
      rintro rfl
      exact hnotin hother

theorem validateIncreasingSequences_ok {previous : Option LocalSequenceNumber}
    {sequences : List LocalSequenceNumber} :
    validateIncreasingSequences previous sequences = .ok () ↔
      ((previous.toList ++ sequences).map (·.value)).Pairwise (· < ·) := by
  rw [← List.isChain_iff_pairwise]
  induction sequences generalizing previous with
  | nil => cases previous <;> simp [validateIncreasingSequences]
  | cons current rest ih =>
    cases previous with
    | none =>
      rw [validateIncreasingSequences, ih]
      rfl
    | some value =>
      rw [validateIncreasingSequences, ite_error_eq_ok, ih]
      simp only [Option.toList_some, List.cons_append, List.nil_append, List.map_cons,
        List.isChain_cons_cons, Nat.not_le]

theorem validateEntries_ok {first last : LocalSequenceNumber}
    {entries : List (FareTransactionId × LocalSequenceNumber)} :
    validateEntries first last entries = .ok () ↔
      entries.length ≤ maxSynchronizationBatchEntries ∧ first.value ≤ last.value ∧
      entries.head?.map Prod.snd = some first ∧ entries.getLast?.map Prod.snd = some last ∧
      (entries.map Prod.fst).Nodup ∧ (entries.map (·.2.value)).Pairwise (· < ·) := by
  cases hhead : entries.head? with
  | none =>
    rw [List.head?_eq_none_iff] at hhead
    subst hhead
    exact ⟨nofun, fun h => nomatch h.2.2.1⟩
  | some firstEntry =>
    obtain ⟨lastEntry, hlast⟩ : ∃ lastEntry, entries.getLast? = some lastEntry := by
      cases entries with
      | nil => cases hhead
      | cons entry rest => exact ⟨_, List.getLast?_cons⟩
    have hne : entries.length ≠ 0 := by
      rintro hlength
      rw [List.eq_nil_of_length_eq_zero hlength] at hhead
      cases hhead
    have hmap : (entries.map Prod.snd).map (·.value) = entries.map (·.2.value) := List.map_map
    simp only [validateEntries, hhead, hlast, bind_eq_ok, validateEntryCount, validateRange,
      validateBoundarySequences, ite_error_eq_ok, validateDistinctTransactions_ok,
      validateIncreasingSequences_ok, Option.toList_none, List.nil_append, hmap, hne,
      Option.map_some, Option.some.injEq, List.not_mem_nil, not_false_eq_true, implies_true,
      exists_const, true_and, and_true, Nat.not_lt, ne_eq, not_not, and_assoc]
    constructor
    · rintro ⟨hcount, hrange, hfirst, hlast', hnodup, hincreasing⟩
      exact ⟨hcount, hrange, hfirst.symm, hlast'.symm, hnodup, hincreasing⟩
    · rintro ⟨hcount, hrange, hfirst, hlast', hnodup, hincreasing⟩
      exact ⟨hcount, hrange, hfirst.symm, hlast'.symm, hnodup, hincreasing⟩

/-! ## Requests -/

structure RequestEntry where
  transactionId : FareTransactionId
  localSequenceNumber : LocalSequenceNumber
  transactionEnvelope : CanonicalTransactionEnvelope
  deriving DecidableEq

def RequestEntry.identity (e : RequestEntry) : FareTransactionId × LocalSequenceNumber :=
  (e.transactionId, e.localSequenceNumber)

/-- `SynchronizationBatchRequestDefinition`. -/
structure RequestDefinition where
  protocolVersion : DeviceProtocolVersion
  environmentId : EnvironmentId
  readerId : ReaderId
  readerSoftwareVersion : SoftwareVersion
  batchId : SynchronizationBatchId
  firstLocalSequenceNumber : LocalSequenceNumber
  lastLocalSequenceNumber : LocalSequenceNumber
  submittedAt : UnixMilliseconds
  entries : List RequestEntry
  deriving DecidableEq

/-- `validate_request_entries`. -/
def validateRequestEntries (first last : LocalSequenceNumber) (entries : List RequestEntry) :
    Except ProtocolError Unit :=
  validateEntries first last (entries.map RequestEntry.identity)

def RequestDefinition.validate (d : RequestDefinition) : Except ProtocolError Unit := do
  validateTimestamp "submitted_at_unix_milliseconds" d.submittedAt
  validateRequestEntries d.firstLocalSequenceNumber d.lastLocalSequenceNumber d.entries

theorem RequestDefinition.validate_ok {d : RequestDefinition} :
    d.validate = .ok () ↔
      0 ≤ d.submittedAt ∧ d.entries.length ≤ maxSynchronizationBatchEntries ∧
      d.firstLocalSequenceNumber.value ≤ d.lastLocalSequenceNumber.value ∧
      d.entries.head?.map (·.localSequenceNumber) = some d.firstLocalSequenceNumber ∧
      d.entries.getLast?.map (·.localSequenceNumber) = some d.lastLocalSequenceNumber ∧
      (d.entries.map (·.transactionId)).Nodup ∧
      (d.entries.map (·.localSequenceNumber.value)).Pairwise (· < ·) := by
  have hsubmitted : ¬d.submittedAt < 0 ↔ 0 ≤ d.submittedAt := Int64.not_lt
  simp only [validate, validateTimestamp, validateRequestEntries, bind_eq_ok, ite_error_eq_ok,
    validateEntries_ok, hsubmitted, List.length_map, List.head?_map, List.getLast?_map,
    Option.map_map, List.map_map, and_true, exists_const]
  rfl

/-- `SynchronizationBatchRequest`: a definition that passed its validator. -/
structure Request extends RequestDefinition where
  valid : toRequestDefinition.validate = .ok ()
  deriving DecidableEq

/-- `SynchronizationBatchRequest::new`. -/
def Request.new (d : RequestDefinition) : Except ProtocolError Request :=
  match h : d.validate with
  | .error e => .error e
  | .ok () => .ok ⟨d, h⟩

theorem Request.new_ok {d : RequestDefinition} {r : Request} :
    Request.new d = .ok r ↔ r.toRequestDefinition = d := by
  unfold Request.new
  constructor
  · intro h
    split at h
    · cases h
    · cases h; rfl
  · rintro rfl
    split
    · next e he => rw [r.valid] at he; cases he
    · rfl

/-! ## Acknowledgements -/

def validateOutcomeMetadata (outcome : EntryOutcome) (failureCategory : Option FailureCategory)
    (nextRetryAt : Option UnixMilliseconds) : Except ProtocolError Unit := do
  match nextRetryAt with
  | some retryAt => validateTimestamp "next_retry_at_unix_milliseconds" retryAt
  | none => .ok ()
  let valid := match outcome with
    | .acknowledged => failureCategory.isNone && nextRetryAt.isNone
    | .retryableFailure => failureCategory.isSome && nextRetryAt.isSome
    | .permanentFailure | .manualReview => failureCategory.isSome && nextRetryAt.isNone
  if valid then .ok () else .error (.invalidOutcomeMetadata outcome)

/-- One result of an acknowledgement, with metadata that fits its outcome. -/
structure AcknowledgementEntry where
  transactionId : FareTransactionId
  localSequenceNumber : LocalSequenceNumber
  outcome : EntryOutcome
  failureCategory : Option FailureCategory
  nextRetryAt : Option UnixMilliseconds
  valid : validateOutcomeMetadata outcome failureCategory nextRetryAt = .ok ()
  deriving DecidableEq

/-- The metadata of a valid entry fits its outcome. -/
theorem AcknowledgementEntry.metadata (entry : AcknowledgementEntry) :
    (entry.outcome = .acknowledged ∧ entry.failureCategory = none ∧ entry.nextRetryAt = none) ∨
      (∃ category retryAt, entry.outcome = .retryableFailure ∧
        entry.failureCategory = some category ∧ entry.nextRetryAt = some retryAt ∧
        0 ≤ retryAt) ∨
      ∃ category, (entry.outcome = .permanentFailure ∨ entry.outcome = .manualReview) ∧
        entry.failureCategory = some category ∧ entry.nextRetryAt = none := by
  have hvalid := entry.valid
  cases hretry : entry.nextRetryAt with
  | none =>
    cases houtcome : entry.outcome <;> cases hcategory : entry.failureCategory <;>
      simp_all [validateOutcomeMetadata, bind_eq_ok]
  | some retryAt =>
    simp only [validateOutcomeMetadata, hretry, bind_eq_ok, validateTimestamp,
      ite_error_eq_ok] at hvalid
    obtain ⟨-, ⟨hnonneg, -⟩, hvalid⟩ := hvalid
    cases houtcome : entry.outcome <;> cases hcategory : entry.failureCategory <;>
      simp_all

def AcknowledgementEntry.identity (e : AcknowledgementEntry) :
    FareTransactionId × LocalSequenceNumber :=
  (e.transactionId, e.localSequenceNumber)

/-- `SynchronizationAcknowledgementEntry::new`. -/
def AcknowledgementEntry.new (transactionId : FareTransactionId)
    (localSequenceNumber : LocalSequenceNumber) (outcome : EntryOutcome)
    (failureCategory : Option FailureCategory) (nextRetryAt : Option UnixMilliseconds) :
    Except ProtocolError AcknowledgementEntry :=
  match h : validateOutcomeMetadata outcome failureCategory nextRetryAt with
  | .error e => .error e
  | .ok () => .ok ⟨transactionId, localSequenceNumber, outcome, failureCategory, nextRetryAt, h⟩

/-- `SynchronizationBatchAcknowledgementDefinition`. -/
structure AcknowledgementDefinition where
  protocolVersion : DeviceProtocolVersion
  environmentId : EnvironmentId
  readerId : ReaderId
  batchId : SynchronizationBatchId
  firstLocalSequenceNumber : LocalSequenceNumber
  lastLocalSequenceNumber : LocalSequenceNumber
  receivedAt : UnixMilliseconds
  replayed : Bool
  entries : List AcknowledgementEntry
  deriving DecidableEq

/-- `validate_acknowledgement_entries`. -/
def validateAcknowledgementEntries (first last : LocalSequenceNumber)
    (entries : List AcknowledgementEntry) : Except ProtocolError Unit :=
  validateEntries first last (entries.map AcknowledgementEntry.identity)

def AcknowledgementDefinition.validate (d : AcknowledgementDefinition) :
    Except ProtocolError Unit := do
  validateTimestamp "received_at_unix_milliseconds" d.receivedAt
  validateAcknowledgementEntries d.firstLocalSequenceNumber d.lastLocalSequenceNumber d.entries

/-- `SynchronizationBatchAcknowledgement`. -/
structure Acknowledgement extends AcknowledgementDefinition where
  valid : toAcknowledgementDefinition.validate = .ok ()
  deriving DecidableEq

/-- `SynchronizationBatchAcknowledgement::new`. -/
def Acknowledgement.new (d : AcknowledgementDefinition) : Except ProtocolError Acknowledgement :=
  match h : d.validate with
  | .error e => .error e
  | .ok () => .ok ⟨d, h⟩

/-- `with_replayed`; the validator does not read the flag. -/
def Acknowledgement.withReplayed (a : Acknowledgement) (replayed : Bool) : Acknowledgement where
  toAcknowledgementDefinition := { a.toAcknowledgementDefinition with replayed }
  valid := a.valid

theorem Acknowledgement.new_ok {d : AcknowledgementDefinition} {a : Acknowledgement} :
    Acknowledgement.new d = .ok a ↔ a.toAcknowledgementDefinition = d := by
  unfold Acknowledgement.new
  constructor
  · intro h
    split at h
    · cases h
    · cases h; rfl
  · rintro rfl
    split
    · next e he => rw [a.valid] at he; cases he
    · rfl

theorem Acknowledgement.length_entries_le (a : Acknowledgement) :
    a.entries.length ≤ maxSynchronizationBatchEntries := by
  have hvalid := a.valid
  simp only [AcknowledgementDefinition.validate, validateAcknowledgementEntries,
    bind_eq_ok] at hvalid
  obtain ⟨-, -, hentries⟩ := hvalid
  simpa using (validateEntries_ok.mp hentries).1

/-- The loop of `validate_against_request` over the zipped entries. -/
def validateSubmittedEntries (position : Nat) :
    List AcknowledgementEntry → List RequestEntry → Except ProtocolError Unit
  | acknowledgement :: acknowledgements, submitted :: rest =>
    if acknowledgement.transactionId ≠ submitted.transactionId then
      .error (.acknowledgementTransactionMismatch position)
    else if acknowledgement.localSequenceNumber ≠ submitted.localSequenceNumber then
      .error (.acknowledgementSequenceMismatch position submitted.localSequenceNumber.value
        acknowledgement.localSequenceNumber.value)
    else validateSubmittedEntries (position + 1) acknowledgements rest
  | _, _ => .ok ()

/-- `SynchronizationBatchAcknowledgement::validate_against_request`. -/
def Acknowledgement.validateAgainstRequest (a : Acknowledgement) (r : Request) :
    Except ProtocolError Unit :=
  if a.protocolVersion ≠ r.protocolVersion then
    .error (.acknowledgementIdentityMismatch "protocol_version")
  else if a.environmentId ≠ r.environmentId then
    .error (.acknowledgementIdentityMismatch "environment_id")
  else if a.readerId ≠ r.readerId then .error (.acknowledgementIdentityMismatch "reader_id")
  else if a.batchId ≠ r.batchId then .error (.acknowledgementIdentityMismatch "batch_id")
  else if a.firstLocalSequenceNumber ≠ r.firstLocalSequenceNumber then
    .error (.acknowledgementIdentityMismatch "first_local_sequence_number")
  else if a.lastLocalSequenceNumber ≠ r.lastLocalSequenceNumber then
    .error (.acknowledgementIdentityMismatch "last_local_sequence_number")
  else if a.entries.length ≠ r.entries.length then
    .error (.acknowledgementEntryCountMismatch r.entries.length a.entries.length)
  else validateSubmittedEntries 0 a.entries r.entries

theorem validateSubmittedEntries_ok {position : Nat} {resolved : List AcknowledgementEntry}
    {submitted : List RequestEntry} (hlength : resolved.length = submitted.length) :
    validateSubmittedEntries position resolved submitted = .ok () ↔
      resolved.map AcknowledgementEntry.identity = submitted.map RequestEntry.identity := by
  induction resolved generalizing position submitted with
  | nil =>
    rw [List.length_nil, eq_comm, List.length_eq_zero_iff] at hlength
    subst hlength
    exact ⟨fun _ => rfl, fun _ => rfl⟩
  | cons entry resolved ih =>
    cases submitted with
    | nil => simp at hlength
    | cons head submitted =>
      have hrest : resolved.length = submitted.length := by simpa using hlength
      simp only [validateSubmittedEntries, ite_error_eq_ok, ih hrest, List.map_cons,
        List.cons.injEq, AcknowledgementEntry.identity, RequestEntry.identity, Prod.mk.injEq,
        ne_eq, not_not, and_assoc]

/-- An acknowledgement fits a request when it repeats its identity and the
identities of its entries. -/
theorem Acknowledgement.validateAgainstRequest_ok {a : Acknowledgement} {r : Request} :
    a.validateAgainstRequest r = .ok () ↔
      a.protocolVersion = r.protocolVersion ∧ a.environmentId = r.environmentId ∧
        a.readerId = r.readerId ∧ a.batchId = r.batchId ∧
        a.firstLocalSequenceNumber = r.firstLocalSequenceNumber ∧
        a.lastLocalSequenceNumber = r.lastLocalSequenceNumber ∧
        a.entries.map AcknowledgementEntry.identity = r.entries.map RequestEntry.identity := by
  simp only [Acknowledgement.validateAgainstRequest, ite_error_eq_ok, ne_eq, not_not]
  refine and_congr_right fun _ => and_congr_right fun _ => and_congr_right fun _ =>
    and_congr_right fun _ => and_congr_right fun _ => and_congr_right fun _ => ?_
  constructor
  · rintro ⟨hlength, hentries⟩
    exact (validateSubmittedEntries_ok hlength).mp hentries
  · intro hentries
    have hlength : a.entries.length = r.entries.length := by
      simpa using congrArg List.length hentries
    exact ⟨hlength, (validateSubmittedEntries_ok hlength).mpr hentries⟩

/-! ## JSON bodies -/

def RequestEntry.toJson (e : RequestEntry) : Value :=
  .object [("transaction_id", .string e.transactionId.toText),
    ("local_sequence_number", nat e.localSequenceNumber.value),
    ("transaction_envelope", .string e.transactionEnvelope.asStr)]

def Request.toJson (r : Request) : Value :=
  .object [("protocol_version", nat r.protocolVersion.value),
    ("environment_id", .string r.environmentId.asStr),
    ("reader_id", .string r.readerId.toText),
    ("reader_software_version", .string r.readerSoftwareVersion.asStr),
    ("batch_id", .string r.batchId.toText),
    ("first_local_sequence_number", nat r.firstLocalSequenceNumber.value),
    ("last_local_sequence_number", nat r.lastLocalSequenceNumber.value),
    ("submitted_at_unix_milliseconds", int r.submittedAt),
    ("entries", .array (r.entries.map RequestEntry.toJson))]

def AcknowledgementEntry.toJson (e : AcknowledgementEntry) : Value :=
  .object [("transaction_id", .string e.transactionId.toText),
    ("local_sequence_number", nat e.localSequenceNumber.value),
    ("outcome", .string e.outcome.asStr),
    ("failure_category", option (fun c => .string c.asStr) e.failureCategory),
    ("next_retry_at_unix_milliseconds", option int e.nextRetryAt)]

def Acknowledgement.toJson (a : Acknowledgement) : Value :=
  .object [("protocol_version", nat a.protocolVersion.value),
    ("environment_id", .string a.environmentId.asStr),
    ("reader_id", .string a.readerId.toText),
    ("batch_id", .string a.batchId.toText),
    ("first_local_sequence_number", nat a.firstLocalSequenceNumber.value),
    ("last_local_sequence_number", nat a.lastLocalSequenceNumber.value),
    ("received_at_unix_milliseconds", int a.receivedAt),
    ("replayed", .bool a.replayed),
    ("entries", .array (a.entries.map AcknowledgementEntry.toJson))]

/-! ## The texts of the bodies -/

theorem printable_toText (i : Identifier) : Printable i.toText :=
  i.forall_mem_toText (by decide) (by decide)

theorem byteLength_toText (i : Identifier) : Text.byteLength i.toText ≤ 144 := by
  have h := Text.byteLength_le_four_mul i.toText
  rw [i.length_toText] at h
  exact h

theorem BoundedText.printable {maxBytes : Nat} (text : BoundedText maxBytes) :
    Printable text.asStr := by
  intro c hc
  have hfree := List.any_eq_false.mp text.controlFree c hc
  simp only [Text.isControl, Bool.or_eq_true, decide_eq_true_eq, not_or] at hfree
  omega

/-- A text that is trimmed for Rust is not blank for SQL. -/
theorem BoundedText.sqlTrim_ne_empty {maxBytes : Nat} (text : BoundedText maxBytes) :
    0 < (Text.sqlTrim text.asStr).length := by
  obtain ⟨c, hhead, hvisible⟩ := Text.head_of_trim text.trimmed text.nonempty
  have hspace : c ≠ ' ' := by
    rintro rfl
    cases hvisible
  have hkept : (Text.sqlTrim text.asStr).toList.head? = some c :=
    Text.trimBy_head hhead (beq_eq_false_iff_ne.mpr hspace)
  obtain ⟨cs, hcs⟩ := List.head?_eq_some_iff.mp hkept
  rw [← String.length_toList, hcs]
  exact Nat.succ_pos _

theorem CanonicalTransactionEnvelope.printable {codec : Codec}
    (hfloat : ∀ bits, Printable (codec.formatFloat bits)) {value : String}
    {envelope : CanonicalTransactionEnvelope} (h : fromJson codec value = .ok envelope) :
    Printable envelope.asStr := by
  obtain ⟨-, parsed, -, -, htext⟩ := fromJson_ok.mp h
  rw [htext]
  exact parsed.printable_render hfloat

theorem Request.storableAsJsonb_toJson {request : Request}
    (h : ∀ entry ∈ request.entries, Printable entry.transactionEnvelope.asStr) :
    request.toJson.storableAsJsonb = true := by
  have hkeys : ∀ key ∈ ["protocol_version", "environment_id", "reader_id",
      "reader_software_version", "batch_id", "first_local_sequence_number",
      "last_local_sequence_number", "submitted_at_unix_milliseconds", "entries", "transaction_id",
      "local_sequence_number", "transaction_envelope"], key.toList.contains '\x00' = false := by
    decide
  simp only [List.forall_mem_cons] at hkeys
  have hnat : ∀ n : Nat, (nat n).storableAsJsonb = true := fun _ => rfl
  have hentries : itemsStorable (request.entries.map RequestEntry.toJson) = true := by
    refine itemsStorable_map fun entry hentry => ?_
    simp only [RequestEntry.toJson, Value.storableAsJsonb.eq_3, membersStorable, hkeys, hnat,
      storable_string (printable_toText _), storable_string (h entry hentry),
      Bool.not_false, Bool.and_self]
  simp only [Request.toJson, Value.storableAsJsonb.eq_2, Value.storableAsJsonb.eq_3,
    membersStorable, hkeys, hnat, storable_int,
    storable_string (printable_toText _), storable_string (BoundedText.printable _), hentries,
    Bool.not_false, Bool.and_self]

theorem Acknowledgement.storableAsJsonb_toJson (acknowledgement : Acknowledgement) :
    acknowledgement.toJson.storableAsJsonb = true := by
  have hkeys : ∀ key ∈ ["protocol_version", "environment_id", "reader_id", "batch_id",
      "first_local_sequence_number", "last_local_sequence_number", "received_at_unix_milliseconds",
      "replayed", "entries", "transaction_id", "local_sequence_number", "outcome",
      "failure_category", "next_retry_at_unix_milliseconds"],
      key.toList.contains '\x00' = false := by decide
  simp only [List.forall_mem_cons] at hkeys
  have hnat : ∀ n : Nat, (nat n).storableAsJsonb = true := fun _ => rfl
  have houtcome : ∀ outcome : EntryOutcome,
      (Value.string outcome.asStr).storableAsJsonb = true := by
    intro outcome
    cases outcome <;> decide
  have hcategory : ∀ category : FailureCategory,
      (Value.string category.asStr).storableAsJsonb = true := by
    intro category
    cases category <;> decide
  have hentries :
      itemsStorable (acknowledgement.entries.map AcknowledgementEntry.toJson) = true := by
    refine itemsStorable_map fun entry hentry => ?_
    simp only [AcknowledgementEntry.toJson, Value.storableAsJsonb.eq_3, membersStorable, hkeys,
      hnat, storable_string (printable_toText _), houtcome,
      storable_option hcategory, storable_option storable_int, Bool.not_false, Bool.and_self]
  have hreplayed : (Value.bool acknowledgement.replayed).storableAsJsonb = true := rfl
  simp only [Acknowledgement.toJson, Value.storableAsJsonb.eq_2, Value.storableAsJsonb.eq_3,
    membersStorable, hkeys, hnat, storable_int, hreplayed,
    storable_string (printable_toText _), storable_string (BoundedText.printable _), hentries,
    Bool.not_false, Bool.and_self]

end TransitGuard.Protocol

/-! ## Values for the examples -/

namespace TransitGuard

def sampleReaderId : ReaderId := ⟨⟨0x70008000000000000001#128, by decide⟩⟩
def sampleTransactionId : FareTransactionId := ⟨⟨0x70008000000000000002#128, by decide⟩⟩
def sampleBatchId : SynchronizationBatchId := ⟨⟨0x70008000000000000003#128, by decide⟩⟩

/-- The codec on the texts of the examples, which hold no floats. -/
def sampleCodec : Json.Codec where
  formatFloat _ := "0.0"
  parse text :=
    if text = "\x7b\x7d" then some (.object []) else if text = "null" then some .null else none

theorem sampleCodec_parse : sampleCodec.parse "\x7b\x7d" = some (.object []) := by
  simp [sampleCodec]

theorem sampleCodec_render : (Json.Value.object []).render sampleCodec = "\x7b\x7d" := by decide

/-- The only object the codec reads is the empty one. -/
theorem sampleCodec_object {text : String} {v : Json.Value}
    (hparsed : sampleCodec.parse text = some v) (hobject : v.isObject = true) :
    v = .object [] := by
  simp only [sampleCodec] at hparsed
  split_ifs at hparsed
  · cases hparsed
    rfl
  · cases hparsed
    cases hobject

theorem sampleCodec_reprints : sampleCodec.Reprints := by
  intro text v hparsed hobject
  obtain rfl := sampleCodec_object hparsed hobject
  exact ⟨.object [], by rw [sampleCodec_render, sampleCodec_parse], rfl, rfl⟩

theorem sampleCodec_printable (bits : UInt64) :
    Json.Printable (sampleCodec.formatFloat bits) := by
  change Json.Printable "0.0"
  decide

def sampleEnvironmentId : Protocol.EnvironmentId where
  asStr := "development"
  trimmed := by decide
  nonempty := by decide
  bounded := by decide
  controlFree := by decide

def sampleSoftwareVersion : Protocol.SoftwareVersion :=
  ⟨"0.1.0", by decide, by decide, by decide, by decide⟩

def sampleEnvelope : Protocol.CanonicalTransactionEnvelope := ⟨"\x7b\x7d", by decide⟩

theorem sampleEnvelope_fromJson :
    Protocol.CanonicalTransactionEnvelope.fromJson sampleCodec "\x7b\x7d" = .ok sampleEnvelope :=
  Protocol.CanonicalTransactionEnvelope.fromJson_ok.mpr
    ⟨by decide, .object [], sampleCodec_parse, rfl, sampleCodec_render.symm⟩

/-- One entry with an empty envelope. -/
def sampleRequest : Protocol.Request where
  protocolVersion := .current
  environmentId := sampleEnvironmentId
  readerId := sampleReaderId
  readerSoftwareVersion := sampleSoftwareVersion
  batchId := sampleBatchId
  firstLocalSequenceNumber := .first
  lastLocalSequenceNumber := .first
  submittedAt := 2
  entries := [⟨sampleTransactionId, .first, sampleEnvelope⟩]
  valid := by decide

end TransitGuard
