import TransitGuard.Domain.Decoding
import TransitGuard.Protocol.Synchronization

/-!
Decoding of requests and acknowledgements. The fields are read as their types,
every text and envelope is normalized and checked again, and the whole is
validated as if it were new. A stored acknowledgement goes through the same
decoder, from the JSON value the database returns.
-/

namespace TransitGuard.Protocol

open Json Fallible

/-- The variants of an outcome, read by their names. -/
def EntryOutcome.fromStr (text : String) : Option EntryOutcome :=
  [.acknowledged, .retryableFailure, .permanentFailure, .manualReview].find? fun outcome =>
    outcome.asStr == text

/-- The variants of a category, read by their names. -/
def FailureCategory.fromStr (text : String) : Option FailureCategory :=
  [.networkTimeout, .connectionFailure, .responseDecodeFailure, .payloadTooLarge,
    .unsupportedProtocol, .readerNotRegistered, .readerNotOperational, .environmentMismatch,
    .batchIdentityConflict, .batchRangeMismatch, .entryOrderMismatch,
    .transactionIdentityConflict, .backendTemporarilyUnavailable, .backendValidationFailure,
    .manualReviewRequired].find? fun category => category.asStr == text

def decodeSequenceNumber (v : Value) : Option LocalSequenceNumber :=
  (v.unsigned (2 ^ 64)).bind LocalSequenceNumber.new

def decodeVersion (v : Value) : Option DeviceProtocolVersion :=
  (v.unsigned (2 ^ 16)).bind DeviceProtocolVersion.new

def decodeEnvironmentId (v : Value) : Option EnvironmentId :=
  v.text.bind fun text => (EnvironmentId.new text).toOption

def decodeSoftwareVersion (v : Value) : Option SoftwareVersion :=
  v.text.bind fun text => (SoftwareVersion.new text).toOption

def decodeOutcome (v : Value) : Option EntryOutcome := v.variant.bind EntryOutcome.fromStr

def decodeCategory (v : Value) : Option FailureCategory := v.variant.bind FailureCategory.fromStr

/-! ## Requests -/

def decodeEnvelope (codec : Codec) (v : Value) : Option CanonicalTransactionEnvelope :=
  v.text.bind fun text => (CanonicalTransactionEnvelope.fromJson codec text).toOption

/-- `Deserialize for SynchronizationRequestEntry`. -/
def RequestEntry.fromJson (codec : Codec) (v : Value) : Option RequestEntry :=
  match v.fields ["transaction_id", "local_sequence_number", "transaction_envelope"] with
  | some [transactionId, localSequenceNumber, transactionEnvelope] => do
    let transactionId ← transactionId.bind decodeIdentifier
    let localSequenceNumber ← localSequenceNumber.bind decodeSequenceNumber
    let transactionEnvelope ← transactionEnvelope.bind (decodeEnvelope codec)
    some ⟨⟨transactionId⟩, localSequenceNumber, transactionEnvelope⟩
  | _ => none

/-- `Deserialize for SynchronizationBatchRequest`. -/
def Request.fromJson (codec : Codec) (v : Value) : Option Request :=
  match v.fields ["protocol_version", "environment_id", "reader_id", "reader_software_version",
    "batch_id", "first_local_sequence_number", "last_local_sequence_number",
    "submitted_at_unix_milliseconds", "entries"] with
  | some [protocolVersion, environmentId, readerId, readerSoftwareVersion, batchId, first, last,
      submittedAt, entries] => do
    let protocolVersion ← protocolVersion.bind decodeVersion
    let environmentId ← environmentId.bind decodeEnvironmentId
    let readerId ← readerId.bind decodeIdentifier
    let readerSoftwareVersion ← readerSoftwareVersion.bind decodeSoftwareVersion
    let batchId ← batchId.bind decodeIdentifier
    let first ← first.bind decodeSequenceNumber
    let last ← last.bind decodeSequenceNumber
    let submittedAt ← submittedAt.bind Value.signed
    let entries ← entries.bind (Value.elements (RequestEntry.fromJson codec))
    (Request.new
      { protocolVersion
        environmentId
        readerId := ⟨readerId⟩
        readerSoftwareVersion
        batchId := ⟨batchId⟩
        firstLocalSequenceNumber := first
        lastLocalSequenceNumber := last
        submittedAt
        entries }).toOption
  | _ => none

/-! ## Acknowledgements -/

/-- `Deserialize for SynchronizationAcknowledgementEntry`. -/
def AcknowledgementEntry.fromJson (v : Value) : Option AcknowledgementEntry :=
  match v.fields ["transaction_id", "local_sequence_number", "outcome", "failure_category",
    "next_retry_at_unix_milliseconds"] with
  | some [transactionId, localSequenceNumber, outcome, failureCategory, nextRetryAt] => do
    let transactionId ← transactionId.bind decodeIdentifier
    let localSequenceNumber ← localSequenceNumber.bind decodeSequenceNumber
    let outcome ← outcome.bind decodeOutcome
    let failureCategory ← optionalField decodeCategory failureCategory
    let nextRetryAt ← optionalField Value.signed nextRetryAt
    (AcknowledgementEntry.new ⟨transactionId⟩ localSequenceNumber outcome failureCategory
      nextRetryAt).toOption
  | _ => none

/-- `Deserialize for SynchronizationBatchAcknowledgement`. -/
def Acknowledgement.fromJson (v : Value) : Option Acknowledgement :=
  match v.fields ["protocol_version", "environment_id", "reader_id", "batch_id",
    "first_local_sequence_number", "last_local_sequence_number", "received_at_unix_milliseconds",
    "replayed", "entries"] with
  | some [protocolVersion, environmentId, readerId, batchId, first, last, receivedAt, replayed,
      entries] => do
    let protocolVersion ← protocolVersion.bind decodeVersion
    let environmentId ← environmentId.bind decodeEnvironmentId
    let readerId ← readerId.bind decodeIdentifier
    let batchId ← batchId.bind decodeIdentifier
    let first ← first.bind decodeSequenceNumber
    let last ← last.bind decodeSequenceNumber
    let receivedAt ← receivedAt.bind Value.signed
    let replayed ← replayed.bind Value.boolean
    let entries ← entries.bind (Value.elements AcknowledgementEntry.fromJson)
    (Acknowledgement.new
      { protocolVersion
        environmentId
        readerId := ⟨readerId⟩
        batchId := ⟨batchId⟩
        firstLocalSequenceNumber := first
        lastLocalSequenceNumber := last
        receivedAt
        replayed
        entries }).toOption
  | _ => none

/-! ## What is written is read back -/

theorem EntryOutcome.fromStr_asStr (outcome : EntryOutcome) :
    fromStr outcome.asStr = some outcome := by
  cases outcome <;> decide

theorem FailureCategory.fromStr_asStr (category : FailureCategory) :
    fromStr category.asStr = some category := by
  cases category <;> decide

theorem decodeSequenceNumber_value (sequence : LocalSequenceNumber) :
    decodeSequenceNumber (nat sequence.value) = some sequence := by
  rw [decodeSequenceNumber, unsigned_nat sequence.lt sequence.lt, Option.bind_some,
    LocalSequenceNumber.new_eq_some]

theorem decodeVersion_value (version : DeviceProtocolVersion) :
    decodeVersion (nat version.value) = some version := by
  rw [decodeVersion, unsigned_nat (version.lt.trans (by decide)) version.lt, Option.bind_some,
    DeviceProtocolVersion.new_eq_some]

/-- A text that was normalized once stays as it is. -/
theorem decodeEnvironmentId_asStr (environmentId : EnvironmentId) :
    decodeEnvironmentId (.string environmentId.asStr) = some environmentId := by
  have hnew : EnvironmentId.new environmentId.asStr = .ok environmentId :=
    BoundedText.new_asStr "environment_id" environmentId
  rw [decodeEnvironmentId, Value.text, Option.bind_some, hnew]
  rfl

theorem decodeSoftwareVersion_asStr (version : SoftwareVersion) :
    decodeSoftwareVersion (.string version.asStr) = some version := by
  have hnew : SoftwareVersion.new version.asStr = .ok version :=
    BoundedText.new_asStr "reader_software_version" version
  rw [decodeSoftwareVersion, Value.text, Option.bind_some, hnew]
  rfl

theorem decodeOutcome_asStr (outcome : EntryOutcome) :
    decodeOutcome (.string outcome.asStr) = some outcome := by
  rw [decodeOutcome, Value.variant, Option.bind_some, EntryOutcome.fromStr_asStr]

theorem decodeCategory_asStr (category : FailureCategory) :
    decodeCategory (.string category.asStr) = some category := by
  rw [decodeCategory, Value.variant, Option.bind_some, FailureCategory.fromStr_asStr]

theorem AcknowledgementEntry.new_self (entry : AcknowledgementEntry) :
    AcknowledgementEntry.new entry.transactionId entry.localSequenceNumber entry.outcome
      entry.failureCategory entry.nextRetryAt = .ok entry := by
  unfold AcknowledgementEntry.new
  split
  · next h => rw [entry.valid] at h; cases h
  · rfl

section Entry

variable (entry : AcknowledgementEntry)

/-- An entry is read from the fields it was written to, wherever they come
from. -/
theorem AcknowledgementEntry.fromJson_of_fields {v : Value}
    (h : v.fields ["transaction_id", "local_sequence_number", "outcome", "failure_category",
      "next_retry_at_unix_milliseconds"] =
      some [some (.string entry.transactionId.toText), some (nat entry.localSequenceNumber.value),
        some (.string entry.outcome.asStr),
        some (option (fun c => .string c.asStr) entry.failureCategory),
        some (option int entry.nextRetryAt)]) : fromJson v = some entry := by
  have hcategory : optionalField decodeCategory
      (some (option (fun c => .string c.asStr) entry.failureCategory)) =
        some entry.failureCategory :=
    optionalField_option decodeCategory_asStr (fun _ => nofun) _
  have hretry : optionalField Value.signed (some (option int entry.nextRetryAt)) =
      some entry.nextRetryAt :=
    optionalField_option signed_int int_ne_null _
  have hnew : (AcknowledgementEntry.new entry.transactionId entry.localSequenceNumber
      entry.outcome entry.failureCategory entry.nextRetryAt).toOption = some entry := by
    rw [entry.new_self]
    rfl
  rw [fromJson, h]
  simpa [decodeIdentifier_toText, decodeSequenceNumber_value, decodeOutcome_asStr, hcategory,
    hretry] using hnew

theorem AcknowledgementEntry.fromJson_toJson : fromJson entry.toJson = some entry := by
  apply entry.fromJson_of_fields
  rw [AcknowledgementEntry.toJson]
  exact fields_object rfl (by decide)

theorem AcknowledgementEntry.fromJson_normalize :
    fromJson entry.toJson.normalize = some entry := by
  apply entry.fromJson_of_fields
  rw [AcknowledgementEntry.toJson, fields_normalize]
  · simp only [List.map_cons, List.map_nil, normalize_string, normalize_nat,
      normalize_option (fun c => normalize_string (FailureCategory.asStr c)),
      normalize_option normalize_int]
  · rfl
  · decide

end Entry

section Acknowledgement

variable (acknowledgement : Acknowledgement)

theorem Acknowledgement.fromJson_of_fields {v : Value} {items : List Value}
    (h : v.fields ["protocol_version", "environment_id", "reader_id", "batch_id",
      "first_local_sequence_number", "last_local_sequence_number",
      "received_at_unix_milliseconds", "replayed", "entries"] =
      some [some (nat acknowledgement.protocolVersion.value),
        some (.string acknowledgement.environmentId.asStr),
        some (.string acknowledgement.readerId.toText),
        some (.string acknowledgement.batchId.toText),
        some (nat acknowledgement.firstLocalSequenceNumber.value),
        some (nat acknowledgement.lastLocalSequenceNumber.value),
        some (int acknowledgement.receivedAt), some (.bool acknowledgement.replayed),
        some (.array items)])
    (hitems : items.mapM AcknowledgementEntry.fromJson = some acknowledgement.entries) :
    fromJson v = some acknowledgement := by
  have hnew : (Acknowledgement.new acknowledgement.toAcknowledgementDefinition).toOption =
      some acknowledgement := by
    rw [Acknowledgement.new_ok.mpr rfl]
    rfl
  rw [fromJson, h]
  simpa [decodeIdentifier_toText, decodeVersion_value, decodeEnvironmentId_asStr,
    decodeSequenceNumber_value, Value.boolean, Value.elements, hitems] using hnew

theorem Acknowledgement.fromJson_toJson :
    fromJson acknowledgement.toJson = some acknowledgement := by
  have hitems : (acknowledgement.entries.map AcknowledgementEntry.toJson).mapM
      AcknowledgementEntry.fromJson = some acknowledgement.entries :=
    mapM_map_some fun entry _ => entry.fromJson_toJson
  refine acknowledgement.fromJson_of_fields ?_ hitems
  rw [Acknowledgement.toJson]
  exact fields_object rfl (by decide)

/-- A stored acknowledgement is decoded to itself. -/
theorem Acknowledgement.fromJson_normalize :
    fromJson acknowledgement.toJson.normalize = some acknowledgement := by
  have hitems : (normalizeItems (acknowledgement.entries.map AcknowledgementEntry.toJson)).mapM
      AcknowledgementEntry.fromJson = some acknowledgement.entries := by
    rw [normalizeItems_eq, List.map_map]
    exact mapM_map_some fun entry _ => entry.fromJson_normalize
  refine acknowledgement.fromJson_of_fields ?_ hitems
  rw [Acknowledgement.toJson, fields_normalize]
  · simp only [List.map_cons, List.map_nil, normalize_string, normalize_nat, normalize_int,
      normalize_bool, Value.normalize.eq_1]
  · rfl
  · decide

end Acknowledgement

end TransitGuard.Protocol
