import TransitGuard.Protocol.Decoding
import TransitGuard.Protocol.Fingerprint

/-!
Requests and acknowledgements on the wire. The reader of a text is a part of
`serde_json` and stays a parameter; it gives the document of a text with the
members of every object as they stand there.
-/

namespace TransitGuard.Protocol

open Json

/-- `IDEMPOTENCY_KEY_HEADER`. -/
def idempotencyKeyHeader : String := "Idempotency-Key"

/-- `PROTOCOL_VERSION_HEADER`. -/
def protocolVersionHeader : String := "X-TransitGuard-Protocol-Version"

variable (codec : Codec) (read : String → Option Value)

/-- `serde_json::to_string` on a request. -/
def Request.serialize (request : Request) : String := request.toJson.render codec

/-- `serde_json::from_str::<SynchronizationBatchRequest>`. -/
def Request.deserialize (text : String) : Option Request :=
  (read text).bind (Request.fromJson codec)

/-- `serde_json::to_string` on an acknowledgement. -/
def Acknowledgement.serialize (acknowledgement : Acknowledgement) : String :=
  acknowledgement.toJson.render codec

/-- `serde_json::from_str::<SynchronizationBatchAcknowledgement>`. -/
def Acknowledgement.deserialize (text : String) : Option Acknowledgement :=
  (read text).bind Acknowledgement.fromJson

/-- The envelopes of the request came from their constructor; the other parts
carry what their constructors check. -/
def Request.Constructed (request : Request) : Prop :=
  ∀ entry ∈ request.entries, ∃ value,
    CanonicalTransactionEnvelope.fromJson codec value = .ok entry.transactionEnvelope

/-- The same, of texts that stay as they are once they are printed. -/
def Request.Reprintable (request : Request) : Prop :=
  ∀ entry ∈ request.entries, ∃ value, codec.ReprintsAt value ∧
    CanonicalTransactionEnvelope.fromJson codec value = .ok entry.transactionEnvelope

variable {codec read}

theorem Request.Reprintable.constructed {request : Request} (h : request.Reprintable codec) :
    request.Constructed codec := by
  intro entry hentry
  obtain ⟨value, -, hvalue⟩ := h entry hentry
  exact ⟨value, hvalue⟩

theorem Request.Constructed.reprintable {request : Request} (h : request.Constructed codec)
    (hreprints : codec.Reprints) : request.Reprintable codec := by
  intro entry hentry
  obtain ⟨value, hvalue⟩ := h entry hentry
  exact ⟨value, hreprints value, hvalue⟩

/-! ## What was sent is received -/

/-- An envelope that was normalized once stays as it is. -/
theorem decodeEnvelope_asStr {value : String} (hreprints : codec.ReprintsAt value)
    {envelope : CanonicalTransactionEnvelope}
    (h : CanonicalTransactionEnvelope.fromJson codec value = .ok envelope) :
    decodeEnvelope codec (.string envelope.asStr) = some envelope := by
  obtain ⟨-, parsed, hparsed, hobject, htext⟩ := CanonicalTransactionEnvelope.fromJson_ok.mp h
  obtain ⟨again, hagain, hobject', hprinted⟩ := hreprints parsed hparsed hobject
  have hsame : CanonicalTransactionEnvelope.fromJson codec envelope.asStr = .ok envelope := by
    refine CanonicalTransactionEnvelope.fromJson_ok.mpr ⟨envelope.bounded, again, ?_, hobject', ?_⟩
    · rw [htext, hagain]
    · rw [htext, hprinted]
  rw [decodeEnvelope, Value.text, Option.bind_some, hsame]
  rfl

theorem RequestEntry.fromJson_toJson {entry : RequestEntry} {value : String}
    (hreprints : codec.ReprintsAt value)
    (h : CanonicalTransactionEnvelope.fromJson codec value = .ok entry.transactionEnvelope) :
    fromJson codec entry.toJson = some entry := by
  have hfields : entry.toJson.fields
      ["transaction_id", "local_sequence_number", "transaction_envelope"] =
      some [some (.string entry.transactionId.toText), some (nat entry.localSequenceNumber.value),
        some (.string entry.transactionEnvelope.asStr)] := by
    rw [RequestEntry.toJson]
    exact fields_object rfl (by decide)
  rw [fromJson, hfields]
  simp [decodeIdentifier_toText, decodeSequenceNumber_value, decodeEnvelope_asStr hreprints h]

theorem Request.fromJson_toJson {request : Request} (h : request.Reprintable codec) :
    fromJson codec request.toJson = some request := by
  have hfields : request.toJson.fields ["protocol_version", "environment_id", "reader_id",
      "reader_software_version", "batch_id", "first_local_sequence_number",
      "last_local_sequence_number", "submitted_at_unix_milliseconds", "entries"] =
      some [some (nat request.protocolVersion.value), some (.string request.environmentId.asStr),
        some (.string request.readerId.toText),
        some (.string request.readerSoftwareVersion.asStr),
        some (.string request.batchId.toText),
        some (nat request.firstLocalSequenceNumber.value),
        some (nat request.lastLocalSequenceNumber.value), some (int request.submittedAt),
        some (.array (request.entries.map RequestEntry.toJson))] := by
    rw [Request.toJson]
    exact fields_object rfl (by decide)
  have hitems : (request.entries.map RequestEntry.toJson).mapM (RequestEntry.fromJson codec) =
      some request.entries := by
    refine mapM_map_some fun entry hentry => ?_
    obtain ⟨value, hreprints, hvalue⟩ := h entry hentry
    exact RequestEntry.fromJson_toJson hreprints hvalue
  have hnew : (Request.new request.toRequestDefinition).toOption = some request := by
    rw [Request.new_ok.mpr rfl]
    rfl
  rw [fromJson, hfields]
  simpa [decodeIdentifier_toText, decodeVersion_value, decodeEnvironmentId_asStr,
    decodeSoftwareVersion_asStr, decodeSequenceNumber_value, Value.elements, hitems] using hnew

/-! ## What is received was constructed -/

theorem RequestEntry.envelope_of_fromJson {v : Value} {entry : RequestEntry}
    (h : fromJson codec v = some entry) : ∃ value,
      CanonicalTransactionEnvelope.fromJson codec value = .ok entry.transactionEnvelope := by
  unfold fromJson at h
  split at h
  · simp only [bind, Option.bind_eq_some_iff] at h
    obtain ⟨_, -, _, -, envelope, ⟨w, -, henvelope⟩, h⟩ := h
    cases h
    obtain ⟨value, -, hvalue⟩ := Option.bind_eq_some_iff.mp henvelope
    refine ⟨value, ?_⟩
    cases hread : CanonicalTransactionEnvelope.fromJson codec value with
    | error e =>
      rw [hread] at hvalue
      cases hvalue
    | ok read =>
      rw [hread] at hvalue
      cases hvalue
      rfl
  · cases h

theorem Request.constructed_of_deserialize {text : String} {request : Request}
    (h : Request.deserialize codec read text = some request) : request.Constructed codec := by
  obtain ⟨v, -, h⟩ := Option.bind_eq_some_iff.mp h
  unfold fromJson at h
  split at h
  · simp only [bind, Option.bind_eq_some_iff] at h
    obtain ⟨_, -, _, -, _, -, _, -, _, -, _, -, _, -, _, -, entries, ⟨w, -, hentries⟩, h⟩ := h
    have hdefinition : request.entries = entries := by
      unfold Request.new at h
      split at h
      · cases h
      · cases h
        rfl
    intro entry hentry
    rw [hdefinition] at hentry
    obtain ⟨v, hv⟩ := exists_of_elements hentries entry hentry
    exact RequestEntry.envelope_of_fromJson hv
  · cases h

/-- Requests and acknowledgements survive the wire, and nothing else comes
through it than what the constructors accept. -/
theorem wire_roundTrip (hreprints : codec.Reprints) :
    (∀ request : Request, request.Constructed codec →
      read (request.serialize codec) = some request.toJson →
      Request.deserialize codec read (request.serialize codec) = some request) ∧
    (∀ acknowledgement : Acknowledgement,
      read (acknowledgement.serialize codec) = some acknowledgement.toJson →
      Acknowledgement.deserialize read (acknowledgement.serialize codec) =
        some acknowledgement) ∧
    (∀ text request, Request.deserialize codec read text = some request →
      request.Constructed codec ∧
      EnvironmentId.new request.environmentId.asStr = .ok request.environmentId ∧
      SoftwareVersion.new request.readerSoftwareVersion.asStr =
        .ok request.readerSoftwareVersion ∧
      Request.new request.toRequestDefinition = .ok request) ∧
    ∀ text acknowledgement, Acknowledgement.deserialize read text = some acknowledgement →
      EnvironmentId.new acknowledgement.environmentId.asStr =
        .ok acknowledgement.environmentId ∧
      (∀ entry ∈ acknowledgement.entries,
        AcknowledgementEntry.new entry.transactionId entry.localSequenceNumber entry.outcome
          entry.failureCategory entry.nextRetryAt = .ok entry) ∧
      Acknowledgement.new acknowledgement.toAcknowledgementDefinition = .ok acknowledgement := by
  refine ⟨fun request hconstructed hread => ?_, fun acknowledgement hread => ?_,
    fun text request h => ?_, fun text acknowledgement _ => ?_⟩
  · rw [Request.deserialize, hread, Option.bind_some,
      Request.fromJson_toJson (hconstructed.reprintable hreprints)]
  · rw [Acknowledgement.deserialize, hread, Option.bind_some, acknowledgement.fromJson_toJson]
  · exact ⟨Request.constructed_of_deserialize h, BoundedText.new_asStr _ _,
      BoundedText.new_asStr _ _, Request.new_ok.mpr rfl⟩
  · exact ⟨BoundedText.new_asStr _ _, fun entry _ => entry.new_self,
      Acknowledgement.new_ok.mpr rfl⟩

/-- The reader on the text of the sample request. -/
def sampleRead (text : String) : Option Value :=
  if text = sampleRequest.serialize sampleCodec then some sampleRequest.toJson else none

theorem sampleRequest_constructed : sampleRequest.Constructed sampleCodec := by
  intro entry hentry
  rw [List.mem_singleton.mp hentry]
  exact ⟨"\x7b\x7d", sampleEnvelope_fromJson⟩

theorem wire_roundTrip_sample :
    Request.deserialize sampleCodec sampleRead (sampleRequest.serialize sampleCodec) =
      some sampleRequest :=
  (wire_roundTrip sampleCodec_reprints).1 sampleRequest sampleRequest_constructed (if_pos rfl)

end TransitGuard.Protocol
