import TransitGuard.Reader.Submission
import TransitGuard.Reader.Reachable

/-!
The size of a request on the wire. The protocol bounds the entries of a batch,
the bytes of an envelope and the bytes of a request, each on its own; here the
bytes of the encoded request are counted, which decides whether a batch is sent
or given up as too large.
-/

namespace TransitGuard.Reader

open Protocol Text Json Fallible

variable (codec : Codec)

/-! ## Identifiers -/

theorem textBytes_toText (i : Identifier) : textBytes i.toText = 38 := by
  rw [textBytes_of_plain, i.length_toText]
  exact i.forall_mem_toText (P := (charBytes · = 1)) (by decide) (by decide)

/-! ## Entries and requests -/

/-- The bytes of an entry, with the comma or the bracket behind it. -/
def entryBytes (entry : RequestEntry) : Nat :=
  107 + decimalBytes entry.localSequenceNumber.value +
    textBytes entry.transactionEnvelope.asStr

/-- The bytes of the encoded request. -/
def requestBytes (request : Request) : Nat :=
  274 + decimalBytes request.protocolVersion.value + textBytes request.environmentId.asStr +
    textBytes request.readerSoftwareVersion.asStr +
    decimalBytes request.firstLocalSequenceNumber.value +
    decimalBytes request.lastLocalSequenceNumber.value +
    decimalBytes request.submittedAt.toInt.toNat + (request.entries.map entryBytes).sum

theorem byteLength_requestEntry (entry : RequestEntry) :
    byteLength (entry.toJson.render codec) + 1 = entryBytes entry := by
  have hkeys : textBytes "transaction_id" = 16 ∧ textBytes "local_sequence_number" = 23 ∧
      textBytes "transaction_envelope" = 22 := by decide
  have hmarks : byteLength "\x7b" = 1 ∧ byteLength "\x7d" = 1 ∧ byteLength ":" = 1 ∧
      byteLength "," = 1 ∧ byteLength "" = 0 := by decide
  have hid := textBytes_toText entry.transactionId.toIdentifier
  have hsequence := byteLength_nat codec entry.localSequenceNumber.lt
  simp only [RequestEntry.toJson, Value.render, renderMembers, byteLength_append,
    byteLength_renderString_eq, List.isEmpty_cons, List.isEmpty_nil, Bool.false_eq_true, if_false,
    if_true, hid, hkeys, hmarks, hsequence, entryBytes]
  omega

theorem sum_entryBytes (entries : List RequestEntry) :
    (entries.map entryBytes).sum =
      (entries.map fun entry => byteLength (entry.toJson.render codec)).sum + entries.length := by
  induction entries with
  | nil => rfl
  | cons entry entries ih =>
    have hentry := byteLength_requestEntry codec entry
    simp only [List.map_cons, List.sum_cons, List.length_cons, ih]
    omega

theorem byteLength_int {n : Int64} (h : 0 ≤ n) :
    byteLength ((int n).render codec) = decimalBytes n.toInt.toNat := by
  rw [int, if_pos h]
  change byteLength (toString n.toUInt64.toNat) = _
  rw [Int64.toNat_toUInt64_of_le h, byteLength_toString_eq]
  rfl

theorem byteLength_request (request : Request) :
    byteLength (request.toJson.render codec) = requestBytes request := by
  obtain ⟨hsubmitted, -, -, hhead, -⟩ := RequestDefinition.validate_ok.mp request.valid
  have hkeys : textBytes "protocol_version" = 18 ∧ textBytes "environment_id" = 16 ∧
      textBytes "reader_id" = 11 ∧ textBytes "reader_software_version" = 25 ∧
      textBytes "batch_id" = 10 ∧ textBytes "first_local_sequence_number" = 29 ∧
      textBytes "last_local_sequence_number" = 28 ∧
      textBytes "submitted_at_unix_milliseconds" = 32 ∧ textBytes "entries" = 9 := by decide
  have hmarks : byteLength "\x7b" = 1 ∧ byteLength "\x7d" = 1 ∧ byteLength ":" = 1 ∧
      byteLength "," = 1 ∧ byteLength "" = 0 ∧ byteLength "[" = 1 ∧ byteLength "]" = 1 := by decide
  have hreader := textBytes_toText request.readerId.toIdentifier
  have hbatch := textBytes_toText request.batchId.toIdentifier
  have hversion := byteLength_nat codec (request.protocolVersion.lt.trans (by decide))
  have hfirst := byteLength_nat codec request.firstLocalSequenceNumber.lt
  have hlast := byteLength_nat codec request.lastLocalSequenceNumber.lt
  have hentries : byteLength (renderItems codec (request.entries.map RequestEntry.toJson)) + 1 =
      (request.entries.map entryBytes).sum := by
    have hpos : 0 < request.entries.length := by
      refine List.length_pos_iff.mpr fun hnil => ?_
      rw [hnil] at hhead
      cases hhead
    have hsum := sum_entryBytes codec request.entries
    rw [byteLength_renderItems_eq, List.map_map, List.length_map]
    change (request.entries.map fun entry => byteLength (entry.toJson.render codec)).sum + _ + 1 = _
    omega
  simp only [Request.toJson, Value.render, renderMembers, byteLength_append,
    byteLength_renderString_eq, List.isEmpty_cons, List.isEmpty_nil, Bool.false_eq_true, if_false,
    if_true, hreader, hbatch, hkeys, hmarks, hversion, hfirst, hlast,
    byteLength_int codec hsubmitted,
    requestBytes]
  omega

theorem checkRequestBody_eq (request : Request) :
    checkRequestBody codec request =
      if maxSynchronizationRequestBytes < requestBytes request then
        .error (.requestTooLarge maxSynchronizationRequestBytes (requestBytes request))
      else .ok () := by
  unfold checkRequestBody
  rw [byteLength_request]

/-! ## Bounds -/

theorem decimalBytes_le {n : Nat} (h : n < 2 ^ 64) : decimalBytes n ≤ 20 := by
  rw [decimalBytes, ← String.length_ofList, ← Nat.toString_eq_ofList_toDigits,
    Nat.toString_eq_repr, Nat.length_repr_le_iff (by omega)]
  omega

theorem textBytes_boundedText {maxBytes : Nat} (text : BoundedText maxBytes) :
    textBytes text.asStr ≤ 2 * maxBytes + 2 := by
  have hbytes := textBytes_le_of_printable text.printable
  have hbounded := text.bounded
  omega

/-- The part of a request that does not grow with its entries. -/
theorem requestBytes_le (request : Request) :
    requestBytes request ≤ 870 + (request.entries.map entryBytes).sum := by
  have hsubmitted : request.submittedAt.toInt.toNat < 2 ^ 64 := by
    have hhigh := request.submittedAt.toInt_lt
    omega
  have hversion := decimalBytes_le (request.protocolVersion.lt.trans (by decide : 2 ^ 16 < 2 ^ 64))
  have hfirst := decimalBytes_le request.firstLocalSequenceNumber.lt
  have hlast := decimalBytes_le request.lastLocalSequenceNumber.lt
  have hdate := decimalBytes_le hsubmitted
  have henvironment := textBytes_boundedText request.environmentId
  have hsoftware := textBytes_boundedText request.readerSoftwareVersion
  simp only [maxEnvironmentIdBytes, maxSoftwareVersionBytes] at henvironment hsoftware
  rw [requestBytes]
  omega

/-- Entries whose printed envelopes share a bound. -/
theorem sum_entryBytes_le {bound : Nat} {entries : List RequestEntry}
    (h : ∀ entry ∈ entries, textBytes entry.transactionEnvelope.asStr ≤ bound) :
    (entries.map entryBytes).sum ≤ entries.length * (127 + bound) := by
  induction entries with
  | nil => simp
  | cons entry entries ih =>
    rw [List.forall_mem_cons] at h
    have hrest := ih h.2
    have henvelope := h.1
    have hsequence := decimalBytes_le entry.localSequenceNumber.lt
    rw [List.map_cons, List.sum_cons, List.length_cons, Nat.succ_mul, entryBytes]
    omega

variable {codec}

/-- An envelope that was read is at most doubled by printing it into a request. -/
theorem textBytes_envelope (hfloat : ∀ bits, Printable (codec.formatFloat bits)) {value : String}
    {envelope : CanonicalTransactionEnvelope}
    (h : CanonicalTransactionEnvelope.fromJson codec value = .ok envelope) :
    textBytes envelope.asStr ≤ 131074 := by
  have hbytes := textBytes_le_of_printable (CanonicalTransactionEnvelope.printable hfloat h)
  have hbounded := envelope.bounded
  rw [maxTransactionEnvelopeBytes] at hbounded
  omega

/-- The envelopes of a request that was assembled from the database were read. -/
theorem loaded_envelopes {db : ReaderDatabase} {readerId : ReaderId}
    {batchId : SynchronizationBatchId} {request : Request}
    (h : loadSynchronizationBatchRequest codec db readerId batchId = .ok request) :
    ∀ entry ∈ request.entries, ∃ value,
      CanonicalTransactionEnvelope.fromJson codec value = .ok entry.transactionEnvelope := by
  obtain ⟨batch, -, -, hassembled⟩ := loadSynchronizationBatchRequest_ok.mp h
  obtain ⟨reader, -, -, -, -, hrequest⟩ := assembleRequest_ok.mp hassembled
  obtain ⟨-, hentries⟩ := decodeRequestEntries_ok.mp hrequest.entries
  intro entry hentry
  obtain ⟨row, -, -, -, henvelope⟩ := exists_of_forall₂ hentries hentry
  exact ⟨row.2, henvelope⟩

theorem checkRequestBody_ok {request : Request} :
    checkRequestBody codec request = .ok () ↔
      requestBytes request ≤ maxSynchronizationRequestBytes := by
  rw [checkRequestBody_eq]
  split
  · next hlarge => exact ⟨nofun, fun hfits => absurd hlarge (Nat.not_lt.mpr hfits)⟩
  · next hfits => exact ⟨fun _ => Nat.le_of_not_lt hfits, fun _ => rfl⟩

/-- Seven entries fit, whatever their envelopes are. -/
theorem requestBytes_of_seven (hfloat : ∀ bits, Printable (codec.formatFloat bits))
    {request : Request}
    (henvelopes : ∀ entry ∈ request.entries, ∃ value,
      CanonicalTransactionEnvelope.fromJson codec value = .ok entry.transactionEnvelope)
    (hseven : request.entries.length ≤ 7) :
    requestBytes request ≤ maxSynchronizationRequestBytes := by
  have hbound : ∀ entry ∈ request.entries,
      textBytes entry.transactionEnvelope.asStr ≤ 131074 := by
    intro entry hentry
    obtain ⟨value, hvalue⟩ := henvelopes entry hentry
    exact textBytes_envelope hfloat hvalue
  have hsum := sum_entryBytes_le hbound
  have hentries := Nat.mul_le_mul_right (127 + 131074) hseven
  have hbytes := requestBytes_le request
  rw [maxSynchronizationRequestBytes]
  omega

/-- What becomes of a batch whose request is too long. -/
theorem failureOperation_of_refused {request : Request} {e : HttpClientError}
    (h : checkRequestBody codec request = .error e) (readerId : ReaderId)
    (batchId : SynchronizationBatchId) (completedAt retryAt : UnixMilliseconds) :
    failureOperation readerId batchId e.failureCategory completedAt retryAt =
      .failBatch readerId batchId "payload_too_large" completedAt .permanentFailure := by
  rw [checkRequestBody_eq] at h
  split at h
  · cases h; rfl
  · cases h

/-- The bytes of a request are those counted field by field. It is posted exactly
when they are within the limit, and requests of at most seven entries always
are. The batch of a request that is not posted fails for good. -/
theorem request_posted_iff (hfloat : ∀ bits, Printable (codec.formatFloat bits)) :
    (∀ request : Request,
      (∀ entry ∈ request.entries, ∃ value,
        CanonicalTransactionEnvelope.fromJson codec value = .ok entry.transactionEnvelope) →
      byteLength (request.toJson.render codec) = requestBytes request ∧
      (byteLength (request.toJson.render codec) ≤ maxSynchronizationRequestBytes ↔
        requestBytes request ≤ maxSynchronizationRequestBytes) ∧
      (request.entries.length ≤ 7 →
        byteLength (request.toJson.render codec) ≤ maxSynchronizationRequestBytes)) ∧
    ∀ (db : ReaderDatabase) (readerId : ReaderId) (batchId : SynchronizationBatchId)
      (request : Request),
      loadSynchronizationBatchRequest codec db readerId batchId = .ok request →
      (checkRequestBody codec request = .ok () ↔
        requestBytes request ≤ maxSynchronizationRequestBytes) ∧
      (request.entries.length ≤ 7 → checkRequestBody codec request = .ok ()) ∧
      ∀ e, checkRequestBody codec request = .error e → ∀ completedAt retryAt,
        failureOperation readerId batchId e.failureCategory completedAt retryAt =
          .failBatch readerId batchId "payload_too_large" completedAt .permanentFailure := by
  refine ⟨fun request henvelopes => ?_, fun db readerId batchId request hload => ?_⟩
  · rw [byteLength_request]
    exact ⟨rfl, Iff.rfl, requestBytes_of_seven hfloat henvelopes⟩
  · refine ⟨checkRequestBody_ok, fun hseven => ?_, fun e he completedAt retryAt => ?_⟩
    · exact checkRequestBody_ok.mpr (requestBytes_of_seven hfloat (loaded_envelopes hload) hseven)
    · exact failureOperation_of_refused he readerId batchId completedAt retryAt

/-! ## Eight envelopes of backslashes -/

/-- An object with one text of `n` backslashes, which double each time it is
printed. -/
def backslashes (n : Nat) : Value :=
  .object [("p", .string (String.ofList (List.replicate n '\\')))]

theorem escape_backslashes (n : Nat) :
    escape (List.replicate n '\\') = String.ofList (List.replicate (2 * n) '\\') := by
  induction n with
  | zero => rfl
  | succ n ih =>
    have hstep : escapeChar '\\' = String.ofList (List.replicate 2 '\\') := by decide
    rw [List.replicate_succ, escape, ih, hstep, ← String.ofList_append,
      List.replicate_append_replicate, Nat.mul_succ, Nat.add_comm]

theorem render_backslashes (n : Nat) :
    (backslashes n).render codec =
      "\x7b\"p\":\"" ++ String.ofList (List.replicate (2 * n) '\\') ++ "\"\x7d" := by
  have hkey : renderString "p" = "\"p\"" := by decide
  rw [backslashes, Value.render, renderMembers, renderMembers, Value.render, hkey, renderString,
    String.toList_ofList, escape_backslashes, List.isEmpty_nil, if_pos rfl]
  apply String.toList_inj.mp
  simp

theorem byteLength_backslashes (n : Nat) :
    byteLength ((backslashes n).render codec) = 2 * n + 8 := by
  have hopen : byteLength "\x7b\"p\":\"" = 6 := by decide
  have hclose : byteLength "\"\x7d" = 2 := by decide
  have hsize : ∀ c ∈ List.replicate (2 * n) '\\', c.utf8Size = 1 := by
    intro c hc
    rw [List.eq_of_mem_replicate hc]
    decide
  rw [render_backslashes, byteLength_append, byteLength_append, byteLength_ofList_ascii hsize,
    List.length_replicate, hopen, hclose]
  omega

theorem textBytes_backslashes (n : Nat) :
    textBytes ((backslashes n).render codec) = 4 * n + 14 := by
  have hopen : ("\x7b\"p\":\"".toList.map charBytes).sum = 9 := by decide
  have hclose : ("\"\x7d".toList.map charBytes).sum = 3 := by decide
  have hslash : charBytes '\\' = 2 := by decide
  rw [render_backslashes, textBytes, String.toList_append, String.toList_append, List.map_append,
    List.map_append, List.sum_append, List.sum_append, hopen, hclose, String.toList_ofList,
    List.map_replicate, List.sum_replicate_nat, hslash]
  omega

/-- The codec on the printed form of one object of backslashes. -/
def backslashCodec (n : Nat) : Codec where
  formatFloat _ := "0.0"
  parse text := if text = (backslashes n).render sampleCodec then some (backslashes n) else none

def backslashEnvelope (n : Nat) (h : 2 * n + 8 ≤ maxTransactionEnvelopeBytes) :
    CanonicalTransactionEnvelope where
  asStr := (backslashes n).render sampleCodec
  bounded := by rwa [byteLength_backslashes]

theorem backslashEnvelope_read (n : Nat) (h : 2 * n + 8 ≤ maxTransactionEnvelopeBytes) :
    CanonicalTransactionEnvelope.fromJson (backslashCodec n) (backslashEnvelope n h).asStr =
      .ok (backslashEnvelope n h) := by
  refine CanonicalTransactionEnvelope.fromJson_ok.mpr
    ⟨(backslashEnvelope n h).bounded, backslashes n, if_pos rfl, rfl, ?_⟩
  exact (render_backslashes n).trans (render_backslashes n).symm

/-- Eight entries with the longest envelope of this form. -/
def backslashEntry (position : Fin 8) : RequestEntry where
  transactionId := ⟨⟨0x70008000000000000010#128 + BitVec.ofNat 128 position, by
    revert position; decide⟩⟩
  localSequenceNumber := ⟨position + 1, by omega, by omega⟩
  transactionEnvelope := backslashEnvelope 32764 (by decide)

def backslashRequest : Request where
  protocolVersion := .current
  environmentId := sampleEnvironmentId
  readerId := sampleReaderId
  readerSoftwareVersion := sampleSoftwareVersion
  batchId := sampleBatchId
  firstLocalSequenceNumber := .first
  lastLocalSequenceNumber := ⟨8, by decide, by decide⟩
  submittedAt := 2
  entries := (List.finRange 8).map backslashEntry
  valid := RequestDefinition.validate_ok.mpr (by decide)

theorem backslashRequest_read : ∀ entry ∈ backslashRequest.entries, ∃ value,
    CanonicalTransactionEnvelope.fromJson (backslashCodec 32764) value =
      .ok entry.transactionEnvelope := by
  intro entry hentry
  obtain ⟨position, -, rfl⟩ := List.mem_map.mp hentry
  exact ⟨_, backslashEnvelope_read 32764 (by decide)⟩

theorem le_sum_entryBytes {bound : Nat} {entries : List RequestEntry}
    (h : ∀ entry ∈ entries, bound ≤ entryBytes entry) :
    entries.length * bound ≤ (entries.map entryBytes).sum := by
  induction entries with
  | nil => simp
  | cons entry entries ih =>
    rw [List.forall_mem_cons] at h
    have hrest := ih h.2
    have hentry := h.1
    rw [List.map_cons, List.sum_cons, List.length_cons, Nat.succ_mul]
    omega

theorem requestBytes_backslashes :
    maxSynchronizationRequestBytes < requestBytes backslashRequest := by
  have hentry : ∀ entry ∈ backslashRequest.entries, 131177 ≤ entryBytes entry := by
    intro entry hentry
    obtain ⟨position, -, rfl⟩ := List.mem_map.mp hentry
    rw [entryBytes, backslashEntry, backslashEnvelope, textBytes_backslashes]
    omega
  have hentries := le_sum_entryBytes hentry
  have hlength : backslashRequest.entries.length = 8 := List.length_map backslashEntry
  rw [requestBytes, maxSynchronizationRequestBytes]
  omega

theorem request_posted_iff_backslashes :
    byteLength (backslashRequest.toJson.render (backslashCodec 32764)) =
      requestBytes backslashRequest ∧
    (byteLength (backslashRequest.toJson.render (backslashCodec 32764)) ≤
        maxSynchronizationRequestBytes ↔
      requestBytes backslashRequest ≤ maxSynchronizationRequestBytes) := by
  have hfloat : Printable "0.0" := by decide
  obtain ⟨hbytes, hposted, -⟩ :=
    (request_posted_iff fun _ => hfloat).1 backslashRequest backslashRequest_read
  exact ⟨hbytes, hposted⟩

/-- Eight envelopes of the largest size are accepted one by one and are fewer
than the limit of entries, but their request is too long, and its batch would
fail for good. -/
theorem request_of_backslashes_refused :
    (¬∀ (codec : Codec) (request : Request),
      (∀ entry ∈ request.entries, ∃ value,
        CanonicalTransactionEnvelope.fromJson codec value = .ok entry.transactionEnvelope) →
      byteLength (request.toJson.render codec) ≤ maxSynchronizationRequestBytes) ∧
    ∃ e, checkRequestBody (backslashCodec 32764) backslashRequest = .error e ∧
      ∀ completedAt retryAt,
        failureOperation sampleReaderId sampleBatchId e.failureCategory completedAt retryAt =
          .failBatch sampleReaderId sampleBatchId "payload_too_large" completedAt
            .permanentFailure := by
  constructor
  · intro hclaim
    have hfits := hclaim (backslashCodec 32764) backslashRequest backslashRequest_read
    rw [byteLength_request] at hfits
    exact absurd hfits (Nat.not_le.mpr requestBytes_backslashes)
  · have hrefused := checkRequestBody_eq (backslashCodec 32764) backslashRequest
    rw [if_pos requestBytes_backslashes] at hrefused
    exact ⟨_, hrefused, failureOperation_of_refused hrefused sampleReaderId sampleBatchId⟩

end TransitGuard.Reader
