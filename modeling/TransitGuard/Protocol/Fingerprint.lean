import TransitGuard.Library.Framing
import TransitGuard.Protocol.Synchronization

/-!
Fingerprints of requests, envelopes and acknowledgements. Each is the SHA-256
digest of a byte string that spells out the fields one after another, every
variable part behind its length. The digest function is the one of the `sha2`
crate and stays a parameter.
-/

namespace TransitGuard.Protocol

open Framing

/-- The bytes of a SHA-256 digest. -/
abbrev Digest := Vector UInt8 32

/-- `Sha256` over the bytes of all updates. -/
abbrev Sha256 := List UInt8 → Digest

/-! ## Updates of the hasher -/

/-- `to_be_bytes` of an unsigned integer of `width` bytes. -/
def bigEndian (width value : Nat) : List UInt8 :=
  (List.range width).reverse.map fun i => UInt8.ofNat (value / 256 ^ i)

def updateU16 (value : Nat) : List UInt8 := bigEndian 2 value

def updateU64 (value : Nat) : List UInt8 := bigEndian 8 value

def updateI64 (value : Int64) : List UInt8 := bigEndian 8 value.toUInt64.toNat

/-- `update_bytes` on the bytes of a text, and `update_text`. -/
def updateText (value : String) : List UInt8 :=
  updateU64 (Text.byteLength value) ++ value.toUTF8.data.toList

/-! ## Requests -/

/-- `FINGERPRINT_DOMAIN`. -/
def fingerprintDomain : String := "transitguard.reader-synchronization.request.v1"

def RequestEntry.fingerprintBytes (entry : RequestEntry) : List UInt8 :=
  updateText entry.transactionId.toText ++ updateU64 entry.localSequenceNumber.value ++
    updateText entry.transactionEnvelope.asStr

def Request.fingerprintBytes (request : Request) : List UInt8 :=
  updateText fingerprintDomain ++ updateU16 request.protocolVersion.value ++
    updateText request.environmentId.asStr ++ updateText request.readerId.toText ++
    updateText request.readerSoftwareVersion.asStr ++ updateText request.batchId.toText ++
    updateU64 request.firstLocalSequenceNumber.value ++
    updateU64 request.lastLocalSequenceNumber.value ++ updateI64 request.submittedAt ++
    updateU64 request.entries.length ++ request.entries.flatMap RequestEntry.fingerprintBytes

/-- `SynchronizationRequestFingerprint::calculate`. -/
def Request.fingerprint (sha256 : Sha256) (request : Request) : Digest :=
  sha256 request.fingerprintBytes

/-! ## Payloads -/

/-- `TRANSACTION_ENVELOPE_DOMAIN`. -/
def transactionEnvelopeDomain : String :=
  "transitguard.reader-synchronization.transaction-envelope.v1"

/-- `ACKNOWLEDGEMENT_DOMAIN`. -/
def acknowledgementDomain : String := "transitguard.reader-synchronization.acknowledgement.v1"

def CanonicalTransactionEnvelope.fingerprintBytes (envelope : CanonicalTransactionEnvelope) :
    List UInt8 :=
  updateText transactionEnvelopeDomain ++ updateText envelope.asStr

/-- `SynchronizationPayloadFingerprint::for_transaction_envelope`. -/
def CanonicalTransactionEnvelope.fingerprint (sha256 : Sha256)
    (envelope : CanonicalTransactionEnvelope) : Digest :=
  sha256 envelope.fingerprintBytes

/-- `encode_outcome`. -/
def encodeOutcome : EntryOutcome → UInt8
  | .acknowledged => 1
  | .retryableFailure => 2
  | .permanentFailure => 3
  | .manualReview => 4

/-- A byte that tells whether the value is there, then the value. -/
def updateOption {α : Type} (update : α → List UInt8) : Option α → List UInt8
  | some value => 1 :: update value
  | none => [0]

def AcknowledgementEntry.fingerprintBytes (entry : AcknowledgementEntry) : List UInt8 :=
  updateText entry.transactionId.toText ++ updateU64 entry.localSequenceNumber.value ++
    [encodeOutcome entry.outcome] ++
    updateOption (fun category => updateText category.asStr) entry.failureCategory ++
    updateOption updateI64 entry.nextRetryAt

/-- The replay marker is left out. -/
def Acknowledgement.fingerprintBytes (acknowledgement : Acknowledgement) : List UInt8 :=
  updateText acknowledgementDomain ++ updateU16 acknowledgement.protocolVersion.value ++
    updateText acknowledgement.environmentId.asStr ++
    updateText acknowledgement.readerId.toText ++ updateText acknowledgement.batchId.toText ++
    updateU64 acknowledgement.firstLocalSequenceNumber.value ++
    updateU64 acknowledgement.lastLocalSequenceNumber.value ++
    updateI64 acknowledgement.receivedAt ++ updateU64 acknowledgement.entries.length ++
    acknowledgement.entries.flatMap AcknowledgementEntry.fingerprintBytes

/-- `SynchronizationPayloadFingerprint::for_acknowledgement`. -/
def Acknowledgement.fingerprint (sha256 : Sha256) (acknowledgement : Acknowledgement) : Digest :=
  sha256 acknowledgement.fingerprintBytes

@[simp] theorem Acknowledgement.fingerprint_withReplayed (sha256 : Sha256)
    (acknowledgement : Acknowledgement) (replayed : Bool) :
    (acknowledgement.withReplayed replayed).fingerprint sha256 =
      acknowledgement.fingerprint sha256 := rfl

/-! ## Distinct requests are spelled differently -/

theorem length_bigEndian (width value : Nat) : (bigEndian width value).length = width := by
  simp [bigEndian]

theorem bigEndian_succ (width value : Nat) :
    bigEndian (width + 1) value =
      UInt8.ofNat (value / 256 ^ width) :: bigEndian width value := by
  simp [bigEndian, List.range_succ]

/-- The bytes of a number are its digits to the base 256. -/
theorem bigEndian_inj {width m n : Nat} (hm : m < 256 ^ width) (hn : n < 256 ^ width)
    (h : bigEndian width m = bigEndian width n) : m = n := by
  have hdigits : ∀ width, bigEndian width m = bigEndian width n →
      m % 256 ^ width = n % 256 ^ width := by
    intro width h
    induction width with
    | zero => rw [pow_zero, Nat.mod_one, Nat.mod_one]
    | succ width ih =>
      rw [bigEndian_succ, bigEndian_succ, List.cons.injEq] at h
      have hdigit : m / 256 ^ width % 256 = n / 256 ^ width % 256 := by
        simpa using congrArg UInt8.toNat h.1
      rw [pow_succ, Nat.mod_mul, Nat.mod_mul, ih h.2, hdigit]
  have hvalue := hdigits width h
  rwa [Nat.mod_eq_of_lt hm, Nat.mod_eq_of_lt hn] at hvalue

theorem selfDelimiting_updateU16 : SelfDelimiting (· < 2 ^ 16) updateU16 :=
  of_width (length_bigEndian 2) fun _ _ hm hn => bigEndian_inj hm hn

theorem selfDelimiting_updateU64 : SelfDelimiting (· < 2 ^ 64) updateU64 :=
  of_width (length_bigEndian 8) fun _ _ hm hn => bigEndian_inj hm hn

theorem selfDelimiting_updateI64 : SelfDelimiting (fun _ => True) updateI64 := by
  have hwidth : ∀ value : Int64, (updateI64 value).length = 8 :=
    fun value => length_bigEndian 8 value.toUInt64.toNat
  have hinj : ∀ ⦃m n : Int64⦄, True → True → updateI64 m = updateI64 n → m = n := by
    intro m n _ _ h
    have hvalue := bigEndian_inj m.toUInt64.toNat_lt n.toUInt64.toNat_lt h
    rw [← Int64.toInt64_toUInt64 m, UInt64.toNat_inj.mp hvalue, Int64.toInt64_toUInt64]
  exact of_width hwidth hinj

theorem toUTF8_inj {s t : String} (h : s.toUTF8.data.toList = t.toUTF8.data.toList) : s = t :=
  String.toByteArray_inj.mp (ByteArray.ext (Array.toList_inj.mp h))

/-- Texts shorter than their length field can say. -/
theorem selfDelimiting_updateText :
    SelfDelimiting (fun text : String => Text.byteLength text < 2 ^ 64) updateText :=
  counted selfDelimiting_updateU64 fun _ _ => toUTF8_inj

theorem selfDelimiting_toText {i j : Identifier} {s t : List UInt8}
    (h : updateText i.toText ++ s = updateText j.toText ++ t) : i.toText = j.toText ∧ s = t := by
  have hbound : ∀ i : Identifier, Text.byteLength i.toText < 2 ^ 64 := fun i =>
    (byteLength_toText i).trans_lt (by decide)
  exact selfDelimiting_updateText (hbound i) (hbound j) h

theorem CanonicalTransactionEnvelope.byteLength_lt (envelope : CanonicalTransactionEnvelope) :
    Text.byteLength envelope.asStr < 2 ^ 64 :=
  envelope.bounded.trans_lt (by decide)

theorem selfDelimiting_requestEntry :
    SelfDelimiting (fun _ => True) RequestEntry.fingerprintBytes := by
  intro a b _ _ s t h
  simp only [RequestEntry.fingerprintBytes, List.append_assoc] at h
  obtain ⟨hid, h⟩ := selfDelimiting_toText h
  obtain ⟨hsequence, h⟩ :=
    selfDelimiting_updateU64 a.localSequenceNumber.lt b.localSequenceNumber.lt h
  obtain ⟨htext, h⟩ := selfDelimiting_updateText a.transactionEnvelope.byteLength_lt
    b.transactionEnvelope.byteLength_lt h
  refine ⟨?_, h⟩
  obtain ⟨id, sequence, ⟨text, hbounded⟩⟩ := a
  obtain ⟨id', sequence', ⟨text', hbounded'⟩⟩ := b
  obtain rfl := FareTransactionId.toText_inj hid
  obtain rfl := LocalSequenceNumber.ext hsequence
  obtain rfl : text = text' := htext
  rfl

theorem BoundedText.ext {maxBytes : Nat} {a b : BoundedText maxBytes} (h : a.asStr = b.asStr) :
    a = b := by
  cases a
  cases b
  cases h
  rfl

theorem selfDelimiting_asStr {maxBytes : Nat} (hmax : maxBytes < 2 ^ 64)
    {a b : BoundedText maxBytes} {s t : List UInt8}
    (h : updateText a.asStr ++ s = updateText b.asStr ++ t) : a = b ∧ s = t := by
  obtain ⟨htext, h⟩ := selfDelimiting_updateText (a.bounded.trans_lt hmax)
    (b.bounded.trans_lt hmax) h
  exact ⟨BoundedText.ext htext, h⟩

/-- The hashed bytes of a request determine it. -/
theorem Request.fingerprintBytes_inj {a b : Request}
    (h : a.fingerprintBytes = b.fingerprintBytes) : a = b := by
  have hcount : ∀ request : Request, request.entries.length < 2 ^ 64 := fun request =>
    (RequestDefinition.validate_ok.mp request.valid).2.1.trans_lt (by decide)
  rw [← List.append_nil a.fingerprintBytes, ← List.append_nil b.fingerprintBytes] at h
  simp only [Request.fingerprintBytes, List.append_assoc] at h
  obtain ⟨-, h⟩ := selfDelimiting_updateText (by decide) (by decide) h
  obtain ⟨hversion, h⟩ := selfDelimiting_updateU16 a.protocolVersion.lt b.protocolVersion.lt h
  obtain ⟨henvironment, h⟩ := selfDelimiting_asStr (by decide) h
  obtain ⟨hreader, h⟩ := selfDelimiting_toText h
  obtain ⟨hsoftware, h⟩ := selfDelimiting_asStr (by decide) h
  obtain ⟨hbatch, h⟩ := selfDelimiting_toText h
  obtain ⟨hfirst, h⟩ := selfDelimiting_updateU64 a.firstLocalSequenceNumber.lt
    b.firstLocalSequenceNumber.lt h
  obtain ⟨hlast, h⟩ := selfDelimiting_updateU64 a.lastLocalSequenceNumber.lt
    b.lastLocalSequenceNumber.lt h
  obtain ⟨hsubmitted, h⟩ := selfDelimiting_updateI64 trivial trivial h
  obtain ⟨hlength, h⟩ := selfDelimiting_updateU64 (hcount a) (hcount b) h
  obtain ⟨hentries, -⟩ := flatMap_inj selfDelimiting_requestEntry hlength (by simp) (by simp) h
  have hdefinition : a.toRequestDefinition = b.toRequestDefinition := by
    rw [RequestDefinition.mk.injEq]
    exact ⟨DeviceProtocolVersion.ext hversion, henvironment,
      ReaderId.toText_inj hreader, hsoftware,
      SynchronizationBatchId.toText_inj hbatch, LocalSequenceNumber.ext hfirst,
      LocalSequenceNumber.ext hlast, hsubmitted, hentries⟩
  obtain ⟨definition, hvalid⟩ := a
  obtain ⟨definition', hvalid'⟩ := b
  obtain rfl : definition = definition' := hdefinition
  rfl

/-! ## So are distinct payloads -/

theorem FailureCategory.asStr_inj {a b : FailureCategory} (h : a.asStr = b.asStr) : a = b := by
  revert h
  cases a <;> cases b <;> decide

theorem FailureCategory.byteLength_lt (category : FailureCategory) :
    Text.byteLength category.asStr < 2 ^ 64 := by
  cases category <;> decide

theorem encodeOutcome_inj {a b : EntryOutcome} (h : encodeOutcome a = encodeOutcome b) :
    a = b := by
  revert h
  cases a <;> cases b <;> decide

/-- The tag of an optional value tells which of the two forms follows. -/
theorem selfDelimiting_updateOption {α : Type} {valid : α → Prop} {update : α → List UInt8}
    (hupdate : SelfDelimiting valid update) :
    SelfDelimiting (fun o : Option α => ∀ a ∈ o, valid a) (updateOption update) := by
  intro a b ha hb s t h
  cases a with
  | none =>
    cases b with
    | none => exact ⟨rfl, (List.cons.inj h).2⟩
    | some b => exact absurd (List.cons.inj h).1 (by decide)
  | some a =>
    cases b with
    | none => exact absurd (List.cons.inj h).1 (by decide)
    | some b =>
      obtain ⟨rfl, hrest⟩ := hupdate (ha a rfl) (hb b rfl) (List.cons.inj h).2
      exact ⟨rfl, hrest⟩

theorem selfDelimiting_category :
    SelfDelimiting (fun _ => True) fun category : FailureCategory => updateText category.asStr := by
  intro a b _ _ s t h
  obtain ⟨hname, hrest⟩ := selfDelimiting_updateText a.byteLength_lt b.byteLength_lt h
  exact ⟨FailureCategory.asStr_inj hname, hrest⟩

theorem selfDelimiting_acknowledgementEntry :
    SelfDelimiting (fun _ => True) AcknowledgementEntry.fingerprintBytes := by
  intro a b _ _ s t h
  simp only [AcknowledgementEntry.fingerprintBytes, List.append_assoc] at h
  obtain ⟨hid, h⟩ := selfDelimiting_toText h
  obtain ⟨hsequence, h⟩ :=
    selfDelimiting_updateU64 a.localSequenceNumber.lt b.localSequenceNumber.lt h
  obtain ⟨houtcome, h⟩ := List.cons.inj h
  obtain ⟨hcategory, h⟩ :=
    selfDelimiting_updateOption selfDelimiting_category (by simp) (by simp) h
  obtain ⟨hretry, h⟩ := selfDelimiting_updateOption selfDelimiting_updateI64 (by simp) (by simp) h
  refine ⟨?_, h⟩
  obtain ⟨id, sequence, outcome, category, retry, hvalid⟩ := a
  obtain ⟨id', sequence', outcome', category', retry', hvalid'⟩ := b
  obtain rfl := FareTransactionId.toText_inj hid
  obtain rfl := LocalSequenceNumber.ext hsequence
  obtain rfl := encodeOutcome_inj houtcome
  obtain rfl : category = category' := hcategory
  obtain rfl : retry = retry' := hretry
  rfl

/-- The hashed bytes of an acknowledgement determine it up to the replay
marker. -/
theorem Acknowledgement.fingerprintBytes_inj {a b : Acknowledgement}
    (h : a.fingerprintBytes = b.fingerprintBytes) (replayed : Bool) :
    a.withReplayed replayed = b.withReplayed replayed := by
  have hcount : ∀ acknowledgement : Acknowledgement,
      acknowledgement.entries.length < 2 ^ 64 := by
    intro acknowledgement
    have hlength := acknowledgement.length_entries_le
    rw [maxSynchronizationBatchEntries] at hlength
    omega
  rw [← List.append_nil a.fingerprintBytes, ← List.append_nil b.fingerprintBytes] at h
  simp only [Acknowledgement.fingerprintBytes, List.append_assoc] at h
  obtain ⟨-, h⟩ := selfDelimiting_updateText (by decide) (by decide) h
  obtain ⟨hversion, h⟩ := selfDelimiting_updateU16 a.protocolVersion.lt b.protocolVersion.lt h
  obtain ⟨henvironment, h⟩ := selfDelimiting_asStr (by decide) h
  obtain ⟨hreader, h⟩ := selfDelimiting_toText h
  obtain ⟨hbatch, h⟩ := selfDelimiting_toText h
  obtain ⟨hfirst, h⟩ := selfDelimiting_updateU64 a.firstLocalSequenceNumber.lt
    b.firstLocalSequenceNumber.lt h
  obtain ⟨hlast, h⟩ := selfDelimiting_updateU64 a.lastLocalSequenceNumber.lt
    b.lastLocalSequenceNumber.lt h
  obtain ⟨hreceived, h⟩ := selfDelimiting_updateI64 trivial trivial h
  obtain ⟨hlength, h⟩ := selfDelimiting_updateU64 (hcount a) (hcount b) h
  obtain ⟨hentries, -⟩ :=
    flatMap_inj selfDelimiting_acknowledgementEntry hlength (by simp) (by simp) h
  obtain ⟨⟨_, _, _, _, _, _, _, _, _⟩, hvalid⟩ := a
  obtain ⟨⟨_, _, _, _, _, _, _, _, _⟩, hvalid'⟩ := b
  cases DeviceProtocolVersion.ext hversion
  cases henvironment
  cases ReaderId.toText_inj hreader
  cases SynchronizationBatchId.toText_inj hbatch
  cases LocalSequenceNumber.ext hfirst
  cases LocalSequenceNumber.ext hlast
  cases hreceived
  cases hentries
  rfl

theorem CanonicalTransactionEnvelope.fingerprintBytes_inj {a b : CanonicalTransactionEnvelope}
    (h : a.fingerprintBytes = b.fingerprintBytes) : a = b := by
  rw [← List.append_nil a.fingerprintBytes, ← List.append_nil b.fingerprintBytes] at h
  simp only [CanonicalTransactionEnvelope.fingerprintBytes, List.append_assoc] at h
  obtain ⟨-, h⟩ := selfDelimiting_updateText (by decide) (by decide) h
  obtain ⟨htext, -⟩ := selfDelimiting_updateText a.byteLength_lt b.byteLength_lt h
  cases a
  cases b
  cases htext
  rfl

/-- The domain in front of the hashed bytes separates the kinds. -/
theorem domain_eq {domain domain' : String} {s t : List UInt8}
    (hdomain : Text.byteLength domain < 2 ^ 64) (hdomain' : Text.byteLength domain' < 2 ^ 64)
    (h : updateText domain ++ s = updateText domain' ++ t) : domain = domain' :=
  (selfDelimiting_updateText hdomain hdomain' h).1

/-- What is hashed determines the kind of the value and the value, the replay
marker of an acknowledgement apart. -/
theorem fingerprintBytes_injective :
    (∀ a b : Request, a.fingerprintBytes = b.fingerprintBytes → a = b) ∧
    (∀ a b : Acknowledgement, a.fingerprintBytes = b.fingerprintBytes →
      ∀ replayed, a.withReplayed replayed = b.withReplayed replayed) ∧
    (∀ a b : CanonicalTransactionEnvelope, a.fingerprintBytes = b.fingerprintBytes → a = b) ∧
    ∀ (request : Request) (acknowledgement : Acknowledgement)
      (envelope : CanonicalTransactionEnvelope),
      request.fingerprintBytes ≠ acknowledgement.fingerprintBytes ∧
      request.fingerprintBytes ≠ envelope.fingerprintBytes ∧
      acknowledgement.fingerprintBytes ≠ envelope.fingerprintBytes := by
  refine ⟨fun a b => Request.fingerprintBytes_inj, fun a b => Acknowledgement.fingerprintBytes_inj,
    fun a b => CanonicalTransactionEnvelope.fingerprintBytes_inj,
    fun request acknowledgement envelope => ⟨fun h => ?_, fun h => ?_, fun h => ?_⟩⟩
  all_goals
    simp only [Request.fingerprintBytes, Acknowledgement.fingerprintBytes,
      CanonicalTransactionEnvelope.fingerprintBytes, List.append_assoc] at h
    exact absurd (domain_eq (by decide) (by decide) h) (by decide)

end TransitGuard.Protocol
