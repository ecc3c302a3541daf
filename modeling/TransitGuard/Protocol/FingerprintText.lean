import TransitGuard.Library.Hexadecimal
import TransitGuard.Protocol.Fingerprint

/-!
Fingerprints as text. Requests and payloads have fingerprint types of their
own, each with its own parser and its own errors; both are stored and compared
as the 64 digits that `to_hex` prints.
-/

namespace TransitGuard.Protocol

open Hexadecimal

inductive SynchronizationFingerprintParseError
  | invalidLength (actualLength : Nat)
  | invalidHexadecimalCharacter (position : Nat)
  deriving DecidableEq, Repr

inductive SynchronizationPayloadFingerprintParseError
  | invalidLength (actualLength : Nat)
  | invalidHexadecimalCharacter (position : Nat)
  deriving DecidableEq, Repr

namespace SynchronizationRequestFingerprint

/-- `SynchronizationRequestFingerprint::to_hex`. -/
def toHex (fingerprint : Digest) : String := encode fingerprint

/-- `SynchronizationRequestFingerprint::from_str`. -/
def fromStr (value : String) : Except SynchronizationFingerprintParseError Digest :=
  decode .invalidLength .invalidHexadecimalCharacter 32 value

end SynchronizationRequestFingerprint

namespace SynchronizationPayloadFingerprint

/-- `SynchronizationPayloadFingerprint::to_hex`. -/
def toHex (fingerprint : Digest) : String := encode fingerprint

/-- `SynchronizationPayloadFingerprint::from_str`. -/
def fromStr (value : String) : Except SynchronizationPayloadFingerprintParseError Digest :=
  decode .invalidLength .invalidHexadecimalCharacter 32 value

end SynchronizationPayloadFingerprint

/-- The payload error of the same name. -/
def SynchronizationFingerprintParseError.toPayload :
    SynchronizationFingerprintParseError → SynchronizationPayloadFingerprintParseError
  | .invalidLength actualLength => .invalidLength actualLength
  | .invalidHexadecimalCharacter position => .invalidHexadecimalCharacter position

/-- What a parser and a printer of fingerprints promise each other. -/
structure FingerprintCodec {ε : Type} (toHex : Digest → String)
    (fromStr : String → Except ε Digest) (invalidLength invalidHexadecimalCharacter : Nat → ε) :
    Prop where
  accepts : ∀ value, (∃ fingerprint, fromStr value = .ok fingerprint) ↔
    value.toList.length = 64 ∧ ∀ c ∈ value.toList, Text.isAsciiHexDigit c = true
  fromStr_toHex : ∀ fingerprint, fromStr (toHex fingerprint) = .ok fingerprint
  toHex_fromStr : ∀ value fingerprint, fromStr value = .ok fingerprint →
    toHex fingerprint = value.toLower
  rejects_length : ∀ value, Text.byteLength value ≠ 64 →
    fromStr value = .error (invalidLength (Text.byteLength value))
  rejects_position : ∀ value, Text.byteLength value = 64 →
    (¬ ∃ fingerprint, fromStr value = .ok fingerprint) →
      ∃ position, fromStr value = .error (invalidHexadecimalCharacter position) ∧
        (Text.bytes value).findIdx? (fun b => !isDigit b) = some position

theorem fingerprintCodec {ε : Type} (invalidLength invalid : Nat → ε) :
    FingerprintCodec encode (decode invalidLength invalid 32) invalidLength invalid where
  accepts _ := exists_decode_iff
  fromStr_toHex := decode_encode invalidLength invalid
  toHex_fromStr _ _ := encode_of_decode
  rejects_length _ h := if_pos h
  rejects_position _ := decode_eq_invalid (n := 32)

/-- Both types are read and printed alike, up to the names of their errors. -/
theorem fingerprint_text :
    FingerprintCodec SynchronizationRequestFingerprint.toHex
        SynchronizationRequestFingerprint.fromStr .invalidLength .invalidHexadecimalCharacter ∧
      FingerprintCodec SynchronizationPayloadFingerprint.toHex
        SynchronizationPayloadFingerprint.fromStr .invalidLength .invalidHexadecimalCharacter ∧
      (∀ value, SynchronizationPayloadFingerprint.fromStr value =
        (SynchronizationRequestFingerprint.fromStr value).mapError
          SynchronizationFingerprintParseError.toPayload) ∧
      ∀ fingerprint, SynchronizationPayloadFingerprint.toHex fingerprint =
        SynchronizationRequestFingerprint.toHex fingerprint :=
  ⟨fingerprintCodec _ _, fingerprintCodec _ _,
    fun value => (mapError_decode SynchronizationFingerprintParseError.toPayload .invalidLength
      .invalidHexadecimalCharacter 32 value).symm, fun _ => rfl⟩

/-- Equal text forms are equal fingerprints, so comparing texts is enough. -/
theorem toHex_inj {a b : Digest} (h : SynchronizationRequestFingerprint.toHex a =
    SynchronizationRequestFingerprint.toHex b) : a = b := by
  have hcodec := fingerprintCodec SynchronizationFingerprintParseError.invalidLength
    .invalidHexadecimalCharacter
  have hread : SynchronizationRequestFingerprint.fromStr
      (SynchronizationRequestFingerprint.toHex a) = .ok a := hcodec.fromStr_toHex a
  rw [h] at hread
  exact Except.ok.inj (hread.symm.trans (hcodec.fromStr_toHex b))

end TransitGuard.Protocol
