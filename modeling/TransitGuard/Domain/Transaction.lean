import TransitGuard.Library.Json
import TransitGuard.Domain.Identifier

/-!
Value objects of a fare transaction. Times are Unix milliseconds in a signed
64-bit integer; versions and sequence numbers are positive unsigned integers.
-/

namespace TransitGuard

/-- Unix milliseconds. -/
abbrev UnixMilliseconds := Int64

/-- `i64::MAX`, the last value of a sequence column. -/
def i64Max : Nat := 9223372036854775807

/-- What the constructors of positive `u64` values check. -/
def PositiveU64 (value : Nat) : Prop := 0 < value ∧ value < 2 ^ 64

instance (value : Nat) : Decidable (PositiveU64 value) :=
  inferInstanceAs (Decidable (0 < value ∧ value < 2 ^ 64))

theorem PositiveU64.pos {value : Nat} (h : PositiveU64 value) : 0 < value := h.1

theorem PositiveU64.lt {value : Nat} (h : PositiveU64 value) : value < 2 ^ 64 := h.2

/-- What the constructors of positive `u16` values check. -/
def PositiveU16 (value : Nat) : Prop := 0 < value ∧ value < 2 ^ 16

instance (value : Nat) : Decidable (PositiveU16 value) :=
  inferInstanceAs (Decidable (0 < value ∧ value < 2 ^ 16))

theorem PositiveU16.pos {value : Nat} (h : PositiveU16 value) : 0 < value := h.1

theorem PositiveU16.lt {value : Nat} (h : PositiveU16 value) : value < 2 ^ 16 := h.2

structure LocalSequenceNumber where
  value : Nat
  pos : 0 < value
  lt : value < 2 ^ 64
  deriving DecidableEq

/-- `LocalSequenceNumber::new`. -/
def LocalSequenceNumber.new (value : Nat) : Option LocalSequenceNumber :=
  if h : PositiveU64 value then some ⟨value, h.pos, h.lt⟩ else none

def LocalSequenceNumber.first : LocalSequenceNumber := ⟨1, by decide, by decide⟩

structure FarePolicyVersion where
  value : Nat
  pos : 0 < value
  lt : value < 2 ^ 64
  deriving DecidableEq

def FarePolicyVersion.first : FarePolicyVersion := ⟨1, by decide, by decide⟩

structure EventTime where
  unixMilliseconds : UnixMilliseconds
  nonneg : 0 ≤ unixMilliseconds
  deriving DecidableEq

/-- `FareProcessingMode`. -/
inductive FareProcessingMode
  | online
  | offline
  deriving DecidableEq, Repr

/-- Version of the reader protocol, a positive `u16`. -/
structure DeviceProtocolVersion where
  value : Nat
  pos : 0 < value
  lt : value < 2 ^ 16
  deriving DecidableEq

/-- `DeviceProtocolVersion::new`. -/
def DeviceProtocolVersion.new (value : Nat) : Option DeviceProtocolVersion :=
  if h : PositiveU16 value then some ⟨value, h.pos, h.lt⟩ else none

/-- `DeviceProtocolVersion::CURRENT`. -/
def DeviceProtocolVersion.current : DeviceProtocolVersion := ⟨1, by decide, by decide⟩

theorem UnixMilliseconds.max_def (a b : UnixMilliseconds) : max a b = if a ≤ b then b else a := rfl

theorem LocalSequenceNumber.new_eq_some {value : Nat} {s : LocalSequenceNumber} :
    new value = some s ↔ s.value = value := by
  unfold new
  constructor
  · intro h
    split at h
    · cases h
      rfl
    · cases h
  · rintro rfl
    exact dif_pos ⟨s.pos, s.lt⟩

theorem DeviceProtocolVersion.new_eq_some {value : Nat} {v : DeviceProtocolVersion} :
    new value = some v ↔ v.value = value := by
  unfold new
  constructor
  · intro h
    split at h
    · cases h
      rfl
    · cases h
  · rintro rfl
    exact dif_pos ⟨v.pos, v.lt⟩

theorem LocalSequenceNumber.ext {a b : LocalSequenceNumber} (h : a.value = b.value) : a = b := by
  cases a; cases b; cases h; rfl

theorem LocalSequenceNumber.eq_some_of_value {o : Option LocalSequenceNumber}
    {s : LocalSequenceNumber} (h : o.map (·.value) = some s.value) : o = some s := by
  obtain ⟨found, hfound, hvalue⟩ := Option.map_eq_some_iff.mp h
  rw [hfound, ext hvalue]

theorem DeviceProtocolVersion.ext {a b : DeviceProtocolVersion} (h : a.value = b.value) :
    a = b := by
  cases a; cases b; cases h; rfl

/-! ## Fare decisions -/

inductive Currency
  | usd
  | cad
  | eur
  | gbp
  deriving DecidableEq, Repr

structure Money where
  minorUnits : Int64
  currency : Currency
  deriving DecidableEq, Repr

inductive FareApprovalReason
  | standardFare
  | transfer
  | transitProduct
  | fareCap
  | offlineProvisional
  deriving DecidableEq, Repr

inductive FareRejectionReason
  | credentialRevoked
  | credentialExpired
  | accountSuspended
  | readerDisabled
  | invalidSignature
  | unsupportedProtocol
  | insufficientStoredValue
  | productInvalid
  | offlineLimitExceeded
  | stalePolicy
  | staleRevocationData
  deriving DecidableEq, Repr

inductive FareDecision
  | approved (chargedAmount : Money) (reason : FareApprovalReason)
  | rejected (reason : FareRejectionReason)
  deriving DecidableEq, Repr

/-! ## Serialized forms -/

def Currency.variantName : Currency → String
  | .usd => "Usd"
  | .cad => "Cad"
  | .eur => "Eur"
  | .gbp => "Gbp"

def FareApprovalReason.variantName : FareApprovalReason → String
  | .standardFare => "StandardFare"
  | .transfer => "Transfer"
  | .transitProduct => "TransitProduct"
  | .fareCap => "FareCap"
  | .offlineProvisional => "OfflineProvisional"

def FareRejectionReason.variantName : FareRejectionReason → String
  | .credentialRevoked => "CredentialRevoked"
  | .credentialExpired => "CredentialExpired"
  | .accountSuspended => "AccountSuspended"
  | .readerDisabled => "ReaderDisabled"
  | .invalidSignature => "InvalidSignature"
  | .unsupportedProtocol => "UnsupportedProtocol"
  | .insufficientStoredValue => "InsufficientStoredValue"
  | .productInvalid => "ProductInvalid"
  | .offlineLimitExceeded => "OfflineLimitExceeded"
  | .stalePolicy => "StalePolicy"
  | .staleRevocationData => "StaleRevocationData"

def Money.toJson (m : Money) : Json.Value :=
  .object [("minor_units", Json.int m.minorUnits), ("currency", .string m.currency.variantName)]

/-- The derived serialization of a decision, tagged by its variant. -/
def FareDecision.toJson : FareDecision → Json.Value
  | .approved amount reason =>
    .object [("Approved",
      .object [("charged_amount", amount.toJson), ("reason", .string reason.variantName)])]
  | .rejected reason =>
    .object [("Rejected", .object [("reason", .string reason.variantName)])]

end TransitGuard
