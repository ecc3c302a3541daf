import TransitGuard.Library.JsonDecode
import TransitGuard.Domain.Account

/-!
Decoding of the value objects of the domain. A value with a check of its own is
read as its representation and then checked by its constructor; amounts and
enumerations have nothing to check. An approved decision is checked again, so
no decoded approval charges a negative amount.
-/

namespace TransitGuard

open Json

/-- `EventTime::from_unix_milliseconds`. -/
def EventTime.fromUnixMilliseconds (value : Int64) : Option EventTime :=
  if h : 0 ≤ value then some ⟨value, h⟩ else none

/-- `FarePolicyVersion::new`. -/
def FarePolicyVersion.new (value : Nat) : Option FarePolicyVersion :=
  if h : PositiveU64 value then some ⟨value, h.pos, h.lt⟩ else none

/-- `FareDecision::approved`. -/
def FareDecision.newApproved (chargedAmount : Money) (reason : FareApprovalReason) :
    Option FareDecision :=
  if chargedAmount.isNegative then none else some (.approved chargedAmount reason)

/-! ## Enumerations -/

def EligibilityClassification.variantName : EligibilityClassification → String
  | .standard => "Standard"
  | .youth => "Youth"
  | .senior => "Senior"
  | .reducedFare => "ReducedFare"
  | .employeeTestAccount => "EmployeeTestAccount"

/-- A variant without fields, read by its name among `variants`. -/
def variantFromStr {α : Type} (variantName : α → String) (variants : List α) (text : String) :
    Option α :=
  variants.find? fun variant => variantName variant == text

def Currency.fromStr : String → Option Currency :=
  variantFromStr Currency.variantName [.usd, .cad, .eur, .gbp]

def EligibilityClassification.fromStr : String → Option EligibilityClassification :=
  variantFromStr EligibilityClassification.variantName
    [.standard, .youth, .senior, .reducedFare, .employeeTestAccount]

def FareApprovalReason.fromStr : String → Option FareApprovalReason :=
  variantFromStr FareApprovalReason.variantName
    [.standardFare, .transfer, .transitProduct, .fareCap, .offlineProvisional]

def FareRejectionReason.fromStr : String → Option FareRejectionReason :=
  variantFromStr FareRejectionReason.variantName
    [.credentialRevoked, .credentialExpired, .accountSuspended, .readerDisabled, .invalidSignature,
      .unsupportedProtocol, .insufficientStoredValue, .productInvalid, .offlineLimitExceeded,
      .stalePolicy, .staleRevocationData]

theorem Currency.fromStr_variantName (currency : Currency) :
    fromStr currency.variantName = some currency := by
  cases currency <;> decide

theorem FareApprovalReason.fromStr_variantName (reason : FareApprovalReason) :
    fromStr reason.variantName = some reason := by
  cases reason <;> decide

theorem FareRejectionReason.fromStr_variantName (reason : FareRejectionReason) :
    fromStr reason.variantName = some reason := by
  cases reason <;> decide

/-! ## Values -/

def decodeIdentifier (v : Value) : Option Identifier := v.text.bind Identifier.parse

def EventTime.fromJson (v : Value) : Option EventTime :=
  v.signed.bind EventTime.fromUnixMilliseconds

def FarePolicyVersion.fromJson (v : Value) : Option FarePolicyVersion :=
  (v.unsigned (2 ^ 64)).bind FarePolicyVersion.new

def Currency.fromJson (v : Value) : Option Currency := v.variant.bind Currency.fromStr

def EligibilityClassification.fromJson (v : Value) : Option EligibilityClassification :=
  v.variant.bind EligibilityClassification.fromStr

/-- `Deserialize for Money`. -/
def Money.fromJson (v : Value) : Option Money :=
  match v.fields ["minor_units", "currency"] with
  | some [minorUnits, currency] => do
    let minorUnits ← minorUnits.bind Value.signed
    let currency ← currency.bind Currency.fromJson
    some ⟨minorUnits, currency⟩
  | _ => none

/-- `Deserialize for FareDecision`. -/
def FareDecision.fromJson (v : Value) : Option FareDecision :=
  match v with
  | .object [("Approved", content)] =>
    match content.fields ["charged_amount", "reason"] with
    | some [chargedAmount, reason] => do
      let chargedAmount ← chargedAmount.bind Money.fromJson
      let reason ← reason.bind fun reason => reason.variant.bind FareApprovalReason.fromStr
      FareDecision.newApproved chargedAmount reason
    | _ => none
  | .object [("Rejected", content)] =>
    match content.fields ["reason"] with
    | some [reason] => do
      let reason ← reason.bind fun reason => reason.variant.bind FareRejectionReason.fromStr
      some (.rejected reason)
    | _ => none
  | _ => none

/-! ## What is written is read back -/

theorem decodeIdentifier_toText (i : Identifier) :
    decodeIdentifier (.string i.toText) = some i := by
  rw [decodeIdentifier, Value.text, Option.bind_some, i.parse_toText]

theorem Money.fromJson_toJson (m : Money) : fromJson m.toJson = some m := by
  have hcurrency : Currency.fromJson (.string m.currency.variantName) = some m.currency := by
    rw [Currency.fromJson, Value.variant, Option.bind_some, Currency.fromStr_variantName]
  have hfields : m.toJson.fields ["minor_units", "currency"] =
      some [some (int m.minorUnits), some (.string m.currency.variantName)] :=
    fields_object rfl (by decide)
  rw [fromJson, hfields]
  simp only [Option.bind_some, signed_int, hcurrency, Option.bind_eq_bind]

/-- A decision that charges nothing negative is read back. -/
theorem FareDecision.fromJson_toJson {decision : FareDecision}
    (h : ∀ amount reason, decision = .approved amount reason → amount.isNegative = false) :
    fromJson decision.toJson = some decision := by
  cases decision with
  | approved amount reason =>
    have hfields : (Value.object [("charged_amount", amount.toJson),
        ("reason", .string reason.variantName)]).fields ["charged_amount", "reason"] =
          some [some amount.toJson, some (.string reason.variantName)] :=
      fields_object rfl (by decide)
    have hnonneg := h amount reason rfl
    simp only [toJson, fromJson, hfields, Option.bind_some, Money.fromJson_toJson, Value.variant,
      FareApprovalReason.fromStr_variantName, Option.bind_eq_bind, newApproved, hnonneg]
    rfl
  | rejected reason =>
    have hfields : (Value.object [("reason", .string reason.variantName)]).fields ["reason"] =
        some [some (.string reason.variantName)] :=
      fields_object rfl (by decide)
    simp only [toJson, fromJson, hfields, Option.bind_some, Value.variant,
      FareRejectionReason.fromStr_variantName, Option.bind_eq_bind]

end TransitGuard
