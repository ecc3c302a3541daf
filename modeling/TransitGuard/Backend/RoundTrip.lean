import TransitGuard.Library.Runs
import TransitGuard.Backend.Equipment

/-!
Aggregates and their rows. Loading replays one fixed sequence of operations for
each status; it ends in the aggregate that was saved, whatever history that
had. A saved row passes the constraints of its table, and a row that passes
them and loads is the row its aggregate saves.
-/

namespace TransitGuard

/-! ## Identifier columns -/

theorem getElem?_hexDigits {n width k : Nat} (h : k < width) :
    (hexDigits n width)[k]? = some (Nat.digitChar (n / 16 ^ (width - 1 - k) % 16)) := by
  induction width generalizing n with
  | zero => omega
  | succ width ih =>
    have hlength : (hexDigits (n / 16) width).length = width := length_hexDigits _ _
    rw [hexDigits]
    by_cases hk : k = width
    · subst hk
      rw [List.getElem?_append_right hlength.le, hlength, Nat.sub_self, Nat.add_sub_cancel,
        Nat.sub_self, Nat.pow_zero, Nat.div_one]
      rfl
    · have hlt : k < width := by omega
      have hpower : 16 ^ (width - k) = 16 * 16 ^ (width - 1 - k) := by
        rw [← Nat.pow_succ']
        congr 1
        omega
      rw [List.getElem?_append_left (by omega), ih hlt, Nat.div_div_eq_div_mul, ← hpower,
        Nat.add_sub_cancel]

/-- The constraints on an identifier column: not the nil value, and the version
and variant digits of its text form. -/
def Identifier.check (i : Identifier) : Bool :=
  i.uuid != 0 && i.toText.toList[14]? == some '7' &&
    i.toText.toList[19]?.any ['8', '9', 'a', 'b'].contains

/-- What `validate` accepts is what the columns accept. -/
theorem Identifier.check_eq (i : Identifier) : i.check = true := by
  have hvalid := i.valid
  simp only [isVersionSeven, Bool.and_eq_true, bne_iff_ne, ne_eq, beq_iff_eq] at hvalid
  obtain ⟨⟨hnil, hvariant⟩, hversion⟩ := hvalid
  have hversion : i.uuid.toNat / 16 ^ 19 % 16 = 7 := by
    have h := congrArg BitVec.toNat hversion
    rw [BitVec.extractLsb'_toNat, Nat.shiftRight_eq_div_pow] at h
    exact h
  have hvariant : i.uuid.toNat / 2 ^ 62 % 4 = 2 := by
    have h := congrArg BitVec.toNat hvariant
    rw [BitVec.extractLsb'_toNat, Nat.shiftRight_eq_div_pow] at h
    exact h
  have hdigit : i.uuid.toNat / 16 ^ 15 % 16 = 8 ∨ i.uuid.toNat / 16 ^ 15 % 16 = 9 ∨
      i.uuid.toNat / 16 ^ 15 % 16 = 10 ∨ i.uuid.toNat / 16 ^ 15 % 16 = 11 := by
    omega
  have hlength : (hexDigits i.uuid.toNat 32).length = 32 := length_hexDigits _ _
  have h14 : i.toText.toList[14]? = (hexDigits i.uuid.toNat 32)[12]? := by
    simp [Identifier.toText, hlength]
  have h19 : i.toText.toList[19]? = (hexDigits i.uuid.toNat 32)[16]? := by
    simp [Identifier.toText, hlength]
  rw [Identifier.check, h14, h19, getElem?_hexDigits (by decide), getElem?_hexDigits (by decide),
    hversion]
  simp only [Bool.and_eq_true, bne_iff_ne, ne_eq]
  refine ⟨⟨hnil, by decide⟩, ?_⟩
  rcases hdigit with h | h | h | h <;> rw [h] <;> decide

end TransitGuard

namespace TransitGuard.Backend

open Fallible PostgresValueCodec

/-! ## Columns with a fixed set of values -/

namespace PostgresValueCodec

theorem encode_decodeCurrency {text : String} {c : Currency} (h : decodeCurrency text = .ok c) :
    encodeCurrency c = text := by
  unfold decodeCurrency at h
  split at h <;> cases h <;> rfl

theorem encode_decodeAccountStatus {text : String} {s : TransitAccountStatus}
    (h : decodeAccountStatus text = .ok s) : encodeAccountStatus s = text := by
  unfold decodeAccountStatus at h
  split at h <;> cases h <;> rfl

theorem encode_decodeEligibility {text : String} {e : EligibilityClassification}
    (h : decodeEligibility text = .ok e) : encodeEligibility e = text := by
  unfold decodeEligibility at h
  split at h <;> cases h <;> rfl

theorem encode_decodeCredentialKind {text : String} {k : FareCredentialKind}
    (h : decodeCredentialKind text = .ok k) : encodeCredentialKind k = text := by
  unfold decodeCredentialKind at h
  split at h <;> cases h <;> rfl

theorem encode_decodeCredentialStatus {text : String} {s : FareCredentialStatus}
    (h : decodeCredentialStatus text = .ok s) : encodeCredentialStatus s = text := by
  unfold decodeCredentialStatus at h
  split at h <;> cases h <;> rfl

theorem encode_decodeCredentialRevocationReason {text : String} {r : RevocationReason}
    (h : decodeCredentialRevocationReason text = .ok r) :
    encodeCredentialRevocationReason r = text := by
  unfold decodeCredentialRevocationReason at h
  split at h <;> cases h <;> rfl

theorem encode_decodeReaderStatus {text : String} {s : ReaderEquipmentStatus}
    (h : decodeReaderStatus text = .ok s) : encodeReaderStatus s = text := by
  unfold decodeReaderStatus at h
  split at h <;> cases h <;> rfl

theorem encode_decodeReaderDisablementReason {text : String} {r : ReaderDisablementReason}
    (h : decodeReaderDisablementReason text = .ok r) :
    encodeReaderDisablementReason r = text := by
  unfold decodeReaderDisablementReason at h
  split at h <;> cases h <;> rfl

theorem encode_decodeReaderRevocationReason {text : String} {r : ReaderRevocationReason}
    (h : decodeReaderRevocationReason text = .ok r) : encodeReaderRevocationReason r = text := by
  unfold decodeReaderRevocationReason at h
  split at h <;> cases h <;> rfl

theorem decode_encodeReaderStatus (s : ReaderEquipmentStatus) :
    decodeReaderStatus (encodeReaderStatus s) = .ok s := by
  cases s <;> rfl

theorem decode_encodeReaderDisablementReason (r : ReaderDisablementReason) :
    decodeReaderDisablementReason (encodeReaderDisablementReason r) = .ok r := by
  cases r <;> rfl

theorem decode_encodeReaderRevocationReason (r : ReaderRevocationReason) :
    decodeReaderRevocationReason (encodeReaderRevocationReason r) = .ok r := by
  cases r <;> rfl

/-- A nullable column is read back when its values are. -/
theorem mapM_encode {α β : Type} {encode : α → β} {decode : β → Except PersistenceError α}
    (h : ∀ a, decode (encode a) = .ok a) (o : Option α) :
    (o.map encode).mapM decode = .ok o := by
  cases o with
  | none => rfl
  | some a =>
    rw [Option.map_some, Option.mapM_some, h]
    rfl

theorem map_of_mapM {α β : Type} {encode : α → β} {decode : β → Except PersistenceError α}
    (h : ∀ {b a}, decode b = .ok a → encode a = b) {stored : Option β} {o : Option α}
    (hread : stored.mapM decode = .ok o) : o.map encode = stored := by
  cases stored with
  | none =>
    cases hread
    rfl
  | some b =>
    rw [Option.mapM_some] at hread
    obtain ⟨a, ha, hread⟩ := map_eq_ok.mp hread
    rw [← hread, Option.map_some, h ha]

/-- A nullable column holds an admitted text when every text of its codec is one. -/
theorem all_map_encode {α : Type} {encode : α → String} {admitted : List String}
    (h : ∀ a, admitted.contains (encode a) = true) (o : Option α) :
    (o.map encode).all admitted.contains = true := by
  cases o with
  | none => rfl
  | some a => exact h a

end PostgresValueCodec

theorem decodeAggregateVersion_value (version : AggregateVersion) :
    decodeAggregateVersion version.value = .ok version := by
  rw [decodeAggregateVersion, AggregateVersion.new_value]
  rfl

/-! ## Accounts -/

namespace TransitAccountRow

/-- An open account reaches every status. -/
theorem restoreStatus_eq {account : TransitAccount} (h : account.status = .active)
    (status : TransitAccountStatus) :
    restoreStatus account status = .ok { account with status } := by
  cases status with
  | active =>
    rw [restoreStatus, ← h]
  | suspended =>
    rw [restoreStatus, TransitAccount.suspend, h]
    rfl
  | closed => rfl

theorem intoVersioned_fromDomain (account : TransitAccount) (version : AggregateVersion) :
    (fromDomain account version.value).intoVersioned = .ok ⟨account, version⟩ := by
  obtain ⟨id, riderId, status, eligibility, ⟨⟨minorUnits, currency⟩, hnonneg⟩⟩ := account
  have htrim : Text.trim (encodeCurrency currency) = encodeCurrency currency := by
    cases currency <;> rfl
  have hnew : TransitAccount.new id riderId eligibility (Money.fromMinorUnits minorUnits currency) =
      .ok ⟨id, riderId, .active, eligibility, ⟨⟨minorUnits, currency⟩, hnonneg⟩⟩ := by
    have hnonneg' : ¬ (Money.fromMinorUnits minorUnits currency).isNegative = true := by
      rw [Money.fromMinorUnits, hnonneg]
      decide
    rw [TransitAccount.new, StoredValueBalance.new, dif_neg hnonneg']
    rfl
  simp only [intoVersioned, fromDomain, StoredValueBalance.currency, decode_encodeAccountStatus,
    decode_encodeEligibility, htrim, decode_encodeCurrency, hnew, ok_bind, Except.mapError,
    restoreStatus_eq, decodeAggregateVersion_value]

theorem check_fromDomain (account : TransitAccount) (version : AggregateVersion) :
    (fromDomain account version.value).check = true := by
  have hstatus : ["active", "suspended", "closed"].contains
      (encodeAccountStatus account.status) = true := by
    cases account.status <;> decide
  have heligibility : ["standard", "youth", "senior", "reduced_fare",
      "employee_test_account"].contains (encodeEligibility account.eligibility) = true := by
    cases account.eligibility <;> decide
  have hcurrency : ["USD", "CAD", "EUR", "GBP"].contains
      (encodeCurrency account.storedValue.currency) = true := by
    cases account.storedValue.currency <;> decide
  have hunits : 0 ≤ account.storedValue.amount.minorUnits := by
    rw [Int64.le_iff_toInt_le, Int64.toInt_zero]
    exact Money.isNegative_eq_false.mp account.storedValue.nonneg
  simp only [check, fromDomain, hstatus, heligibility, hcurrency, hunits, version.pos,
    decide_true, Bool.and_self]

/-- A stored row that loads is the row of what it loads. -/
theorem fromDomain_of_intoVersioned {row : TransitAccountRow}
    {loaded : VersionedAggregate TransitAccount} (hcheck : row.check = true)
    (h : row.intoVersioned = .ok loaded) :
    fromDomain loaded.aggregate loaded.version.value = row := by
  simp only [intoVersioned, bind_eq_ok, mapError_eq_ok] at h
  obtain ⟨status, hstatus, eligibility, heligibility, currency, hcurrency, created, hcreated,
    account, haccount, version, hversion, h⟩ := h
  cases h
  -- the column has no blanks to trim, whatever its type pads
  have htrim : Text.trim row.storedValueCurrency = row.storedValueCurrency := by
    simp only [check, Bool.and_eq_true, List.contains_eq_mem, List.mem_cons, List.not_mem_nil,
      or_false, decide_eq_true_eq] at hcheck
    rcases hcheck.1.2 with hc | hc | hc | hc <;> rw [hc] <;> rfl
  have hvalue : version.value = row.aggregateVersion :=
    AggregateVersion.new_eq_some (orFail_eq_ok.mp hversion)
  simp only [TransitAccount.new, StoredValueBalance.new, bind_eq_ok, mapError_eq_ok] at hcreated
  obtain ⟨balance, hbalance, hcreated⟩ := hcreated
  split at hbalance
  · cases hbalance
  · cases hbalance
    cases hcreated
    rw [restoreStatus_eq rfl] at haccount
    cases haccount
    simp only [fromDomain, StoredValueBalance.currency, Money.fromMinorUnits, hvalue,
      encode_decodeAccountStatus hstatus, encode_decodeEligibility heligibility,
      encode_decodeCurrency hcurrency, htrim]

end TransitAccountRow

/-! ## Credentials -/

namespace FareCredentialRow

theorem validateLifecycleFields_eq_ok {status : FareCredentialStatus}
    {reason : Option RevocationReason} {successor : Option FareCredentialId} :
    validateLifecycleFields status reason successor = .ok () ↔
      reason.isSome = (status == .revoked) ∧ successor.isSome = (status == .replaced) := by
  cases status <;> cases reason <;> cases successor <;>
    simp [validateLifecycleFields, invalid]

theorem check_fromDomain (credential : FareCredential) (version : AggregateVersion) :
    (fromDomain credential version.value).check = true := by
  have hkind : ["card", "mobile", "development_test_token"].contains
      (encodeCredentialKind credential.kind) = true := by
    cases credential.kind <;> decide
  have hstatus : ["pending", "active", "suspended", "revoked", "expired", "replaced"].contains
      (encodeCredentialStatus credential.status) = true := by
    cases credential.status <;> decide
  have hreason : (credential.revocationReason.map encodeCredentialRevocationReason).all
      ["reported_lost", "reported_stolen", "replaced", "account_suspended",
        "administrative_action", "security_incident", "test_cleanup"].contains = true :=
    all_map_encode (fun reason => by cases reason <;> decide) _
  have hrevoked : (encodeCredentialStatus credential.status == "revoked") =
      (credential.status == .revoked) := by
    cases credential.status <;> decide
  have hreplaced : (encodeCredentialStatus credential.status == "replaced") =
      (credential.status == .replaced) := by
    cases credential.status <;> decide
  have hself : (credential.replacementId != some credential.id) = true :=
    bne_iff_ne.mpr credential.replacementId_ne
  simp only [check, fromDomain, hkind, hstatus, hreason, hrevoked, hreplaced, hself, version.pos,
    Option.isSome_map, credential.revocationReason_isSome, credential.replacementId_isSome,
    beq_self_eq_true, decide_true, Bool.and_self]

theorem fromDomain_of_intoVersioned {row : FareCredentialRow}
    {loaded : VersionedAggregate FareCredential} (hcheck : row.check = true)
    (h : row.intoVersioned = .ok loaded) :
    fromDomain loaded.aggregate loaded.version.value = row := by
  simp only [intoVersioned, bind_eq_ok] at h
  obtain ⟨kind, hkind, status, hstatus, reason, hreason, ⟨⟩, hfields, credential, hcredential,
    version, hversion, h⟩ := h
  cases h
  obtain ⟨hrevoked, hreplaced⟩ := validateLifecycleFields_eq_ok.mp hfields
  have hself : row.replacementId ≠ some row.id := by
    simp only [check, Bool.and_eq_true, bne_iff_ne] at hcheck
    exact hcheck.1.2
  have hvalue : version.value = row.aggregateVersion :=
    AggregateVersion.new_eq_some (orFail_eq_ok.mp hversion)
  -- the replay ends in the credential with the columns' values
  have hrestored := restoreStatus_newPending
    ⟨row.id, row.transitAccountId, kind, status, reason, row.replacementId, hrevoked, hreplaced,
      hself⟩
  rw [hcredential] at hrestored
  cases hrestored
  simp only [fromDomain, hvalue, encode_decodeCredentialKind hkind,
    encode_decodeCredentialStatus hstatus,
    map_of_mapM encode_decodeCredentialRevocationReason hreason]

end FareCredentialRow

/-! ## Equipment -/

namespace EquipmentRow

theorem validateLifecycleFields_eq_ok {status : ReaderEquipmentStatus}
    {disablement : Option ReaderDisablementReason} {revocation : Option ReaderRevocationReason} :
    validateLifecycleFields status disablement revocation = .ok () ↔
      disablement.isSome = (status == .disabled) ∧ revocation.isSome = (status == .revoked) := by
  cases status <;> cases disablement <;> cases revocation <;>
    simp [validateLifecycleFields, invalid]

/-- The replay of a status ends in the equipment that was saved. -/
theorem restoreStatus_newPending (reader : ReaderEquipment) :
    restoreStatus (.newPending reader.id reader.identity.keyId) reader.status
      reader.disablementReason reader.revocationReason = .ok reader := by
  obtain ⟨id, ⟨readerId, keyId⟩, status, disablement, revocation, hreader, hdisabled, hrevoked⟩ :=
    reader
  cases hreader
  cases status <;> cases disablement <;> cases hdisabled <;> cases revocation <;>
    cases hrevoked <;> rfl

theorem intoVersioned_fromDomain (reader : ReaderEquipment) (version : AggregateVersion) :
    (fromDomain reader version.value).intoVersioned = .ok ⟨reader, version⟩ := by
  have hfields : validateLifecycleFields reader.status reader.disablementReason
      reader.revocationReason = .ok () :=
    validateLifecycleFields_eq_ok.mpr
      ⟨reader.disablementReason_isSome, reader.revocationReason_isSome⟩
  simp only [intoVersioned, fromDomain, decode_encodeReaderStatus,
    mapM_encode decode_encodeReaderDisablementReason,
    mapM_encode decode_encodeReaderRevocationReason, ok_bind, hfields, restoreStatus_newPending,
    decodeAggregateVersion_value]

theorem check_fromDomain (reader : ReaderEquipment) (version : AggregateVersion) :
    (fromDomain reader version.value).check = true := by
  have hstatus : ["pending_registration", "active", "offline", "disabled", "revoked",
      "decommissioned"].contains (encodeReaderStatus reader.status) = true := by
    cases reader.status <;> decide
  have hdisablement : (reader.disablementReason.map encodeReaderDisablementReason).all
      ["suspected_compromise", "lost_equipment", "invalid_configuration",
        "administrative_action", "test_cleanup"].contains = true :=
    all_map_encode (fun reason => by cases reason <;> decide) _
  have hrevocation : (reader.revocationReason.map encodeReaderRevocationReason).all
      ["suspected_compromise", "credential_exposure", "administrative_action",
        "security_incident", "test_cleanup"].contains = true :=
    all_map_encode (fun reason => by cases reason <;> decide) _
  have hdisabled : (encodeReaderStatus reader.status == "disabled") =
      (reader.status == .disabled) := by
    cases reader.status <;> decide
  have hrevoked : (encodeReaderStatus reader.status == "revoked") =
      (reader.status == .revoked) := by
    cases reader.status <;> decide
  simp only [check, fromDomain, hstatus, hdisablement, hrevocation, hdisabled, hrevoked,
    version.pos, Option.isSome_map, reader.disablementReason_isSome,
    reader.revocationReason_isSome, beq_self_eq_true, decide_true, Bool.and_self]

theorem fromDomain_of_intoVersioned {row : EquipmentRow}
    {loaded : VersionedAggregate ReaderEquipment} (h : row.intoVersioned = .ok loaded) :
    fromDomain loaded.aggregate loaded.version.value = row := by
  simp only [intoVersioned, bind_eq_ok] at h
  obtain ⟨status, hstatus, disablement, hdisablement, revocation, hrevocation, ⟨⟩, hfields, reader,
    hreader, version, hversion, h⟩ := h
  cases h
  obtain ⟨hdisabled, hrevoked⟩ := validateLifecycleFields_eq_ok.mp hfields
  have hvalue : version.value = row.aggregateVersion :=
    AggregateVersion.new_eq_some (orFail_eq_ok.mp hversion)
  have hrestored := restoreStatus_newPending
    ⟨row.id, ⟨row.id, row.equipmentKeyId⟩, status, disablement, revocation, rfl, hdisabled,
      hrevoked⟩
  rw [hreader] at hrestored
  cases hrestored
  simp only [fromDomain, hvalue, encode_decodeReaderStatus hstatus,
    map_of_mapM encode_decodeReaderDisablementReason hdisablement,
    map_of_mapM encode_decodeReaderRevocationReason hrevocation]

end EquipmentRow

/-! ## Round trips -/

/-- The aggregates that a constructor and calls on its result can produce. -/
def Produced {α ι : Type} (constructed : α → Prop) (step : α → ι → α) (x : α) : Prop :=
  ∃ created operations, constructed created ∧ x = Runs.run step created operations

/-- Saving and loading are inverse to each other, and what is saved fits its
table. -/
structure RoundTrip {α ρ : Type} (produced : α → Prop) (fromDomain : α → Nat → ρ)
    (intoVersioned : ρ → Except PersistenceError (VersionedAggregate α)) (check : ρ → Prop) :
    Prop where
  loaded : ∀ x, produced x → ∀ version : AggregateVersion, version.value ≤ i64Max →
    intoVersioned (fromDomain x version.value) = .ok ⟨x, version⟩
  checked : ∀ x, produced x → ∀ version : AggregateVersion, version.value ≤ i64Max →
    check (fromDomain x version.value)
  saved : ∀ row loaded, check row → intoVersioned row = .ok loaded →
    fromDomain loaded.aggregate loaded.version.value = row

/-- Accounts, credentials and equipment survive saving and loading, and so do
their rows. -/
theorem aggregates_roundTrip :
    RoundTrip (Produced (fun account => ∃ id riderId eligibility initialBalance,
          TransitAccount.new id riderId eligibility initialBalance = .ok account)
        TransitAccount.step) TransitAccountRow.fromDomain TransitAccountRow.intoVersioned
        (fun row => row.check = true ∧ row.id.check = true ∧ row.riderId.check = true) ∧
      RoundTrip (Produced (fun credential => ∃ id accountId kind,
          FareCredential.newPending id accountId kind = credential) FareCredential.step)
        FareCredentialRow.fromDomain FareCredentialRow.intoVersioned
        (fun row => row.check = true ∧ row.id.check = true) ∧
      RoundTrip (Produced (fun reader => ∃ id keyId, ReaderEquipment.newPending id keyId = reader)
          ReaderEquipment.step) EquipmentRow.fromDomain EquipmentRow.intoVersioned
        (fun row => row.check = true ∧ row.id.check = true ∧ row.equipmentKeyId.check = true) := by
  refine ⟨⟨?_, ?_, ?_⟩, ⟨?_, ?_, ?_⟩, ⟨?_, ?_, ?_⟩⟩
  · exact fun account _ version _ => TransitAccountRow.intoVersioned_fromDomain account version
  · exact fun account _ version _ => ⟨TransitAccountRow.check_fromDomain account version,
      account.id.check_eq, account.riderId.check_eq⟩
  · exact fun row _ hcheck => TransitAccountRow.fromDomain_of_intoVersioned hcheck.1
  · exact fun credential _ version _ =>
      FareCredentialRow.intoVersioned_fromDomain credential version
  · exact fun credential _ version _ =>
      ⟨FareCredentialRow.check_fromDomain credential version, credential.id.check_eq⟩
  · exact fun row _ hcheck => FareCredentialRow.fromDomain_of_intoVersioned hcheck.1
  · exact fun reader _ version _ => EquipmentRow.intoVersioned_fromDomain reader version
  · exact fun reader _ version _ => ⟨EquipmentRow.check_fromDomain reader version,
      reader.id.check_eq, reader.identity.keyId.check_eq⟩
  · exact fun row _ _ => EquipmentRow.fromDomain_of_intoVersioned

end TransitGuard.Backend
