import Mathlib.Data.BitVec

/-!
Identifiers of the domain. Every identifier type of the source is the same
wrapper around a version 7 UUID; a value of the type is a UUID that passed
`validate`. Identifiers are stored and transported as their text form, which
the `uuid` crate parses back, so rows and messages carry the identifier itself.
-/

namespace TransitGuard

/-- The checks of `validate`: not nil, RFC 9562 variant, version 7. -/
def isVersionSeven (uuid : BitVec 128) : Bool :=
  uuid != 0 && uuid.extractLsb' 62 2 == 2#2 && uuid.extractLsb' 76 4 == 7#4

structure Identifier where
  uuid : BitVec 128
  valid : isVersionSeven uuid = true
  deriving DecidableEq

structure ReaderId extends Identifier
  deriving DecidableEq

structure FareTransactionId extends Identifier
  deriving DecidableEq

structure FareCredentialId extends Identifier
  deriving DecidableEq

structure TransitAccountId extends Identifier
  deriving DecidableEq

structure RiderId extends Identifier
  deriving DecidableEq

structure EquipmentKeyId extends Identifier
  deriving DecidableEq

structure DomainEventId extends Identifier
  deriving DecidableEq

structure SynchronizationBatchId extends Identifier
  deriving DecidableEq

structure FarePolicyId extends Identifier
  deriving DecidableEq

structure TransitProductId extends Identifier
  deriving DecidableEq

structure TransitProductInstanceId extends Identifier
  deriving DecidableEq

/-! ## Text forms -/

def hexDigits (n : Nat) : Nat → List Char
  | 0 => []
  | width + 1 => hexDigits (n / 16) width ++ [Nat.digitChar (n % 16)]

/-- The hyphenated lowercase form printed by `Display`. -/
def Identifier.toText (i : Identifier) : String :=
  let digits := hexDigits i.uuid.toNat 32
  String.ofList (digits.take 8 ++ '-' :: (digits.drop 8).take 4 ++ '-' :: (digits.drop 12).take 4 ++
    '-' :: (digits.drop 16).take 4 ++ '-' :: digits.drop 20)

theorem length_hexDigits (n width : Nat) : (hexDigits n width).length = width := by
  induction width generalizing n with
  | zero => rfl
  | succ width ih => rw [hexDigits, List.length_append, ih, List.length_singleton]

theorem Identifier.length_toText (i : Identifier) : i.toText.toList.length = 36 := by
  simp [Identifier.toText, length_hexDigits]

theorem forall_mem_hexDigits {P : Char → Prop} (hdigit : ∀ d < 16, P (Nat.digitChar d))
    {n width : Nat} {c : Char} (h : c ∈ hexDigits n width) : P c := by
  induction width generalizing n with
  | zero => cases h
  | succ width ih =>
    rw [hexDigits, List.mem_append, List.mem_singleton] at h
    rcases h with h | rfl
    · exact ih h
    · exact hdigit (n % 16) (Nat.mod_lt _ (by decide))

/-- A text form holds hexadecimal digits and hyphens only. -/
theorem Identifier.forall_mem_toText {P : Char → Prop} (hdigit : ∀ d < 16, P (Nat.digitChar d))
    (hhyphen : P '-') (i : Identifier) : ∀ c ∈ i.toText.toList, P c := by
  intro c hc
  simp only [Identifier.toText, String.toList_ofList, List.mem_append, List.mem_cons] at hc
  have hpiece : ∀ {l : List Char}, l ⊆ hexDigits i.uuid.toNat 32 → c ∈ l → P c :=
    fun hsubset hmem => forall_mem_hexDigits hdigit (hsubset hmem)
  have hpart : ∀ k m, ((hexDigits i.uuid.toNat 32).drop k).take m ⊆ hexDigits i.uuid.toNat 32 :=
    fun k m c hc => List.drop_subset k _ (List.take_subset m _ hc)
  rcases hc with (((hc | rfl | hc) | rfl | hc) | rfl | hc) | rfl | hc
  · exact hpiece (List.take_subset 8 _) hc
  · exact hhyphen
  · exact hpiece (hpart 8 4) hc
  · exact hhyphen
  · exact hpiece (hpart 12 4) hc
  · exact hhyphen
  · exact hpiece (hpart 16 4) hc
  · exact hhyphen
  · exact hpiece (List.drop_subset 20 _) hc

/-- The pieces between the hyphens. -/
theorem append_pieces (digits : List Char) :
    digits.take 8 ++ ((digits.drop 8).take 4 ++ ((digits.drop 12).take 4 ++
      ((digits.drop 16).take 4 ++ digits.drop 20))) = digits := by
  have hfour : ∀ k, (digits.drop k).take 4 ++ digits.drop (k + 4) = digits.drop k := by
    intro k
    rw [← List.drop_drop, List.take_append_drop]
  rw [hfour 16, hfour 12, hfour 8, List.take_append_drop]

/-! ## Reading a text form -/

def hexValue (c : Char) : Option Nat :=
  if '0' ≤ c ∧ c ≤ '9' then some (c.toNat - 48)
  else if 'a' ≤ c ∧ c ≤ 'f' then some (c.toNat - 87)
  else if 'A' ≤ c ∧ c ≤ 'F' then some (c.toNat - 55)
  else none

def parseHexDigits (n : Nat) : List Char → Option Nat
  | [] => some n
  | c :: cs => (hexValue c).bind fun digit => parseHexDigits (16 * n + digit) cs

def parseHyphenated (cs : List Char) : Option Nat :=
  if cs[8]? = some '-' ∧ cs[13]? = some '-' ∧ cs[18]? = some '-' ∧ cs[23]? = some '-' then
    parseHexDigits 0 (cs.take 8 ++ (cs.drop 9).take 4 ++ (cs.drop 14).take 4 ++
      (cs.drop 19).take 4 ++ cs.drop 24)
  else none

/-- `Uuid::parse_str`: simple, hyphenated, in braces, or a URN. -/
def parseUuid (text : String) : Option (BitVec 128) :=
  let cs := text.toList
  let value :=
    if cs.length = 32 then parseHexDigits 0 cs
    else if cs.length = 36 then parseHyphenated cs
    else if cs.length = 38 ∧ cs.head? = some '\x7b' ∧ cs.getLast? = some '\x7d' then
      parseHyphenated cs.tail.dropLast
    else if cs.length = 45 ∧ cs.take 9 = "urn:uuid:".toList then parseHyphenated (cs.drop 9)
    else none
  value.map (BitVec.ofNat 128)

/-- `Deserialize` of an identifier, `validate` included. -/
def Identifier.parse (text : String) : Option Identifier :=
  (parseUuid text).bind fun uuid =>
    if h : isVersionSeven uuid = true then some ⟨uuid, h⟩ else none

theorem parseHexDigits_append (n : Nat) (cs ds : List Char) :
    parseHexDigits n (cs ++ ds) = (parseHexDigits n cs).bind (parseHexDigits · ds) := by
  induction cs generalizing n with
  | nil => rfl
  | cons c cs ih =>
    rw [List.cons_append, parseHexDigits, parseHexDigits, Option.bind_assoc]
    exact congrArg _ (funext fun digit => ih _)

theorem parseHexDigits_hexDigits (m n width : Nat) :
    parseHexDigits m (hexDigits n width) = some (m * 16 ^ width + n % 16 ^ width) := by
  have hdigit : ∀ d < 16, hexValue (Nat.digitChar d) = some d := by decide
  induction width generalizing n with
  | zero => rw [hexDigits, parseHexDigits, Nat.pow_zero, Nat.mod_one, Nat.mul_one, Nat.add_zero]
  | succ width ih =>
    rw [hexDigits, parseHexDigits_append, ih, Option.bind_some, parseHexDigits,
      hdigit _ (Nat.mod_lt _ (by decide)), Option.bind_some, parseHexDigits, Nat.pow_succ',
      Nat.mod_mul]
    congr 1
    rw [Nat.mul_add, Nat.mul_left_comm]
    omega

theorem parseHyphenated_eq {a b c d e : List Char} (ha : a.length = 8) (hb : b.length = 4)
    (hc : c.length = 4) (hd : d.length = 4) :
    parseHyphenated (a ++ '-' :: b ++ '-' :: c ++ '-' :: d ++ '-' :: e) =
      parseHexDigits 0 (a ++ b ++ c ++ d ++ e) := by
  simp only [parseHyphenated, List.append_assoc, List.cons_append]
  simp [List.take_append, List.drop_append, List.getElem?_append, ha, hb, hc, hd]
  simp (disch := omega) only [List.drop_eq_nil_of_le, List.take_nil, List.nil_append]

theorem parseUuid_toText (i : Identifier) : parseUuid i.toText = some i.uuid := by
  have hlength : (hexDigits i.uuid.toNat 32).length = 32 := length_hexDigits _ _
  have htext : i.toText.toList.length = 36 := i.length_toText
  have hvalue : i.uuid.toNat < 16 ^ 32 := i.uuid.isLt.trans_eq (by decide)
  have hhyphenated : parseHyphenated i.toText.toList = some i.uuid.toNat := by
    rw [Identifier.toText, String.toList_ofList, parseHyphenated_eq, List.append_assoc,
      List.append_assoc, List.append_assoc, append_pieces, parseHexDigits_hexDigits, Nat.zero_mul,
      Nat.zero_add, Nat.mod_eq_of_lt hvalue]
    all_goals simp [hlength]
  simp only [parseUuid, htext, hhyphenated, Nat.reduceEqDiff, if_false, if_true, Option.map_some,
    BitVec.ofNat_toNat, BitVec.setWidth_eq]

/-- What is printed is read back. -/
theorem Identifier.parse_toText (i : Identifier) : Identifier.parse i.toText = some i := by
  rw [Identifier.parse, parseUuid_toText, Option.bind_some, dif_pos i.valid]

theorem Identifier.toText_inj {i j : Identifier} (h : i.toText = j.toText) : i = j := by
  rw [← Option.some_inj, ← i.parse_toText, h, j.parse_toText]

theorem ReaderId.toText_inj {a b : ReaderId} (h : a.toText = b.toText) : a = b := by
  cases a
  cases b
  rw [ReaderId.mk.injEq]
  exact Identifier.toText_inj h

theorem FareTransactionId.toText_inj {a b : FareTransactionId} (h : a.toText = b.toText) :
    a = b := by
  cases a
  cases b
  rw [FareTransactionId.mk.injEq]
  exact Identifier.toText_inj h

theorem SynchronizationBatchId.toText_inj {a b : SynchronizationBatchId}
    (h : a.toText = b.toText) : a = b := by
  cases a
  cases b
  rw [SynchronizationBatchId.mk.injEq]
  exact Identifier.toText_inj h

end TransitGuard
