import Mathlib.Data.List.GetD
import TransitGuard.Library.Ascii
import TransitGuard.Library.Fallible

/-!
Byte arrays as text, two hexadecimal digits for each byte. Digits are written
in lowercase and read in either case, high digit first; the first byte of a
text that is no digit is reported with its position. The two ways in which
reading fails are parameters.
-/

namespace Hexadecimal

open Fallible

variable {ε δ α : Type} {n : Nat}

/-! ## The codec -/

def digits : List Char :=
  ['0', '1', '2', '3', '4', '5', '6', '7', '8', '9', 'a', 'b', 'c', 'd', 'e', 'f']

def digit (nibble : UInt8) : Char := digits.getD nibble.toNat '0'

def encode (bytes : Vector UInt8 n) : String :=
  String.ofList (bytes.toList.flatMap fun byte : UInt8 =>
    [digit (byte >>> 4), digit (byte &&& 0x0f)])

def decodeDigit (invalid : Nat → ε) (value : UInt8) (position : Nat) : Except ε UInt8 :=
  if 48 ≤ value ∧ value ≤ 57 then .ok (value - 48)
  else if 97 ≤ value ∧ value ≤ 102 then .ok (value - 97 + 10)
  else if 65 ≤ value ∧ value ≤ 70 then .ok (value - 65 + 10)
  else .error (invalid position)

/-- The two digits of one byte. -/
def decodePair (invalid : Nat → ε) (encoded : List UInt8) (index : Nat) : Except ε UInt8 := do
  let high ← decodeDigit invalid (encoded.getD (index * 2) 0) (index * 2)
  let low ← decodeDigit invalid (encoded.getD (index * 2 + 1) 0) (index * 2 + 1)
  .ok (high <<< 4 ||| low)

def decode (invalidLength invalid : Nat → ε) (n : Nat) (text : String) :
    Except ε (Vector UInt8 n) :=
  if Text.byteLength text ≠ n * 2 then .error (invalidLength (Text.byteLength text))
  else Vector.ofFnM fun index : Fin n => decodePair invalid (Text.bytes text) index

/-! ## Digits -/

def isDigit (b : UInt8) : Bool :=
  (48 ≤ b && b ≤ 57) || (97 ≤ b && b ≤ 102) || (65 ≤ b && b ≤ 70)

/-- The value of a digit. -/
def digitValue (b : UInt8) : UInt8 :=
  if b ≤ 57 then b - 48 else if 97 ≤ b then b - 97 + 10 else b - 65 + 10

theorem forall_byte {P : UInt8 → Prop} (h : ∀ m < 256, P (UInt8.ofNat m)) (b : UInt8) : P b := by
  have hb := h b.toNat b.toNat_lt
  rwa [UInt8.ofNat_toNat] at hb

theorem decodeDigit_of_isDigit {invalid : Nat → ε} {b : UInt8} (h : isDigit b = true)
    (position : Nat) : decodeDigit invalid b position = .ok (digitValue b) := by
  simp only [isDigit, Bool.or_eq_true, Bool.and_eq_true, decide_eq_true_eq,
    UInt8.le_iff_toNat_le] at h
  simp only [decodeDigit, digitValue, UInt8.le_iff_toNat_le]
  have h48 : (48 : UInt8).toNat = 48 := rfl
  have h57 : (57 : UInt8).toNat = 57 := rfl
  have h65 : (65 : UInt8).toNat = 65 := rfl
  have h70 : (70 : UInt8).toNat = 70 := rfl
  have h97 : (97 : UInt8).toNat = 97 := rfl
  have h102 : (102 : UInt8).toNat = 102 := rfl
  rcases h with (hdecimal | hlower) | hupper
  · rw [if_pos hdecimal, if_pos hdecimal.2]
  · rw [if_neg (by omega), if_pos hlower, if_neg (by omega), if_pos hlower.1]
  · rw [if_neg (by omega), if_neg (by omega), if_pos hupper, if_neg (by omega),
      if_neg (by omega)]

theorem decodeDigit_of_not {invalid : Nat → ε} {b : UInt8} (h : isDigit b = false)
    (position : Nat) : decodeDigit invalid b position = .error (invalid position) := by
  simp only [isDigit, Bool.or_eq_false_iff, Bool.and_eq_false_iff, decide_eq_false_iff_not] at h
  obtain ⟨⟨hdecimal, hlower⟩, hupper⟩ := h
  rw [decodeDigit, if_neg (not_and_or.mpr hdecimal), if_neg (not_and_or.mpr hlower),
    if_neg (not_and_or.mpr hupper)]

/-- The digit of a value is read back. -/
theorem digit_decoded : ∀ nibble : UInt8, nibble < 16 →
    isDigit (UInt8.ofNat (digit nibble).toNat) = true ∧
      digitValue (UInt8.ofNat (digit nibble).toNat) = nibble ∧ (digit nibble).toNat < 128 :=
  forall_byte (by decide +kernel)

/-- The value of a digit prints as the digit in lowercase. -/
theorem digitValue_printed : ∀ b : UInt8, isDigit b = true →
    digitValue b < 16 ∧ b.toNat < 128 ∧ digit (digitValue b) = (Char.ofNat b.toNat).toLower :=
  forall_byte (by decide +kernel)

/-- The digits of the text form are those of the byte form. -/
theorem isDigit_ofNat : ∀ b : UInt8, b.toNat < 128 →
    isDigit b = Text.isAsciiHexDigit (Char.ofNat b.toNat) :=
  forall_byte (by decide +kernel)

theorem nibbles_join : ∀ b : UInt8,
    b >>> 4 < 16 ∧ b &&& 0x0f < 16 ∧ (b >>> 4) <<< 4 ||| (b &&& 0x0f) = b :=
  forall_byte (by decide +kernel)

theorem nibbles_split {high low : UInt8} (hhigh : high < 16) (hlow : low < 16) :
    (high <<< 4 ||| low) >>> 4 = high ∧ (high <<< 4 ||| low) &&& 0x0f = low := by
  have h : ∀ h < 16, ∀ l < 16,
      (UInt8.ofNat h <<< 4 ||| UInt8.ofNat l) >>> 4 = UInt8.ofNat h ∧
        (UInt8.ofNat h <<< 4 ||| UInt8.ofNat l) &&& 0x0f = UInt8.ofNat l := by
    decide
  have hsplit := h high.toNat (UInt8.lt_iff_toNat_lt.mp hhigh) low.toNat
    (UInt8.lt_iff_toNat_lt.mp hlow)
  rwa [UInt8.ofNat_toNat, UInt8.ofNat_toNat] at hsplit

/-! ## Loops that fill an array -/

/-- A fallible array fails as its first failing entry does. -/
theorem ofFnM_eq_error {f : Fin n → Except ε α} {e : ε} {i : Fin n} (hfails : f i = .error e)
    (hbefore : ∀ j < i, ∃ a, f j = .ok a) : Vector.ofFnM f = .error e := by
  induction n with
  | zero => exact i.elim0
  | succ n ih =>
    rw [Vector.ofFnM_succ]
    cases i using Fin.lastCases with
    | cast k =>
      rw [ih hfails fun j hj => hbefore j.castSucc (Fin.castSucc_lt_castSucc_iff.mpr hj)]
      rfl
    | last =>
      choose g hg using fun j : Fin n => hbefore j.castSucc (Fin.castSucc_lt_last j)
      have hinit : (fun j : Fin n => f j.castSucc) = fun j => pure (g j) := funext hg
      rw [hinit, Vector.ofFnM_pure, hfails]
      rfl

theorem ofFnM_eq_ok {f : Fin n → Except ε α} {g : Fin n → α} (h : ∀ i, f i = .ok (g i)) :
    Vector.ofFnM f = .ok (Vector.ofFn g) := by
  rw [show f = fun i => pure (g i) from funext h, Vector.ofFnM_pure]
  rfl

/-! ## What is read -/

/-- The byte of two digits. -/
def pairValue (encoded : List UInt8) (index : Nat) : UInt8 :=
  digitValue (encoded.getD (index * 2) 0) <<< 4 ||| digitValue (encoded.getD (index * 2 + 1) 0)

theorem decodePair_of_isDigit {invalid : Nat → ε} {encoded : List UInt8} {index : Nat}
    (hhigh : isDigit (encoded.getD (index * 2) 0) = true)
    (hlow : isDigit (encoded.getD (index * 2 + 1) 0) = true) :
    decodePair invalid encoded index = .ok (pairValue encoded index) := by
  rw [decodePair, decodeDigit_of_isDigit hhigh, ok_bind, decodeDigit_of_isDigit hlow, ok_bind]
  rfl

/-- The pair of the first byte that is no digit names it, be it the high or the
low one. -/
theorem decodePair_of_first {invalid : Nat → ε} {encoded : List UInt8} {position : Nat}
    (hfirst : isDigit (encoded.getD position 0) = false)
    (hbefore : ∀ q < position, isDigit (encoded.getD q 0) = true) :
    decodePair invalid encoded (position / 2) = .error (invalid position) := by
  rcases Nat.mod_two_eq_zero_or_one position with heven | hodd
  · have hposition : position / 2 * 2 = position := by omega
    rw [decodePair, hposition, decodeDigit_of_not hfirst]
    rfl
  · have hposition : position / 2 * 2 + 1 = position := by omega
    rw [decodePair, decodeDigit_of_isDigit (hbefore _ (by omega)), ok_bind, hposition,
      decodeDigit_of_not hfirst]
    rfl

/-- Reading fails at the first byte that is no digit, and otherwise reads the
value of every pair. -/
theorem decode_eq (invalidLength invalid : Nat → ε) (n : Nat) (text : String) :
    decode invalidLength invalid n text =
      if Text.byteLength text ≠ n * 2 then .error (invalidLength (Text.byteLength text))
      else match (Text.bytes text).findIdx? fun b => !isDigit b with
        | some position => .error (invalid position)
        | none => .ok (Vector.ofFn fun i : Fin n => pairValue (Text.bytes text) i) := by
  unfold decode
  by_cases hlength : Text.byteLength text ≠ n * 2
  · rw [if_pos hlength, if_pos hlength]
  rw [if_neg hlength, if_neg hlength]
  rw [not_not, ← Text.length_bytes] at hlength
  generalize Text.bytes text = encoded at hlength
  split
  · next position hfirst =>
    obtain ⟨hlt, hinvalid, hbefore⟩ := List.findIdx?_eq_some_iff_getElem.mp hfirst
    have hinvalid : isDigit (encoded.getD position 0) = false := by
      rw [List.getD_eq_getElem _ _ hlt]
      simpa using hinvalid
    have hbefore : ∀ q < position, isDigit (encoded.getD q 0) = true := by
      intro q hq
      rw [List.getD_eq_getElem _ _ (hq.trans hlt)]
      simpa using hbefore q hq
    refine ofFnM_eq_error (i := ⟨position / 2, by omega⟩)
      (decodePair_of_first hinvalid hbefore) fun j hj => ?_
    have hj : j.val < position / 2 := hj
    exact ⟨_, decodePair_of_isDigit (hbefore _ (by omega)) (hbefore _ (by omega))⟩
  · next hnone =>
    have hdigits : ∀ q < encoded.length, isDigit (encoded.getD q 0) = true := by
      intro q hq
      rw [List.getD_eq_getElem _ _ hq]
      simpa using List.findIdx?_eq_none_iff.mp hnone _ (List.getElem_mem hq)
    refine ofFnM_eq_ok fun i => ?_
    have hi := i.isLt
    exact decodePair_of_isDigit (hdigits _ (by omega)) (hdigits _ (by omega))

/-- Other errors make no other difference. -/
theorem mapError_decode (f : ε → δ) (invalidLength invalid : Nat → ε) (n : Nat) (text : String) :
    (decode invalidLength invalid n text).mapError f =
      decode (fun length => f (invalidLength length)) (fun position => f (invalid position))
        n text := by
  rw [decode_eq, decode_eq]
  split
  · rfl
  · split <;> rfl

theorem isDigit_ofNat_toNat {c : Char} (h : c.toNat < 128) :
    isDigit (UInt8.ofNat c.toNat) = Text.isAsciiHexDigit c := by
  have hbyte := Text.toNat_ofNat_of_ascii h
  rw [isDigit_ofNat _ (by omega), hbyte, Char.ofNat_toNat]

/-- Texts of digits in bytes are texts of digits in characters. -/
theorem digits_iff {text : String} :
    (Text.byteLength text = n ∧ ∀ b ∈ Text.bytes text, isDigit b = true) ↔
      text.toList.length = n ∧ ∀ c ∈ text.toList, Text.isAsciiHexDigit c = true := by
  constructor
  · rintro ⟨hlength, hdigits⟩
    have hascii := Text.ascii_of_bytes fun b hb => (digitValue_printed b (hdigits b hb)).2.1
    rw [← Text.length_bytes, Text.bytes_of_ascii hascii, List.length_map] at hlength
    refine ⟨hlength, fun c hc => ?_⟩
    rw [← isDigit_ofNat_toNat (hascii c hc)]
    apply hdigits
    rw [Text.bytes_of_ascii hascii]
    exact List.mem_map_of_mem hc
  · rintro ⟨hlength, hdigits⟩
    have hascii : ∀ c ∈ text.toList, c.toNat < 128 := fun c hc =>
      Text.ascii_of_isAsciiHexDigit (hdigits c hc)
    rw [← Text.length_bytes, Text.bytes_of_ascii hascii, List.length_map]
    refine ⟨hlength, fun b hb => ?_⟩
    obtain ⟨c, hc, rfl⟩ := List.mem_map.mp hb
    rw [isDigit_ofNat_toNat (hascii c hc)]
    exact hdigits c hc

/-- What is read is two digits for each byte, and nothing else. -/
theorem exists_decode_iff {invalidLength invalid : Nat → ε} {text : String} :
    (∃ bytes, decode invalidLength invalid n text = .ok bytes) ↔
      text.toList.length = n * 2 ∧ ∀ c ∈ text.toList, Text.isAsciiHexDigit c = true := by
  rw [← digits_iff, decode_eq]
  by_cases hlength : Text.byteLength text = n * 2
  · rw [if_neg (not_not.mpr hlength)]
    split
    · next position hfirst =>
      obtain ⟨hlt, hinvalid, -⟩ := List.findIdx?_eq_some_iff_getElem.mp hfirst
      constructor
      · rintro ⟨bytes, h⟩
        cases h
      · rintro ⟨-, hdigits⟩
        rw [hdigits _ (List.getElem_mem hlt)] at hinvalid
        cases hinvalid
    · next hnone =>
      have hdigits : ∀ b ∈ Text.bytes text, isDigit b = true := by
        simpa using List.findIdx?_eq_none_iff.mp hnone
      exact ⟨fun _ => ⟨hlength, hdigits⟩, fun _ => ⟨_, rfl⟩⟩
  · rw [if_pos hlength]
    constructor
    · rintro ⟨bytes, h⟩
      cases h
    · rintro ⟨hlength', -⟩
      exact absurd hlength' hlength

/-- A text of the right length that is not read names its first byte that is no
digit. -/
theorem decode_eq_invalid {invalidLength invalid : Nat → ε} {text : String}
    (hlength : Text.byteLength text = n * 2)
    (h : ¬ ∃ bytes, decode invalidLength invalid n text = .ok bytes) :
    ∃ position, decode invalidLength invalid n text = .error (invalid position) ∧
      (Text.bytes text).findIdx? (fun b => !isDigit b) = some position := by
  rw [decode_eq, if_neg (not_not.mpr hlength)] at h ⊢
  split at h
  · next position hfirst =>
    rw [hfirst]
    exact ⟨position, rfl, rfl⟩
  · exact absurd ⟨_, rfl⟩ h

/-! ## Round trips -/

theorem getD_pairs {f g : α → UInt8} {xs : List α} {i : Nat} (hi : i < xs.length) :
    (xs.flatMap fun x => [f x, g x]).getD (i * 2) 0 = f (xs.get ⟨i, hi⟩) ∧
      (xs.flatMap fun x => [f x, g x]).getD (i * 2 + 1) 0 = g (xs.get ⟨i, hi⟩) := by
  induction xs generalizing i with
  | nil => cases hi
  | cons x xs ih =>
    cases i with
    | zero => exact ⟨rfl, rfl⟩
    | succ i =>
      rw [Nat.succ_mul]
      exact ih (Nat.lt_of_succ_lt_succ hi)

theorem bytes_encode (bytes : Vector UInt8 n) :
    Text.bytes (encode bytes) = bytes.toList.flatMap fun byte : UInt8 =>
      [UInt8.ofNat (digit (byte >>> 4)).toNat, UInt8.ofNat (digit (byte &&& 0x0f)).toNat] := by
  have hascii : ∀ c ∈ bytes.toList.flatMap fun byte : UInt8 =>
      [digit (byte >>> 4), digit (byte &&& 0x0f)], c.toNat < 128 := by
    intro c hc
    obtain ⟨byte, -, hc⟩ := List.mem_flatMap.mp hc
    obtain ⟨hhigh, hlow, -⟩ := nibbles_join byte
    rw [List.mem_cons, List.mem_singleton] at hc
    rcases hc with rfl | rfl
    · exact (digit_decoded _ hhigh).2.2
    · exact (digit_decoded _ hlow).2.2
  rw [encode, Text.bytes_ofList, Text.flatMap_of_ascii hascii, List.map_flatMap]
  rfl

theorem decode_encode (invalidLength invalid : Nat → ε) (bytes : Vector UInt8 n) :
    decode invalidLength invalid n (encode bytes) = .ok bytes := by
  have hlength : Text.byteLength (encode bytes) = n * 2 := by
    rw [← Text.length_bytes, bytes_encode]
    simp
  have hdigits : (Text.bytes (encode bytes)).findIdx? (fun b => !isDigit b) = none := by
    rw [List.findIdx?_eq_none_iff, bytes_encode]
    intro b hb
    obtain ⟨byte, -, hb⟩ := List.mem_flatMap.mp hb
    obtain ⟨hhigh, hlow, -⟩ := nibbles_join byte
    rw [List.mem_cons, List.mem_singleton] at hb
    rcases hb with rfl | rfl
    · rw [(digit_decoded _ hhigh).1]
      rfl
    · rw [(digit_decoded _ hlow).1]
      rfl
  rw [decode_eq, if_neg (not_not.mpr hlength), hdigits]
  refine congrArg Except.ok (Vector.ext fun i hi => ?_)
  have hi' : i < bytes.toList.length := by rwa [Vector.length_toList]
  obtain ⟨hhigh, hlow, hjoin⟩ := nibbles_join bytes[i]
  have hget : bytes.toList.get ⟨i, hi'⟩ = bytes[i] := by simp
  rw [Vector.getElem_ofFn, pairValue, bytes_encode, (getD_pairs hi').1, (getD_pairs hi').2, hget,
    (digit_decoded _ hhigh).2.1, (digit_decoded _ hlow).2.1, hjoin]

/-- Printing what was read gives the digits back in lowercase. -/
theorem flatMap_pairValue {encoded : List UInt8} (hlength : encoded.length = n * 2)
    (hdigits : ∀ b ∈ encoded, isDigit b = true) :
    (List.ofFn fun i : Fin n => pairValue encoded i).flatMap (fun byte : UInt8 =>
      [digit (byte >>> 4), digit (byte &&& 0x0f)]) =
        encoded.map fun b => (Char.ofNat b.toNat).toLower := by
  induction n generalizing encoded with
  | zero =>
    rw [Nat.zero_mul, List.length_eq_zero_iff] at hlength
    subst hlength
    rfl
  | succ n ih =>
    obtain ⟨high, low, rest, rfl⟩ : ∃ high low rest, encoded = high :: low :: rest := by
      cases encoded with
      | nil => rw [List.length_nil] at hlength; omega
      | cons high encoded =>
        cases encoded with
        | nil => rw [List.length_singleton] at hlength; omega
        | cons low rest => exact ⟨high, low, rest, rfl⟩
    simp only [List.forall_mem_cons] at hdigits
    obtain ⟨hhigh, hlow, hrest⟩ := hdigits
    obtain ⟨hhigh, -, hhighPrinted⟩ := digitValue_printed high hhigh
    obtain ⟨hlow, -, hlowPrinted⟩ := digitValue_printed low hlow
    have hhead : pairValue (high :: low :: rest) (0 : Fin (n + 1)) =
        digitValue high <<< 4 ||| digitValue low := rfl
    have htail : ∀ i : Fin n, pairValue (high :: low :: rest) i.succ = pairValue rest i := by
      intro i
      simp only [pairValue, Fin.val_succ, Nat.succ_mul]
      rfl
    have hlength' : rest.length = n * 2 := by
      simp only [List.length_cons] at hlength
      omega
    rw [List.ofFn_succ, List.flatMap_cons, hhead, (nibbles_split hhigh hlow).1,
      (nibbles_split hhigh hlow).2, hhighPrinted, hlowPrinted]
    simp only [htail, ih hlength' hrest]
    rfl

theorem encode_of_decode {invalidLength invalid : Nat → ε} {text : String}
    {bytes : Vector UInt8 n} (h : decode invalidLength invalid n text = .ok bytes) :
    encode bytes = text.toLower := by
  obtain ⟨hlength, hdigits⟩ := digits_iff.mpr (exists_decode_iff.mp ⟨bytes, h⟩)
  have hnone : (Text.bytes text).findIdx? (fun b => !isDigit b) = none :=
    List.findIdx?_eq_none_iff.mpr fun b hb => by rw [hdigits b hb]; rfl
  have hascii := Text.ascii_of_bytes fun b hb => (digitValue_printed b (hdigits b hb)).2.1
  rw [decode_eq, if_neg (not_not.mpr hlength), hnone] at h
  cases h
  rw [← Text.length_bytes] at hlength
  have hlower : text.toLower.toList = text.toList.map Char.toLower := String.toList_map
  rw [← String.toList_inj, hlower, encode, String.toList_ofList, Vector.toList_ofFn,
    flatMap_pairValue hlength hdigits, Text.bytes_of_ascii hascii, List.map_map]
  refine List.map_congr_left fun c hc => ?_
  rw [Function.comp_apply, Text.toNat_ofNat_of_ascii (hascii c hc), Char.ofNat_toNat]

end Hexadecimal
