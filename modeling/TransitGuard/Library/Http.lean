import TransitGuard.Library.Ascii
import Mathlib.Data.List.TakeWhile

/-!
HTTP messages as the programs at both ends see them: header maps that are asked
for a name in any case, header values that are text only where every byte is
visible, numbers in header values, and bodies that arrive in chunks of any size
and may break off.
-/

namespace Http

open Text

/-! ## Header maps -/

/-- `char::to_ascii_lowercase`. -/
def asciiLowercase (c : Char) : Char :=
  if 'A' ≤ c && c ≤ 'Z' then Char.ofNat (c.toNat + 32) else c

/-- `str::eq_ignore_ascii_case`. -/
def eqIgnoreAsciiCase (s t : String) : Bool :=
  s.toList.map asciiLowercase == t.toList.map asciiLowercase

/-- The names of a message with their values, in the order of their arrival. -/
abbrev HeaderMap := List (String × List UInt8)

/-- `HeaderMap::get`: the first value under a name. -/
def get (headers : HeaderMap) (name : String) : Option (List UInt8) :=
  (headers.find? fun header => eqIgnoreAsciiCase header.1 name).map (·.2)

/-- `is_visible_ascii`. -/
def isVisible (b : UInt8) : Bool := (32 ≤ b && b < 127) || b == 9

/-- `HeaderValue::to_str`. -/
def toStr (value : List UInt8) : Option String :=
  if value.all isVisible then some (String.ofList (value.map fun b => Char.ofNat b.toNat))
  else none

/-- Text that a header value carries unchanged. -/
def Visible (s : String) : Prop := ∀ c ∈ s.toList, 32 ≤ c.toNat ∧ c.toNat < 127

@[simp] theorem eqIgnoreAsciiCase_self (s : String) : eqIgnoreAsciiCase s s = true := by
  simp [eqIgnoreAsciiCase]

theorem get_cons_self (name : String) (value : List UInt8) (headers : HeaderMap) :
    get ((name, value) :: headers) name = some value := by
  simp [get]

theorem get_cons_of_ne {name other : String} (h : eqIgnoreAsciiCase other name = false)
    (value : List UInt8) (headers : HeaderMap) :
    get ((other, value) :: headers) name = get headers name := by
  simp [get, h]

theorem toStr_bytes {s : String} (h : Visible s) : toStr (bytes s) = some s := by
  have hascii : ∀ c ∈ s.toList, c.toNat < 128 := fun c hc => by
    have := (h c hc).2
    omega
  have hvisible : ∀ c ∈ s.toList, isVisible (UInt8.ofNat c.toNat) = true := by
    intro c hc
    obtain ⟨hlow, hhigh⟩ := h c hc
    have hnat := toNat_ofNat_of_ascii (hascii c hc)
    simp only [isVisible, Bool.or_eq_true, Bool.and_eq_true, decide_eq_true_eq,
      UInt8.le_iff_toNat_le, UInt8.lt_iff_toNat_lt, hnat]
    left
    show 32 ≤ c.toNat ∧ c.toNat < 127
    omega
  have hback : ∀ c ∈ s.toList, Char.ofNat (UInt8.ofNat c.toNat).toNat = c := by
    intro c hc
    rw [toNat_ofNat_of_ascii (hascii c hc), Char.ofNat_toNat]
  rw [bytes_of_ascii hascii, toStr, if_pos, List.map_map]
  · congr 1
    have hid : s.toList.map ((fun b : UInt8 => Char.ofNat b.toNat) ∘
        fun c => UInt8.ofNat c.toNat) = s.toList := by
      conv_rhs => rw [← List.map_id s.toList]
      exact List.map_congr_left hback
    rw [hid, String.ofList_toList]
  · simpa [List.all_map] using hvisible

/-! ## Numbers in header values -/

/-- `str::parse` into an unsigned integer below `bound`: a plus sign may stand
before the digits. -/
def parseUnsigned (bound : Nat) (text : String) : Option Nat :=
  let digits := match text.toList with
    | '+' :: rest => rest
    | characters => characters
  if digits.isEmpty || !digits.all Char.isDigit then none
  else
    let n := Nat.ofDigitChars 10 digits 0
    if n < bound then some n else none

theorem visible_toString (n : Nat) : Visible (toString n) := by
  intro c hc
  have hdigit : c.isDigit = true := by
    rw [Nat.toString_eq_repr, Nat.toList_repr] at hc
    exact Nat.isDigit_of_mem_toDigits (by decide) (by decide) hc
  simp only [Char.isDigit, Bool.and_eq_true, decide_eq_true_eq, ge_iff_le,
    UInt32.le_iff_toNat_le] at hdigit
  have hvalue : c.val.toNat = c.toNat := rfl
  have hzero : '0'.val.toNat = 48 := rfl
  have hnine : '9'.val.toNat = 57 := rfl
  omega

theorem parseUnsigned_toString {bound n : Nat} (h : n < bound) :
    parseUnsigned bound (toString n) = some n := by
  have hlist : (toString n).toList = Nat.toDigits 10 n := by
    rw [Nat.toString_eq_repr, Nat.toList_repr]
  have hdigits : ∀ c ∈ Nat.toDigits 10 n, c.isDigit = true := fun c hc =>
    Nat.isDigit_of_mem_toDigits (by decide) (by decide) hc
  obtain ⟨c, cs, hcs⟩ := List.exists_cons_of_ne_nil (Nat.toDigits_ne_nil (b := 10) (n := n))
  have hplus : c ≠ '+' := by
    rintro rfl
    have := hdigits '+' (by simp [hcs])
    simp at this
  have hstripped : (match c :: cs with
      | '+' :: rest => rest
      | characters => characters) = c :: cs := by
    split
    · next heq => exact absurd (List.cons.inj heq).1 hplus
    · rfl
  rw [parseUnsigned, hlist, hcs]
  simp only [hstripped]
  rw [hcs] at hdigits
  have hvalue : Nat.ofDigitChars 10 (c :: cs) 0 = n := by
    rw [← hcs, Nat.ofDigitChars_ten_toDigits]
  rw [if_neg, hvalue, if_pos h]
  simpa using hdigits

/-! ## Bodies -/

/-- A body as it arrives: chunks, and then its end or a failure. -/
inductive Body (ε : Type*)
  | ended
  | failed (e : ε)
  | chunk (bytes : List UInt8) (rest : Body ε)

namespace Body

variable {ε : Type*}

/-- The body that arrives in the chunks `chunks`, and ends or breaks off behind
them. -/
def ofChunks (cut : Option ε) : List (List UInt8) → Body ε
  | [] => match cut with
    | none => ended
    | some e => failed e
  | bytes :: rest => chunk bytes (ofChunks cut rest)

end Body

/-! ## Messages -/

structure HttpRequest where
  headers : HeaderMap
  body : List UInt8
  deriving DecidableEq

/-- A response; a sender has its body as a whole, a receiver as a `Body`. -/
structure HttpResponse (β : Type*) where
  status : Nat
  headers : HeaderMap
  body : β

end Http
