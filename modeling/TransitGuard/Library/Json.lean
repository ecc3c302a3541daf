import TransitGuard.Library.Text

/-!
The JSON values of `serde_json` and its compact printer. Printing is written
out except for floats; parsing and float formatting are the two parts of the
crate that stay parameters (`Codec`).
-/

namespace Json

open Text

/-- `serde_json::Number`: unsigned, negative, or the bits of a finite float. -/
inductive Number
  | posInt (n : UInt64)
  | negInt (n : Int64)
  | float (bits : UInt64)
  deriving DecidableEq, Repr

/-- `serde_json::Value`. The members of an object stand in printing order: key
order for a `Map`, declaration order for a serialized struct. -/
inductive Value
  | null
  | bool (b : Bool)
  | number (n : Number)
  | string (s : String)
  | array (items : List Value)
  | object (members : List (String × Value))

/-- `Value::is_object`. -/
def Value.isObject : Value → Bool
  | .object _ => true
  | _ => false

/-- The parts of `serde_json` that are not written out here. -/
structure Codec where
  formatFloat : UInt64 → String
  /-- `serde_json::from_str::<Value>`. -/
  parse : String → Option Value

def hexDigit (n : Nat) : String :=
  String.singleton (if n < 10 then Char.ofNat (48 + n) else Char.ofNat (87 + n))

def escapeChar (c : Char) : String :=
  if c = '"' then "\\\""
  else if c = '\\' then "\\\\"
  else if c = '\n' then "\\n"
  else if c = '\r' then "\\r"
  else if c = '\t' then "\\t"
  else if c = '\x08' then "\\b"
  else if c = '\x0c' then "\\f"
  else if c.toNat < 0x20 then "\\u00" ++ hexDigit (c.toNat / 16) ++ hexDigit (c.toNat % 16)
  else String.singleton c

def escape : List Char → String
  | [] => ""
  | c :: cs => escapeChar c ++ escape cs

def renderString (s : String) : String := "\"" ++ escape s.toList ++ "\""

section Render

variable (codec : Codec)

def renderNumber : Number → String
  | .posInt n => toString n.toNat
  | .negInt n => toString n.toInt
  | .float bits => codec.formatFloat bits

mutual
/-- `serde_json::to_string`. -/
def Value.render : Value → String
  | .null => "null"
  | .bool b => if b then "true" else "false"
  | .number n => renderNumber codec n
  | .string s => renderString s
  | .array items => "[" ++ renderItems items ++ "]"
  | .object members => "\x7b" ++ renderMembers members ++ "\x7d"
def renderItems : List Value → String
  | [] => ""
  | v :: rest => v.render ++ (if rest.isEmpty then "" else ",") ++ renderItems rest
def renderMembers : List (String × Value) → String
  | [] => ""
  | (key, v) :: rest =>
    renderString key ++ ":" ++ v.render ++ (if rest.isEmpty then "" else ",") ++
      renderMembers rest
end

end Render

/-- A natural number of the program, printed as a JSON integer. -/
def nat (n : Nat) : Value := .number (.posInt (UInt64.ofNat n))

/-- A signed 64-bit number of the program, printed as a JSON integer. -/
def int (n : Int64) : Value :=
  if 0 ≤ n then .number (.posInt n.toUInt64) else .number (.negInt n)

theorem int_ne_null (n : Int64) : int n ≠ .null := by
  unfold int
  split <;> exact nofun

/-- `Option` fields print as their content or `null`. -/
def option {α : Type*} (f : α → Value) : Option α → Value
  | none => .null
  | some a => f a

mutual
/-- PostgreSQL refuses a NUL character in any text of a `JSONB` value. -/
def Value.storableAsJsonb : Value → Bool
  | .string s => !s.toList.contains '\x00'
  | .array items => itemsStorable items
  | .object members => membersStorable members
  | _ => true
def itemsStorable : List Value → Bool
  | [] => true
  | v :: rest => v.storableAsJsonb && itemsStorable rest
def membersStorable : List (String × Value) → Bool
  | [] => true
  | (key, v) :: rest =>
    !key.toList.contains '\x00' && v.storableAsJsonb && membersStorable rest
end

/-- A printed object is read as an object again. -/
def Codec.Rereads (codec : Codec) : Prop :=
  ∀ text v, codec.parse text = some v → v.isObject = true →
    ∃ v', codec.parse (v.render codec) = some v' ∧ v'.isObject = true

/-- The object that is read from a printed one prints the same. -/
def Codec.Reprints (codec : Codec) : Prop :=
  ∀ text v, codec.parse text = some v → v.isObject = true →
    ∃ v', codec.parse (v.render codec) = some v' ∧ v'.isObject = true ∧
      v'.render codec = v.render codec

/-- The same of one text. Texts with floats can miss it where the reader does
not round to the nearest one. -/
def Codec.ReprintsAt (codec : Codec) (text : String) : Prop :=
  ∀ v, codec.parse text = some v → v.isObject = true →
    ∃ v', codec.parse (v.render codec) = some v' ∧ v'.isObject = true ∧
      v'.render codec = v.render codec

theorem Codec.reprintsAt_render {codec : Codec} {v : Value}
    (h : codec.parse (v.render codec) = some v) : codec.ReprintsAt (v.render codec) := by
  intro v' hv' hobject
  obtain rfl : v = v' := Option.some.inj (h.symm.trans hv')
  exact ⟨v, h, hobject, rfl⟩

theorem Codec.Reprints.rereads {codec : Codec} (h : codec.Reprints) : codec.Rereads := by
  intro text v hparsed hobject
  obtain ⟨v', hparsed', hobject', -⟩ := h text v hparsed hobject
  exact ⟨v', hparsed', hobject'⟩

/-! ## Printed length -/

mutual
def Value.floatFree : Value → Bool
  | .number (.float _) => false
  | .array items => itemsFloatFree items
  | .object members => membersFloatFree members
  | _ => true
def itemsFloatFree : List Value → Bool
  | [] => true
  | v :: rest => v.floatFree && itemsFloatFree rest
def membersFloatFree : List (String × Value) → Bool
  | [] => true
  | (_, v) :: rest => v.floatFree && membersFloatFree rest
end

mutual
/-- An upper bound on the bytes of the printed form, which allows six bytes for
every byte of a text and eighty-four for an integer. -/
def Value.printedBound : Value → Nat
  | .null => 4
  | .bool _ => 5
  | .number _ => 84
  | .string s => 6 * byteLength s + 2
  | .array items => itemsPrintedBound items + 2
  | .object members => membersPrintedBound members + 2
def itemsPrintedBound : List Value → Nat
  | [] => 0
  | v :: rest => v.printedBound + 1 + itemsPrintedBound rest
def membersPrintedBound : List (String × Value) → Nat
  | [] => 0
  | (key, v) :: rest => 6 * byteLength key + v.printedBound + 4 + membersPrintedBound rest
end

theorem byteLength_escapeChar (c : Char) :
    byteLength (escapeChar c) ≤ 6 * byteLength (String.singleton c) := by
  have hpos := byteLength_singleton_pos c
  have hhex : ∀ n < 32, byteLength ("\\u00" ++ hexDigit (n / 16) ++ hexDigit (n % 16)) = 6 := by
    decide
  have hshort : ∀ text ∈ ["\\\"", "\\\\", "\\n", "\\r", "\\t", "\\b", "\\f"],
      byteLength text = 2 := by decide
  simp only [List.forall_mem_cons] at hshort
  unfold escapeChar
  split_ifs with _ _ _ _ _ _ _ hcontrol
  · omega
  · omega
  · omega
  · omega
  · omega
  · omega
  · omega
  · have hsix := hhex c.toNat hcontrol
    omega
  · omega

theorem byteLength_renderString (s : String) :
    byteLength (renderString s) ≤ 6 * byteLength s + 2 := by
  have h : ∀ cs : List Char, byteLength (escape cs) ≤ 6 * byteLength (String.ofList cs) := by
    intro cs
    induction cs with
    | nil => decide
    | cons c cs ih =>
      have hc := byteLength_escapeChar c
      rw [escape, byteLength_append, String.ofList_cons, byteLength_append]
      omega
  have hs := h s.toList
  have hquote : byteLength "\"" = 1 := by decide
  rw [String.ofList_toList] at hs
  simp only [renderString, byteLength_append, hquote]
  omega

theorem byteLength_toString_nat {n : Nat} (h : n < 2 ^ 64) : byteLength (toString n) ≤ 80 := by
  have hlength : (toString n).toList.length ≤ 20 := by
    rw [String.length_toList, Nat.toString_eq_repr, Nat.length_repr_le_iff (by omega)]
    omega
  have hbytes := byteLength_le_four_mul (toString n)
  omega

theorem byteLength_toString_int {n : Int} (h : n.natAbs < 2 ^ 64) :
    byteLength (toString n) ≤ 84 := by
  cases n with
  | ofNat n => exact (byteLength_toString_nat h).trans (by omega)
  | negSucc n =>
    have hnat : byteLength (toString (n + 1)) ≤ 80 := byteLength_toString_nat h
    have hsign : byteLength "-" = 1 := by decide
    have hprint : toString (Int.negSucc n) = "-" ++ toString (n + 1) := rfl
    rw [hprint, byteLength_append]
    omega

theorem byteLength_renderNumber (codec : Codec) {n : Number}
    (h : (Value.number n).floatFree = true) : byteLength (renderNumber codec n) ≤ 84 := by
  cases n with
  | posInt n => exact (byteLength_toString_nat n.toNat_lt).trans (by omega)
  | negInt n =>
    refine byteLength_toString_int ?_
    have hlow := n.le_toInt
    have hhigh := n.toInt_lt
    omega
  | float bits => cases h

theorem byteLength_separator (empty : Bool) :
    byteLength (if empty then "" else ",") ≤ 1 := by
  cases empty <;> decide

mutual
theorem Value.byteLength_render (codec : Codec) (v : Value) (h : v.floatFree = true) :
    byteLength (v.render codec) ≤ v.printedBound := by
  match v with
  | .null => exact (by decide : byteLength "null" ≤ 4)
  | .bool false => exact (by decide : byteLength "false" ≤ 5)
  | .bool true => exact (by decide : byteLength "true" ≤ 5)
  | .number n => exact byteLength_renderNumber codec h
  | .string s => exact byteLength_renderString s
  | .array items =>
    have hitems := byteLength_renderItems codec items h
    have hopen : byteLength "[" = 1 := by decide
    have hclose : byteLength "]" = 1 := by decide
    simp only [Value.render, Value.printedBound, byteLength_append]
    omega
  | .object members =>
    have hmembers := byteLength_renderMembers codec members h
    have hopen : byteLength "\x7b" = 1 := by decide
    have hclose : byteLength "\x7d" = 1 := by decide
    simp only [Value.render, Value.printedBound, byteLength_append]
    omega
theorem byteLength_renderItems (codec : Codec) (items : List Value)
    (h : itemsFloatFree items = true) :
    byteLength (renderItems codec items) ≤ itemsPrintedBound items := by
  match items with
  | [] => exact (by decide : byteLength "" ≤ 0)
  | v :: rest =>
    simp only [itemsFloatFree, Bool.and_eq_true] at h
    have hv := v.byteLength_render codec h.1
    have hrest := byteLength_renderItems codec rest h.2
    have hseparator := byteLength_separator rest.isEmpty
    simp only [renderItems, itemsPrintedBound, byteLength_append]
    omega
theorem byteLength_renderMembers (codec : Codec) (members : List (String × Value))
    (h : membersFloatFree members = true) :
    byteLength (renderMembers codec members) ≤ membersPrintedBound members := by
  match members with
  | [] => exact (by decide : byteLength "" ≤ 0)
  | (key, v) :: rest =>
    simp only [membersFloatFree, Bool.and_eq_true] at h
    have hkey := byteLength_renderString key
    have hv := v.byteLength_render codec h.1
    have hrest := byteLength_renderMembers codec rest h.2
    have hseparator := byteLength_separator rest.isEmpty
    have hcolon : byteLength ":" = 1 := by decide
    simp only [renderMembers, membersPrintedBound, byteLength_append]
    omega
end

/-- The bound of an array whose elements share one. -/
theorem itemsPrintedBound_le (bound : Nat) {items : List Value}
    (h : ∀ v ∈ items, v.printedBound ≤ bound) :
    itemsPrintedBound items ≤ items.length * (bound + 1) := by
  induction items with
  | nil => simp [itemsPrintedBound]
  | cons v items ih =>
    rw [List.forall_mem_cons] at h
    have hrest := ih h.2
    have hv := h.1
    rw [itemsPrintedBound, List.length_cons, Nat.succ_mul]
    omega

theorem itemsFloatFree_of_forall {items : List Value} (h : ∀ v ∈ items, v.floatFree = true) :
    itemsFloatFree items = true := by
  induction items with
  | nil => rfl
  | cons v items ih =>
    rw [List.forall_mem_cons] at h
    rw [itemsFloatFree, h.1, ih h.2]
    rfl

/-! ## Exact length -/

/-- The bytes of a character inside a printed text. -/
def charBytes (c : Char) : Nat :=
  if c = '"' ∨ c = '\\' ∨ c = '\n' ∨ c = '\r' ∨ c = '\t' ∨ c = '\x08' ∨ c = '\x0c' then 2
  else if c.toNat < 0x20 then 6
  else c.utf8Size

/-- The bytes of a printed text, with its quotes. -/
def textBytes (s : String) : Nat := 2 + (s.toList.map charBytes).sum

/-- The digits of a printed natural number. -/
def decimalBytes (n : Nat) : Nat := (Nat.toDigits 10 n).length

theorem byteLength_escapeChar_eq (c : Char) : byteLength (escapeChar c) = charBytes c := by
  have hhex : ∀ n < 32, byteLength ("\\u00" ++ hexDigit (n / 16) ++ hexDigit (n % 16)) = 6 := by
    decide
  by_cases hshort :
      c = '"' ∨ c = '\\' ∨ c = '\n' ∨ c = '\r' ∨ c = '\t' ∨ c = '\x08' ∨ c = '\x0c'
  · rw [charBytes, if_pos hshort]
    rcases hshort with rfl | rfl | rfl | rfl | rfl | rfl | rfl <;> decide
  · rw [charBytes, if_neg hshort]
    simp only [not_or] at hshort
    obtain ⟨hquote, hslash, hn, hr, ht, hb, hf⟩ := hshort
    rw [escapeChar, if_neg hquote, if_neg hslash, if_neg hn, if_neg hr, if_neg ht, if_neg hb,
      if_neg hf]
    split
    · next hcontrol => exact hhex c.toNat hcontrol
    · exact String.utf8ByteSize_singleton

theorem byteLength_renderString_eq (s : String) : byteLength (renderString s) = textBytes s := by
  have h : ∀ cs : List Char, byteLength (escape cs) = (cs.map charBytes).sum := by
    intro cs
    induction cs with
    | nil => decide
    | cons c cs ih =>
      rw [escape, byteLength_append, byteLength_escapeChar_eq, ih, List.map_cons, List.sum_cons]
  have hquote : byteLength "\"" = 1 := by decide
  rw [renderString, byteLength_append, byteLength_append, hquote, h, textBytes]
  omega

/-- A text of plain characters is printed as it is, between quotes. -/
theorem textBytes_of_plain {s : String} (h : ∀ c ∈ s.toList, charBytes c = 1) :
    textBytes s = s.toList.length + 2 := by
  have hsum : ∀ cs : List Char, (∀ c ∈ cs, charBytes c = 1) →
      (cs.map charBytes).sum = cs.length := by
    intro cs hcs
    induction cs with
    | nil => rfl
    | cons c cs ih =>
      rw [List.forall_mem_cons] at hcs
      rw [List.map_cons, List.sum_cons, hcs.1, ih hcs.2, List.length_cons, Nat.add_comm]
  rw [textBytes, hsum _ h, Nat.add_comm]

theorem byteLength_ofList_ascii {cs : List Char} (h : ∀ c ∈ cs, c.utf8Size = 1) :
    byteLength (String.ofList cs) = cs.length := by
  induction cs with
  | nil => decide
  | cons c cs ih =>
    rw [List.forall_mem_cons] at h
    rw [String.ofList_cons, byteLength_append, ih h.2, List.length_cons]
    simp only [byteLength, String.utf8ByteSize_singleton, h.1]
    omega

theorem utf8Size_of_isDigit {c : Char} (h : c.isDigit = true) : c.utf8Size = 1 := by
  rw [Char.utf8Size_eq_one_iff]
  simp only [Char.isDigit, ge_iff_le, Bool.and_eq_true, decide_eq_true_eq] at h
  exact UInt32.le_trans h.2 (by decide)

theorem byteLength_toString_eq (n : Nat) : byteLength (toString n) = decimalBytes n := by
  rw [Nat.toString_eq_ofList_toDigits]
  refine byteLength_ofList_ascii fun c hc => ?_
  exact utf8Size_of_isDigit (Nat.isDigit_of_mem_toDigits (by decide) (by decide) hc)

theorem byteLength_nat (codec : Codec) {n : Nat} (h : n < 2 ^ 64) :
    byteLength ((nat n).render codec) = decimalBytes n := by
  have hvalue : (UInt64.ofNat n).toNat = n := UInt64.toNat_ofNat_of_lt' h
  change byteLength (toString (UInt64.ofNat n).toNat) = _
  rw [hvalue, byteLength_toString_eq]

theorem byteLength_renderItems_eq (codec : Codec) (items : List Value) :
    byteLength (renderItems codec items) =
      (items.map fun v => byteLength (v.render codec)).sum + (items.length - 1) := by
  induction items with
  | nil => rfl
  | cons v items ih =>
    rw [renderItems, byteLength_append, byteLength_append, ih, List.map_cons, List.sum_cons,
      List.length_cons]
    cases items with
    | nil =>
      have hempty : byteLength "" = 0 := by decide
      simp only [List.isEmpty_nil, if_true, hempty, List.map_nil, List.sum_nil, List.length_nil]
    | cons w items =>
      have hcomma : byteLength "," = 1 := by decide
      simp only [List.isEmpty_cons, Bool.false_eq_true, if_false, hcomma, List.length_cons]
      omega

/-! ## Printed texts have no control characters -/

/-- No character of the text lies below the space. -/
def Printable (s : String) : Prop := ∀ c ∈ s.toList, 0x20 ≤ c.toNat

instance (s : String) : Decidable (Printable s) :=
  List.decidableBAll (fun c : Char => 0x20 ≤ c.toNat) s.toList

theorem Printable.append {s t : String} (hs : Printable s) (ht : Printable t) :
    Printable (s ++ t) := by
  intro c hc
  rw [String.toList_append, List.mem_append] at hc
  exact hc.elim (hs c) (ht c)

theorem printable_escapeChar (c : Char) : Printable (escapeChar c) := by
  have hhex : ∀ n < 32,
      Printable ("\\u00" ++ hexDigit (n / 16) ++ hexDigit (n % 16)) := by decide
  have hshort : ∀ text ∈ ["\\\"", "\\\\", "\\n", "\\r", "\\t", "\\b", "\\f"],
      Printable text := by decide
  simp only [List.forall_mem_cons] at hshort
  obtain ⟨hquote, hslash, hn, hr, ht, hb, hf, -⟩ := hshort
  unfold escapeChar
  split_ifs with _ _ _ _ _ _ _ hcontrol
  · exact hquote
  · exact hslash
  · exact hn
  · exact hr
  · exact ht
  · exact hb
  · exact hf
  · exact hhex c.toNat hcontrol
  · intro d hd
    rw [String.toList_singleton, List.mem_singleton] at hd
    subst hd
    omega

theorem printable_renderString (s : String) : Printable (renderString s) := by
  have h : ∀ cs : List Char, Printable (escape cs) := by
    intro cs
    induction cs with
    | nil => exact fun c hc => nomatch hc
    | cons c cs ih => exact (printable_escapeChar c).append ih
  have hquote : Printable "\"" := by decide
  exact (hquote.append (h s.toList)).append hquote

theorem printable_toString_nat (n : Nat) : Printable (toString n) := by
  intro c hc
  rw [Nat.toString_eq_ofList_toDigits, String.toList_ofList] at hc
  have hdigit := Nat.isDigit_of_mem_toDigits (by decide) (by decide) hc
  simp only [Char.isDigit, ge_iff_le, Bool.and_eq_true, decide_eq_true_eq] at hdigit
  have hlow : 48 ≤ c.toNat := UInt32.le_iff_toNat_le.mp hdigit.1
  omega

theorem printable_toString_int (n : Int) : Printable (toString n) := by
  cases n with
  | ofNat n => exact printable_toString_nat n
  | negSucc n =>
    have hprint : toString (Int.negSucc n) = "-" ++ toString (n + 1) := rfl
    have hsign : Printable "-" := by decide
    rw [hprint]
    exact hsign.append (printable_toString_nat (n + 1))

theorem printable_separator (empty : Bool) : Printable (if empty then "" else ",") := by
  cases empty <;> decide

theorem printable_renderNumber {codec : Codec}
    (hfloat : ∀ bits, Printable (codec.formatFloat bits)) (n : Number) :
    Printable (renderNumber codec n) := by
  cases n with
  | posInt n => exact printable_toString_nat n.toNat
  | negInt n => exact printable_toString_int n.toInt
  | float bits => exact hfloat bits

mutual
theorem Value.printable_render {codec : Codec}
    (hfloat : ∀ bits, Printable (codec.formatFloat bits)) (v : Value) :
    Printable (v.render codec) := by
  have hmarks : ∀ text ∈ ["null", "false", "true", "[", "]", "\x7b", "\x7d"],
      Printable text := by decide
  simp only [List.forall_mem_cons] at hmarks
  obtain ⟨hnull, hfalse, htrue, hopen, hclose, hbegin, hend, -⟩ := hmarks
  match v with
  | .null => exact hnull
  | .bool false => exact hfalse
  | .bool true => exact htrue
  | .number n => exact printable_renderNumber hfloat n
  | .string s => exact printable_renderString s
  | .array items =>
    exact (Printable.append hopen (printable_renderItems hfloat items)).append hclose
  | .object members =>
    exact (Printable.append hbegin (printable_renderMembers hfloat members)).append hend
theorem printable_renderItems {codec : Codec}
    (hfloat : ∀ bits, Printable (codec.formatFloat bits)) (items : List Value) :
    Printable (renderItems codec items) := by
  match items with
  | [] => exact fun c hc => nomatch hc
  | v :: rest =>
    exact ((v.printable_render hfloat).append (printable_separator rest.isEmpty)).append
      (printable_renderItems hfloat rest)
theorem printable_renderMembers {codec : Codec}
    (hfloat : ∀ bits, Printable (codec.formatFloat bits)) (members : List (String × Value)) :
    Printable (renderMembers codec members) := by
  have hcolon : Printable ":" := by decide
  match members with
  | [] => exact fun c hc => nomatch hc
  | (key, v) :: rest =>
    exact ((((printable_renderString key).append hcolon).append
      (v.printable_render hfloat)).append (printable_separator rest.isEmpty)).append
      (printable_renderMembers hfloat rest)
end

/-- Without control characters a text at most doubles when it is printed. -/
theorem textBytes_le_of_printable {s : String} (h : Printable s) :
    textBytes s ≤ 2 * byteLength s + 2 := by
  have hchar : ∀ c : Char, 0x20 ≤ c.toNat → charBytes c ≤ 2 * c.utf8Size := by
    intro c hc
    have hpos := c.utf8Size_pos
    unfold charBytes
    split_ifs <;> omega
  have hsum : ∀ cs : List Char, (∀ c ∈ cs, 0x20 ≤ c.toNat) →
      (cs.map charBytes).sum ≤ 2 * byteLength (String.ofList cs) := by
    intro cs hcs
    induction cs with
    | nil => decide
    | cons c cs ih =>
      rw [List.forall_mem_cons] at hcs
      have hc := hchar c hcs.1
      have hrest := ih hcs.2
      rw [String.ofList_cons, byteLength_append, List.map_cons, List.sum_cons]
      simp only [byteLength, String.utf8ByteSize_singleton] at hrest ⊢
      omega
  have hs := hsum s.toList h
  rw [String.ofList_toList] at hs
  rw [textBytes]
  omega

/-! ## Values that `JSONB` holds -/

theorem storable_string {s : String} (h : Printable s) :
    (Value.string s).storableAsJsonb = true := by
  rw [Value.storableAsJsonb, Bool.not_eq_true', ← Bool.not_eq_true, List.contains_iff_mem]
  intro hnul
  exact absurd (h _ hnul) (by decide)

theorem storable_int (n : Int64) : (int n).storableAsJsonb = true := by
  unfold int
  split <;> rfl

theorem storable_option {α : Type*} {f : α → Value} (h : ∀ a, (f a).storableAsJsonb = true)
    (o : Option α) : (option f o).storableAsJsonb = true := by
  cases o with
  | none => rfl
  | some a => exact h a

theorem itemsStorable_map {α : Type*} {f : α → Value} {items : List α}
    (h : ∀ a ∈ items, (f a).storableAsJsonb = true) : itemsStorable (items.map f) = true := by
  induction items with
  | nil => rfl
  | cons a items ih =>
    rw [List.forall_mem_cons] at h
    rw [List.map_cons, itemsStorable, h.1, ih h.2, Bool.and_self]

end Json
