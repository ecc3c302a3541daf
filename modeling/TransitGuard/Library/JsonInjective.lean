import TransitGuard.Library.Json

/-!
The compact print of a JSON value determines the value, as long as it holds no
floats. The lemmas below speak of a printed form with something behind it, since
that is how it stands inside an array or an object: a number ends where a
punctuation mark follows, everything else ends by itself.
-/

namespace Json

/-- What can stand behind a printed value. -/
def Delimited (rest : List Char) : Prop :=
  ∀ c ∈ rest.head?, c = ',' ∨ c = ']' ∨ c = '\x7d'

theorem delimited_nil : Delimited [] := nofun

theorem delimited_cons {c : Char} {rest : List Char} (h : c = ',' ∨ c = ']' ∨ c = '\x7d') :
    Delimited (c :: rest) := by
  intro d hd
  cases hd
  exact h

/-! ## Texts -/

/-- The digit that `hexDigit` prints. -/
def hexValue (c : Char) : Nat := if c.toNat < 58 then c.toNat - 48 else c.toNat - 87

/-- Reads one character of an escaped text. -/
def unescape : List Char → Option (Char × List Char)
  | '\\' :: 'u' :: _ :: _ :: high :: low :: rest =>
    some (Char.ofNat (16 * hexValue high + hexValue low), rest)
  | '\\' :: 'n' :: rest => some ('\n', rest)
  | '\\' :: 'r' :: rest => some ('\r', rest)
  | '\\' :: 't' :: rest => some ('\t', rest)
  | '\\' :: 'b' :: rest => some ('\x08', rest)
  | '\\' :: 'f' :: rest => some ('\x0c', rest)
  | '\\' :: c :: rest => some (c, rest)
  | c :: rest => some (c, rest)
  | [] => none

theorem hexDigit_spec {n : Nat} (h : n < 16) :
    ∃ c, (hexDigit n).toList = [c] ∧ hexValue c = n := by
  have hall : ∀ n < 16, hexValue (if n < 10 then Char.ofNat (48 + n) else Char.ofNat (87 + n)) =
      n := by decide
  exact ⟨_, String.toList_singleton _, hall n h⟩

theorem unescape_escapeChar (c : Char) (rest : List Char) :
    unescape ((escapeChar c).toList ++ rest) = some (c, rest) := by
  unfold escapeChar
  split_ifs with hquote hslash hn hr ht hb hf hcontrol
  · subst hquote; rfl
  · subst hslash; rfl
  · subst hn; rfl
  · subst hr; rfl
  · subst ht; rfl
  · subst hb; rfl
  · subst hf; rfl
  · obtain ⟨high, hhigh, hhighValue⟩ := hexDigit_spec (n := c.toNat / 16) (by omega)
    obtain ⟨low, hlow, hlowValue⟩ := hexDigit_spec (n := c.toNat % 16) (by omega)
    have hvalue : 16 * hexValue high + hexValue low = c.toNat := by omega
    have htext : ("\\u00" ++ hexDigit (c.toNat / 16) ++ hexDigit (c.toNat % 16)).toList =
        ['\\', 'u', '0', '0', high, low] := by
      rw [String.toList_append, String.toList_append, hhigh, hlow]
      rfl
    rw [htext]
    change some (Char.ofNat (16 * hexValue high + hexValue low), rest) = _
    rw [hvalue, Char.ofNat_toNat]
  · rw [String.toList_singleton, List.singleton_append, unescape.eq_def]
    split <;> simp_all

theorem escapeChar_inj {c d : Char} {xs ys : List Char}
    (h : (escapeChar c).toList ++ xs = (escapeChar d).toList ++ ys) : c = d ∧ xs = ys := by
  have hread := unescape_escapeChar c xs
  rw [h, unescape_escapeChar, Option.some.injEq, Prod.mk.injEq] at hread
  exact ⟨hread.1.symm, hread.2.symm⟩

/-- No escaped character starts like the end of the text. -/
theorem escapeChar_ne_quote {c : Char} {xs ys : List Char} :
    (escapeChar c).toList ++ xs ≠ '"' :: ys := by
  intro h
  have hread := unescape_escapeChar c xs
  rw [h] at hread
  have hquote : c = '"' := by
    change some ('"', ys) = some (c, xs) at hread
    cases hread
    rfl
  subst hquote
  cases h

theorem escape_inj {cs ds xs ys : List Char}
    (h : (escape cs).toList ++ '"' :: xs = (escape ds).toList ++ '"' :: ys) :
    cs = ds ∧ xs = ys := by
  induction cs generalizing ds with
  | nil =>
    cases ds with
    | nil => exact ⟨rfl, List.tail_eq_of_cons_eq h⟩
    | cons d ds =>
      rw [escape, escape, String.toList_append, List.append_assoc] at h
      exact absurd h.symm escapeChar_ne_quote
  | cons c cs ih =>
    rw [escape, String.toList_append, List.append_assoc] at h
    cases ds with
    | nil => exact absurd h escapeChar_ne_quote
    | cons d ds =>
      rw [escape, String.toList_append, List.append_assoc] at h
      obtain ⟨rfl, hrest⟩ := escapeChar_inj h
      obtain ⟨rfl, hxs⟩ := ih hrest
      exact ⟨rfl, hxs⟩

theorem renderString_inj {s t : String} {xs ys : List Char}
    (h : (renderString s).toList ++ xs = (renderString t).toList ++ ys) : s = t ∧ xs = ys := by
  simp only [renderString, String.toList_append, List.append_assoc] at h
  obtain ⟨htext, hrest⟩ := escape_inj (List.tail_eq_of_cons_eq h)
  exact ⟨String.toList_inj.mp htext, hrest⟩

/-! ## Numbers -/

/-- The characters of a printed integer. -/
def isNumeral (c : Char) : Bool := c.isDigit || c == '-'

/-- Integers in the form `serde_json` keeps them in: only negative ones are
signed. -/
def Number.integral : Number → Bool
  | .posInt _ => true
  | .negInt n => n < 0
  | .float _ => false

theorem renderNumber_posInt (codec : Codec) (n : UInt64) :
    (renderNumber codec (.posInt n)).toList = Nat.toDigits 10 n.toNat := Nat.toList_repr

theorem renderNumber_negInt (codec : Codec) {n : Int64} (h : n < 0) :
    (renderNumber codec (.negInt n)).toList = '-' :: Nat.toDigits 10 n.toInt.natAbs := by
  have hnegative : n.toInt < 0 := Int64.lt_iff_toInt_lt.mp h
  obtain ⟨k, hk⟩ := Int.eq_negSucc_of_lt_zero hnegative
  have hprint : toString (Int.negSucc k) = "-" ++ toString (k + 1) := rfl
  rw [renderNumber, hk, hprint, String.toList_append]
  exact congrArg ('-' :: ·) Nat.toList_repr

theorem isNumeral_of_mem_toDigits {n : Nat} {c : Char} (h : c ∈ Nat.toDigits 10 n) :
    isNumeral c = true := by
  rw [isNumeral, Nat.isDigit_of_mem_toDigits (by decide) (by decide) h]
  rfl

theorem renderNumber_numeral (codec : Codec) {n : Number} (h : n.integral = true) :
    ∀ c ∈ (renderNumber codec n).toList, isNumeral c = true := by
  intro c hc
  cases n with
  | posInt n =>
    rw [renderNumber_posInt] at hc
    exact isNumeral_of_mem_toDigits hc
  | negInt n =>
    rw [renderNumber_negInt codec (of_decide_eq_true h), List.mem_cons] at hc
    rcases hc with rfl | hc
    · rfl
    · exact isNumeral_of_mem_toDigits hc
  | float bits => cases h

theorem renderNumber_ne_nil (codec : Codec) {n : Number} (h : n.integral = true) :
    (renderNumber codec n).toList ≠ [] := by
  cases n with
  | posInt n =>
    rw [renderNumber_posInt]
    exact Nat.toDigits_ne_nil
  | negInt n =>
    rw [renderNumber_negInt codec (of_decide_eq_true h)]
    exact List.cons_ne_nil _ _
  | float bits => cases h

theorem toDigits_inj {m n : Nat} (h : Nat.toDigits 10 m = Nat.toDigits 10 n) : m = n := by
  rw [← Nat.ofDigitChars_ten_toDigits (n := m), h, Nat.ofDigitChars_ten_toDigits]

theorem renderNumber_injective (codec : Codec) {m n : Number} (hm : m.integral = true)
    (hn : n.integral = true)
    (h : (renderNumber codec m).toList = (renderNumber codec n).toList) : m = n := by
  have hsign : ∀ {k : Nat} {l : List Char}, Nat.toDigits 10 k ≠ '-' :: l := by
    intro k l hdigits
    have hdigit : Char.isDigit '-' = true := Nat.isDigit_of_mem_toDigits (by decide) (by decide)
      (hdigits ▸ List.mem_cons_self ..)
    cases hdigit
  cases m with
  | posInt m =>
    cases n with
    | posInt n =>
      rw [renderNumber_posInt, renderNumber_posInt] at h
      rw [UInt64.toNat_inj.mp (toDigits_inj h)]
    | negInt n =>
      rw [renderNumber_posInt, renderNumber_negInt codec (of_decide_eq_true hn)] at h
      exact absurd h hsign
    | float bits => cases hn
  | negInt m =>
    have hm : m < 0 := of_decide_eq_true hm
    cases n with
    | posInt n =>
      rw [renderNumber_posInt, renderNumber_negInt codec hm] at h
      exact absurd h.symm hsign
    | negInt n =>
      have hn : n < 0 := of_decide_eq_true hn
      rw [renderNumber_negInt codec hm, renderNumber_negInt codec hn, List.cons.injEq] at h
      have habs := toDigits_inj h.2
      have hm := Int64.lt_iff_toInt_lt.mp hm
      have hn := Int64.lt_iff_toInt_lt.mp hn
      have hvalue : m.toInt = n.toInt := by
        change m.toInt < 0 at hm
        change n.toInt < 0 at hn
        omega
      rw [Int64.toInt_inj.mp hvalue]
    | float bits => cases hn
  | float bits => cases hm

/-- A run of characters of one class ends where a character of another follows. -/
theorem append_inj_of_class {p : Char → Bool} {l k xs ys : List Char}
    (hl : ∀ c ∈ l, p c = true) (hk : ∀ c ∈ k, p c = true)
    (hxs : ∀ c ∈ xs.head?, p c = false) (hys : ∀ c ∈ ys.head?, p c = false)
    (h : l ++ xs = k ++ ys) : l = k ∧ xs = ys := by
  have htake : ∀ {l xs : List Char}, (∀ c ∈ l, p c = true) → (∀ c ∈ xs.head?, p c = false) →
      (l ++ xs).takeWhile p = l := by
    intro l xs hl hxs
    rw [List.takeWhile_append_of_pos hl]
    cases xs with
    | nil => simp
    | cons c xs => simp [hxs c rfl]
  have hsame : l = k := by
    rw [← htake hl hxs, h, htake hk hys]
  subst hsame
  exact ⟨rfl, List.append_cancel_left h⟩

theorem Delimited.not_numeral {rest : List Char} (h : Delimited rest) :
    ∀ c ∈ rest.head?, isNumeral c = false := by
  intro c hc
  rcases h c hc with rfl | rfl | rfl <;> rfl

/-! ## Values -/

mutual
/-- All numbers of the value are integers. -/
def Value.integral : Value → Bool
  | .number n => n.integral
  | .array items => itemsIntegral items
  | .object members => membersIntegral members
  | _ => true
def itemsIntegral : List Value → Bool
  | [] => true
  | v :: rest => v.integral && itemsIntegral rest
def membersIntegral : List (String × Value) → Bool
  | [] => true
  | (_, v) :: rest => v.integral && membersIntegral rest
end

theorem itemsIntegral_of_forall {items : List Value} (h : ∀ v ∈ items, v.integral = true) :
    itemsIntegral items = true := by
  induction items with
  | nil => rfl
  | cons v items ih =>
    rw [List.forall_mem_cons] at h
    rw [itemsIntegral, h.1, ih h.2]
    rfl

/-- The kinds of values that their first character tells apart. -/
inductive Kind
  | null
  | true
  | false
  | number
  | string
  | array
  | object
  | none
  deriving DecidableEq

def Value.kind : Value → Kind
  | .null => .null
  | .bool b => if b then .true else .false
  | .number _ => .number
  | .string _ => .string
  | .array _ => .array
  | .object _ => .object

def startsKind (c : Char) : Kind :=
  if c = 'n' then .null
  else if c = 't' then .true
  else if c = 'f' then .false
  else if c = '"' then .string
  else if c = '[' then .array
  else if c = '\x7b' then .object
  else if isNumeral c then .number
  else .none

theorem startsKind_of_numeral {c : Char} (h : isNumeral c = true) : startsKind c = .number := by
  unfold startsKind
  split_ifs with hn ht hf hquote hbracket hbrace
  · subst hn; cases h
  · subst ht; cases h
  · subst hf; cases h
  · subst hquote; cases h
  · subst hbracket; cases h
  · subst hbrace; cases h
  · rfl

theorem Value.render_head (codec : Codec) {v : Value} (h : v.integral = true) :
    ∃ c cs, (v.render codec).toList = c :: cs ∧ startsKind c = v.kind := by
  cases v with
  | null => exact ⟨'n', ['u', 'l', 'l'], by simp [Value.render], rfl⟩
  | bool b =>
    cases b with
    | false => exact ⟨'f', ['a', 'l', 's', 'e'], by simp [Value.render], rfl⟩
    | true => exact ⟨'t', ['r', 'u', 'e'], by simp [Value.render], rfl⟩
  | number n =>
    obtain ⟨c, cs, hcs⟩ := List.exists_cons_of_ne_nil (renderNumber_ne_nil codec h)
    refine ⟨c, cs, hcs, startsKind_of_numeral (renderNumber_numeral codec h c ?_)⟩
    rw [hcs]
    exact List.mem_cons_self ..
  | string s => exact ⟨'"', _, by simp [Value.render, renderString]; rfl, rfl⟩
  | array items => exact ⟨'[', _, by simp [Value.render]; rfl, rfl⟩
  | object members => exact ⟨'\x7b', _, by simp [Value.render]; rfl, rfl⟩

theorem Value.kind_eq_of_render (codec : Codec) {v w : Value} {xs ys : List Char}
    (hv : v.integral = true) (hw : w.integral = true)
    (h : (v.render codec).toList ++ xs = (w.render codec).toList ++ ys) : v.kind = w.kind := by
  obtain ⟨c, cs, hc, hckind⟩ := v.render_head codec hv
  obtain ⟨d, ds, hd, hdkind⟩ := w.render_head codec hw
  rw [hc, hd, List.cons_append, List.cons_append, List.cons.injEq] at h
  rw [← hckind, ← hdkind, h.1]

/-- No value is printed where an array or an object ends. -/
theorem Value.render_ne_close (codec : Codec) {v : Value} (hv : v.integral = true) {close : Char}
    (hclose : startsKind close = .none) {xs ys : List Char} :
    (v.render codec).toList ++ xs ≠ close :: ys := by
  intro h
  obtain ⟨c, cs, hc, hkind⟩ := v.render_head codec hv
  rw [hc, List.cons_append, List.cons.injEq] at h
  rw [h.1, hclose] at hkind
  cases v with
  | bool b => cases b <;> cases hkind
  | _ => cases hkind

section Separators

variable {close : Char} (hclose : close = ']' ∨ close = '\x7d')
include hclose

theorem delimited_separator {last : Bool} {rest : List Char}
    (hlast : last = true → rest.head? = some close) :
    Delimited ((if last then "" else ",").toList ++ rest) := by
  cases last with
  | false => exact delimited_cons (.inl rfl)
  | true =>
    obtain ⟨tail, rfl⟩ := List.head?_eq_some_iff.mp (hlast rfl)
    exact delimited_cons (.inr hclose)

theorem separator_inj {last last' : Bool} {rest rest' : List Char}
    (hlast : last = true → rest.head? = some close)
    (hlast' : last' = true → rest'.head? = some close)
    (h : (if last then "" else ",").toList ++ rest = (if last' then "" else ",").toList ++ rest') :
    rest = rest' := by
  have hcomma : close ≠ ',' := by
    rcases hclose with rfl | rfl
    · decide
    · decide
  cases last with
  | false =>
    cases last' with
    | false => exact List.tail_eq_of_cons_eq h
    | true =>
      obtain ⟨tail, rfl⟩ := List.head?_eq_some_iff.mp (hlast' rfl)
      exact absurd (List.head_eq_of_cons_eq h).symm hcomma
  | true =>
    cases last' with
    | false =>
      obtain ⟨tail, rfl⟩ := List.head?_eq_some_iff.mp (hlast rfl)
      exact absurd (List.head_eq_of_cons_eq h) hcomma
    | true => exact h

end Separators

theorem renderItems_close (codec : Codec) {items : List Value} {rest : List Char}
    (h : items.isEmpty = true) :
    ((renderItems codec items).toList ++ ']' :: rest).head? = some ']' := by
  rw [List.isEmpty_iff.mp h]
  rfl

theorem renderMembers_close (codec : Codec) {members : List (String × Value)} {rest : List Char}
    (h : members.isEmpty = true) :
    ((renderMembers codec members).toList ++ '\x7d' :: rest).head? = some '\x7d' := by
  rw [List.isEmpty_iff.mp h]
  rfl

theorem renderString_ne_close {s : String} {xs ys : List Char} :
    (renderString s).toList ++ xs ≠ '\x7d' :: ys := by
  simp [renderString]

mutual
/-- Printed values that agree, each with something behind it, are the same
value with the same behind it. -/
theorem Value.render_inj (codec : Codec) (v w : Value) (hv : v.integral = true)
    (hw : w.integral = true) {xs ys : List Char} (hxs : Delimited xs) (hys : Delimited ys)
    (h : (v.render codec).toList ++ xs = (w.render codec).toList ++ ys) : v = w ∧ xs = ys := by
  have hkind := Value.kind_eq_of_render codec hv hw h
  match v with
  | .null =>
    cases w with
    | null => exact ⟨rfl, List.append_cancel_left h⟩
    | bool b => cases b <;> cases hkind
    | _ => cases hkind
  | .bool b =>
    cases w with
    | bool d =>
      have hbd : b = d := by
        cases b <;> cases d
        · rfl
        · cases hkind
        · cases hkind
        · rfl
      subst hbd
      exact ⟨rfl, List.append_cancel_left h⟩
    | _ => cases b <;> cases hkind
  | .number n =>
    cases w with
    | number m =>
      obtain ⟨hnumber, hrest⟩ := append_inj_of_class (renderNumber_numeral codec hv)
        (renderNumber_numeral codec hw) hxs.not_numeral hys.not_numeral h
      rw [renderNumber_injective codec hv hw hnumber]
      exact ⟨rfl, hrest⟩
    | bool b => cases b <;> cases hkind
    | _ => cases hkind
  | .string s =>
    cases w with
    | string t =>
      obtain ⟨rfl, hrest⟩ := renderString_inj h
      exact ⟨rfl, hrest⟩
    | bool b => cases b <;> cases hkind
    | _ => cases hkind
  | .array items =>
    cases w with
    | array others =>
      simp only [Value.render, String.toList_append, List.append_assoc] at h
      obtain ⟨rfl, hrest⟩ := renderItems_inj codec items others hv hw (List.tail_eq_of_cons_eq h)
      exact ⟨rfl, hrest⟩
    | bool b => cases b <;> cases hkind
    | _ => cases hkind
  | .object members =>
    cases w with
    | object others =>
      simp only [Value.render, String.toList_append, List.append_assoc] at h
      obtain ⟨rfl, hrest⟩ := renderMembers_inj codec members others hv hw
        (List.tail_eq_of_cons_eq h)
      exact ⟨rfl, hrest⟩
    | bool b => cases b <;> cases hkind
    | _ => cases hkind
theorem renderItems_inj (codec : Codec) (items others : List Value)
    (hitems : itemsIntegral items = true) (hothers : itemsIntegral others = true)
    {xs ys : List Char}
    (h : (renderItems codec items).toList ++ ']' :: xs =
      (renderItems codec others).toList ++ ']' :: ys) : items = others ∧ xs = ys := by
  match items with
  | [] =>
    cases others with
    | nil => exact ⟨rfl, List.tail_eq_of_cons_eq h⟩
    | cons w others =>
      simp only [itemsIntegral, Bool.and_eq_true] at hothers
      simp only [renderItems, String.toList_append, List.append_assoc] at h
      exact absurd h.symm (w.render_ne_close codec hothers.1 rfl)
  | v :: items =>
    simp only [itemsIntegral, Bool.and_eq_true] at hitems
    simp only [renderItems, String.toList_append, List.append_assoc] at h
    cases others with
    | nil => exact absurd h (v.render_ne_close codec hitems.1 rfl)
    | cons w others =>
      simp only [itemsIntegral, Bool.and_eq_true] at hothers
      simp only [renderItems, String.toList_append, List.append_assoc] at h
      obtain ⟨rfl, htail⟩ := v.render_inj codec w hitems.1 hothers.1
        (delimited_separator (.inl rfl) (renderItems_close codec))
        (delimited_separator (.inl rfl) (renderItems_close codec)) h
      obtain ⟨rfl, hrest⟩ := renderItems_inj codec items others hitems.2 hothers.2
        (separator_inj (.inl rfl) (renderItems_close codec) (renderItems_close codec) htail)
      exact ⟨rfl, hrest⟩
theorem renderMembers_inj (codec : Codec) (members others : List (String × Value))
    (hmembers : membersIntegral members = true) (hothers : membersIntegral others = true)
    {xs ys : List Char}
    (h : (renderMembers codec members).toList ++ '\x7d' :: xs =
      (renderMembers codec others).toList ++ '\x7d' :: ys) : members = others ∧ xs = ys := by
  match members with
  | [] =>
    cases others with
    | nil => exact ⟨rfl, List.tail_eq_of_cons_eq h⟩
    | cons other others =>
      simp only [renderMembers, String.toList_append, List.append_assoc] at h
      exact absurd h.symm renderString_ne_close
  | (key, v) :: members =>
    simp only [membersIntegral, Bool.and_eq_true] at hmembers
    simp only [renderMembers, String.toList_append, List.append_assoc] at h
    cases others with
    | nil => exact absurd h renderString_ne_close
    | cons other others =>
      obtain ⟨key', w⟩ := other
      simp only [membersIntegral, Bool.and_eq_true] at hothers
      simp only [renderMembers, String.toList_append, List.append_assoc] at h
      obtain ⟨rfl, hvalue⟩ := renderString_inj h
      obtain ⟨rfl, htail⟩ := v.render_inj codec w hmembers.1 hothers.1
        (delimited_separator (.inr rfl) (renderMembers_close codec))
        (delimited_separator (.inr rfl) (renderMembers_close codec))
        (List.tail_eq_of_cons_eq hvalue)
      obtain ⟨rfl, hrest⟩ := renderMembers_inj codec members others hmembers.2 hothers.2
        (separator_inj (.inr rfl) (renderMembers_close codec) (renderMembers_close codec) htail)
      exact ⟨rfl, hrest⟩
end

/-- The print of a value without floats determines the value. -/
theorem Value.render_injective (codec : Codec) {v w : Value} (hv : v.integral = true)
    (hw : w.integral = true) (h : v.render codec = w.render codec) : v = w := by
  have htext : (v.render codec).toList ++ [] = (w.render codec).toList ++ [] := by rw [h]
  exact (v.render_inj codec w hv hw delimited_nil delimited_nil htext).1

/-! ## The numbers of a program -/

theorem nat_injective {m n : Nat} (hm : m < 2 ^ 64) (hn : n < 2 ^ 64) (h : nat m = nat n) :
    m = n := by
  simp only [nat, Value.number.injEq, Number.posInt.injEq] at h
  have hvalue := congrArg UInt64.toNat h
  rwa [UInt64.toNat_ofNat_of_lt' hm, UInt64.toNat_ofNat_of_lt' hn] at hvalue

theorem int_integral (n : Int64) : (int n).integral = true := by
  unfold int
  split
  · rfl
  · next hnegative => exact decide_eq_true (by grind)

theorem int_injective {m n : Int64} (h : int m = int n) : m = n := by
  unfold int at h
  split at h <;> split at h
  · simp only [Value.number.injEq, Number.posInt.injEq] at h
    rw [← Int64.toInt64_toUInt64 m, h, Int64.toInt64_toUInt64]
  · cases h
  · cases h
  · simpa using h

theorem option_injective {α : Type*} {f : α → Value} (hf : ∀ {a b}, f a = f b → a = b)
    (hnull : ∀ a, f a ≠ .null) {o p : Option α} (h : option f o = option f p) : o = p := by
  cases o with
  | none =>
    cases p with
    | none => rfl
    | some b => exact absurd h.symm (hnull b)
  | some a =>
    cases p with
    | none => exact absurd h (hnull a)
    | some b => rw [hf h]

end Json
