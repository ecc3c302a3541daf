import TransitGuard.Library.Text

/-!
Text as its UTF-8 bytes. A byte below 128 stands for a character of its own, so
a text without larger bytes is read off its bytes one by one.
-/

namespace Text

/-- `str::as_bytes`. -/
def bytes (s : String) : List UInt8 := s.toUTF8.data.toList

/-- `char::is_ascii_hexdigit`. -/
def isAsciiHexDigit (c : Char) : Bool :=
  ('0' ≤ c && c ≤ '9') || ('a' ≤ c && c ≤ 'f') || ('A' ≤ c && c ≤ 'F')

theorem length_bytes (s : String) : (bytes s).length = byteLength s := rfl

/-- The encodings of the characters, one behind another. -/
theorem bytes_eq (s : String) : bytes s = s.toList.flatMap String.utf8EncodeChar := by
  have h : s.toUTF8 = (s.toList.flatMap String.utf8EncodeChar).toByteArray :=
    String.utf8Encode_toList.symm
  rw [bytes, h, List.data_toByteArray]

theorem bytes_ofList (cs : List Char) :
    bytes (String.ofList cs) = cs.flatMap String.utf8EncodeChar := by
  rw [bytes_eq, String.toList_ofList]

theorem utf8EncodeChar_of_ascii {c : Char} (h : c.toNat < 128) :
    String.utf8EncodeChar c = [UInt8.ofNat c.toNat] :=
  if_pos (Nat.le_of_lt_succ h)

/-- The byte of an ASCII character is its number. -/
theorem toNat_ofNat_of_ascii {c : Char} (h : c.toNat < 128) :
    (UInt8.ofNat c.toNat).toNat = c.toNat := by
  rw [UInt8.toNat_ofNat']
  omega

/-- A larger character starts with a byte that is not ASCII. -/
theorem exists_large_of_not_ascii {c : Char} (h : ¬ c.toNat < 128) :
    ∃ b ∈ String.utf8EncodeChar c, 128 ≤ b.toNat := by
  have hlarge : ¬ c.val.toNat ≤ 127 := fun hle => h (Nat.lt_succ_of_le hle)
  unfold String.utf8EncodeChar
  simp only [hlarge, if_false]
  split
  · refine ⟨_, List.mem_cons_self .., ?_⟩
    rw [UInt8.toNat_ofNat']
    omega
  · split
    · refine ⟨_, List.mem_cons_self .., ?_⟩
      rw [UInt8.toNat_ofNat']
      omega
    · refine ⟨_, List.mem_cons_self .., ?_⟩
      rw [UInt8.toNat_ofNat']
      omega

/-- Where every byte is ASCII every character is. -/
theorem ascii_of_bytes {s : String} (h : ∀ b ∈ bytes s, b.toNat < 128) :
    ∀ c ∈ s.toList, c.toNat < 128 := by
  intro c hc
  by_contra hlarge
  obtain ⟨b, hb, hle⟩ := exists_large_of_not_ascii hlarge
  have hlt := h b (by rw [bytes_eq]; exact List.mem_flatMap.mpr ⟨c, hc, hb⟩)
  omega

/-- An ASCII text has one byte for each character. -/
theorem flatMap_of_ascii {cs : List Char} (h : ∀ c ∈ cs, c.toNat < 128) :
    cs.flatMap String.utf8EncodeChar = cs.map fun c => UInt8.ofNat c.toNat := by
  induction cs with
  | nil => rfl
  | cons c cs ih =>
    rw [List.forall_mem_cons] at h
    rw [List.flatMap_cons, List.map_cons, utf8EncodeChar_of_ascii h.1, ih h.2]
    rfl

theorem bytes_of_ascii {s : String} (h : ∀ c ∈ s.toList, c.toNat < 128) :
    bytes s = s.toList.map fun c => UInt8.ofNat c.toNat := by
  rw [bytes_eq, flatMap_of_ascii h]

theorem ascii_of_isAsciiHexDigit {c : Char} (h : isAsciiHexDigit c = true) : c.toNat < 128 := by
  simp only [isAsciiHexDigit, Bool.or_eq_true, Bool.and_eq_true, decide_eq_true_eq, Char.le_def,
    UInt32.le_iff_toNat_le] at h
  have hdigit : '9'.val.toNat = 57 := rfl
  have hlower : 'f'.val.toNat = 102 := rfl
  have hupper : 'F'.val.toNat = 70 := rfl
  have hvalue : c.val.toNat = c.toNat := rfl
  omega

end Text
