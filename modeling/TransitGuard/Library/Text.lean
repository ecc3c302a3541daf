import Mathlib.Data.List.DropRight
import Mathlib.Algebra.Order.Ring.Int

/-!
Text as the programs see it: trimming and character classes of the Rust
standard library, and the text functions of the SQL stores, which differ from
them (SQL trims the space character only, and SQLite counts the characters
before the first NUL).
-/

namespace Text

/-- `char::is_whitespace`, the Unicode property `White_Space`. -/
def isWhitespace (c : Char) : Bool :=
  let n := c.toNat
  (9 ≤ n && n ≤ 13) || n == 0x20 || n == 0x85 || n == 0xA0 || n == 0x1680 ||
    (0x2000 ≤ n && n ≤ 0x200A) || n == 0x2028 || n == 0x2029 || n == 0x202F ||
    n == 0x205F || n == 0x3000

/-- `char::is_control`, the Unicode category `Cc`. -/
def isControl (c : Char) : Bool :=
  let n := c.toNat
  n < 0x20 || (0x7F ≤ n && n ≤ 0x9F)

def trimBy (drop : Char → Bool) (s : String) : String :=
  String.ofList ((s.toList.dropWhile drop).rdropWhile drop)

/-- `str::trim`. -/
def trim (s : String) : String := trimBy isWhitespace s

/-- `str::len`, the number of UTF-8 bytes. -/
def byteLength (s : String) : Nat := s.utf8ByteSize

/-- `trim(X)` in SQL. -/
def sqlTrim (s : String) : String := trimBy (· == ' ') s

/-- `length(X)` in SQLite. -/
def sqliteLength (s : String) : Nat := (s.toList.takeWhile (· != '\x00')).length

/-- `length(trim(X)) > 0` in SQLite. -/
def sqliteNonBlank (s : String) : Bool := 0 < sqliteLength (sqlTrim s)

@[simp] theorem byteLength_append (s t : String) :
    byteLength (s ++ t) = byteLength s + byteLength t := by
  simp [byteLength]

theorem byteLength_singleton_pos (c : Char) : 0 < byteLength (String.singleton c) := by
  simp only [byteLength, String.utf8ByteSize_singleton]
  exact c.utf8Size_pos

/-- A character has at most four bytes. -/
theorem byteLength_le_four_mul (s : String) : byteLength s ≤ 4 * s.toList.length := by
  have h : ∀ cs : List Char, byteLength (String.ofList cs) ≤ 4 * cs.length := by
    intro cs
    induction cs with
    | nil => decide
    | cons c cs ih =>
      have hc := c.utf8Size_le_four
      rw [String.ofList_cons, byteLength_append]
      simp only [byteLength, String.utf8ByteSize_singleton, List.length_cons] at *
      omega
  simpa using h s.toList

private theorem dropWhile_rdropWhile (p : Char → Bool) (cs : List Char) :
    ((cs.dropWhile p).rdropWhile p).dropWhile p = (cs.dropWhile p).rdropWhile p := by
  rw [List.dropWhile_eq_self_iff]
  intro hl
  have hpre : (cs.dropWhile p).rdropWhile p <+: cs.dropWhile p := List.rdropWhile_prefix p _
  have hne : cs.dropWhile p ≠ [] := fun h => by simp [h] at hl
  -- a prefix starts with the head of the dropped list, which `p` does not accept
  rw [hpre.getElem hl]
  exact List.dropWhile_get_zero_not p cs (List.length_pos_iff.mpr hne)

theorem trimBy_trimBy (drop : Char → Bool) (s : String) :
    trimBy drop (trimBy drop s) = trimBy drop s := by
  simp only [trimBy, String.toList_ofList, dropWhile_rdropWhile,
    List.rdropWhile_idempotent drop _]

theorem trim_trim (s : String) : trim (trim s) = trim s := trimBy_trimBy _ s

/-- A trimmed text starts with a character that is not whitespace. -/
theorem head_of_trim {s : String} (htrimmed : trim s = s) (hne : s ≠ "") :
    ∃ c, s.toList.head? = some c ∧ isWhitespace c = false := by
  have hkept : s.toList.dropWhile isWhitespace = s.toList := by
    have hlist : (s.toList.dropWhile isWhitespace).rdropWhile isWhitespace = s.toList := by
      rw [← String.toList_ofList (l := (s.toList.dropWhile isWhitespace).rdropWhile isWhitespace)]
      exact congrArg String.toList htrimmed
    rw [← hlist, dropWhile_rdropWhile]
  obtain ⟨c, cs, hcs⟩ := List.exists_cons_of_ne_nil (fun h => hne (String.toList_eq_nil_iff.mp h))
  refine ⟨c, by rw [hcs]; rfl, ?_⟩
  rw [hcs, List.dropWhile_eq_self_iff] at hkept
  simpa using hkept (Nat.succ_pos _)

/-- Trimming keeps a first character that it does not drop. -/
theorem trimBy_head {drop : Char → Bool} {s : String} {c : Char}
    (hhead : s.toList.head? = some c) (hkept : drop c = false) :
    (trimBy drop s).toList.head? = some c := by
  obtain ⟨cs, hs⟩ : ∃ cs, s.toList = c :: cs := List.head?_eq_some_iff.mp hhead
  have hdrop : s.toList.dropWhile drop = c :: cs := by
    rw [hs]
    exact List.dropWhile_cons_of_neg (by simpa using hkept)
  have hne : (c :: cs).rdropWhile drop ≠ [] := by
    rw [ne_eq, List.rdropWhile_eq_nil_iff]
    intro hall
    have hdropped := hall c (List.mem_cons_self ..)
    rw [hkept] at hdropped
    cases hdropped
  obtain ⟨d, kept, hd⟩ := List.exists_cons_of_ne_nil hne
  have hprefix : (c :: cs).rdropWhile drop <+: c :: cs := List.rdropWhile_prefix _ _
  rw [hd, List.cons_prefix_cons] at hprefix
  rw [trimBy, hdrop, hd, String.toList_ofList, hprefix.1]
  rfl

theorem trim_ne_empty_of_head {s : String} {c : Char} (hhead : s.toList.head? = some c)
    (hvisible : isWhitespace c = false) : trim s ≠ "" := by
  intro hempty
  have htrimmed := trimBy_head hhead hvisible
  rw [trim] at hempty
  rw [hempty] at htrimmed
  cases htrimmed

/-- SQLite finds a text that starts with a visible character not blank. -/
theorem sqliteNonBlank_of_head {s : String} {c : Char} (hhead : s.toList.head? = some c)
    (hspace : c ≠ ' ') (hnul : c ≠ '\x00') : sqliteNonBlank s = true := by
  have htrimmed : (sqlTrim s).toList.head? = some c :=
    trimBy_head hhead (beq_eq_false_iff_ne.mpr hspace)
  obtain ⟨cs, hs⟩ := List.head?_eq_some_iff.mp htrimmed
  rw [sqliteNonBlank, sqliteLength, hs, List.takeWhile_cons_of_pos (by simpa using hnul)]
  simp

end Text
