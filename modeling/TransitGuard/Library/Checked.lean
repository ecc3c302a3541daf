import Mathlib.Order.Basic
import Mathlib.Algebra.Order.Ring.Int

/-!
Checked arithmetic on 64-bit integers, most of it on signed ones: an operation
returns its exact result, or nothing when that does not fit. What is proved
about a result is proved about the integer it stands for.
-/

namespace Checked

/-- The integer in 64 bits. -/
def ofInt (n : Int) : Option Int64 :=
  if -2 ^ 63 ≤ n ∧ n < 2 ^ 63 then some (Int64.ofInt n) else none

def add (a b : Int64) : Option Int64 := ofInt (a.toInt + b.toInt)

def sub (a b : Int64) : Option Int64 := ofInt (a.toInt - b.toInt)

def mul (a b : Int64) : Option Int64 := ofInt (a.toInt * b.toInt)

/-- The distance from zero. -/
def unsignedAbs (a : Int64) : Nat := a.toInt.natAbs

theorem ofInt_eq_some {n : Int} {c : Int64} : ofInt n = some c ↔ c.toInt = n := by
  unfold ofInt
  constructor
  · intro h
    split at h
    · next hn =>
      cases h
      exact Int64.toInt_ofInt_of_le hn.1 hn.2
    · cases h
  · rintro rfl
    rw [if_pos ⟨c.le_toInt, c.toInt_lt⟩, Int64.ofInt_toInt]

/-- What lies between two 64-bit integers is one. -/
theorem exists_ofInt {n : Int} {a b : Int64} (ha : a.toInt ≤ n) (hb : n ≤ b.toInt) :
    ∃ c, ofInt n = some c ∧ c.toInt = n := by
  have hlow : -2 ^ 63 ≤ n := a.le_toInt.trans ha
  have hhigh : n < 2 ^ 63 := hb.trans_lt b.toInt_lt
  exact ⟨Int64.ofInt n, if_pos ⟨hlow, hhigh⟩, Int64.toInt_ofInt_of_le hlow hhigh⟩

theorem toInt_min (a b : Int64) : (min a b).toInt = min a.toInt b.toInt := by
  have hmin : min a b = if a ≤ b then a else b := rfl
  rw [hmin, min_def]
  by_cases h : a ≤ b
  · rw [if_pos h, if_pos (Int64.le_iff_toInt_le.mp h)]
  · rw [if_neg h, if_neg (fun hle => h (Int64.le_iff_toInt_le.mpr hle))]

/-- A plain sum that stays in range is exact. -/
theorem toInt_add {a b : Int64} (hlow : -2 ^ 63 ≤ a.toInt + b.toInt)
    (hhigh : a.toInt + b.toInt < 2 ^ 63) : (a + b).toInt = a.toInt + b.toInt := by
  rw [Int64.toInt_add]
  apply Int.bmod_eq_of_le <;> omega

/-- A plain difference of two non-negative integers is exact. -/
theorem toInt_sub {a b : Int64} (hb : 0 ≤ b) (h : b ≤ a) : (a - b).toInt = a.toInt - b.toInt := by
  rw [Int64.le_iff_toInt_le] at hb h
  rw [Int64.toInt_zero] at hb
  have hbound : a.toInt < 2 ^ 63 := a.toInt_lt
  rw [Int64.toInt_sub]
  apply Int.bmod_eq_of_le <;> omega

theorem unsignedAbs_sub {a b : Int64} (hb : 0 ≤ b) (h : b ≤ a) :
    (unsignedAbs (a - b) : Int) = a.toInt - b.toInt := by
  have hle := Int64.le_iff_toInt_le.mp h
  rw [unsignedAbs, toInt_sub hb h]
  omega

/-! ## Unsigned integers -/

def addUnsigned (a b : UInt64) : Option UInt64 :=
  if a.toNat + b.toNat < 2 ^ 64 then some (a + b) else none

theorem toNat_of_addUnsigned {a b c : UInt64} (h : addUnsigned a b = some c) :
    c.toNat = a.toNat + b.toNat := by
  unfold addUnsigned at h
  split at h
  · next hfits =>
    cases h
    rw [UInt64.toNat_add, Nat.mod_eq_of_lt hfits]
  · cases h

end Checked
