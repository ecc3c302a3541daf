import Mathlib.Algebra.Order.Ring.Int

/-!
Discounts by a rate, in whole numbers: `rate` parts of `whole` are taken off an
amount, rounded down, so what is left is rounded up. Rounding keeps the order:
a larger amount leaves at least as much, a larger rate at most as much.
-/

namespace Discount

/-- What is taken off, rounded down. -/
def part (amount rate whole : Int) : Int := amount * rate / whole

/-- What is left. -/
def rest (amount rate whole : Int) : Int := amount - part amount rate whole

variable {amount amount' rate rate' whole : Int}

theorem part_nonneg (hamount : 0 ≤ amount) (hrate : 0 ≤ rate) (hwhole : 0 < whole) :
    0 ≤ part amount rate whole :=
  Int.ediv_nonneg (Int.mul_nonneg hamount hrate) hwhole.le

theorem part_le (hamount : 0 ≤ amount) (hrate : rate ≤ whole) (hwhole : 0 < whole) :
    part amount rate whole ≤ amount := by
  have hscaled : amount * rate ≤ amount * whole := Int.mul_le_mul_of_nonneg_left hrate hamount
  calc amount * rate / whole ≤ amount * whole / whole := Int.ediv_le_ediv hwhole hscaled
    _ = amount := Int.mul_ediv_cancel _ hwhole.ne'

theorem rest_nonneg (hamount : 0 ≤ amount) (hrate : rate ≤ whole) (hwhole : 0 < whole) :
    0 ≤ rest amount rate whole := by
  have hpart := part_le hamount hrate hwhole
  unfold rest
  omega

theorem rest_le (hamount : 0 ≤ amount) (hrate : 0 ≤ rate) (hwhole : 0 < whole) :
    rest amount rate whole ≤ amount := by
  have hpart := part_nonneg hamount hrate hwhole
  unfold rest
  omega

/-- A unit more never leaves less: its own discount is at most the unit. -/
theorem rest_mono (hamount : amount ≤ amount') (hrate : rate ≤ whole) (hwhole : 0 < whole) :
    rest amount rate whole ≤ rest amount' rate whole := by
  have hgain : (amount' - amount) * rate ≤ (amount' - amount) * whole :=
    Int.mul_le_mul_of_nonneg_left hrate (by omega)
  have hscaled : amount' * rate ≤ amount * rate + (amount' - amount) * whole := by
    rw [Int.sub_mul] at hgain
    omega
  have hpart : amount' * rate / whole ≤ amount * rate / whole + (amount' - amount) := by
    rw [← Int.add_mul_ediv_right _ _ hwhole.ne']
    exact Int.ediv_le_ediv hwhole hscaled
  unfold rest part
  omega

theorem rest_antitone (hamount : 0 ≤ amount) (hrate : rate ≤ rate') (hwhole : 0 < whole) :
    rest amount rate' whole ≤ rest amount rate whole := by
  have hpart : amount * rate / whole ≤ amount * rate' / whole :=
    Int.ediv_le_ediv hwhole (Int.mul_le_mul_of_nonneg_left hrate hamount)
  unfold rest part
  omega

end Discount
