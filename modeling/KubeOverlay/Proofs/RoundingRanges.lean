import KubeOverlay.Double.Decimal
import Mathlib.Algebra.Order.Field.Power
import Mathlib.Data.Rat.Cast.Order
import Mathlib.Tactic.FieldSimp
import Mathlib.Tactic.Linarith
import Mathlib.Tactic.Ring
/-!
# Ranges of doubles

The reals that round to a double lie between two ends. The range of a magnitude ends where that of the
next one begins (`upper_eq_lower`), and an end belongs to at most one of the two, so a number lies in
the range of one magnitude only (`magnitude_eq_of_inRange`). A sign and a magnitude are all there is to
a double (`eq_of_magnitude`).
-/
namespace KubeOverlay

/-- A number lies in an interval whose unit has a size. -/
def Decimal.Interval.Contains (i : Decimal.Interval) (unit v : ℚ) : Prop :=
  if i.closed then i.low * unit ≤ v ∧ v ≤ i.high * unit else i.low * unit < v ∧ v < i.high * unit

namespace Double

open Decimal (interval)

/-- A quarter of the last place. -/
def unit (x : Double) : ℚ := 2 ^ (x.exponent - 2)

/-- The lower end of the range. -/
def lower (x : Double) : ℚ := (interval x).low * x.unit

/-- The upper end of the range. -/
def upper (x : Double) : ℚ := (interval x).high * x.unit

/-- A number lies in the range of a double, up to the sign. -/
def InRange (x : Double) (v : ℚ) : Prop := (interval x).Contains x.unit v

theorem unit_pos (x : Double) : 0 < x.unit := zpow_pos two_pos _

/-! ## Sign and magnitude -/

theorem magnitude_lt (x : Double) : x.magnitude < 2 ^ 63 := Nat.mod_lt _ (Nat.pow_pos two_pos)

theorem toNat_bits (x : Double) : x.bits.toNat = (if x.negative then 2 ^ 63 else 0) + x.magnitude := by
  have below := x.bits.toNat_lt
  have pow : Nat.pow 2 63 = 2 ^ 63 := rfl
  unfold negative magnitude
  rw [pow]
  by_cases high : 2 ^ 63 ≤ x.bits.toNat
  · rw [decide_eq_true high, if_pos rfl]
    omega
  · rw [decide_eq_false high, if_neg Bool.false_ne_true]
    omega

theorem eq_of_magnitude {x y : Double} (sign : x.negative = y.negative) (same : x.magnitude = y.magnitude) :
    x = y := by
  have bits : x.bits.toNat = y.bits.toNat := by rw [toNat_bits, toNat_bits, sign, same]
  cases x
  cases y
  exact congrArg mk (UInt64.toNat_inj.mp bits)

theorem exists_magnitude {n : Nat} (small : n < 2 ^ 63) : ∃ x : Double, x.magnitude = n := by
  refine ⟨⟨UInt64.ofNat n⟩, ?_⟩
  have bits : (UInt64.ofNat n).toNat = n := UInt64.toNat_ofNat_of_lt' (by rw [UInt64.size]; omega)
  rw [magnitude, bits]
  exact Nat.mod_eq_of_lt small

/-- A magnitude is an exponent and a significand. -/
theorem parts (x : Double) :
    (x.magnitude < 2 ^ 52 ∧ x.exponent = -1074 ∧ x.significand = x.magnitude) ∨
      (2 ^ 52 ≤ x.magnitude ∧ x.exponent = (x.magnitude / 2 ^ 52 : Nat) - 1075 ∧
        x.significand = 2 ^ 52 + x.magnitude % 2 ^ 52) := by
  have pow : Nat.pow 2 52 = 2 ^ 52 := rfl
  unfold exponent significand
  rw [pow]
  by_cases subnormal : x.magnitude < 2 ^ 52
  · rw [if_pos subnormal, if_pos subnormal]
    exact .inl ⟨subnormal, rfl, rfl⟩
  · rw [if_neg subnormal, if_neg subnormal]
    exact .inr ⟨not_lt.mp subnormal, rfl, rfl⟩

theorem significand_lt (x : Double) : x.significand < 2 ^ 53 := by
  rcases x.parts with parts | parts <;> omega

theorem significand_pos {x : Double} (nonzero : x.magnitude ≠ 0) : 0 < x.significand := by
  rcases x.parts with parts | parts <;> omega

theorem significand_mod_two (x : Double) : x.significand % 2 = x.magnitude % 2 := by
  rcases x.parts with parts | parts <;> omega

theorem exponent_bounds (x : Double) : -1074 ≤ x.exponent ∧ x.exponent ≤ 972 := by
  have small := x.magnitude_lt
  rcases x.parts with parts | parts <;> omega

/-! ## The ends of a range -/

theorem mid_interval (x : Double) : (interval x).mid = 4 * x.significand := rfl

theorem high_interval (x : Double) : (interval x).high = 4 * x.significand + 2 := rfl

/-- The range ends half a place below, a quarter where the places below are half as large. -/
theorem low_interval (x : Double) : (interval x).low =
    4 * x.significand - if x.significand = 2 ^ 52 ∧ -1074 < x.exponent then 1 else 2 := by
  have pow : Nat.pow 2 52 = 2 ^ 52 := rfl
  unfold interval
  dsimp only
  rw [pow]
  simp only [Bool.and_eq_true, beq_iff_eq, decide_eq_true_eq]

theorem closed_interval (x : Double) : (interval x).closed = true ↔ x.magnitude % 2 = 0 := by
  rw [← significand_mod_two]
  exact beq_iff_eq

theorem lower_pos {x : Double} (nonzero : x.magnitude ≠ 0) : 0 < x.lower := by
  have positive := significand_pos nonzero
  have low : 0 < (interval x).low := by
    rw [low_interval]
    split <;> omega
  exact mul_pos (Nat.cast_pos.mpr low) x.unit_pos

theorem lower_lt_upper (x : Double) : x.lower < x.upper := by
  have ends : (interval x).low < (interval x).high := by
    rw [low_interval, high_interval]
    omega
  exact mul_lt_mul_of_pos_right (Nat.cast_lt.mpr ends) x.unit_pos

/-- The range of the next magnitude begins where this one ends. -/
theorem upper_eq_lower {x y : Double} (next : y.magnitude = x.magnitude + 1) : x.upper = y.lower := by
  have step : (y.exponent = x.exponent ∧ y.significand = x.significand + 1 ∧
        (y.significand = 2 ^ 52 → y.exponent = -1074)) ∨
      (y.exponent = x.exponent + 1 ∧ y.significand = 2 ^ 52 ∧ x.significand = 2 ^ 53 - 1) := by
    rcases x.parts with parts | parts <;> rcases y.parts with parts' | parts' <;> omega
  unfold upper lower unit
  rw [high_interval, low_interval]
  rcases step with ⟨exponent, significand, first⟩ | ⟨exponent, significand, last⟩
  · rw [if_neg (by omega), exponent, significand]
    rfl
  · have above := x.exponent_bounds.1
    rw [if_pos (by omega), exponent, significand, last, add_sub_right_comm, zpow_add_one₀ two_ne_zero]
    norm_num
    ring

theorem upper_le_lower {x y : Double} (less : x.magnitude < y.magnitude) : x.upper ≤ y.lower := by
  -- One magnitude after the other, down to the next one.
  generalize count : y.magnitude - x.magnitude - 1 = gap
  induction gap generalizing y with
  | zero => exact le_of_eq (upper_eq_lower (by omega))
  | succ gap ih =>
    obtain ⟨z, before⟩ := exists_magnitude (n := y.magnitude - 1) (by have := y.magnitude_lt; omega)
    calc x.upper ≤ z.lower := ih (by omega) (by omega)
      _ ≤ z.upper := z.lower_lt_upper.le
      _ = y.lower := upper_eq_lower (by omega)

/-! ## Numbers in a range -/

theorem InRange.bounds {x : Double} {v : ℚ} (inside : x.InRange v) : x.lower ≤ v ∧ v ≤ x.upper := by
  unfold InRange Decimal.Interval.Contains at inside
  split at inside
  · exact inside
  · exact ⟨inside.1.le, inside.2.le⟩

theorem InRange.even {x : Double} {v : ℚ} (inside : x.InRange v) (atEnd : v = x.lower ∨ v = x.upper) :
    x.magnitude % 2 = 0 := by
  unfold InRange Decimal.Interval.Contains at inside
  split at inside
  · exact (closed_interval x).mp ‹_›
  · rcases atEnd with rfl | rfl
    · exact absurd inside.1 (lt_irrefl _)
    · exact absurd inside.2 (lt_irrefl _)

/-- Ranges of different magnitudes have no number in common. -/
theorem InRange.not_lt {x y : Double} {v : ℚ} (inside : x.InRange v) (inside' : y.InRange v) :
    ¬x.magnitude < y.magnitude := by
  intro less
  have ends := upper_le_lower less
  have atUpper : v = x.upper := le_antisymm inside.bounds.2 (ends.trans inside'.bounds.1)
  have atLower : v = y.lower := le_antisymm (inside.bounds.2.trans ends) inside'.bounds.1
  have even := inside.even (.inr atUpper)
  have even' := inside'.even (.inl atLower)
  obtain ⟨z, next⟩ := exists_magnitude (n := x.magnitude + 1) (by have := y.magnitude_lt; omega)
  -- Both ends are closed, so a whole range lies between them.
  have between : z.upper ≤ y.lower := upper_le_lower (by omega)
  have same : z.lower = y.lower := by rw [← upper_eq_lower next, ← atUpper, atLower]
  exact absurd z.lower_lt_upper (not_lt_of_ge (between.trans same.ge))

theorem magnitude_eq_of_inRange {x y : Double} {v : ℚ} (inside : x.InRange v) (inside' : y.InRange v) :
    x.magnitude = y.magnitude :=
  Nat.le_antisymm (Nat.le_of_not_lt (inside'.not_lt inside)) (Nat.le_of_not_lt (inside.not_lt inside'))

end Double

end KubeOverlay
