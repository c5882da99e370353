import KubeOverlay.Predicate
import KubeOverlay.Proofs.RoundingRanges
/-!
# The order of numbers

Doubles are compared in an order that is glued together: equal numbers are equal, and all others go by
their place among the bit patterns. The two relations disagree only at the zeros, which are neighbours
among the patterns, so every double has a rank in a line (`Double.rank`) by which all of the comparisons
can be told (`Double.order_eq_compare`).
-/
namespace KubeOverlay

namespace Double

variable {x y : Double}

/-! ## Equal numbers -/

theorem equal_comm (x y : Double) : x.equal y = y.equal x := by
  rw [equal, equal, Bool.and_comm (!x.isNaN), Bool.and_comm x.isZero, Bool.beq_comm]

theorem not_isNaN_of_isZero (zero : x.isZero) : x.isNaN = false := by
  rw [isZero, beq_iff_eq] at zero
  rw [isNaN, zero]
  rfl

theorem equal_of_isZero (zero : x.isZero) (y : Double) : x.equal y = y.isZero := by
  rw [equal, not_isNaN_of_isZero zero, zero]
  cases isZero : y.isZero with
  | true => simp [not_isNaN_of_isZero isZero]
  | false =>
    have differ : x ≠ y := by
      rintro rfl
      simp [zero] at isZero
    simp [differ]

/-- Equal numbers are equal to the same numbers. -/
theorem equal_congr (same : x.equal y) (z : Double) : x.equal z = y.equal z := by
  by_cases identical : x = y
  · rw [identical]
  · -- Different patterns that are equal are both zero.
    obtain ⟨-, zeroX, zeroY⟩ : _ ∧ x.isZero ∧ y.isZero := by simpa [equal, identical] using same
    rw [equal_of_isZero zeroX, equal_of_isZero zeroY]

/-! ## Places -/

theorem place_of_isZero (zero : x.isZero) : x.place = 0 ∨ x.place = -1 := by
  have magnitude : x.magnitude = 0 := by simpa [isZero] using zero
  unfold place
  split
  · omega
  · omega

theorem place_of_not_isZero (nonzero : ¬ x.isZero) : 0 < x.place ∨ x.place < -1 := by
  have magnitude : x.magnitude ≠ 0 := by simpa [isZero] using nonzero
  unfold place
  split
  · omega
  · omega

theorem place_injective : Function.Injective place := by
  intro x y same
  unfold place at same
  have sign : x.negative = y.negative := by
    cases negX : x.negative <;> cases negY : y.negative <;> simp [negX, negY] at same ⊢ <;> omega
  rw [sign] at same
  apply eq_of_magnitude sign
  split at same
  · omega
  · omega

/-! ## Ranks -/

/-- The place of a number in the line where the two zeros have the same one. -/
def rank (x : Double) : Int := if x.isZero then 0 else x.place

theorem rank_eq_zero_iff : x.rank = 0 ↔ x.isZero := by
  unfold rank
  by_cases zero : x.isZero
  · simp [zero]
  · have away := place_of_not_isZero zero
    have differs : x.place ≠ 0 := by omega
    simp [zero, differs]

theorem rank_eq_iff : x.rank = y.rank ↔ x = y ∨ x.isZero ∧ y.isZero := by
  constructor
  · intro same
    have alike : x.isZero ↔ y.isZero := by rw [← rank_eq_zero_iff, ← rank_eq_zero_iff, same]
    by_cases zero : x.isZero
    · exact .inr ⟨zero, alike.mp zero⟩
    · rw [rank, rank, if_neg zero, if_neg (mt alike.mpr zero)] at same
      exact .inl (place_injective same)
  · rintro (rfl | ⟨zeroX, zeroY⟩)
    · rfl
    · rw [rank_eq_zero_iff.mpr zeroX, rank_eq_zero_iff.mpr zeroY]

theorem compare_congr {a b c d : Int} (less : a < b ↔ c < d) (same : a = b ↔ c = d) :
    compare a b = compare c d := by
  simp only [compare, compareOfLessAndEq, less, same]

/-- The glued order is the order of the ranks. -/
theorem order_eq_compare (x y : Double) : x.order y = compare x.rank y.rank := by
  unfold order
  by_cases same : x.equal y
  · have ranks : x.rank = y.rank := by
      apply rank_eq_iff.mpr
      simp only [equal, Bool.and_eq_true, Bool.or_eq_true, beq_iff_eq] at same
      exact same.2
    rw [if_pos same, ranks]
    exact (Int.compare_eq_eq.mpr rfl).symm
  · rw [if_neg same]
    -- Nothing stands between the zeros, so moving one of them onto the other changes no comparison.
    unfold rank
    by_cases zeroX : x.isZero
    · have zeroY : ¬ y.isZero := by rwa [equal_of_isZero zeroX] at same
      have near := place_of_isZero zeroX
      have away := place_of_not_isZero zeroY
      rw [if_pos zeroX, if_neg zeroY]
      apply compare_congr
      · omega
      · omega
    · by_cases zeroY : y.isZero
      · have near := place_of_isZero zeroY
        have away := place_of_not_isZero zeroX
        rw [if_neg zeroX, if_pos zeroY]
        apply compare_congr
        · omega
        · omega
      · rw [if_neg zeroX, if_neg zeroY]

/-! ## The comparisons -/

variable (a b c : Double)

theorem isEqual_eq : isEqual b a = decide (a.rank = b.rank) := by
  rw [Bool.eq_iff_iff, isEqual, beq_iff_eq, order_eq_compare, Int.compare_eq_eq, decide_eq_true_iff]

theorem isGreater_eq : isGreater b a = decide (b.rank < a.rank) := by
  rw [Bool.eq_iff_iff, isGreater, beq_iff_eq, order_eq_compare, Int.compare_eq_gt, decide_eq_true_iff]

theorem isLess_eq : isLess b a = decide (a.rank < b.rank) := by
  have tests : isLess b a = (!isEqual b a && !isGreater b a) := by simp [isLess, Predicate.all, Predicate.negate]
  rw [tests, isEqual_eq, isGreater_eq, Bool.eq_iff_iff]
  simp only [Bool.and_eq_true, Bool.not_eq_true', decide_eq_false_iff_not, decide_eq_true_iff]
  omega

theorem isAtLeast_eq : isAtLeast b a = decide (b.rank ≤ a.rank) := by
  have tests : isAtLeast b a = (isEqual b a || isGreater b a) := by simp [isAtLeast, Predicate.any]
  rw [tests, isEqual_eq, isGreater_eq, Bool.eq_iff_iff]
  simp only [Bool.or_eq_true, decide_eq_true_iff]
  omega

theorem isAtMost_eq : isAtMost b a = decide (a.rank ≤ b.rank) := by
  have tests : isAtMost b a = (isEqual b a || isLess b a) := by simp [isAtMost, Predicate.any]
  rw [tests, isEqual_eq, isLess_eq, Bool.eq_iff_iff]
  simp only [Bool.or_eq_true, decide_eq_true_iff]
  omega

/-- The comparisons with a bound. -/
def comparisons : List (Double → Predicate Double) := [isEqual, isGreater, isLess, isAtLeast, isAtMost]

/-- A comparison sees the ranks of its sides only. -/
theorem comparisons_congr {a b : Double} (same : isEqual b a) :
    ∀ comparison ∈ comparisons, comparison c a = comparison c b ∧ comparison a c = comparison b c := by
  have ranks : a.rank = b.rank := by simpa [isEqual_eq] using same
  simp only [comparisons, List.forall_mem_cons, isEqual_eq, isGreater_eq, isLess_eq, isAtLeast_eq, isAtMost_eq, ranks]
  simp

theorem comparisons_trans :
    ∀ comparison ∈ comparisons, comparison b a → comparison c b → comparison c a := by
  simp only [comparisons, List.forall_mem_cons, isEqual_eq, isGreater_eq, isLess_eq, isAtLeast_eq, isAtMost_eq,
    decide_eq_true_iff]
  refine ⟨?_, ?_, ?_, ?_, ?_, by simp⟩
  all_goals omega

/-- The comparisons of all doubles, NaN and the infinities included, are those of one order: just one of
equal, greater and less holds, greater and less mirror each other, the inclusive ones are the negations of
the strict ones, what is equal is alike on either side of all of them, and all are transitive. Only the
two zeros are equal without being the same. -/
theorem comparisons_consistent :
    [isEqual b a, isGreater b a, isLess b a].count true = 1 ∧
    isLess b a = isGreater a b ∧
    isAtLeast b a = !isLess b a ∧ isAtMost b a = !isGreater b a ∧
    isEqual a a ∧ isEqual b a = isEqual a b ∧ (isEqual b a ↔ a = b ∨ a.isZero ∧ b.isZero) ∧
    (isEqual b a → ∀ comparison ∈ comparisons,
      comparison c a = comparison c b ∧ comparison a c = comparison b c) ∧
    ∀ comparison ∈ comparisons, comparison b a → comparison c b → comparison c a := by
  refine ⟨?_, ?_, ?_, ?_, ?_, ?_, ?_, comparisons_congr c, comparisons_trans a b c⟩
  · rw [isEqual_eq, isGreater_eq, isLess_eq]
    rcases Int.lt_trichotomy a.rank b.rank with less | same | greater
    · have notSame : a.rank ≠ b.rank := by omega
      have notGreater : ¬ b.rank < a.rank := by omega
      simp [less, notSame, notGreater]
    · simp [same]
    · have notSame : a.rank ≠ b.rank := by omega
      have notLess : ¬ a.rank < b.rank := by omega
      simp [greater, notSame, notLess]
  · rw [isLess_eq, isGreater_eq]
  · rw [isAtLeast_eq, isLess_eq, ← decide_not, decide_eq_decide]
    omega
  · rw [isAtMost_eq, isGreater_eq, ← decide_not, decide_eq_decide]
    omega
  · simp [isEqual_eq]
  · simp [isEqual_eq, eq_comm]
  · rw [isEqual_eq, decide_eq_true_iff, rank_eq_iff]

/-- The zeros are alike for every comparison, here with an infinity and a NaN on the other side. -/
theorem zeros_consistent : isEqual zero (ofMagnitude true 0) ∧ zero ≠ ofMagnitude true 0 ∧
    isLess (infinity false) (ofMagnitude true 0) = isLess (infinity false) zero ∧
    isLess (ofMagnitude true 0) (infinity false) = isLess zero (infinity false) ∧
    isGreater zero (infinity false) ∧ isGreater (infinity false) nan ∧ isGreater zero nan := by
  have same : isEqual zero (ofMagnitude true 0) := by decide
  have above : isGreater zero (infinity false) := by decide
  have beyond : isGreater (infinity false) nan := by decide
  obtain ⟨-, -, -, -, -, -, -, alike, -⟩ := comparisons_consistent (ofMagnitude true 0) zero (infinity false)
  have ⟨left, right⟩ := alike same isLess (by simp [comparisons])
  obtain ⟨-, -, -, -, -, -, -, -, chained⟩ := comparisons_consistent nan (infinity false) zero
  have farAbove := chained isGreater (by simp [comparisons]) beyond above
  exact ⟨same, by decide, left, right, above, beyond, farAbove⟩

end Double

end KubeOverlay
