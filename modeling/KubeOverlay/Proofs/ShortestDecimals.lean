import KubeOverlay.Proofs.DecimalTexts
import KubeOverlay.Proofs.RoundingRanges
/-!
# Shortest decimals

The decimal of a double lies in the range of the reals that round to it (`shortest_inRange`): with
seventeen digits the grid is finer than the range, so one of the grids tried has a point in it. No two
doubles have decimals of the same sign and the same value (`eq_of_shortest`).
-/
namespace KubeOverlay.Decimal

/-! ## Quotients -/

/-- A quotient divided by a power of ten: its numerator and its denominator are the same multiple of the
quotient and of the power. -/
theorem scaled_factor (num : Nat) {den : Nat} (positive : 0 < den) (power : Int) : ∃ k : ℚ, 0 < k ∧
    ((scaled num den power).1 : ℚ) = num / den * k ∧ ((scaled num den power).2 : ℚ) = 10 ^ power * k := by
  have size : (0 : ℚ) < den := Nat.cast_pos.mpr positive
  have tens (count : Nat) : ((Nat.pow 10 count : Nat) : ℚ) = 10 ^ count := by
    rw [Nat.pow_eq, Nat.cast_pow, Nat.cast_ofNat]
  unfold scaled
  split
  case isTrue up =>
    lift power to Nat using up
    refine ⟨den, size, (div_mul_cancel₀ _ size.ne').symm, ?_⟩
    rw [Int.toNat_natCast, Nat.cast_mul, tens, zpow_natCast, mul_comm]
  case isFalse down =>
    obtain ⟨count, rfl⟩ : ∃ count : Nat, power = -count := ⟨(-power).toNat, by omega⟩
    have some : (0 : ℚ) < 10 ^ count := pow_pos (by norm_num) count
    refine ⟨den * 10 ^ count, mul_pos size some, ?_, ?_⟩
    · rw [neg_neg, Int.toNat_natCast, Nat.cast_mul, tens, ← mul_assoc, div_mul_cancel₀ _ size.ne']
    · rw [zpow_neg, zpow_natCast, mul_comm (den : ℚ), inv_mul_cancel_left₀ some.ne']

section Scaled

variable {num den : Nat} (positive : 0 < den) (power : Int) (a c : Nat)
include positive

theorem scaled_snd_pos : 0 < (scaled num den power).2 := by
  obtain ⟨k, some, -, snd⟩ := scaled_factor num positive power
  have product : (0 : ℚ) < 10 ^ power * k := mul_pos (zpow_pos (by norm_num) power) some
  exact Nat.cast_pos.mp (snd ▸ product)

theorem scaled_le : a * (scaled num den power).1 ≤ c * (scaled num den power).2 ↔
    (a : ℚ) * (num / den) ≤ c * 10 ^ power := by
  obtain ⟨k, some, fst, snd⟩ := scaled_factor num positive power
  rw [← Nat.cast_le (α := ℚ), Nat.cast_mul, Nat.cast_mul, fst, snd, ← mul_assoc, ← mul_assoc,
    mul_le_mul_iff_of_pos_right some]

theorem le_scaled : c * (scaled num den power).2 ≤ a * (scaled num den power).1 ↔
    (c : ℚ) * 10 ^ power ≤ a * (num / den) := by
  obtain ⟨k, some, fst, snd⟩ := scaled_factor num positive power
  rw [← Nat.cast_le (α := ℚ), Nat.cast_mul, Nat.cast_mul, fst, snd, ← mul_assoc, ← mul_assoc,
    mul_le_mul_iff_of_pos_right some]

theorem scaled_lt : a * (scaled num den power).1 < c * (scaled num den power).2 ↔
    (a : ℚ) * (num / den) < c * 10 ^ power := by
  rw [← not_le, le_scaled positive, not_le]

theorem lt_scaled : c * (scaled num den power).2 < a * (scaled num den power).1 ↔
    (c : ℚ) * 10 ^ power < a * (num / den) := by
  rw [← not_le, scaled_le positive, not_le]

end Scaled

/-! ## Points of a grid -/

/-- Whether a multiple of a quotient lies in an interval with another one as unit. -/
def inside (i : Interval) (n d c : Nat) : Bool :=
  if i.closed then i.low * n ≤ c * d && c * d ≤ i.high * n
  else i.low * n < c * d && c * d < i.high * n

/-- The point of a grid below the middle of an interval. -/
def floorPoint (i : Interval) (num den : Nat) (power : Int) : Nat :=
  i.mid * (scaled num den power).1 / (scaled num den power).2

/-- Of two neighbours one that is inside is taken. -/
theorem choice_outcome (inside : Nat → Bool) (floor : Nat) (nearer : Bool) :
    match (if inside floor && inside (floor + 1) then some (if nearer then floor else floor + 1)
      else if inside floor then some floor else if inside (floor + 1) then some (floor + 1) else none) with
    | some c => inside c = true
    | none => inside floor = false ∧ inside (floor + 1) = false := by
  cases below : inside floor <;> cases above : inside (floor + 1) <;> cases nearer <;> simp [below, above]

section Grid

variable {i : Interval} {num den : Nat} {power : Int}

theorem contains_iff (positive : 0 < den) (c : Nat) :
    i.Contains (num / den) (c * 10 ^ power) ↔
      inside i (scaled num den power).1 (scaled num den power).2 c = true := by
  unfold Interval.Contains inside
  rw [← scaled_le positive, ← le_scaled positive, ← scaled_lt positive, ← lt_scaled positive]
  split <;> simp

/-- A point that is found lies in the interval, and one is found unless both neighbours of the middle lie
outside. -/
theorem gridPoint?_outcome (i : Interval) (num : Nat) (power : Int) (positive : 0 < den) :
    match gridPoint? i num den power with
    | some c => i.Contains (num / den) (c * 10 ^ power)
    | none => ¬i.Contains (num / den) (floorPoint i num den power * 10 ^ power) ∧
        ¬i.Contains (num / den) ((floorPoint i num den power + 1 : Nat) * 10 ^ power) := by
  simp only [contains_iff positive, Bool.not_eq_true]
  unfold gridPoint? floorPoint
  generalize scaled num den power = q
  obtain ⟨n, d⟩ := q
  exact choice_outcome (inside i n d) (i.mid * n / d) _

/-- The first of several grids with a point in the interval gives it, when the last of them has one. -/
theorem shortestFrom_contains (positive : 0 < den) {size : Int} {fuel count : Nat}
    (last : gridPoint? i num den (size - (count + fuel : Nat)) ≠ none) :
    i.Contains (num / den) ((shortestFrom i num den size (fuel + 1) count).1 *
      10 ^ (shortestFrom i num den size (fuel + 1) count).2) := by
  have outcome := gridPoint?_outcome i num (size - count) positive
  rw [shortestFrom]
  cases found : gridPoint? i num den (size - count) with
  | some c =>
    rw [found] at outcome
    exact outcome
  | none =>
    cases fuel with
    | zero => exact absurd found last
    | succ fuel => exact shortestFrom_contains positive (by rwa [Nat.add_right_comm])

theorem inside_of_lt {n d c : Nat} (low : i.low * n < c * d) (high : c * d < i.high * n) :
    inside i n d c = true := by
  unfold inside
  split
  · rw [decide_eq_true low.le, decide_eq_true high.le]
    rfl
  · rw [decide_eq_true low, decide_eq_true high]
    rfl

end Grid

/-- Points that lie closely enough have one in the range of a double: they are less than half of it apart,
and less than its upper half where the lower half is smaller. -/
theorem neighbour_inside (x : Double) {n d : Nat} (some : 0 < d) (wide : 10 ^ 16 * d ≤ (interval x).mid * n) :
    inside (interval x) n d ((interval x).mid * n / d) = true ∨
      inside (interval x) n d ((interval x).mid * n / d + 1) = true := by
  have floor := Nat.div_mul_le_self ((interval x).mid * n) d
  have ceiling := Nat.lt_div_mul_add (a := (interval x).mid * n) some
  have next := Nat.add_one_mul ((interval x).mid * n / d) d
  have mid := congrArg (· * n) x.mid_interval
  have high := congrArg (· * n) x.high_interval
  have low := congrArg (· * n) x.low_interval
  have small := Nat.mul_le_mul_right n (Nat.le_sub_one_of_lt x.significand_lt)
  simp only [Nat.add_mul, Nat.sub_mul, Nat.mul_assoc 4] at mid high low
  by_cases edge : x.significand = 2 ^ 52 ∧ -1074 < x.exponent
  · rw [if_pos edge, edge.1] at low
    rw [edge.1] at mid high
    exact .inr (inside_of_lt (by omega) (by omega))
  · rw [if_neg edge] at low
    by_cases near : (interval x).mid * n < (interval x).mid * n / d * d + 2 * n
    · exact .inl (inside_of_lt (by omega) (by omega))
    · exact .inr (inside_of_lt (by omega) (by omega))

/-- A grid on which a double has seventeen digits has a point in its range. -/
theorem gridPoint?_ne_none {x : Double} {num den : Nat} {power : Int} (positive : 0 < den)
    (large : (10 : ℚ) ^ 16 * 10 ^ power ≤ (interval x).mid * (num / den)) :
    gridPoint? (interval x) num den power ≠ none := by
  intro absent
  have outcome := gridPoint?_outcome (interval x) num power positive
  rw [absent] at outcome
  have wide := (le_scaled positive power (interval x).mid (10 ^ 16)).mpr (by push_cast; exact large)
  rcases neighbour_inside x (scaled_snd_pos positive power) wide with below | above
  · exact outcome.1 ((contains_iff positive _).mpr below)
  · exact outcome.2 ((contains_iff positive _).mpr above)

/-! ## The number of digits -/

theorem le_ceilingPower {num den : Nat} (positive : 0 < den) (fuel : Nat) {power : Int}
    (start : (10 : ℚ) ^ (power - 1) ≤ num / den) :
    (10 : ℚ) ^ (ceilingPower num den fuel power - 1) ≤ num / den := by
  induction fuel generalizing power with
  | zero => exact start
  | succ fuel ih =>
    change (10 : ℚ) ^ ((if (scaled num den power).1 < (scaled num den power).2 then power
      else ceilingPower num den fuel (power + 1)) - 1) ≤ num / den
    split
    case isTrue => exact start
    case isFalse reached =>
      have reached := (le_scaled positive power 1 1).mp (by simpa using reached)
      exact ih (by simpa using reached)

/-- A power of ten is below a power of two when it is below a root of both. -/
theorem ten_zpow_le_two_zpow {power binary : Int} {p q : Nat} (some : q ≠ 0)
    (less : (q : Int) * power ≤ p * binary) (bases : ((10 : ℚ) ^ p) ^ binary ≤ (2 ^ q) ^ binary) :
    (10 : ℚ) ^ power ≤ 2 ^ binary := by
  refine (pow_le_pow_iff_left₀ (zpow_pos (by norm_num) _).le (zpow_pos two_pos _).le some).mp ?_
  calc ((10 : ℚ) ^ power) ^ q = 10 ^ (q * power) := by rw [← zpow_natCast, ← zpow_mul, mul_comm]
    _ ≤ 10 ^ (p * binary) := zpow_le_zpow_right₀ (by norm_num) less
    _ = (10 ^ p) ^ binary := by rw [zpow_mul, zpow_natCast]
    _ ≤ (2 ^ q) ^ binary := bases
    _ = (2 ^ binary) ^ q := by rw [← zpow_natCast, ← zpow_natCast, ← zpow_mul, ← zpow_mul, mul_comm]

/-- The first power that is tried lies below the number. -/
theorem start_le (binary : Int) (low : -1074 ≤ binary) (high : binary ≤ 1024) :
    (10 : ℚ) ^ (binary * 30103 / 100000 - 1 - 1) ≤ 2 ^ binary := by
  rcases le_or_gt 0 binary with up | down
  · lift binary to Nat using up
    refine ten_zpow_le_two_zpow (p := 3) (q := 10) (by decide) (by omega) ?_
    rw [zpow_natCast, zpow_natCast]
    exact pow_le_pow_left₀ (by norm_num) (by norm_num) _
  · obtain ⟨count, rfl⟩ : ∃ count : Nat, binary = -count := ⟨(-binary).toNat, by omega⟩
    refine ten_zpow_le_two_zpow (p := 28) (q := 93) (by decide) (by omega) ?_
    rw [zpow_neg, zpow_neg, zpow_natCast, zpow_natCast]
    exact inv_anti₀ (by positivity) (pow_le_pow_left₀ (by norm_num) (by norm_num) _)

/-! ## The decimal of a double -/

theorem trimZeros_value (fuel digits : Nat) (exponent : Int) :
    ((trimZeros fuel digits exponent).1 : ℚ) * 10 ^ (trimZeros fuel digits exponent).2 =
      digits * 10 ^ exponent := by
  induction fuel generalizing digits exponent with
  | zero => rfl
  | succ fuel ih =>
    rw [trimZeros]
    split
    case isFalse => rfl
    case isTrue tens =>
      simp only [Bool.and_eq_true, bne_iff_ne, beq_iff_eq] at tens
      obtain ⟨count, rfl⟩ := Nat.dvd_of_mod_eq_zero tens.2
      rw [ih, Nat.mul_div_cancel_left _ (by decide), zpow_add_one₀ (by norm_num)]
      push_cast
      ring

/-- The unit of a double is a quotient with this numerator. -/
def unitNumerator (x : Double) : Nat :=
  if 0 ≤ x.exponent - 2 then Nat.pow 2 (x.exponent - 2).toNat else 1

/-- The unit of a double is a quotient with this denominator. -/
def unitDenominator (x : Double) : Nat :=
  if 0 ≤ x.exponent - 2 then 1 else Nat.pow 2 (-(x.exponent - 2)).toNat

theorem unitDenominator_pos (x : Double) : 0 < unitDenominator x := by
  unfold unitDenominator
  split
  · exact Nat.one_pos
  · exact Nat.pow_pos two_pos

theorem unit_quotient (x : Double) : (unitNumerator x : ℚ) / unitDenominator x = x.unit := by
  have pow (n : Nat) : ((Nat.pow 2 n : Nat) : ℚ) = 2 ^ (n : Int) := by
    rw [Nat.pow_eq, Nat.cast_pow, zpow_natCast, Nat.cast_ofNat]
  unfold unitNumerator unitDenominator Double.unit
  split
  case isTrue up => rw [pow, Nat.cast_one, div_one, Int.toNat_of_nonneg up]
  case isFalse down =>
    rw [pow, Nat.cast_one, one_div, ← zpow_neg, Int.toNat_of_nonneg (by omega), neg_neg]

/-- A double is at least the power of two of its first digit. -/
theorem two_zpow_le {x : Double} (nonzero : x.magnitude ≠ 0) :
    (2 : ℚ) ^ ((Nat.log2 x.significand : Int) + x.exponent) ≤ (interval x).mid * x.unit := by
  have first : ((2 ^ Nat.log2 x.significand : Nat) : ℚ) ≤ x.significand :=
    Nat.cast_le.mpr (Nat.log2_self_le (Double.significand_pos nonzero).ne')
  have quarter : (4 : ℚ) * 2 ^ (x.exponent - 2) = 2 ^ x.exponent := by
    rw [zpow_sub₀ two_ne_zero]
    norm_num
    ring
  calc (2 : ℚ) ^ ((Nat.log2 x.significand : Int) + x.exponent)
      = (2 ^ Nat.log2 x.significand : Nat) * 2 ^ x.exponent := by
        rw [zpow_add₀ two_ne_zero, zpow_natCast, Nat.cast_pow, Nat.cast_ofNat]
    _ ≤ x.significand * 2 ^ x.exponent := mul_le_mul_of_nonneg_right first (zpow_pos two_pos _).le
    _ = (interval x).mid * x.unit := by
      rw [Double.mid_interval, Double.unit, ← quarter]
      push_cast
      ring

theorem log2_significand_lt {x : Double} (nonzero : x.magnitude ≠ 0) : Nat.log2 x.significand < 53 :=
  (Nat.log2_lt (Double.significand_pos nonzero).ne').mpr x.significand_lt

/-- The least power of ten above a double, as it is sought. -/
def size (x : Double) : Int :=
  ceilingPower ((interval x).mid * unitNumerator x) (unitDenominator x) 4
    (((Nat.log2 x.significand : Int) + x.exponent) * 30103 / 100000 - 1)

theorem ten_zpow_size_le {x : Double} (nonzero : x.magnitude ≠ 0) :
    (10 : ℚ) ^ (size x - 1) ≤ (interval x).mid * (unitNumerator x / unitDenominator x) := by
  have bounds := x.exponent_bounds
  have first := log2_significand_lt nonzero
  have start := (start_le ((Nat.log2 x.significand : Int) + x.exponent) (by omega) (by omega)).trans
    (two_zpow_le nonzero)
  rw [← unit_quotient, ← mul_div_assoc, ← Nat.cast_mul] at start
  rw [← mul_div_assoc, ← Nat.cast_mul]
  exact le_ceilingPower (unitDenominator_pos x) 4 start

theorem shortest_negative (x : Double) : (shortest x).negative = x.negative := by
  unfold shortest
  split <;> rfl

theorem shortest_value {x : Double} (nonzero : x.magnitude ≠ 0) : (shortest x).value =
    (shortestFrom (interval x) (unitNumerator x) (unitDenominator x) (size x) 17 1).1 *
      10 ^ (shortestFrom (interval x) (unitNumerator x) (unitDenominator x) (size x) 17 1).2 := by
  have other : x.isZero = false := beq_eq_false_iff_ne.mpr nonzero
  rw [← trimZeros_value 17, shortest, other, if_neg Bool.false_ne_true]
  rfl

/-- The decimal of a double lies in the range of the double. -/
theorem shortest_inRange {x : Double} (nonzero : x.magnitude ≠ 0) : x.InRange (shortest x).value := by
  unfold Double.InRange
  rw [shortest_value nonzero, ← unit_quotient]
  refine shortestFrom_contains (unitDenominator_pos x) (gridPoint?_ne_none (unitDenominator_pos x) ?_)
  rw [← zpow_natCast, ← zpow_add₀ (by norm_num)]
  convert ten_zpow_size_le nonzero using 2
  push_cast
  ring

theorem shortest_value_of_zero {x : Double} (zero : x.magnitude = 0) : (shortest x).value = 0 := by
  have zero : x.isZero = true := beq_iff_eq.mpr zero
  rw [shortest, zero, if_pos rfl, value, Nat.cast_zero, zero_mul]

theorem shortest_value_pos {x : Double} (nonzero : x.magnitude ≠ 0) : 0 < (shortest x).value :=
  (Double.lower_pos nonzero).trans_le (shortest_inRange nonzero).bounds.1

/-- Doubles whose decimals have the same sign and the same value are the same. -/
theorem eq_of_shortest {x y : Double} (sign : (shortest x).negative = (shortest y).negative)
    (same : (shortest x).value = (shortest y).value) : x = y := by
  rw [shortest_negative, shortest_negative] at sign
  refine Double.eq_of_magnitude sign ?_
  by_cases zero : x.magnitude = 0 <;> by_cases zero' : y.magnitude = 0
  · rw [zero, zero']
  · exact absurd same ((shortest_value_of_zero zero).trans_lt (shortest_value_pos zero')).ne
  · exact absurd same.symm ((shortest_value_of_zero zero').trans_lt (shortest_value_pos zero)).ne
  · exact Double.magnitude_eq_of_inRange (shortest_inRange zero) (same ▸ shortest_inRange zero')

end KubeOverlay.Decimal
