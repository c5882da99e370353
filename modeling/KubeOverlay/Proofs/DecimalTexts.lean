import KubeOverlay.Json
import Mathlib.Data.Rat.Cast.Order
import Mathlib.Algebra.Order.Field.Power
import Mathlib.Tactic.FieldSimp
import Mathlib.Tactic.Ring
/-!
# Decimal texts are read back

A decimal that is written as text is read back with the same sign as the same number
(`Decimal.read_text`), whichever layout the text has.
-/
namespace KubeOverlay.Decimal

/-- The number that a decimal stands for, up to its sign. -/
def value (d : Decimal) : ℚ := d.digits * 10 ^ d.exponent

/-! ## Digits -/

theorem digitsValue_append (start : Nat) (l l' : List Char) :
    digitsValue start (l ++ l') = digitsValue (digitsValue start l) l' :=
  List.foldl_append

theorem digitsValue_toDigits (n : Nat) : digitsValue 0 (Nat.toDigits 10 n) = n :=
  Nat.ofDigitChars_ten_toDigits

theorem digitsValue_zeros (start count : Nat) :
    digitsValue start (List.replicate count '0') = 10 ^ count * start :=
  Nat.ofDigitChars_replicate_zero

/-- Characters that are all digits. -/
def AllDigits (l : List Char) : Prop := ∀ c ∈ l, c.isDigit = true

theorem allDigits_toDigits (n : Nat) : AllDigits (Nat.toDigits 10 n) :=
  fun _ member => Nat.isDigit_of_mem_toDigits (by decide) (by decide) member

theorem allDigits_zeros (count : Nat) : AllDigits (List.replicate count '0') :=
  fun c member => by rw [List.eq_of_mem_replicate member]; rfl

theorem AllDigits.append {l l' : List Char} (left : AllDigits l) (right : AllDigits l') : AllDigits (l ++ l') :=
  fun c member => (List.mem_append.mp member).elim (left c) (right c)

/-- A text that does not begin with a digit. -/
def NoDigit (l : List Char) : Prop := ∀ c ∈ l.head?, c.isDigit = false

theorem takeWhile_digits {l rest : List Char} (digits : AllDigits l) (stops : NoDigit rest) :
    (l ++ rest).takeWhile Char.isDigit = l ∧ (l ++ rest).dropWhile Char.isDigit = rest := by
  rw [List.takeWhile_append_of_pos digits, List.dropWhile_append_of_pos digits]
  cases rest with
  | nil => simp
  | cons c rest =>
    have stop : c.isDigit = false := stops c rfl
    simp [stop]

theorem not_isDigit_sign {c : Char} (digit : c.isDigit = true) : c ≠ '-' ∧ c ≠ '+' := by
  constructor <;> rintro rfl <;> simp at digit

/-- What stands before the digits of a number. -/
def signText (negative : Bool) : List Char := if negative then ['-'] else []

theorem splitSign_signText (negative : Bool) {l : List Char} (nonempty : l ≠ []) (digits : AllDigits l)
    (rest : List Char) : splitSign (signText negative ++ (l ++ rest)) = (negative, l ++ rest) := by
  cases l with
  | nil => contradiction
  | cons c l =>
    obtain ⟨noMinus, noPlus⟩ := not_isDigit_sign (digits c List.mem_cons_self)
    cases negative with
    | true => rfl
    | false =>
      rw [signText, if_neg Bool.false_ne_true, List.nil_append, List.cons_append, splitSign]
      · rintro rest' same
        exact noMinus (List.cons.inj same).1
      · rintro rest' same
        exact noPlus (List.cons.inj same).1

/-! ## Parts of a text -/

/-- Digits without a point, and what follows them. -/
theorem read_whole {negative : Bool} {whole rest : List Char} {exponent : Int} (nonempty : whole ≠ [])
    (digits : AllDigits whole) (stops : NoDigit rest) (noPoint : rest.head? ≠ some '.')
    (last : readExponent rest = some exponent) :
    read (signText negative ++ (whole ++ rest)) = some ⟨negative, digitsValue 0 whole, exponent⟩ := by
  obtain ⟨taken, left⟩ := takeWhile_digits digits stops
  rw [read, splitSign_signText negative nonempty digits]
  dsimp only
  rw [taken, left]
  split
  · simp at noPoint
  · rw [last]
    simp [nonempty, digitsValue]

/-- Digits around a point, and what follows them. -/
theorem read_pointed {negative : Bool} {whole fraction rest : List Char} {exponent : Int} (nonempty : whole ≠ [])
    (digits : AllDigits whole) (digits' : AllDigits fraction) (stops : NoDigit rest)
    (last : readExponent rest = some exponent) :
    read (signText negative ++ (whole ++ '.' :: (fraction ++ rest))) =
      some ⟨negative, digitsValue (digitsValue 0 whole) fraction, exponent - fraction.length⟩ := by
  have point : NoDigit ('.' :: (fraction ++ rest)) := fun c first => by
    cases first
    rfl
  obtain ⟨taken, left⟩ := takeWhile_digits digits point
  obtain ⟨taken', left'⟩ := takeWhile_digits digits' stops
  rw [read, splitSign_signText negative nonempty digits]
  dsimp only
  rw [taken, left]
  simp [taken', left', last, nonempty]

/-- The exponent as the layout with an exponent writes it. -/
def powerText (power : Int) : List Char :=
  (if power < 0 then ['-'] else Json.floatStyle.plus) ++ Nat.toDigits 10 power.natAbs

theorem splitSign_powerText (power : Int) :
    splitSign (powerText power) = (decide (power < 0), Nat.toDigits 10 power.natAbs) := by
  by_cases below : power < 0
  · rw [powerText, if_pos below, decide_eq_true below]
    rfl
  · rw [powerText, if_neg below, decide_eq_false below]
    rfl

theorem readExponent_power (power : Int) : readExponent ('e' :: powerText power) = some power := by
  have nonempty : Nat.toDigits 10 power.natAbs ≠ [] := Nat.toDigits_ne_nil
  have digits : (Nat.toDigits 10 power.natAbs).all Char.isDigit = true :=
    List.all_eq_true.mpr (allDigits_toDigits power.natAbs)
  rw [readExponent, if_pos (.inl rfl), splitSign_powerText]
  dsimp only
  rw [digits, digitsValue_toDigits]
  simp only [List.isEmpty_iff, nonempty, Bool.not_true, Bool.or_false, decide_eq_true_eq, reduceIte,
    Option.some.injEq]
  split <;> omega

/-! ## Layouts -/

/-- A text that is read as a number with this sign and this value. -/
def ReadsAs (text : List Char) (negative : Bool) (v : ℚ) : Prop :=
  ∃ d, read text = some d ∧ d.negative = negative ∧ d.value = v

theorem noDigit_nil : NoDigit [] := fun _ first => nomatch first

theorem noDigit_power (power : Int) : NoDigit ('e' :: powerText power) := fun c first => by
  cases first
  rfl

/-- Digits around a point are read as the number of all of them, divided by ten for each one after the
point. -/
theorem reads_pointed (negative : Bool) {whole fraction rest : List Char} {exponent : Int} {n : Nat}
    (nonempty : whole ≠ []) (digits : AllDigits (whole ++ fraction))
    (number : digitsValue 0 (whole ++ fraction) = n) (stops : NoDigit rest)
    (last : readExponent rest = some exponent) :
    ReadsAs (signText negative ++ (whole ++ '.' :: (fraction ++ rest))) negative
      (n * 10 ^ (exponent - fraction.length)) :=
  ⟨_, read_pointed nonempty (fun c member => digits c (List.mem_append_left _ member))
    (fun c member => digits c (List.mem_append_right _ member)) stops last, rfl,
    by rw [value, ← digitsValue_append, number]⟩

/-- Zero. -/
theorem reads_zero (negative : Bool) : ReadsAs (signText negative ++ "0.0".toList) negative 0 := by
  have digits : AllDigits (['0'] ++ ['0']) := allDigits_zeros 2
  have number : digitsValue 0 (['0'] ++ ['0']) = 0 := rfl
  have reads := reads_pointed negative (by decide) digits number noDigit_nil rfl
  rwa [Nat.cast_zero, zero_mul] at reads

/-- The point behind the digits. -/
theorem reads_large (negative : Bool) (n count : Nat) :
    ReadsAs (signText negative ++ (Nat.toDigits 10 n ++ List.replicate count '0' ++ ".0".toList)) negative
      (n * 10 ^ (count : Int)) := by
  have number : digitsValue 0 ((Nat.toDigits 10 n ++ List.replicate count '0') ++ ['0']) =
      10 * (10 ^ count * n) := by
    rw [digitsValue_append, digitsValue_append, digitsValue_toDigits, digitsValue_zeros]
    exact digitsValue_zeros (10 ^ count * n) 1
  have digits : AllDigits ((Nat.toDigits 10 n ++ List.replicate count '0') ++ ['0']) :=
    ((allDigits_toDigits n).append (allDigits_zeros count)).append (allDigits_zeros 1)
  have reads := reads_pointed negative (by simp) digits number noDigit_nil rfl
  have same : ((10 * (10 ^ count * n) : Nat) : ℚ) * 10 ^ ((0 : Int) - (['0'] : List Char).length) =
      n * 10 ^ (count : Int) := by
    push_cast
    simp only [List.length_singleton, Nat.cast_one, zero_sub, zpow_neg, zpow_one, zpow_natCast]
    ring
  rwa [same] at reads

/-- The point among the digits. -/
theorem reads_split (negative : Bool) {n : Nat} {whole fraction : List Char} (nonempty : whole ≠ [])
    (parts : whole ++ fraction = Nat.toDigits 10 n) :
    ReadsAs (signText negative ++ (whole ++ '.' :: fraction)) negative
      (n * 10 ^ (-(fraction.length : Int))) := by
  have number : digitsValue 0 (whole ++ fraction) = n := by rw [parts, digitsValue_toDigits]
  have reads := reads_pointed negative nonempty (parts ▸ allDigits_toDigits n) number noDigit_nil rfl
  rwa [zero_sub, List.append_nil] at reads

/-- The point before the digits. -/
theorem reads_small (negative : Bool) (n count : Nat) :
    ReadsAs (signText negative ++ ("0.".toList ++ List.replicate count '0' ++ Nat.toDigits 10 n)) negative
      (n * 10 ^ (-((count + (Nat.toDigits 10 n).length : Nat) : Int))) := by
  have digits : AllDigits (['0'] ++ (List.replicate count '0' ++ Nat.toDigits 10 n)) :=
    (allDigits_zeros 1).append ((allDigits_zeros count).append (allDigits_toDigits n))
  have number : digitsValue 0 (['0'] ++ (List.replicate count '0' ++ Nat.toDigits 10 n)) = n := by
    have zeros : digitsValue 0 ['0'] = 0 := rfl
    rw [digitsValue_append, digitsValue_append, zeros, digitsValue_zeros, Nat.mul_zero, digitsValue_toDigits]
  have reads := reads_pointed negative (by decide) digits number noDigit_nil rfl
  simpa using reads

/-- The point behind the first digit, and an exponent. -/
theorem reads_power (negative : Bool) (n : Nat) (power : Int) :
    ReadsAs (signText negative ++ ((Nat.toDigits 10 n).take 1 ++
        ((if (Nat.toDigits 10 n).length == 1 then [] else '.' :: (Nat.toDigits 10 n).drop 1) ++
          'e' :: powerText power)))
      negative (n * 10 ^ (power - ((Nat.toDigits 10 n).length - 1 : Nat))) := by
  have digits := allDigits_toDigits n
  have nonempty : Nat.toDigits 10 n ≠ [] := Nat.toDigits_ne_nil
  by_cases single : (Nat.toDigits 10 n).length = 1
  · rw [single, beq_self_eq_true, if_pos rfl, List.take_of_length_le (le_of_eq single)]
    refine ⟨_, read_whole nonempty digits (noDigit_power power) (by simp) (readExponent_power power), rfl, ?_⟩
    rw [value, digitsValue_toDigits]
    simp
  · rw [if_neg (by simpa using single), ← List.length_drop]
    have parts : (Nat.toDigits 10 n).take 1 ++ (Nat.toDigits 10 n).drop 1 = Nat.toDigits 10 n :=
      List.take_append_drop ..
    exact reads_pointed negative (by simp) (parts.symm ▸ digits) (by rw [parts, digitsValue_toDigits])
      (noDigit_power power) (readExponent_power power)

/-- The text of a decimal is read as a decimal with the same sign and the same value. -/
theorem reads_text (d : Decimal) : ReadsAs (text Json.floatStyle d) d.negative d.value := by
  have long : 0 < (Nat.toDigits 10 d.digits).length := List.length_pos_iff.mpr Nat.toDigits_ne_nil
  unfold text value
  dsimp only
  rw [← signText]
  split
  case isTrue zero =>
    rw [beq_iff_eq.mp zero]
    simpa using reads_zero d.negative
  case isFalse =>
    split
    case isTrue large =>
      have reads := reads_large d.negative d.digits d.exponent.toNat
      rwa [Int.toNat_of_nonneg large.1] at reads
    split
    case isTrue inside =>
      have nonempty : (Nat.toDigits 10 d.digits).take
          (d.exponent + (Nat.toDigits 10 d.digits).length).toNat ≠ [] :=
        List.ne_nil_of_length_pos (by rw [List.length_take]; omega)
      have reads := reads_split d.negative nonempty (List.take_append_drop ..)
      rw [List.length_drop] at reads
      convert reads using 3
      omega
    split
    case isTrue small =>
      have reads := reads_small d.negative d.digits (-(d.exponent + (Nat.toDigits 10 d.digits).length)).toNat
      convert reads using 3
      omega
    case isFalse =>
      have reads := reads_power d.negative d.digits (d.exponent + (Nat.toDigits 10 d.digits).length - 1)
      have exponent : d.exponent + (Nat.toDigits 10 d.digits).length - 1 -
          ((Nat.toDigits 10 d.digits).length - 1 : Nat) = d.exponent := by omega
      rw [exponent] at reads
      simpa only [powerText, List.append_assoc, List.cons_append] using reads

end KubeOverlay.Decimal
