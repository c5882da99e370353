import KubeOverlay.Double
/-!
# Decimal forms of doubles

A decimal is a sign, a natural significand and a power of ten. Reading accepts digits with an
optional point and exponent, and rounds to the nearest double. Writing uses the fewest digits that
read back as the same double, of those the ones nearest to it.
-/
namespace KubeOverlay

/-- A number in decimal form: the digits times ten to the exponent. -/
structure Decimal where
  negative : Bool
  digits : Nat
  exponent : Int
deriving DecidableEq, Repr

namespace Decimal

/-! ## Reading -/

/-- The value of decimal digits read from the left, continuing from a value. -/
def digitsValue (start : Nat) (digits : List Char) : Nat :=
  digits.foldl (fun value c => 10 * value + (c.toNat - '0'.toNat)) start

/-- An optional sign: whether it is a minus, and what follows it. -/
def splitSign : List Char → Bool × List Char
  | '-' :: rest => (true, rest)
  | '+' :: rest => (false, rest)
  | text => (false, text)

/-- An exponent part, which may be absent: `e` or `E`, an optional sign and digits to the end. -/
def readExponent : List Char → Option Int
  | [] => some 0
  | e :: rest =>
    if e = 'e' ∨ e = 'E' then
      let (negative, digits) := splitSign rest
      if digits.isEmpty || !digits.all Char.isDigit then none
      else
        let value : Int := digitsValue 0 digits
        some (if negative then -value else value)
    else none

/-- A decimal number to the end of the text: an optional sign, digits with an optional point before,
between or after them, and an optional exponent. -/
def read (text : List Char) : Option Decimal :=
  let (negative, text) := splitSign text
  let whole := text.takeWhile Char.isDigit
  let rest := text.dropWhile Char.isDigit
  let (fraction, rest) := match rest with
    | '.' :: rest => (rest.takeWhile Char.isDigit, rest.dropWhile Char.isDigit)
    | _ => ([], rest)
  if whole.isEmpty && fraction.isEmpty then none
  else
    (readExponent rest).map fun exponent =>
      ⟨negative, digitsValue (digitsValue 0 whole) fraction, exponent - fraction.length⟩

/-- The number of digits of a natural; zero has one. -/
def width (n : Nat) : Nat := (Nat.toDigits 10 n).length

/-- The double nearest to a decimal. Beyond these bounds on its size nothing but infinity or zero is
near, and no power of ten is computed. -/
def toDouble (d : Decimal) : Double :=
  let size := d.exponent + width d.digits
  if d.digits == 0 || size < -330 then .ofMagnitude d.negative 0
  else if 330 < size then .infinity d.negative
  else if 0 ≤ d.exponent then .ofRatio d.negative (d.digits * Nat.pow 10 d.exponent.toNat) 1
  else .ofRatio d.negative d.digits (Nat.pow 10 (-d.exponent).toNat)

/-! ## Writing -/

/-- A quotient divided by a power of ten, as a quotient. -/
def scaled (num den : Nat) (exponent : Int) : Nat × Nat :=
  if 0 ≤ exponent then (num, den * Nat.pow 10 exponent.toNat) else (num * Nat.pow 10 (-exponent).toNat, den)

/-- The reals that round to a double, in units of a quarter of its last place: from `low` to `high`
around `mid`, the ends included exactly for an even significand. -/
structure Interval where
  low : Nat
  mid : Nat
  high : Nat
  closed : Bool

/-- Below a power of two the doubles lie twice as close. -/
def interval (x : Double) : Interval :=
  let m := x.significand
  let below := if m == Nat.pow 2 52 && -1074 < x.exponent then 1 else 2
  ⟨4 * m - below, 4 * m, 4 * m + 2, m % 2 == 0⟩

/-- The least power of ten that exceeds a quotient, sought upwards from a power not above it. -/
def ceilingPower (num den : Nat) : Nat → Int → Int
  | 0, power => power
  | fuel + 1, power =>
    let (n, d) := scaled num den power
    if n < d then power else ceilingPower num den fuel (power + 1)

/-- The point of the grid of multiples of ten to `power` that lies in the interval, the nearer one
if both neighbours of the value do. The unit of the interval is `num / den`. -/
def gridPoint? (i : Interval) (num den : Nat) (power : Int) : Option Nat :=
  let (n, d) := scaled num den power
  let floor := i.mid * n / d
  let inside (c : Nat) : Bool :=
    if i.closed then i.low * n ≤ c * d && c * d ≤ i.high * n
    else i.low * n < c * d && c * d < i.high * n
  let belowIn := inside floor
  let aboveIn := inside (floor + 1)
  if belowIn && aboveIn then
    let down := i.mid * n - floor * d
    let up := (floor + 1) * d - i.mid * n
    some (if down < up || (down == up && floor % 2 == 0) then floor else floor + 1)
  else if belowIn then some floor
  else if aboveIn then some (floor + 1)
  else none

/-- The first grid with a point in the interval, from one digit on. -/
def shortestFrom (i : Interval) (num den : Nat) (size : Int) : Nat → Nat → Nat × Int
  | 0, count => (i.mid * num / den, size - count)
  | fuel + 1, count =>
    match gridPoint? i num den (size - count) with
    | some c => (c, size - count)
    | none => shortestFrom i num den size fuel (count + 1)

/-- Trailing zeros moved into the exponent. -/
def trimZeros : Nat → Nat → Int → Nat × Int
  | 0, digits, exponent => (digits, exponent)
  | fuel + 1, digits, exponent =>
    if digits != 0 && digits % 10 == 0 then trimZeros fuel (digits / 10) (exponent + 1)
    else (digits, exponent)

/-- The decimal of the fewest digits that reads back as a finite double, of those the nearest. -/
def shortest (x : Double) : Decimal :=
  if x.isZero then ⟨x.negative, 0, 0⟩
  else
    let i := interval x
    let unit := x.exponent - 2
    let num := if 0 ≤ unit then Nat.pow 2 unit.toNat else 1
    let den := if 0 ≤ unit then 1 else Nat.pow 2 (-unit).toNat
    let binary : Int := Nat.log2 x.significand + x.exponent
    let size := ceilingPower (i.mid * num) den 4 (binary * 30103 / 100000 - 1)
    let (digits, exponent) := shortestFrom i num den size 17 1
    let (digits, exponent) := trimZeros 17 digits exponent
    ⟨x.negative, digits, exponent⟩

/-- How a double is written in a format. -/
structure Style where
  /-- What stands before a positive exponent. -/
  plus : List Char

/-- A decimal as text: plain, with a point and at least one digit on both sides, when the point
falls from five places before the first digit to sixteen after it; else with an exponent. -/
def text (style : Style) (d : Decimal) : List Char :=
  let digits := Nat.toDigits 10 d.digits
  let point := d.exponent + digits.length
  let sign := if d.negative then ['-'] else []
  sign ++
    if d.digits == 0 then "0.0".toList
    else if 0 ≤ d.exponent ∧ point ≤ 16 then
      digits ++ List.replicate d.exponent.toNat '0' ++ ".0".toList
    else if 0 < point ∧ point ≤ 16 then
      digits.take point.toNat ++ '.' :: digits.drop point.toNat
    else if -5 < point ∧ point ≤ 0 then
      "0.".toList ++ List.replicate (-point).toNat '0' ++ digits
    else
      let power := point - 1
      let exponentSign := if power < 0 then ['-'] else style.plus
      digits.take 1 ++ (if digits.length == 1 then [] else '.' :: digits.drop 1) ++
        'e' :: exponentSign ++ Nat.toDigits 10 power.natAbs

end Decimal

end KubeOverlay
