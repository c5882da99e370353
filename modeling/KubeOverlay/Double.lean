/-!
# Double-precision numbers

A number in the binary64 format is its bit pattern. Everything else is exact arithmetic on naturals:
which numbers are equal, the total order of all patterns, and the double nearest to a quotient
(`ofRatio`), a tie going to the even significand.
-/
namespace KubeOverlay

/-- A binary64 number, by its bit pattern. -/
structure Double where
  /-- The sign bit, eleven bits of exponent and fifty-two of fraction. -/
  bits : UInt64
deriving DecidableEq, Repr

namespace Double

/-- Whether the sign bit is set. -/
def negative (x : Double) : Bool :=
  Nat.pow 2 63 ≤ x.bits.toNat

/-- The pattern without the sign bit. -/
def magnitude (x : Double) : Nat :=
  x.bits.toNat % Nat.pow 2 63

/-- The magnitude of the infinities; only patterns that are no number lie above it. -/
def infiniteMagnitude : Nat := 2047 * Nat.pow 2 52

/-- The double of a sign and a magnitude. -/
def ofMagnitude (negative : Bool) (magnitude : Nat) : Double :=
  ⟨UInt64.ofNat (if negative then Nat.pow 2 63 + magnitude else magnitude)⟩

def zero : Double := ofMagnitude false 0

def infinity (negative : Bool) : Double := ofMagnitude negative infiniteMagnitude

/-- The quiet pattern with a clear sign bit. -/
def nan : Double := ofMagnitude false (infiniteMagnitude + Nat.pow 2 51)

def isNaN (x : Double) : Bool := infiniteMagnitude < x.magnitude

def isFinite (x : Double) : Bool := x.magnitude < infiniteMagnitude

def isZero (x : Double) : Bool := x.magnitude == 0

/-! ## Comparison -/

/-- Numerical equality: the two zeros are equal, and no NaN equals anything. -/
def equal (x y : Double) : Bool :=
  !x.isNaN && !y.isNaN && (x == y || (x.isZero && y.isZero))

/-- The place of a pattern in the total order of all patterns: by magnitude above zero, by falling
magnitude below, the negative zero just below the positive one. -/
def place (x : Double) : Int :=
  if x.negative then -(x.magnitude : Int) - 1 else x.magnitude

/-- Equal numbers compare as equal, all others by their place in the total order. -/
def order (x y : Double) : Ordering :=
  if x.equal y then .eq else compare x.place y.place

/-! ## Rounding -/

/-- A finite double is its significand times two to this exponent, up to the sign. -/
def exponent (x : Double) : Int :=
  if x.magnitude < Nat.pow 2 52 then -1074 else (x.magnitude / Nat.pow 2 52 : Nat) - 1075

/-- The fraction with its hidden bit; subnormal numbers have none. -/
def significand (x : Double) : Nat :=
  if x.magnitude < Nat.pow 2 52 then x.magnitude else Nat.pow 2 52 + x.magnitude % Nat.pow 2 52

/-- A quotient rounded to the nearest natural, a tie to the even one. -/
def roundQuotient (num den : Nat) : Nat :=
  let floor := num / den
  let twice := 2 * (num % den)
  if den < twice || (den == twice && floor % 2 == 1) then floor + 1 else floor

/-- A quotient divided by a power of two, as a quotient. -/
def scaled (num den : Nat) (exponent : Int) : Nat × Nat :=
  if 0 ≤ exponent then (num, den * Nat.pow 2 exponent.toNat) else (num * Nat.pow 2 (-exponent).toNat, den)

/-- The double nearest to a quotient, a tie going to the even significand. A quotient that rounds
beyond the largest finite double is infinite. -/
def ofRatio (negative : Bool) (num den : Nat) : Double :=
  if num == 0 then ofMagnitude negative 0
  else
    let start : Int := (Nat.log2 num : Int) - Nat.log2 den - 53
    let (n, d) := scaled num den start
    let exponent := max (-1074) (if Nat.pow 2 53 ≤ n / d then start + 1 else start)
    let (n, d) := scaled num den exponent
    -- A significand rounded up to the next power of two carries into the exponent field.
    let magnitude := (exponent + 1074).toNat * Nat.pow 2 52 + roundQuotient n d
    ofMagnitude negative (min magnitude infiniteMagnitude)

/-- The double nearest to an integer. -/
def ofInt (n : Int) : Double :=
  ofRatio (n < 0) n.natAbs 1

end Double

end KubeOverlay
