/-!
# Hexadecimal digits

The values of hexadecimal digits of either case, the digits of a value in lower case, and the
characters that code points name.
-/
namespace KubeOverlay.Hexadecimal

/-- The value of a digit. -/
def value? (c : Char) : Option Nat :=
  if '0' ≤ c ∧ c ≤ '9' then some (c.toNat - '0'.toNat)
  else if 'a' ≤ c ∧ c ≤ 'f' then some (c.toNat - 'a'.toNat + 10)
  else if 'A' ≤ c ∧ c ≤ 'F' then some (c.toNat - 'A'.toNat + 10)
  else none

/-- The number that digits write; no digits write zero. -/
def number? (digits : List Char) : Option Nat :=
  digits.foldlM (fun number c => (value? c).map (16 * number + ·)) 0

/-- The digit of a value below sixteen. -/
def digit (n : Nat) : Char :=
  if n < 10 then Char.ofNat ('0'.toNat + n) else Char.ofNat ('a'.toNat + n - 10)

/-- The character of a code point; surrogates are none. -/
def scalarValue? (n : Nat) : Option Char :=
  if n < 0xD800 ∨ (0xE000 ≤ n ∧ n < 0x110000) then some (Char.ofNat n) else none

end KubeOverlay.Hexadecimal
