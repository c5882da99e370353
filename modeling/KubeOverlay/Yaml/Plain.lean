import KubeOverlay.Document
import KubeOverlay.Double.Decimal
import KubeOverlay.Hexadecimal
/-!
# What plain scalars stand for

A plain scalar is null, a boolean, a number or else a string. Integers are decimal, or hexadecimal,
octal or binary after `0x`, `0o` or `0b`; leading zeros make a string. An integer beyond the range
of documents is refused while it fits 128 bits, and a floating-point number beyond that.
-/
namespace KubeOverlay.Yaml

/-- What a scalar stands for by its characters. -/
inductive Plain where
  | null
  | bool (b : Bool)
  | int (n : Int)
  /-- An integer too large for documents that still fits 128 bits. -/
  | wide
  | float (x : Double)
  | text
deriving DecidableEq, Repr

namespace Plain

def isNull (s : String) : Bool := s == "null" || s == "Null" || s == "NULL" || s == "~"

def bool? (s : String) : Option Bool :=
  if s == "true" || s == "True" || s == "TRUE" then some true
  else if s == "false" || s == "False" || s == "FALSE" then some false
  else none

/-- Several digits that start with zero, after an optional sign, are a string. -/
def hasLeadingZero (text : List Char) : Bool :=
  let digits := match text with
    | '-' :: rest => rest
    | '+' :: rest => rest
    | text => text
  1 < digits.length && digits.head? == some '0' && digits.all Char.isDigit

/-- The value of digits in a base; at least one is needed. -/
def natural? (base : Nat) (digits : List Char) : Option Nat :=
  if digits.isEmpty then none
  else digits.foldlM (fun value c => do
    let digit ← Hexadecimal.value? c
    if digit < base then return base * value + digit else none) 0

/-- The base that two characters announce, and the digits after them. -/
def based? : List Char → Option (Nat × List Char)
  | '0' :: 'x' :: rest => some (16, rest)
  | '0' :: 'o' :: rest => some (8, rest)
  | '0' :: 'b' :: rest => some (2, rest)
  | _ => none

/-- The integer of a text of any size. -/
def integer? (text : List Char) : Option Int := do
  let (negative, rest) := match text with
    | '-' :: rest => (true, rest)
    | '+' :: rest => (false, rest)
    | text => (false, text)
  let value ← match based? rest with
    | some (base, digits) => natural? base digits
    | none => if hasLeadingZero text then none else natural? 10 rest
  return if negative then -(value : Int) else value

/-- The floating-point number of a text; a finite one in decimal form, or an infinity or NaN by its
name. -/
def float? (text : List Char) : Option Double :=
  let unsigned := match text with
    | '+' :: rest => rest
    | text => text
  let signs := text.head? == some '+' && unsigned.head?.any (fun c => c == '+' || c == '-')
  if signs then none
  else if [".inf".toList, ".Inf".toList, ".INF".toList].contains unsigned then
    some (.infinity false)
  else if ["-.inf".toList, "-.Inf".toList, "-.INF".toList].contains text then
    some (.infinity true)
  else if [".nan".toList, ".NaN".toList, ".NAN".toList].contains text then some .nan
  else do
    let decimal ← Decimal.read unsigned
    let x := decimal.toDouble
    if x.isFinite then return x else none

/-- The integer of a text as documents have it. -/
def int? (text : List Char) : Option Plain := do
  let n ← integer? text
  if Number.isInteger n then return .int n
  else if -Int.pow 2 127 ≤ n ∧ n < Int.pow 2 128 then return .wide
  else none

/-- What a plain scalar stands for. -/
def resolve (s : String) : Plain :=
  let text := s.toList
  if s == "" || isNull s then .null
  else
    match bool? s with
    | some b => .bool b
    | none =>
      match int? text with
      | some plain => plain
      | none => if hasLeadingZero text then .text else ((float? text).map .float).getD .text

end Plain

end KubeOverlay.Yaml
