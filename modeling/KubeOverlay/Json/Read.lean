import KubeOverlay.Json
/-!
# Reading JSON

A reader for JSON texts beside the writer of compact ones. A number is an integer when it is written
as one and lies in the range of integers of documents, and a floating-point number otherwise; the
negative zero is one too. Of fields with the same name the last one stays.
-/
namespace KubeOverlay.Json

/-- The text without leading blanks. -/
def skipBlanks (text : List Char) : List Char :=
  text.dropWhile (fun c => c = ' ' ∨ c = '\n' ∨ c = '\r' ∨ c = '\t')

/-- The value of four hexadecimal digits. -/
def unit? (a b c d : Char) : Option Nat := Hexadecimal.number? [a, b, c, d]

/-- The character of a high and a low surrogate. -/
def surrogatePair? (high low : Nat) : Option Char :=
  if 0xD800 ≤ high ∧ high < 0xDC00 ∧ 0xDC00 ≤ low ∧ low < 0xE000 then
    some (Char.ofNat (0x10000 + (high - 0xD800) * 0x400 + (low - 0xDC00)))
  else none

/-- The character that a letter after a backslash stands for. -/
def escape? : Char → Option Char
  | '"' => some '"'
  | '\\' => some '\\'
  | '/' => some '/'
  | 'b' => some '\x08'
  | 'f' => some '\x0c'
  | 'n' => some '\n'
  | 'r' => some '\r'
  | 't' => some '\t'
  | _ => none

/-- The characters up to the closing quote, and what follows it. -/
def stringRest : List Char → Option (List Char × List Char)
  | '"' :: rest => some ([], rest)
  | '\\' :: 'u' :: a :: b :: c :: d :: rest => do
    let unit ← unit? a b c d
    if unit < 0xD800 ∨ 0xE000 ≤ unit then
      let (s, rest) ← stringRest rest
      return (Char.ofNat unit :: s, rest)
    else
      match rest with
      | '\\' :: 'u' :: a :: b :: c :: d :: rest => do
        let low ← unit? a b c d
        let char ← surrogatePair? unit low
        let (s, rest) ← stringRest rest
        return (char :: s, rest)
      | _ => none
  | '\\' :: e :: rest => do
    let char ← escape? e
    let (s, rest) ← stringRest rest
    return (char :: s, rest)
  | c :: rest =>
    if c < ' ' ∨ c = '\\' then none
    else do
      let (s, rest) ← stringRest rest
      return (c :: s, rest)
  | [] => none

/-- The characters that numbers are made of. -/
def isNumberChar (c : Char) : Bool :=
  c.isDigit || c == '-' || c == '+' || c == '.' || c == 'e' || c == 'E'

/-- The number written by a token. -/
def number? (token : List Char) : Option Number := do
  let decimal ← Decimal.read token
  let value : Int := if decimal.negative then -(decimal.digits : Int) else decimal.digits
  if token.all (fun c => c.isDigit || c == '-') && Number.isInteger value &&
      !(decimal.negative && decimal.digits == 0) then
    return .int value
  else
    let x := decimal.toDouble
    if x.isFinite then return .float x else none

mutual
/-- A value at the start of a text, and what follows it. -/
def value : Nat → List Char → Option (Document × List Char)
  | 0, _ => none
  | fuel + 1, text =>
    match skipBlanks text with
    | 'n' :: 'u' :: 'l' :: 'l' :: rest => some (.null, rest)
    | 't' :: 'r' :: 'u' :: 'e' :: rest => some (.bool true, rest)
    | 'f' :: 'a' :: 'l' :: 's' :: 'e' :: rest => some (.bool false, rest)
    | '"' :: rest => do
      let (s, rest) ← stringRest rest
      return (.string (String.ofList s), rest)
    | '[' :: rest =>
      match skipBlanks rest with
      | ']' :: rest => some (.list [], rest)
      | _ => do
        let (items, rest) ← items fuel rest
        return (.list items, rest)
    | '\x7b' :: rest =>
      match skipBlanks rest with
      | '\x7d' :: rest => some (.map [], rest)
      | _ => do
        let (fields, rest) ← fields fuel rest
        return (.ofFields fields, rest)
    | text => do
      let n ← number? (text.takeWhile isNumberChar)
      return (.number n, text.dropWhile isNumberChar)

/-- The elements of a list up to its closing bracket. -/
def items : Nat → List Char → Option (List Document × List Char)
  | 0, _ => none
  | fuel + 1, text => do
    let (d, rest) ← value fuel text
    match skipBlanks rest with
    | ',' :: rest => do
      let (ds, rest) ← items fuel rest
      return (d :: ds, rest)
    | ']' :: rest => some ([d], rest)
    | _ => none

/-- The fields of a map up to its closing brace. -/
def fields : Nat → List Char → Option (List (String × Document) × List Char)
  | 0, _ => none
  | fuel + 1, text =>
    match skipBlanks text with
    | '"' :: rest => do
      let (key, rest) ← stringRest rest
      match skipBlanks rest with
      | ':' :: rest => do
        let (d, rest) ← value fuel rest
        match skipBlanks rest with
        | ',' :: rest => do
          let (ds, rest) ← fields fuel rest
          return ((String.ofList key, d) :: ds, rest)
        | '\x7d' :: rest => some ([(String.ofList key, d)], rest)
        | _ => none
      | _ => none
    | _ => none
end

/-- The document of a JSON text. Every step of the reader consumes a character, so the length of the
text bounds their number. -/
def read? (text : String) : Option Document :=
  let chars := text.toList
  match value (chars.length + 1) chars with
  | some (d, rest) => if (skipBlanks rest).isEmpty then some d else none
  | none => none

end KubeOverlay.Json
