import KubeOverlay.Document
import KubeOverlay.Double.Decimal
import KubeOverlay.Hexadecimal
/-!
# Compact JSON

The text of a document without blanks, the fields of maps in key order. Equal documents have equal
texts, so the text can stand for the content (see the reader beside this module).
-/
namespace KubeOverlay.Json

/-- Floating-point numbers in JSON have a sign on a positive exponent too. -/
def floatStyle : Decimal.Style := ⟨['+']⟩

def integer (n : Int) : List Char :=
  if n < 0 then '-' :: Nat.toDigits 10 n.natAbs else Nat.toDigits 10 n.natAbs

def number : Number → List Char
  | .int n => integer n
  | .float x => (Decimal.shortest x).text floatStyle

/-- A character inside quotes: the quote, the backslash and the control characters below the space
are escaped. -/
def escaped (c : Char) : List Char :=
  if c = '"' then ['\\', '"']
  else if c = '\\' then ['\\', '\\']
  else if c = '\n' then ['\\', 'n']
  else if c = '\r' then ['\\', 'r']
  else if c = '\t' then ['\\', 't']
  else if c = '\x08' then ['\\', 'b']
  else if c = '\x0c' then ['\\', 'f']
  else if c < ' ' then ['\\', 'u', '0', '0', Hexadecimal.digit (c.toNat / 16),
    Hexadecimal.digit (c.toNat % 16)]
  else [c]

def quoted (s : String) : List Char :=
  '"' :: s.toList.flatMap escaped ++ ['"']

/-- Texts one after the other, with a comma between them. -/
def commaSeparated : List (List Char) → List Char
  | [] => []
  | [text] => text
  | text :: rest => text ++ ',' :: commaSeparated rest

mutual
/-- The compact text of a document. -/
def text : Document → List Char
  | .null => "null".toList
  | .bool b => if b then "true".toList else "false".toList
  | .number n => number n
  | .string s => quoted s
  | .list items => '[' :: commaSeparated (itemTexts items) ++ [']']
  | .map fields => '\x7b' :: commaSeparated (fieldTexts fields) ++ ['\x7d']

/-- The texts of the elements of a list. -/
def itemTexts : List Document → List (List Char)
  | [] => []
  | d :: rest => text d :: itemTexts rest

/-- The texts of the fields of a map. -/
def fieldTexts : List (String × Document) → List (List Char)
  | [] => []
  | (key, d) :: rest => (quoted key ++ ':' :: text d) :: fieldTexts rest
end

/-- The compact text of a document as a string. -/
def write (d : Document) : String := String.ofList (text d)

end KubeOverlay.Json
