import KubeOverlay.Yaml.Cursor
import KubeOverlay.Yaml.Plain
import KubeOverlay.Json
/-!
# Writing YAML

A document in block style, indented by two columns; a list under a key stands at the column of the
key. A string is plain where it reads back as the same string, and quoted otherwise: in single
quotes, or in double quotes if it has characters to be escaped. A string of several lines is a
literal block. A key that is long or spans lines stands behind a question mark.
-/
namespace KubeOverlay.Yaml

/-! ## Styles of scalars -/

inductive Style where
  | plain | singleQuoted | doubleQuoted | literal
deriving DecidableEq, Repr

/-- The characters that are written as they are; all others are escaped. -/
def isPrintable (c : Char) : Bool :=
  c == '\n' || (' ' ≤ c && c ≤ '~') || ('\xa0' ≤ c && c ≤ '\ufffd' && c != '\ufeff') || '\uffff' < c

/-- Whether two neighbours in a text have a property. -/
def hasNeighbours (p : Char → Char → Bool) : List Char → Bool
  | a :: b :: rest => p a b || hasNeighbours p (b :: rest)
  | _ => false

/-- The characters that cannot begin a plain scalar. -/
def isIndicator (c : Char) : Bool := "#,[]\x7b\x7d&*!|>'\"%@`".toList.contains c

/-- The characters that cannot begin a plain scalar before a blank. -/
def isLooseIndicator (c : Char) : Bool := c == '?' || c == ':' || c == '-'

/-- Whether something in a text would be read as an indicator: a mark of a document or an indicator
at its start, a colon before a blank or at the end, or a number sign after a blank. -/
def hasIndicator (text : List Char) : Bool :=
  "---".toList.isPrefixOf text || "...".toList.isPrefixOf text ||
    (match text with
      | c :: rest => isIndicator c || (isLooseIndicator c && endsWord rest.head?)
      | [] => false) ||
    hasNeighbours (fun a b => (a == ':' && endsWord (some b)) || (b == '#' && endsWord (some a)))
      text ||
    (1 < text.length && text.getLast? == some ':')

/-- A line break before a space is lost in quotes, and so is a space before a line break. -/
def breakThenSpace (text : List Char) : Bool :=
  hasNeighbours (fun a b => isBreak a && b == ' ') text

def spaceThenBreak (text : List Char) : Bool :=
  hasNeighbours (fun a b => a == ' ' && isBreak b) text

/-- Whether a text may be a plain scalar in block context. -/
def plainAllowed (text : List Char) : Bool :=
  !(hasIndicator text || text.any (fun c => isBreak c || !isPrintable c) ||
    text.head? == some ' ' || text.getLast? == some ' ')

def singleQuotesAllowed (text : List Char) : Bool :=
  !(breakThenSpace text || spaceThenBreak text || text.any (!isPrintable ·))

def literalAllowed (text : List Char) : Bool :=
  !(text.isEmpty || text.getLast? == some ' ' || spaceThenBreak text || text.any (!isPrintable ·))

/-- Whether a plain scalar of this text would stand for something other than the string. -/
def isAmbiguous (s : String) : Bool :=
  Plain.resolve s != .text || Plain.hasLeadingZero s.toList

/-- The style of a string that is no key in front of a colon. -/
def styleOf (s : String) : Style :=
  let text := s.toList
  if text.contains '\n' then
    if literalAllowed text then .literal else .doubleQuoted
  else if !isAmbiguous s && plainAllowed text then .plain
  else if singleQuotesAllowed text then .singleQuoted
  else .doubleQuoted

/-! ## Texts of scalars -/

def spaces (count : Nat) : List Char := List.replicate count ' '

/-- A text with spaces put after each run of line breaks. -/
def indentLines (indent : Nat) : (broken : Bool) → List Char → List Char
  | _, [] => []
  | broken, c :: rest =>
    if isBreak c then c :: indentLines indent true rest
    else if broken then spaces indent ++ c :: indentLines indent false rest
    else c :: indentLines indent false rest

/-- A string in single quotes, in which a quote is written twice. -/
def singleQuoted (indent : Nat) (text : List Char) : List Char :=
  let body := text.flatMap fun c => if c = '\'' then ['\'', '\''] else [c]
  let last := if text.getLast?.any isBreak then spaces indent else []
  '\'' :: indentLines indent false body ++ last ++ ['\'']

/-- A hexadecimal number of so many digits, in upper case. -/
def hexText (width : Nat) (n : Nat) : List Char :=
  let digits := (Nat.toDigits 16 n).map Char.toUpper
  List.replicate (width - digits.length) '0' ++ digits

/-- A character in double quotes. -/
def escaped (c : Char) : List Char :=
  if isPrintable c && !isBreak c && c != '"' && c != '\\' then [c]
  else
    '\\' ::
      if c = '\x00' then ['0']
      else if c = '\x07' then ['a']
      else if c = '\x08' then ['b']
      else if c = '\t' then ['t']
      else if c = '\n' then ['n']
      else if c = '\x0b' then ['v']
      else if c = '\x0c' then ['f']
      else if c = '\r' then ['r']
      else if c = '\x1b' then ['e']
      else if c = '"' then ['"']
      else if c = '\\' then ['\\']
      else if c = '\x85' then ['N']
      else if c = '\u2028' then ['L']
      else if c = '\u2029' then ['P']
      else if c.toNat ≤ 0xff then 'x' :: hexText 2 c.toNat
      else if c.toNat ≤ 0xffff then 'u' :: hexText 4 c.toNat
      else 'U' :: hexText 8 c.toNat

def doubleQuoted (text : List Char) : List Char := '"' :: text.flatMap escaped ++ ['"']

/-- The header of a literal block: the indentation where the text begins with a blank line or a
space, and what happens to the line breaks at its end. -/
def literalHeader (text : List Char) : List Char :=
  let indentation := if text.head?.any (fun c => c == ' ' || isBreak c) then ['2'] else []
  let chomping := match text.reverse with
    | last :: before =>
      if !isBreak last then ['-']
      else if before.head?.all isBreak then ['+']
      else []
    | [] => ['-']
  '|' :: indentation ++ chomping

def literal (indent : Nat) (text : List Char) : List Char :=
  literalHeader text ++ '\n' :: indentLines indent true text

/-- A string in a style, its further lines indented, with the line break that ends it. -/
def stringLine (indent : Nat) (style : Style) (s : String) : List Char :=
  let text := s.toList
  match style with
  | .plain => text ++ ['\n']
  | .singleQuoted => singleQuoted indent text ++ ['\n']
  | .doubleQuoted => doubleQuoted text ++ ['\n']
  | .literal => literal indent text ++ (if text.getLast?.any isBreak then [] else ['\n'])

/-- Floating-point numbers in YAML have no sign on a positive exponent. -/
def floatStyle : Decimal.Style := ⟨[]⟩

def numberText : Number → List Char
  | .int n => Json.integer n
  | .float x => (Decimal.shortest x).text floatStyle

/-! ## Keys -/

/-- A key stands in front of its colon if it takes one line and at most 128 bytes. -/
def isSimpleKey (key : String) : Bool :=
  !key.toList.any isBreak && key.utf8ByteSize ≤ 128

/-- A key in front of its colon. -/
def simpleKey (key : String) : List Char :=
  let text := key.toList
  match styleOf key with
  | .plain => text
  | .singleQuoted => singleQuoted 0 text
  | _ => doubleQuoted text

/-! ## Documents -/

/-- What an entry hangs on: a dash or the colon of a long key, or a key in front of a colon. -/
inductive Place where
  | indicator | key
deriving DecidableEq, Repr

mutual
/-- What follows an indicator or a key of a collection at a column, to the end of its last line. -/
def entry (column : Nat) (place : Place) : Document → List Char
  | .null => " null\n".toList
  | .bool b => if b then " true\n".toList else " false\n".toList
  | .number n => ' ' :: numberText n ++ ['\n']
  | .string s => ' ' :: stringLine (column + 2) (styleOf s) s
  | .list [] => " []\n".toList
  | .map [] => " \x7b\x7d\n".toList
  | .list (d :: rest) =>
    match place with
    | .indicator => ' ' :: items (column + 2) [] (d :: rest)
    | .key => '\n' :: items column (spaces column) (d :: rest)
  | .map (f :: rest) =>
    match place with
    | .indicator => ' ' :: fields (column + 2) [] (f :: rest)
    | .key => '\n' :: fields (column + 2) (spaces (column + 2)) (f :: rest)

/-- The items of a list at a column; what stands before the first one is given. -/
def items (column : Nat) (lead : List Char) : List Document → List Char
  | [] => []
  | d :: rest => lead ++ '-' :: entry column .indicator d ++ items column (spaces column) rest

/-- The fields of a map at a column; what stands before the first one is given. -/
def fields (column : Nat) (lead : List Char) : List (String × Document) → List Char
  | [] => []
  | (key, d) :: rest =>
    lead ++
      (if isSimpleKey key then simpleKey key ++ ':' :: entry column .key d
       else '?' :: ' ' :: stringLine (column + 2) (styleOf key) key ++
        spaces column ++ ':' :: entry column .indicator d) ++
      fields column (spaces column) rest
end

/-- The text of a document. -/
def text : Document → List Char
  | .list (d :: rest) => items 0 [] (d :: rest)
  | .map (f :: rest) => fields 0 [] (f :: rest)
  | .string s => stringLine 2 (styleOf s) s
  | d => (entry 0 .indicator d).drop 1

/-- The text of a document as a string. -/
def write (d : Document) : String := String.ofList (text d)

end KubeOverlay.Yaml
