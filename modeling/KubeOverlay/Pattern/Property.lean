import KubeOverlay.Hexadecimal
import KubeOverlay.Text
import KubeOverlay.Pattern.Category
import KubeOverlay.Pattern.Script
import KubeOverlay.Pattern.Binary
import KubeOverlay.Pattern.Folding
/-!
# Properties by name

The sets of characters that a pattern can name: general categories, scripts and binary properties,
and the classes of digits, blanks and word characters. Names are compared without case, blanks,
hyphens and underscores. Beside them stands the closure of a set under simple case folding.
-/
namespace KubeOverlay.Pattern

/-- A set of characters. -/
abbrev CharSet := Char → Bool

namespace Table

/-- The entries of a table, which blanks and line breaks separate. -/
def entries (table : String) : List String :=
  ((table.splitOn "\n").flatMap (·.splitOn " ")).filter (· != "")

/-- The number of hexadecimal digits in a table. -/
def number (digits : List Char) : Nat := (Hexadecimal.number? digits).getD 0

/-- An entry of a table of runs: where the run starts, and the code of its value. -/
def run (entry : String) : Nat × String :=
  let (digits, code) := entry.toList.span (!·.isUpper)
  (number digits, String.ofList code)

/-- A range written as its first and last code point, or as the only one. -/
def range (entry : List Char) : Nat × Nat :=
  match entry.span (· != '-') with
  | (first, _ :: last) => (number first, number last)
  | (first, []) => (number first, number first)

def runs (table : String) : List (Nat × String) := (entries table).map run

def ranges (table : String) : List (Nat × Nat) := (entries table).map (range ·.toList)

/-- The value of the run that a character lies in. -/
def valueOf (runs : List (Nat × String)) (c : Char) : String :=
  (((runs.takeWhile (·.1 ≤ c.toNat)).getLast?).map (·.2)).getD ""

/-- The characters of ranges. -/
def members (ranges : List (Nat × Nat)) : CharSet :=
  fun c => ranges.any (fun r => r.1 ≤ c.toNat && c.toNat ≤ r.2)

end Table

/-! ## General categories -/

def categoryRuns : List (Nat × String) := Table.runs Category.runs

def category (c : Char) : String := Table.valueOf categoryRuns c

/-- The names of the general categories after their codes. Codes of one letter stand for groups. -/
def categoryNames : List (String × List String) :=
  [("Lu", ["uppercaseletter"]), ("Ll", ["lowercaseletter"]), ("Lt", ["titlecaseletter"]),
    ("Lm", ["modifierletter"]), ("Lo", ["otherletter"]), ("Mn", ["nonspacingmark"]),
    ("Mc", ["spacingmark"]), ("Me", ["enclosingmark"]), ("Nd", ["decimalnumber", "digit"]),
    ("Nl", ["letternumber"]), ("No", ["othernumber"]), ("Pc", ["connectorpunctuation"]),
    ("Pd", ["dashpunctuation"]), ("Ps", ["openpunctuation"]), ("Pe", ["closepunctuation"]),
    ("Pi", ["initialpunctuation"]), ("Pf", ["finalpunctuation"]), ("Po", ["otherpunctuation"]),
    ("Sm", ["mathsymbol"]), ("Sc", ["currencysymbol"]), ("Sk", ["modifiersymbol"]),
    ("So", ["othersymbol"]), ("Zs", ["spaceseparator"]), ("Zl", ["lineseparator"]),
    ("Zp", ["paragraphseparator"]), ("Cc", ["control", "cntrl"]), ("Cf", ["format"]),
    ("Co", ["privateuse"]), ("Cn", ["unassigned"]), ("L", ["letter"]),
    ("M", ["mark", "combiningmark"]), ("N", ["number"]), ("P", ["punctuation", "punct"]),
    ("S", ["symbol"]), ("Z", ["separator"]), ("C", ["other"])]

/-- The set that a name has as a general category. -/
def categorySet? (name : String) : Option CharSet :=
  if name == "any" then some fun _ => true
  else if name == "assigned" then some fun c => category c != "Cn"
  else if name == "ascii" then some fun c => c.toNat < 128
  else if name == "lc" || name == "casedletter" then
    some fun c => ["Lu", "Ll", "Lt"].contains (category c)
  else
    (categoryNames.find? fun entry => entry.1.toLower == name || entry.2.contains name).map
      fun entry c => entry.1.toList.isPrefixOf (category c).toList

/-! ## Scripts -/

def scriptRuns : List (Nat × String) := Table.runs Script.runs

def script (c : Char) : String := Table.valueOf scriptRuns c

/-- The codes of the scripts with their names, in lower case and without separators. -/
def scriptNames : List (String × List String) :=
  (Table.entries Script.names).map fun entry =>
    let (code, name) := entry.toList.span (· != '=')
    let code := String.ofList code
    let long := String.ofList (((name.drop 1).filter (· != '_')).map Char.toLower)
    (code, [code.toLower, long] ++
      (if code == "Copt" then ["qaac"] else if code == "Zinh" then ["qaai"] else []))

/-- The code of a script by any of its names. -/
def scriptCode? (name : String) : Option String :=
  ((scriptNames.find? (·.2.contains name)).map (·.1)).filter (· != "Zzzz")

def scriptSet (code : String) : CharSet := fun c => script c == code

/-- The ranges of characters that several scripts use. -/
def scriptExtensions : List ((Nat × Nat) × List String) :=
  (Table.entries Script.extensions).map fun entry =>
    let (range, codes) := entry.toList.span (· != ':')
    (Table.range range, (String.ofList (codes.drop 1)).splitOn ",")

/-- The characters used in a script. -/
def extendedScriptSet (code : String) : CharSet := fun c =>
  match scriptExtensions.find? (fun e => Table.members [e.1] c) with
  | some (_, codes) => codes.contains code
  | none => script c == code

/-! ## Binary properties -/

/-- The set of a binary property by either of its names. -/
def binarySet? (name : String) : Option CharSet :=
  (Binary.properties.find? fun p => p.1 == name || p.2.1 == name ||
    (name == "space" && p.1 == "whitespace")).map fun p => Table.members (Table.ranges p.2.2)

/-! ## Common classes -/

def alphabeticRanges : List (Nat × Nat) := Table.ranges Binary.alphabetic

def isWhiteSpace : CharSet := Text.isWhiteSpace

def isAlphabetic : CharSet := Table.members alphabeticRanges

def isDecimalDigit : CharSet := fun c => category c == "Nd"

/-- Letters and numbers of any script. -/
def isAlphanumeric : CharSet := fun c => isAlphabetic c || (category c).toList.head? == some 'N'

/-- Letters, marks, decimal digits, connectors and the two joiners. -/
def isWordChar : CharSet := fun c =>
  isAlphabetic c || c == '\u200c' || c == '\u200d' ||
    ["Mn", "Mc", "Me", "Nd", "Pc"].contains (category c)

/-! ## Names -/

/-- A name in lower case without blanks, hyphens, underscores and other characters beyond ASCII, and
without `is` at its start. -/
def looseName (name : List Char) : String :=
  let kept := name.filter fun c => c.toNat < 128 && c != ' ' && c != '-' && c != '_'
  let loose := kept.map Char.toLower
  match loose with
  | ['i', 's', 'c'] => "isc"
  | 'i' :: 's' :: rest => String.ofList rest
  | loose => String.ofList loose

/-- The set that a name has alone. Three short names that are also those of properties are the ones
of general categories. -/
def namedSet? (name : List Char) : Option CharSet :=
  let name := looseName name
  let binary := if ["cf", "sc", "lc"].contains name then none else binarySet? name
  (binary.or (categorySet? name)).or ((scriptCode? name).map scriptSet)

/-- The set of a property that has a value. -/
def valuedSet? (property value : List Char) : Option CharSet :=
  let property := looseName property
  let value := looseName value
  if ["gc", "generalcategory", "category"].contains property then categorySet? value
  else if ["sc", "script"].contains property then (scriptCode? value).map scriptSet
  else if ["scx", "scriptextensions"].contains property then
    (scriptCode? value).map extendedScriptSet
  else none

/-! ## Case folding -/

/-- The foldings of an entry, each code point with what it folds to. -/
def foldingPairs (entry : String) : List (Nat × Nat) :=
  let (source, target) := entry.toList.span (· != '>')
  let (range, step) := source.span (· != '/')
  let (first, last) := Table.range range
  let step := if step.isEmpty then 1 else 2
  (List.range ((last - first) / step + 1)).map fun n =>
    (first + step * n, Table.number (target.drop 1) + step * n)

def foldings : List (Nat × Nat) := (Table.entries Folding.entries).flatMap foldingPairs

/-- The code point that a character folds to. -/
def folded (c : Char) : Nat := ((foldings.find? (·.1 == c.toNat)).map (·.2)).getD c.toNat

/-- The characters that fold to the same code point. -/
def foldingOrbit (c : Char) : List Char :=
  let target := folded c
  Char.ofNat target :: (foldings.filter (·.2 == target)).map (Char.ofNat ·.1)

/-- The characters that a set contains in any case. -/
def foldedSet (set : CharSet) : CharSet := fun c => (foldingOrbit c).any set

/-- The same within ASCII. -/
def foldedAsciiSet (set : CharSet) : CharSet := fun c => set c || set c.toLower || set c.toUpper

end KubeOverlay.Pattern
