import KubeOverlay.Pattern.Tree
import KubeOverlay.Pattern.Property
/-!
# Reading patterns

The tree that a pattern is written as, if it is well-formed and not nested too deep (`Tree.read?`).
Under the flag `x` blanks and comments between the parts of a pattern are skipped; every function
takes whether the flag is set. There are no back references and no look-around.
-/
namespace KubeOverlay.Pattern

/-! ## Blanks and comments -/

/-- What follows the blanks and comments at the front. -/
def skipBlanks : (comment : Bool) → List Char → List Char
  | _, [] => []
  | true, c :: rest => skipBlanks (c != '\n') rest
  | false, c :: rest =>
    if isWhiteSpace c then skipBlanks false rest
    else if c == '#' then skipBlanks true rest
    else c :: rest

/-- What follows the blanks and comments if they do not count. -/
def skip (extended : Bool) (text : List Char) : List Char :=
  if extended then skipBlanks false text else text

/-- The characters that count up to one that ends them, and what follows that. -/
def takeUntil (extended : Bool) (stop : Char) : Nat → List Char → Option (List Char × List Char)
  | 0, _ => none
  | fuel + 1, text =>
    match skip extended text with
    | [] => none
    | c :: rest =>
      if c == stop then some ([], rest)
      else (takeUntil extended stop fuel rest).map fun r => (c :: r.1, r.2)

/-- The characters that count before a closing brace. -/
def takeBraced (extended : Bool) (text : List Char) : Option (List Char × List Char) :=
  takeUntil extended '\x7d' (text.length + 1) text

/-! ## Escapes -/

/-- The characters that have a meaning of their own somewhere. -/
def isMeta (c : Char) : Bool := "\\.+*?()|[]\x7b\x7d^$#&-~".toList.contains c

/-- A number of so many hexadecimal digits. -/
def fixedHex (extended : Bool) : Nat → Nat → List Char → Option (Nat × List Char)
  | 0, value, text => some (value, text)
  | _ + 1, _, [] => none
  | count + 1, value, c :: rest => do
    fixedHex extended count (16 * value + (← Hexadecimal.value? c)) (skip extended rest)

/-- The character that hexadecimal digits name: so many, or any number in braces. -/
def hexEscape (extended : Bool) (width : Nat) (text : List Char) : Option (Tree × List Char) :=
  match skip extended text with
  | '\x7b' :: rest => do
    let (digits, rest) ← takeBraced extended rest
    if digits.isEmpty then none
    else return (.char (← Hexadecimal.scalarValue? (← Hexadecimal.number? digits)) false,
      skip extended rest)
  | text => do
    let (code, rest) ← fixedHex extended width 0 text
    return (.char (← Hexadecimal.scalarValue? code) (width == 2), rest)

/-- The parts of a text around the first place where a separator stands. -/
def splitAt? (separator : List Char) : List Char → Option (List Char × List Char)
  | [] => none
  | c :: rest =>
    if separator.isPrefixOf (c :: rest) then some ([], (c :: rest).drop separator.length)
    else (splitAt? separator rest).map fun r => (c :: r.1, r.2)

def propertyQuery (name : List Char) : PropertyQuery :=
  match splitAt? ['!', '='] name with
  | some (property, value) => .value property value true
  | none =>
    match (splitAt? [':'] name).or (splitAt? ['='] name) with
    | some (property, value) => .value property value false
    | none => .name name

/-- A property class after its letter: a name of one letter, or any in braces. -/
def propertyEscape (extended negated : Bool) (text : List Char) : Option (Tree × List Char) :=
  match skip extended text with
  | [] => none
  | '\\' :: _ => none
  | '\x7b' :: rest => do
    let (name, rest) ← takeBraced extended rest
    return (.property negated (propertyQuery name), rest)
  | c :: rest => some (.property negated (.name [c]), skip extended rest)

/-- The boundaries that braces after `\b` name. -/
def boundary? (name : List Char) : Option Anchor :=
  match String.ofList name with
  | "start" => some .wordStart
  | "end" => some .wordEnd
  | "start-half" => some .wordStartHalf
  | "end-half" => some .wordEndHalf
  | _ => none

def isBoundaryChar (c : Char) : Bool := c.isAlpha || c == '-'

/-- What follows `\b`. Braces after it name a boundary if a letter or hyphen stands in them first,
and are counts otherwise. -/
def boundaryEscape (extended : Bool) (text : List Char) : Option (Tree × List Char) :=
  match text with
  | '\x7b' :: rest =>
    match skip extended rest with
    | [] => none
    | c :: more =>
      if isBoundaryChar c then do
        let (name, rest) ← takeBraced extended (c :: more)
        return (.anchor (← boundary? name), rest)
      else some (.anchor .wordBoundary, text)
  | _ => some (.anchor .wordBoundary, text)

/-- What a backslash and the characters after it stand for. -/
def escape (extended : Bool) : List Char → Option (Tree × List Char)
  | [] => none
  | c :: rest =>
    if isMeta c then some (.char c false, rest)
    else match c with
      | 'x' => hexEscape extended 2 rest
      | 'u' => hexEscape extended 4 rest
      | 'U' => hexEscape extended 8 rest
      | 'p' => propertyEscape extended false rest
      | 'P' => propertyEscape extended true rest
      | 'd' => some (.letter false .digit, rest)
      | 'D' => some (.letter true .digit, rest)
      | 's' => some (.letter false .blank, rest)
      | 'S' => some (.letter true .blank, rest)
      | 'w' => some (.letter false .word, rest)
      | 'W' => some (.letter true .word, rest)
      | 'a' => some (.char '\x07' false, rest)
      | 'f' => some (.char '\x0c' false, rest)
      | 't' => some (.char '\t' false, rest)
      | 'n' => some (.char '\n' false, rest)
      | 'r' => some (.char '\r' false, rest)
      | 'v' => some (.char '\x0b' false, rest)
      | 'A' => some (.anchor .textStart, rest)
      | 'z' => some (.anchor .textEnd, rest)
      | 'b' => boundaryEscape extended rest
      | 'B' => some (.anchor .notWordBoundary, rest)
      | '<' => some (.anchor .wordStart, rest)
      | '>' => some (.anchor .wordEnd, rest)
      | c => if c.toNat < 128 && !c.isAlphanum then some (.char c false, rest) else none

/-! ## Classes -/

/-- The names of classes such as `[:alpha:]`. -/
def classNames : List String :=
  ["alnum", "alpha", "ascii", "blank", "cntrl", "digit", "graph", "lower", "print", "punct",
    "space", "upper", "word", "xdigit"]

/-- A named class after its opening bracket. -/
def namedClass? : List Char → Option (ClassTree × List Char)
  | ':' :: text =>
    let (negated, text) := match text with
      | '^' :: rest => (true, rest)
      | text => (false, text)
    let (name, text) := text.span (· != ':')
    match text with
    | ':' :: ']' :: rest =>
      let name := String.ofList name
      if classNames.contains name then some (.named negated name, rest) else none
    | _ => none
  | _ => none

/-- A character or escape in a class. -/
def classItem (extended : Bool) : List Char → Option (ClassTree × List Char)
  | [] => none
  | '\\' :: rest => do
    match ← escape extended rest with
    | (.char c _, rest) => return (.char c, rest)
    | (.letter negated letter, rest) => return (.letter negated letter, rest)
    | (.property negated query, rest) => return (.property negated query, rest)
    | _ => none
  | c :: rest => some (.char c, rest)

/-- The character after the one at the front, blanks left out. -/
def peek (extended : Bool) (text : List Char) : Option Char :=
  let rest := text.drop 1
  if extended then
    let dense := rest.dropWhile isWhiteSpace
    match dense with
    | '#' :: rest => (rest.dropWhile isWhiteSpace).head?
    | dense => dense.head?
  else rest.head?

/-- An item of a class, or two with a hyphen between them. -/
def classRange (extended : Bool) (text : List Char) : Option (ClassTree × List Char) := do
  let (first, rest) ← classItem extended text
  let rest := skip extended rest
  match rest with
  | [] => none
  | '-' :: after =>
    if peek extended rest == some ']' || peek extended rest == some '-' then return (first, rest)
    else
      let (last, rest) ← classItem extended (skip extended after)
      match first, last with
      | .char a, .char b => if a ≤ b then return (.range a b, rest) else none
      | _, _ => none
  | _ => return (first, rest)

/-- Hyphens at the start of a class stand for themselves. -/
def leadingHyphens (extended : Bool) : Nat → List Char → List ClassTree × List Char
  | fuel + 1, '-' :: rest =>
    let (hyphens, rest) := leadingHyphens extended fuel (skip extended rest)
    (.char '-' :: hyphens, rest)
  | _, text => ([], text)

/-- The start of a class after its bracket: whether it is negated, and the hyphens and the bracket
that stand for themselves. -/
def classStart (extended : Bool) (text : List Char) : Bool × List ClassTree × List Char :=
  let text := skip extended text
  let (negated, text) := match text with
    | '^' :: rest => (true, skip extended rest)
    | text => (false, text)
  let (hyphens, text) := leadingHyphens extended text.length text
  match hyphens, text with
  | [], ']' :: rest => (negated, [.char ']'], skip extended rest)
  | hyphens, text => (negated, hyphens, text)

/-- An operator of classes at the front. -/
def classOperator? : List Char → Option (ClassOperator × List Char)
  | '&' :: '&' :: rest => some (.intersection, rest)
  | '-' :: '-' :: rest => some (.difference, rest)
  | '~' :: '~' :: rest => some (.symmetricDifference, rest)
  | _ => none

/-- An operation that waits for its right side, applied to the parts of it. -/
def completed (left : Option (ClassOperator × ClassTree)) (parts : List ClassTree) : ClassTree :=
  match left with
  | some (operator, tree) => .operation operator tree (.ofParts parts.reverse)
  | none => .ofParts parts.reverse

/-- The content of a class up to its closing bracket. Operators bind weaker than what stands side by
side, and to the left. The parts read so far come last first. -/
def classContent (extended : Bool) :
    Nat → Option (ClassOperator × ClassTree) → List ClassTree → List Char →
      Option (ClassTree × List Char)
  | 0, _, _, _ => none
  | fuel + 1, left, parts, text =>
    let text := skip extended text
    match text with
    | [] => none
    | ']' :: rest => some (completed left parts, rest)
    | '[' :: rest =>
      match namedClass? rest with
      | some (named, rest) => classContent extended fuel left (named :: parts) rest
      | none => do
        let (negated, start, rest) := classStart extended rest
        let (content, rest) ← classContent extended fuel none start.reverse rest
        classContent extended fuel left (.bracketed negated content :: parts) rest
    | text =>
      match classOperator? text with
      | some (operator, rest) =>
        classContent extended fuel (some (operator, completed left parts)) [] rest
      | none => do
        let (part, rest) ← classRange extended text
        classContent extended fuel left (part :: parts) rest

/-- A class after its opening bracket. -/
def bracketClass (extended : Bool) (text : List Char) : Option (Tree × List Char) := do
  let (negated, start, rest) := classStart extended text
  let (content, rest) ← classContent extended (rest.length + 1) none start.reverse rest
  return (.bracketed negated content, rest)

/-! ## Repetitions -/

/-- A number of 32 bits in a count, with blanks around it. -/
def count? (extended : Bool) (text : List Char) : Option (Option Nat × List Char) :=
  go (text.length + 1) [] (text.dropWhile isWhiteSpace)
where
  go : Nat → List Char → List Char → Option (Option Nat × List Char)
    | fuel + 1, digits, c :: rest =>
      if c.isDigit then go fuel (c :: digits) (skip extended rest) else finish digits (c :: rest)
    | _, digits, text => finish digits text
  finish (digits text : List Char) : Option (Option Nat × List Char) :=
    let rest := skip extended (text.dropWhile isWhiteSpace)
    if digits.isEmpty then some (none, rest)
    else
      let value := digits.reverse.foldl (fun n c => 10 * n + (c.toNat - '0'.toNat)) 0
      if value < Nat.pow 2 32 then some (some value, rest) else none

/-- A question mark after a repetition makes no difference to what matches. -/
def dropLazy : List Char → List Char
  | '?' :: rest => rest
  | text => text

/-- A count after its opening brace: a number, or bounds of which the upper one may be missing. -/
def countedBounds (extended : Bool) (text : List Char) :
    Option (Nat × Option Nat × List Char) := do
  let (least, rest) ← count? extended (skip extended text)
  let least ← least
  match rest with
  | '\x7d' :: rest => return (least, some least, dropLazy (skip extended rest))
  | ',' :: rest =>
    match skip extended rest with
    | '\x7d' :: rest => return (least, none, dropLazy (skip extended rest))
    | rest =>
      let (most, rest) ← count? extended rest
      let most ← most
      match rest with
      | '\x7d' :: rest =>
        if least ≤ most then return (least, some most, dropLazy (skip extended rest)) else none
      | _ => none
  | _ => none

/-- The last part repeated. There must be one, and it must not be a change of flags. -/
def repeatLast (least : Nat) (most : Option Nat) : List Tree → Option (List Tree)
  | [] => none
  | .flags _ :: _ => none
  | t :: parts => some (.repetition least most t :: parts)

/-! ## Groups -/

def isNameStart (c : Char) : Bool := c == '_' || isAlphabetic c

def isNameChar (c : Char) : Bool := c == '_' || c == '.' || c == '[' || c == ']' || isAlphanumeric c

/-- The name of a group, up to the angle bracket that ends it. -/
def groupName? (text : List Char) : Option (String × List Char) :=
  match text.span (· != '>') with
  | (c :: name, _ :: rest) =>
    if isNameStart c && name.all isNameChar then some (String.ofList (c :: name), rest) else none
  | _ => none

/-- Changes of flags up to a colon or a closing parenthesis, which stands first in what follows. No
letter may stand twice, and something must follow the hyphen. -/
def flagChanges (on : Bool) (changes : List FlagChange) :
    List Char → Option (List FlagChange × List Char)
  | [] => none
  | c :: rest =>
    if c == ':' || c == ')' then some (changes.reverse, c :: rest)
    else if c == '-' then
      if !on || rest.head? == some ':' || rest.head? == some ')' then none
      else flagChanges false changes rest
    else if "imsUuRx".toList.contains c && !changes.any (·.1 == c) then
      flagChanges on ((c, on) :: changes) rest
    else none

/-- Whether blanks are skipped after changes of flags. -/
def extendedAfter (extended : Bool) (changes : List FlagChange) : Bool :=
  ((changes.find? (·.1 == 'x')).map (·.2)).getD extended

/-- What an opening parenthesis begins. -/
inductive Opening where
  | flags (changes : List FlagChange)
  | group (changes : List FlagChange)
  | named (name : String)

/-- What follows an opening parenthesis. -/
def opening (text : List Char) : Option (Opening × List Char) :=
  match text with
  | '?' :: 'P' :: '<' :: rest => (groupName? rest).map fun r => (.named r.1, r.2)
  | '?' :: '<' :: rest => (groupName? rest).map fun r => (.named r.1, r.2)
  | '?' :: rest =>
    match flagChanges true [] rest with
    | some ([], ')' :: _) => none
    | some (changes, ')' :: rest) => some (.flags changes, rest)
    | some (changes, _ :: rest) => some (.group changes, rest)
    | _ => none
  | text => some (.group [], text)

/-! ## Patterns -/

/-- A part of one character, or of an escape. -/
def single (extended : Bool) : List Char → Option (Tree × List Char)
  | [] => none
  | '\\' :: rest => escape extended rest
  | '.' :: rest => some (.anyChar, rest)
  | '^' :: rest => some (.anchor .lineStart, rest)
  | '$' :: rest => some (.anchor .lineEnd, rest)
  | c :: rest => some (.char c false, rest)

/-- A reading of branches up to a closing parenthesis or the end. The branches and the parts of the
last one read so far come last first, and the names of groups are collected. -/
def branches : Nat → (extended : Bool) → (names : List String) → List Tree → List Tree → List Char →
    Option (Tree × List String × List Char)
  | 0, _, _, _, _, _ => none
  | fuel + 1, extended, names, done, parts, text =>
    match skip extended text with
    | [] => some (.ofBranches (.ofParts parts.reverse :: done).reverse, names, [])
    | ')' :: rest => some (.ofBranches (.ofParts parts.reverse :: done).reverse, names, ')' :: rest)
    | '|' :: rest => branches fuel extended names (.ofParts parts.reverse :: done) [] rest
    | '(' :: rest => do
      let group (changes : List FlagChange) (names : List String) (text : List Char) :
          Option (Tree × List String × List Char) := do
        let (t, names, rest) ← branches fuel (extendedAfter extended changes) names [] [] text
        match rest with
        | ')' :: rest => branches fuel extended names done (.group changes t :: parts) rest
        | _ => none
      match ← opening (skip extended rest) with
      | (.flags changes, rest) =>
        branches fuel (extendedAfter extended changes) names done (.flags changes :: parts) rest
      | (.group changes, rest) => group changes names rest
      | (.named name, rest) => if names.contains name then none else group [] (name :: names) rest
    | '[' :: rest => do
      let (t, rest) ← bracketClass extended rest
      branches fuel extended names done (t :: parts) rest
    | '*' :: rest => do
      branches fuel extended names done (← repeatLast 0 none parts) (dropLazy rest)
    | '+' :: rest => do
      branches fuel extended names done (← repeatLast 1 none parts) (dropLazy rest)
    | '?' :: rest => do
      branches fuel extended names done (← repeatLast 0 (some 1) parts) (dropLazy rest)
    | '\x7b' :: rest => do
      let (least, most, rest) ← countedBounds extended rest
      branches fuel extended names done (← repeatLast least most parts) rest
    | text => do
      let (t, rest) ← single extended text
      branches fuel extended names done (t :: parts) rest

/-- How deep patterns may be nested. -/
def maxDepth : Nat := 250

/-- The tree of a pattern. -/
def Tree.read? (pattern : String) : Option Tree := do
  let text := pattern.toList
  match ← branches (text.length + 1) false [] [] [] text with
  | (t, _, []) => if t.depth ≤ maxDepth then some t else none
  | _ => none

end KubeOverlay.Pattern
