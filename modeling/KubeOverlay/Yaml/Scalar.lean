import KubeOverlay.Yaml.Cursor
import KubeOverlay.Hexadecimal
/-!
# Scalars in YAML text

The text of plain, quoted and block scalars. Lines of plain and quoted scalars are folded: one line
break reads as a space, and of several the first is dropped. In a block scalar lines are kept or
folded by its style, and its last breaks are kept, clipped or stripped.
-/
namespace KubeOverlay.Yaml

/-! ## Gaps between words -/

/-- The blanks and line breaks between two words, as far as they are read. -/
structure Gap where
  /-- The blanks before a line break. -/
  blanks : List Char
  /-- Whether a line has ended. -/
  broken : Bool
  /-- The first line break. -/
  first : List Char
  /-- The line breaks after the first. -/
  more : List Char

namespace Gap

/-- What a gap reads as. -/
def text (gap : Gap) : List Char :=
  if gap.broken then
    if gap.first.head? == some '\n' then
      if gap.more.isEmpty then [' '] else gap.more
    else gap.first ++ gap.more
  else gap.blanks

/-- Blanks and line breaks at the cursor. A tab that stands for indentation, left of a column, is
refused. -/
def scan (indent : Int) : Nat → Cursor → Gap → Option (Gap × Cursor)
  | 0, _, _ => none
  | fuel + 1, c, gap =>
    match c.head? with
    | none => some (gap, c)
    | some char =>
      if isBlank char then
        if gap.broken && char == '\t' && (c.mark.column : Int) < indent then none
        else scan indent fuel (c.skip 1)
          (if gap.broken then gap else { gap with blanks := gap.blanks ++ [char] })
      else if isBreak char then
        let (read, c) := c.skipBreak
        scan indent fuel c
          (if gap.broken then { gap with more := gap.more ++ read }
           else { gap with broken := true, first := read })
      else some (gap, c)

end Gap

/-- A gap before anything of it is read, after an escaped line break if it is broken. -/
def Gap.start (broken : Bool) : Gap := ⟨[], broken, [], []⟩

/-! ## Plain scalars -/

def isFlowIndicator (c : Char) : Bool :=
  c == ',' || c == '[' || c == ']' || c == '\x7b' || c == '\x7d'

/-- A word of a plain scalar and what follows it. It ends at a colon before a blank, and inside flow
collections at their indicators; there a colon right before one of them is refused. -/
def plainWord (inFlow : Bool) : List Char → Option (List Char × List Char)
  | [] => some ([], [])
  | c :: rest =>
    let next := rest.head?
    if isBlank c || isBreak c then some ([], c :: rest)
    else if inFlow && c == ':' && next.any (fun d => isFlowIndicator d || d == '?') then none
    else if (c == ':' && endsWord next) || (inFlow && isFlowIndicator c) then some ([], c :: rest)
    else do
      let (word, rest) ← plainWord inFlow rest
      return (c :: word, rest)

/-- The words of a plain scalar with the gaps between them, the first of which is pending: the text,
whether a line ended after the last word, and the cursor after the last gap. A scalar in block
context ends with the line before one that is indented less. -/
def scanPlain (inFlow : Bool) (indent : Int) :
    Nat → Cursor → (pending : Gap) → Option (List Char × Bool × Cursor)
  | 0, _, _ => none
  | fuel + 1, c, pending =>
    if c.atDocumentMark || c.head? == some '#' then some ([], pending.broken, c)
    else do
      let (word, rest) ← plainWord inFlow c.rest
      let text := if word.isEmpty then [] else pending.text ++ word
      let pending := if word.isEmpty then pending else .start false
      let c := c.skip word.length
      match rest with
      | d :: _ =>
        if isBlank d || isBreak d then
          let (gap, c) ← Gap.scan indent (fuel + 1) c (.start false)
          if !inFlow && (c.mark.column : Int) < indent then some (text, gap.broken, c)
          else
            let (more, broken, c) ← scanPlain inFlow indent fuel c gap
            return (text ++ more, broken, c)
        else some (text, pending.broken, c)
      | [] => some (text, pending.broken, c)

/-! ## Quoted scalars -/

/-- What a character after a backslash stands for by itself. -/
def simpleEscape? : Char → Option Char
  | '0' => some '\x00'
  | 'a' => some '\x07'
  | 'b' => some '\x08'
  | 't' => some '\t'
  | '\t' => some '\t'
  | 'n' => some '\n'
  | 'v' => some '\x0b'
  | 'f' => some '\x0c'
  | 'r' => some '\r'
  | 'e' => some '\x1b'
  | ' ' => some ' '
  | '"' => some '"'
  | '/' => some '/'
  | '\\' => some '\\'
  | 'N' => some '\x85'
  | '_' => some '\xa0'
  | 'L' => some '\u2028'
  | 'P' => some '\u2029'
  | _ => none

/-- How many hexadecimal digits follow a letter after a backslash. -/
def escapeWidth? : Char → Option Nat
  | 'x' => some 2
  | 'u' => some 4
  | 'U' => some 8
  | _ => none

/-- The character that a backslash and what follows it stand for, and how many characters they
take. -/
def escape? (c : Cursor) : Option (Char × Nat) := do
  let letter ← c.at? 1
  match escapeWidth? letter with
  | some width =>
    let digits := (c.rest.drop 2).take width
    let code ← Hexadecimal.number? digits
    let char ← Hexadecimal.scalarValue? code
    if digits.length < width then none else return (char, 2 + width)
  | none =>
    let char ← simpleEscape? letter
    return (char, 2)

/-- Characters of a quoted scalar up to a blank, a line break or the closing quote, and whether they
end with an escaped line break. A single-quoted scalar has a quote written twice, a double-quoted
one escapes. -/
def quotedWord (single : Bool) : Nat → Cursor → Option (List Char × Bool × Cursor)
  | 0, _ => none
  | fuel + 1, c =>
    let next (char : Char) (count : Nat) : Option (List Char × Bool × Cursor) := do
      let (word, broken, c) ← quotedWord single fuel (c.skip count)
      return (char :: word, broken, c)
    match c.head? with
    | none => some ([], false, c)
    | some char =>
      if isBlank char || isBreak char then some ([], false, c)
      else if single && char == '\'' then
        if c.at? 1 == some '\'' then next '\'' 2 else some ([], false, c)
      else if single then next char 1
      else if char == '"' then some ([], false, c)
      else if char == '\\' then
        if (c.at? 1).any isBreak then some ([], true, (c.skip 1).skipBreak.2)
        else do
          let (escaped, count) ← escape? c
          next escaped count
      else next char 1

/-- The text of a quoted scalar after its opening quote, and the cursor after the closing one. -/
def scanQuoted (single : Bool) : Nat → Cursor → Option (List Char × Cursor)
  | 0, _ => none
  | fuel + 1, c =>
    if c.atDocumentMark || c.rest.isEmpty then none
    else do
      let (word, broken, c) ← quotedWord single (fuel + 1) c
      if c.head? == some (if single then '\'' else '"') then return (word, c.skip 1)
      else
        let (gap, c) ← Gap.scan 0 (fuel + 1) c (.start broken)
        let (more, c) ← scanQuoted single fuel c
        return (word ++ gap.text ++ more, c)

/-! ## Block scalars -/

/-- What happens to the line breaks at the end of a block scalar. -/
inductive Chomping where
  | strip | clip | keep
deriving DecidableEq, Repr

/-- The header of a block scalar after its indicator: chomping and indentation, in either order.
The indentation is zero when it is to be found out. -/
def blockHeader (c : Cursor) : Option (Chomping × Nat × Cursor) :=
  let chomping? : Option Char → Option Chomping
    | some '+' => some .keep
    | some '-' => some .strip
    | _ => none
  let digit? : Option Char → Option Nat
    | some d => if d.isDigit then some (d.toNat - '0'.toNat) else none
    | none => none
  match chomping? c.head? with
  | some chomping =>
    let c := c.skip 1
    match digit? c.head? with
    | some 0 => none
    | some n => some (chomping, n, c.skip 1)
    | none => some (chomping, 0, c)
  | none =>
    match digit? c.head? with
    | some 0 => none
    | some n =>
      let c := c.skip 1
      match chomping? c.head? with
      | some chomping => some (chomping, n, c.skip 1)
      | none => some (.clip, n, c)
    | none => some (.clip, 0, c)

/-- Past indentation and empty lines: the line breaks, the widest indentation met and the cursor.
While the indentation is to be found out all spaces count as indentation; a tab in its place is
refused. -/
def blockBreaks (indent : Nat) : Nat → Cursor → Nat → List Char → Option (List Char × Nat × Cursor)
  | 0, _, _, _ => none
  | fuel + 1, c, widest, breaks =>
    let room := if indent == 0 then c.rest.length else indent - c.mark.column
    let c := c.skip ((c.rest.take room).takeWhile (· == ' ')).length
    let widest := max widest c.mark.column
    match c.head? with
    | none => some (breaks, widest, c)
    | some char =>
      if char == '\t' && (indent == 0 || c.mark.column < indent) then none
      else if isBreak char then
        let (read, c) := c.skipBreak
        blockBreaks indent fuel c widest (breaks ++ read)
      else some (breaks, widest, c)

/-- The lines of a block scalar after a line break and empty lines: the text without the last line
breaks, the break after its last line and the empty lines after that. Between two lines of a folded
scalar that do not start with a blank a single break reads as a space. -/
def blockLines (literal : Bool) (indent : Nat) : Nat → Cursor → (leadingBlank : Bool) →
    (first breaks : List Char) → Option (List Char × List Char × List Char × Cursor)
  | 0, _, _, _, _ => none
  | fuel + 1, c, leadingBlank, first, breaks =>
    if c.mark.column == indent && !c.rest.isEmpty then do
      let blank := c.head?.any isBlank
      let joint :=
        if !literal && first.head? == some '\n' && !leadingBlank && !blank then
          if breaks.isEmpty then [' '] else []
        else first
      let (line, c) := c.takeWhile (fun d => !isBreak d)
      let (last, c) := c.skipBreak
      let (later, _, c) ← blockBreaks indent (fuel + 1) c 0 []
      let (text, last, later, c) ← blockLines literal indent fuel c blank last later
      return (joint ++ breaks ++ line ++ text, last, later, c)
    else some ([], first, breaks, c)

/-- The text of a block scalar after its indicator, inside a collection with an indentation. -/
def scanBlock (literal : Bool) (parent : Int) (c : Cursor) : Option (List Char × Cursor) := do
  let (chomping, width, c) ← blockHeader c
  let c := (c.dropWhile isBlank).skipComment
  if c.head?.any (fun d => !isBreak d) then none
  else
    let c := c.skipBreak.2
    let given := if width == 0 then 0 else (if 0 ≤ parent then parent + width else width).toNat
    let (breaks, widest, c) ← blockBreaks given (c.rest.length + 1) c 0 []
    let indent := if given == 0 then max (max widest (parent + 1).toNat) 1 else given
    let (text, first, later, c) ← blockLines literal indent (c.rest.length + 1) c false [] breaks
    let text := if chomping == .strip then text else text ++ first
    return (if chomping == .keep then text ++ later else text, c)

end KubeOverlay.Yaml
