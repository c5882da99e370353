/-!
# Cursors in YAML text

The characters of YAML and a cursor in a text: what is left to read and the place reached, counted
in characters, lines and columns. A line ends at a line feed, a carriage return or both, and at the
next-line, line-separator and paragraph-separator characters.
-/
namespace KubeOverlay.Yaml

def isBreak (c : Char) : Bool :=
  c == '\n' || c == '\r' || c == '\x85' || c == '\u2028' || c == '\u2029'

def isBlank (c : Char) : Bool := c == ' ' || c == '\t'

/-- The characters of directive names, handles and anchors. -/
def isWord (c : Char) : Bool := c.isAlphanum || c == '_' || c == '-'

/-- A blank, a line break or the end of the text. -/
def endsWord : Option Char → Bool
  | none => true
  | some c => isBlank c || isBreak c

/-- The characters that may stand in a text; only the tab and line breaks of the control characters
are among them. -/
def isAllowed (c : Char) : Bool :=
  c == '\t' || c == '\n' || c == '\r' || (' ' ≤ c && c ≤ '~') || c == '\x85' ||
    ('\xa0' ≤ c && c ≤ '\ufffd') || '\uffff' < c

/-- A place in a text. -/
structure Mark where
  index : Nat
  line : Nat
  column : Nat
deriving DecidableEq, Repr

/-- What is left of a text, and the place reached in it. -/
structure Cursor where
  rest : List Char
  mark : Mark

namespace Cursor

def start (text : List Char) : Cursor := ⟨text, ⟨0, 0, 0⟩⟩

def head? (c : Cursor) : Option Char := c.rest.head?

/-- The character at a distance from the cursor. -/
def at? (c : Cursor) (distance : Nat) : Option Char := c.rest[distance]?

/-- Past some characters of the line. -/
def skip (c : Cursor) (count : Nat) : Cursor :=
  ⟨c.rest.drop count, ⟨c.mark.index + count, c.mark.line, c.mark.column + count⟩⟩

/-- Past a line break, which is returned; all but the two separators read as line feeds. -/
def skipBreak (c : Cursor) : List Char × Cursor :=
  match c.rest with
  | '\r' :: '\n' :: rest => (['\n'], ⟨rest, ⟨c.mark.index + 2, c.mark.line + 1, 0⟩⟩)
  | b :: rest =>
    if isBreak b then
      let read := if b == '\u2028' || b == '\u2029' then b else '\n'
      ([read], ⟨rest, ⟨c.mark.index + 1, c.mark.line + 1, 0⟩⟩)
    else ([], c)
  | [] => ([], c)

/-- The characters of the line with a property, and the cursor past them. -/
def takeWhile (p : Char → Bool) (c : Cursor) : List Char × Cursor :=
  let taken := c.rest.takeWhile p
  (taken, c.skip taken.length)

/-- Past the characters of the line with a property. -/
def dropWhile (p : Char → Bool) (c : Cursor) : Cursor := (c.takeWhile p).2

/-- Past a comment, up to the end of the line. -/
def skipComment (c : Cursor) : Cursor :=
  if c.head? == some '#' then c.dropWhile (fun d => !isBreak d) else c

/-- Whether the line starts with this mark, alone or before a blank. -/
def startsWithMark (c : Cursor) (sign : Char) : Bool :=
  c.mark.column == 0 && c.at? 0 == some sign && c.at? 1 == some sign && c.at? 2 == some sign &&
    endsWord (c.at? 3)

/-- Whether a document starts or ends at the cursor. -/
def atDocumentMark (c : Cursor) : Bool := c.startsWithMark '-' || c.startsWithMark '.'

end Cursor

end KubeOverlay.Yaml
