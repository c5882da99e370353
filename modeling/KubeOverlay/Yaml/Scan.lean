import KubeOverlay.Yaml.Token
import KubeOverlay.Yaml.Scalar
import KubeOverlay.Double.Decimal
/-!
# Tokens of a YAML text

The scanner reads one token after the other (`Scanner.fetch`). Indentation opens and closes block
collections. A token that may turn out to be a key without a question mark is remembered as a
candidate until its colon is found, on the same line and within 1024 characters; the key token is
then put before it.
-/
namespace KubeOverlay.Yaml

/-- A place where a key without a question mark may have begun. -/
structure Candidate where
  /-- Nothing but a key can stand there. -/
  required : Bool
  /-- How many tokens stand before it. -/
  number : Nat
  mark : Mark

structure Scanner where
  cursor : Cursor
  /-- The column of the innermost block collection, -1 outside of all. -/
  indent : Int
  /-- The columns of the collections around it. -/
  outer : List Int
  /-- The candidate of this collection; `none` while there is none. -/
  candidate : Option Candidate
  /-- The candidates of the collections around the innermost flow collection. -/
  around : List (Option Candidate)
  /-- Whether a key without a question mark may begin here. -/
  keyAllowed : Bool
  /-- The tokens read, the last one first. -/
  tokens : List Token
  count : Nat

namespace Scanner

def start (text : List Char) : Scanner :=
  ⟨.start text, -1, [], none, [], true, [], 0⟩

/-- Whether the scanner is inside a flow collection. -/
def inFlow (s : Scanner) : Bool := !s.around.isEmpty

def column (s : Scanner) : Int := s.cursor.mark.column

def emit (s : Scanner) (token : Token) : Scanner :=
  { s with tokens := token :: s.tokens, count := s.count + 1 }

/-- A token put before those from a number on. -/
def emitAt (s : Scanner) (number : Nat) (token : Token) : Scanner :=
  { s with tokens := s.tokens.insertIdx (s.count - number) token, count := s.count + 1 }

/-- Past some characters that make up a token. -/
def take (s : Scanner) (count : Nat) (token : Token) : Scanner :=
  { s with cursor := s.cursor.skip count }.emit token

/-! ## Keys without a question mark -/

/-- A candidate is out of date on a later line or after 1024 characters. -/
def Candidate.outdated (k : Candidate) (m : Mark) : Bool :=
  k.mark.line < m.line || k.mark.index + 1024 < m.index

/-- Drops the candidates that are out of date; a required one must not be. -/
def dropOutdated (s : Scanner) : Option Scanner := do
  let renew : Option Candidate → Option (Option Candidate)
    | none => some none
    | some k =>
      if Candidate.outdated k s.cursor.mark then if k.required then none else some none
      else some (some k)
  let candidate ← renew s.candidate
  let around ← s.around.mapM renew
  return { s with candidate, around }

/-- Drops the candidate of this collection; a required one must not be. -/
def dropCandidate (s : Scanner) : Option Scanner :=
  if s.candidate.any (·.required) then none else some { s with candidate := none }

/-- Remembers the next token as a candidate where a key may begin. It is required where it stands at
the indentation of its block collection. -/
def saveCandidate (s : Scanner) : Option Scanner :=
  if s.keyAllowed then do
    let s ← s.dropCandidate
    let required := !s.inFlow && s.indent == s.column
    return { s with candidate := some ⟨required, s.count, s.cursor.mark⟩ }
  else some s

/-! ## Indentation -/

/-- Opens a block collection at a column right of the innermost one. -/
def openBlock (s : Scanner) (column : Nat) (token : Token) (number : Nat) : Scanner :=
  if !s.inFlow && s.indent < column then
    { s with indent := column, outer := s.indent :: s.outer }.emitAt number token
  else s

/-- Closes the block collections right of a column. -/
def closeBlocks (s : Scanner) (column : Int) : Scanner :=
  if s.inFlow then s else go s s.outer
where
  go (s : Scanner) : List Int → Scanner
    | [] => s
    | indent :: outer =>
      if column < s.indent then go ({ s with indent, outer }.emit .blockEnd) outer else s

/-! ## Blanks -/

/-- Past blanks, comments and line breaks to the next token. A tab may not stand where a key may
begin in block context. -/
def skipBlanks : Nat → Scanner → Scanner
  | 0, s => s
  | fuel + 1, s =>
    let c := if s.cursor.mark.column == 0 && s.cursor.head? == some '\ufeff' then s.cursor.skip 1
      else s.cursor
    let tabs := s.inFlow || !s.keyAllowed
    let c := (c.dropWhile (fun d => d == ' ' || (tabs && d == '\t'))).skipComment
    if c.head?.any isBreak then
      skipBlanks fuel { s with
        cursor := c.skipBreak.2
        keyAllowed := if s.inFlow then s.keyAllowed else true }
    else { s with cursor := c }

/-! ## Directives -/

/-- A number of a version, of at most nine digits. -/
def versionNumber (c : Cursor) : Option (Nat × Cursor) :=
  let (digits, c) := c.takeWhile Char.isDigit
  if digits.isEmpty || 9 < digits.length then none else some (Decimal.digitsValue 0 digits, c)

/-- A tag handle: an exclamation mark, or word characters between two. In a tag the second may be
missing, and then the characters belong to the suffix. -/
def tagHandle (directive : Bool) (c : Cursor) : Option (List Char × Cursor) :=
  if c.head? == some '!' then
    let (name, c) := (c.skip 1).takeWhile isWord
    if c.head? == some '!' then some ('!' :: name ++ ['!'], c.skip 1)
    else if directive && !name.isEmpty then none
    else some ('!' :: name, c)
  else none

/-- The characters of tags besides word characters; in verbatim tags and in directives also those of
flow collections. -/
def isTagChar (verbatim : Bool) (c : Char) : Bool :=
  isWord c || ";/?:@&=+$.%!~*'()".toList.contains c || (verbatim && ",[]".toList.contains c)

/-- The octet of an escape, a percent sign and two hexadecimal digits. -/
def tagOctet? (c : Cursor) : Option Nat := do
  let sign ← c.at? 0
  let high ← (c.at? 1).bind Hexadecimal.value?
  let low ← (c.at? 2).bind Hexadecimal.value?
  if sign == '%' then return 16 * high + low else none

/-- The continuation octets of an escaped character. -/
def tagContinuation : Nat → Nat → Cursor → Option (Nat × Cursor)
  | 0, value, c => some (value, c)
  | count + 1, value, c => do
    let octet ← tagOctet? c
    if octet / 64 == 2 then tagContinuation count (64 * value + octet % 64) (c.skip 3) else none

/-- A character escaped by its octets. -/
def tagEscape (c : Cursor) : Option (Char × Cursor) := do
  let octet ← tagOctet? c
  let c := c.skip 3
  let (value, c) ←
    if octet < 0x80 then some (octet, c)
    else if octet / 32 == 6 then tagContinuation 1 (octet % 32) c
    else if octet / 16 == 14 then tagContinuation 2 (octet % 16) c
    else if octet / 8 == 30 then tagContinuation 3 (octet % 8) c
    else none
  return (Char.ofNat value, c)

/-- The characters of a tag. -/
def tagText (verbatim : Bool) : Nat → Cursor → Option (List Char × Cursor)
  | 0, _ => none
  | fuel + 1, c =>
    match c.head? with
    | some char =>
      if char == '%' then do
        let (char, c) ← tagEscape c
        let (text, c) ← tagText verbatim fuel c
        return (char :: text, c)
      else if isTagChar verbatim char then do
        let (text, c) ← tagText verbatim fuel (c.skip 1)
        return (char :: text, c)
      else some ([], c)
    | none => some ([], c)

/-- A version or handle directive after its percent sign. -/
def directive (c : Cursor) : Option (Token × Cursor) := do
  let (name, c) := c.takeWhile isWord
  if name == "YAML".toList && endsWord c.head? then
    let (major, c) ← versionNumber (c.dropWhile isBlank)
    if c.head? == some '.' then
      let (minor, c) ← versionNumber (c.skip 1)
      return (.version major minor, c)
    else none
  else if name == "TAG".toList && endsWord c.head? then
    let (handle, c) ← tagHandle true (c.dropWhile isBlank)
    if c.head?.any isBlank then
      let c := c.dropWhile isBlank
      let (expansion, c) ← tagText true (c.rest.length + 1) c
      if expansion.isEmpty || !endsWord c.head? then none
      else return (.handle (String.ofList handle) (String.ofList expansion), c)
    else none
  else none

/-! ## Anchors and tags -/

/-- The name of an anchor or alias after its indicator. -/
def anchorName (c : Cursor) : Option (String × Cursor) :=
  let (name, c) := c.takeWhile isWord
  if !name.isEmpty && (endsWord c.head? || c.head?.any (fun d => "?:,]\x7d%@`".toList.contains d))
  then some (String.ofList name, c)
  else none

/-- A tag: verbatim between angle brackets, or a handle and a suffix. A lone exclamation mark is a
verbatim tag. -/
def tag (inFlow : Bool) (c : Cursor) : Option (Token × Cursor) := do
  let (token, c) ←
    if c.at? 1 == some '<' then do
      let (text, c) ← tagText true (c.rest.length + 1) (c.skip 2)
      if text.isEmpty || c.head? != some '>' then none
      else some (Token.tag "" (String.ofList text), c.skip 1)
    else do
      let (handle, c) ← tagHandle false c
      let (text, c) ← tagText false (c.rest.length + 1) c
      if handle.length > 1 && handle.getLast? == some '!' then
        if text.isEmpty then none
        else some (Token.tag (String.ofList handle) (String.ofList text), c)
      else
        let suffix := handle.drop 1 ++ text
        if suffix.isEmpty then some (Token.tag "" "!", c)
        else some (Token.tag "!" (String.ofList suffix), c)
  if endsWord c.head? || (inFlow && c.head? == some ',') then return (token, c) else none

/-! ## Tokens -/

/-- Whether a plain scalar may begin with a character before another one. -/
def beginsPlain (inFlow : Bool) (char : Char) (next : Option Char) : Bool :=
  !(isBlank char || isBreak char || "-?:,[]\x7b\x7d#&*!|>'\"%@`".toList.contains char) ||
    (char == '-' && !next.any isBlank) ||
    (!inFlow && (char == '?' || char == ':') && !endsWord next)

/-- A token that may be or begin a key, read by a function that leaves the cursor after it. -/
def keyLike (s : Scanner) (read : Cursor → Option (Token × Cursor)) : Option Scanner := do
  let s ← s.saveCandidate
  let (token, cursor) ← read s.cursor
  return { s with cursor, keyAllowed := false }.emit token

/-- Ends what cannot go on across a document mark or directive. -/
def endDocument (s : Scanner) : Option Scanner := do
  let s ← (s.closeBlocks (-1)).dropCandidate
  return { s with keyAllowed := false }

/-- The token at the cursor, which stands at its first character. -/
def fetchAt (s : Scanner) (char : Char) : Option Scanner := do
  let next := s.cursor.at? 1
  if s.cursor.mark.column == 0 && char == '%' then
    let s ← s.endDocument
    let (token, cursor) ← directive (s.cursor.skip 1)
    let cursor := (cursor.dropWhile isBlank).skipComment
    if cursor.head?.any (fun d => !isBreak d) then none
    else return { s with cursor := cursor.skipBreak.2 }.emit token
  else if s.cursor.startsWithMark '-' then
    let s ← s.endDocument
    return s.take 3 .documentStart
  else if s.cursor.startsWithMark '.' then
    let s ← s.endDocument
    return s.take 3 .documentEnd
  else if char == '[' || char == '\x7b' then
    let s ← s.saveCandidate
    let s := { s with candidate := none, around := s.candidate :: s.around, keyAllowed := true }
    return s.take 1 (if char == '[' then .flowSequenceStart else .flowMappingStart)
  else if char == ']' || char == '\x7d' then
    let s ← s.dropCandidate
    let s := match s.around with
      | candidate :: around => { s with candidate, around }
      | [] => s
    return { s with keyAllowed := false }.take 1
      (if char == ']' then .flowSequenceEnd else .flowMappingEnd)
  else if char == ',' then
    let s ← s.dropCandidate
    return { s with keyAllowed := true }.take 1 .flowEntry
  else if char == '-' && endsWord next then
    if !s.inFlow && !s.keyAllowed then none
    else
      let s ← (s.openBlock s.cursor.mark.column .blockSequenceStart s.count).dropCandidate
      return { s with keyAllowed := true }.take 1 .blockEntry
  else if char == '?' && (s.inFlow || endsWord next) then
    if !s.inFlow && !s.keyAllowed then none
    else
      let s ← (s.openBlock s.cursor.mark.column .blockMappingStart s.count).dropCandidate
      return { s with keyAllowed := !s.inFlow }.take 1 .key
  else if char == ':' && (s.inFlow || endsWord next) then
    match s.candidate with
    | some k =>
      let s := (s.emitAt k.number .key).openBlock k.mark.column .blockMappingStart k.number
      return { s with candidate := none, keyAllowed := false }.take 1 .value
    | none =>
      if !s.inFlow && !s.keyAllowed then none
      else
        let s := s.openBlock s.cursor.mark.column .blockMappingStart s.count
        return { s with keyAllowed := !s.inFlow }.take 1 .value
  else if char == '*' || char == '&' then
    s.keyLike fun c => do
      let (name, c) ← anchorName (c.skip 1)
      return (if char == '*' then .alias name else .anchor name, c)
  else if char == '!' then
    s.keyLike (tag s.inFlow)
  else if (char == '|' || char == '>') && !s.inFlow then
    let s ← s.dropCandidate
    let (text, cursor) ← scanBlock (char == '|') s.indent (s.cursor.skip 1)
    return { s with cursor, keyAllowed := true }.emit (.scalar (String.ofList text) false)
  else if char == '\'' || char == '"' then
    s.keyLike fun c => do
      let (text, c) ← scanQuoted (char == '\'') (c.rest.length + 1) (c.skip 1)
      return (.scalar (String.ofList text) false, c)
  else if beginsPlain s.inFlow char next then
    let s ← s.saveCandidate
    let (text, broken, cursor) ← scanPlain s.inFlow (s.indent + 1) (s.cursor.rest.length + 1)
      s.cursor (.start false)
    return { s with cursor, keyAllowed := broken }.emit (.scalar (String.ofList text) true)
  else none

/-- The end of the text. -/
def finish (s : Scanner) : Option Scanner := do
  let s ← s.endDocument
  return s.emit .streamEnd

/-- The next token, and those that indentation puts before it. -/
def fetch (s : Scanner) : Option Scanner := do
  let s ← (skipBlanks (s.cursor.rest.length + 1) s).dropOutdated
  let s := s.closeBlocks s.column
  match s.cursor.head? with
  | some char => s.fetchAt char
  | none => s.finish

/-- The tokens that are certain: those before the first candidate that may still become a key. -/
def certain (s : Scanner) : List Token :=
  let numbers := (s.candidate :: s.around).filterMap fun k =>
    k.bind fun k => if Candidate.outdated k s.cursor.mark then none else some k.number
  s.tokens.reverse.take (numbers.foldl min s.count)

/-- All tokens up to the end of the text, or up to the first error. -/
def run : Nat → Scanner → List Token
  | 0, s => s.certain
  | fuel + 1, s =>
    match s.fetch with
    | none => s.certain
    | some s =>
      if s.tokens.head? == some .streamEnd then s.tokens.reverse else run fuel s

end Scanner

/-- The tokens of a text. They end with the end of the stream if the text has tokens throughout, and
with the last certain one before an error otherwise. A character that is not allowed is an error
before all others. -/
def tokens (text : String) : List Token :=
  let chars := text.toList
  if chars.all isAllowed then (Scanner.start chars).run (chars.length + 1) else []

end KubeOverlay.Yaml
