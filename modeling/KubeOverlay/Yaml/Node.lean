import KubeOverlay.Yaml.Token
/-!
# Nodes of YAML documents

The documents that tokens make up, as trees of scalars, sequences, mappings and aliases. Anchors and
aliases carry numbers: an anchor gets the count of different anchor names before it in its document,
and an alias the number of the last anchor of its name. A stream is the list of its documents, ended
by an error if there is one.
-/
namespace KubeOverlay.Yaml

/-- What may stand before the content of a node. -/
structure Properties where
  anchor : Option Nat
  tag : Option String

inductive Node where
  | scalar (properties : Properties) (text : String) (plain : Bool)
  | sequence (properties : Properties) (items : List Node)
  | mapping (properties : Properties) (entries : List (Node × Node))
  | alias (anchor : Nat)

namespace Node

/-- Where nothing is written. -/
def empty : Node := .scalar ⟨none, none⟩ "" true

/-- What the tokens read so far say about those to come. -/
structure Context where
  /-- The tokens left. -/
  tokens : List Token
  /-- The number of the last anchor of each name. -/
  anchors : List (String × Nat)

namespace Context

def head? (s : Context) : Option Token := s.tokens.head?

def next (s : Context) : Context := { s with tokens := s.tokens.tail }

/-- Gives an anchor its number. -/
def define (s : Context) (name : String) : Nat × Context :=
  let number := s.anchors.length
  let anchors :=
    if s.anchors.any (·.1 == name) then
      s.anchors.map fun a => if a.1 == name then (name, number) else a
    else s.anchors ++ [(name, number)]
  (number, { s with anchors })

/-- The number of an alias. -/
def number? (s : Context) (name : String) : Option Nat :=
  (s.anchors.find? (·.1 == name)).map (·.2)

end Context

/-! ## Properties -/

/-- A tag in full, by the handles of the document. A verbatim tag is in full already. -/
def fullTag? (handles : List (String × String)) (handle suffix : String) : Option String :=
  if handle == "" then some suffix
  else (handles.find? (·.1 == handle)).map fun h => h.2 ++ suffix

/-- The anchor at the front, if there is one. -/
def takeAnchor (s : Context) : Option Nat × Context :=
  match s.head? with
  | some (.anchor name) =>
    let (number, s) := s.define name
    (some number, s.next)
  | _ => (none, s)

/-- The tag at the front, if there is one. -/
def takeTag (handles : List (String × String)) (s : Context) : Option (Option String × Context) :=
  match s.head? with
  | some (.tag handle suffix) => do
    let tag ← fullTag? handles handle suffix
    return (some tag, s.next)
  | _ => some (none, s)

/-- An anchor and a tag in either order. -/
def takeProperties (handles : List (String × String)) (s : Context) :
    Option (Properties × Context) := do
  let (anchor, s) := takeAnchor s
  let (tag, s) ← takeTag handles s
  match anchor with
  | some _ => return (⟨anchor, tag⟩, s)
  | none =>
    if tag.isSome then
      let (anchor, s) := takeAnchor s
      return (⟨anchor, tag⟩, s)
    else return (⟨none, none⟩, s)

/-! ## Content -/

/-- Whether a token is one of these. -/
def among (tokens : List Token) (token : Option Token) : Bool :=
  token.any (tokens.contains ·)

mutual
/-- A node at the front. Block collections are left out inside flow collections; a sequence without
indentation may stand only as the key or value of a block mapping. -/
def node (handles : List (String × String)) :
    Nat → (block bare : Bool) → Context → Option (Node × Context)
  | 0, _, _, _ => none
  | fuel + 1, block, bare, s =>
    match s.head? with
    | some (.alias name) => do
      let number ← s.number? name
      return (.alias number, s.next)
    | _ => do
      let (properties, s) ← takeProperties handles s
      match s.head? with
      | some (.scalar text plain) => return (.scalar properties text plain, s.next)
      | some .flowSequenceStart =>
        let (items, s) ← flowItems handles fuel true s.next
        return (.sequence properties items, s)
      | some .flowMappingStart =>
        let (entries, s) ← flowEntries handles fuel true s.next
        return (.mapping properties entries, s)
      | token =>
        if bare && token == some .blockEntry then
          let (items, s) ← bareItems handles fuel s
          return (.sequence properties items, s)
        else if block && token == some .blockSequenceStart then
          let (items, s) ← blockItems handles fuel s.next
          return (.sequence properties items, s)
        else if block && token == some .blockMappingStart then
          let (entries, s) ← blockEntries handles fuel s.next
          return (.mapping properties entries, s)
        else if properties.anchor.isSome || properties.tag.isSome then
          return (.scalar properties "" true, s)
        else none

/-- The items of a block sequence. -/
def blockItems (handles : List (String × String)) : Nat → Context → Option (List Node × Context)
  | 0, _ => none
  | fuel + 1, s =>
    match s.head? with
    | some .blockEntry => do
      let s := s.next
      let (item, s) ←
        if among [.blockEntry, .blockEnd] s.head? then some (empty, s)
        else node handles fuel true false s
      let (items, s) ← blockItems handles fuel s
      return (item :: items, s)
    | some .blockEnd => some ([], s.next)
    | _ => none

/-- The items of a sequence that is not indented under its key. -/
def bareItems (handles : List (String × String)) : Nat → Context → Option (List Node × Context)
  | 0, _ => none
  | fuel + 1, s =>
    match s.head? with
    | some .blockEntry => do
      let s := s.next
      let (item, s) ←
        if among [.blockEntry, .key, .value, .blockEnd] s.head? then some (empty, s)
        else node handles fuel true false s
      let (items, s) ← bareItems handles fuel s
      return (item :: items, s)
    | some _ => some ([], s)
    | none => none

/-- The entries of a block mapping. -/
def blockEntries (handles : List (String × String)) :
    Nat → Context → Option (List (Node × Node) × Context)
  | 0, _ => none
  | fuel + 1, s =>
    match s.head? with
    | some .key => do
      let (key, s) ← blockPart handles fuel s.next
      let (value, s) ←
        match s.head? with
        | some .value => blockPart handles fuel s.next
        | some _ => some (empty, s)
        | none => none
      let (entries, s) ← blockEntries handles fuel s
      return ((key, value) :: entries, s)
    | some .blockEnd => some ([], s.next)
    | _ => none

/-- The key or value of a block mapping after its indicator. -/
def blockPart (handles : List (String × String)) : Nat → Context → Option (Node × Context)
  | 0, _ => none
  | fuel + 1, s =>
    if among [.key, .value, .blockEnd] s.head? then some (empty, s)
    else node handles fuel true true s

/-- The items of a flow sequence. A pair among them is a mapping of one entry. -/
def flowItems (handles : List (String × String)) :
    Nat → (first : Bool) → Context → Option (List Node × Context)
  | 0, _, _ => none
  | fuel + 1, first, s =>
    if s.head? == some .flowSequenceEnd then some ([], s.next)
    else do
      let s ← if first then some s else if s.head? == some .flowEntry then some s.next else none
      match s.head? with
      | some .flowSequenceEnd => return ([], s.next)
      | some .key =>
        let s := s.next
        -- After a question mark alone the token that follows is not looked at again.
        let (key, s) ←
          if among [.value, .flowEntry, .flowSequenceEnd] s.head? then some (empty, s.next)
          else node handles fuel false false s
        let (value, s) ← flowValue handles fuel [.flowEntry, .flowSequenceEnd] s
        let (items, s) ← flowItems handles fuel false s
        return (.mapping ⟨none, none⟩ [(key, value)] :: items, s)
      | _ =>
        let (item, s) ← node handles fuel false false s
        let (items, s) ← flowItems handles fuel false s
        return (item :: items, s)

/-- The entries of a flow mapping. -/
def flowEntries (handles : List (String × String)) :
    Nat → (first : Bool) → Context → Option (List (Node × Node) × Context)
  | 0, _, _ => none
  | fuel + 1, first, s =>
    if s.head? == some .flowMappingEnd then some ([], s.next)
    else do
      let s ← if first then some s else if s.head? == some .flowEntry then some s.next else none
      match s.head? with
      | some .flowMappingEnd => return ([], s.next)
      | some .key =>
        let s := s.next
        let (key, s) ←
          if among [.value, .flowEntry, .flowMappingEnd] s.head? then some (empty, s)
          else node handles fuel false false s
        let (value, s) ← flowValue handles fuel [.flowEntry, .flowMappingEnd] s
        let (entries, s) ← flowEntries handles fuel false s
        return ((key, value) :: entries, s)
      | _ =>
        let (key, s) ← node handles fuel false false s
        let (entries, s) ← flowEntries handles fuel false s
        return ((key, empty) :: entries, s)

/-- The value of an entry in a flow collection; nothing stands before the tokens that end it. -/
def flowValue (handles : List (String × String)) :
    Nat → (ends : List Token) → Context → Option (Node × Context)
  | 0, _, _ => none
  | fuel + 1, ends, s =>
    match s.head? with
    | some .value =>
      let s := s.next
      if among ends s.head? then some (empty, s) else node handles fuel false false s
    | some _ => some (empty, s)
    | none => none
end

end Node

/-! ## Streams -/

/-- The documents of a stream up to its end or to the first error. -/
structure Stream where
  documents : List Node
  /-- Whether the stream is well-formed to its end. -/
  complete : Bool

namespace Stream

/-- The handles that every document knows. -/
def defaultHandles : List (String × String) := [("!", "!"), ("!!", "tag:yaml.org,2002:")]

/-- The directives before a document: the handles they define, if they are in order. A version may
be given once and is 1.1 or 1.2; a handle may be defined once. -/
def directives (version : Bool) (handles : List (String × String)) :
    List Token → Option (List (String × String) × List Token)
  | .version major minor :: rest =>
    if version || major != 1 || !(minor == 1 || minor == 2) then none
    else directives true handles rest
  | .handle name expansion :: rest =>
    if handles.any (·.1 == name) then none
    else directives version (handles ++ [(name, expansion)]) rest
  | rest => some (handles ++ defaultHandles.filter (fun d => !handles.any (·.1 == d.1)), rest)

/-- Whether a token ends a document that has no content. -/
def isBoundary : Token → Bool
  | .version .. | .handle .. | .documentStart | .documentEnd | .streamEnd => true
  | _ => false

/-- The document after its start, and the tokens after its end mark. Only after an explicit start
may it be empty. -/
def document (explicit : Bool) (handles : List (String × String)) (tokens : List Token) :
    Option (Node × List Token) := do
  let (node, rest) ←
    if explicit && tokens.head?.any isBoundary then some (Node.empty, tokens)
    else do
      let (node, s) ← Node.node handles (2 * tokens.length + 2) true false ⟨tokens, []⟩
      some (node, s.tokens)
  match rest with
  | [] => none
  | .documentEnd :: rest => return (node, rest)
  | rest => return (node, rest)

/-- The documents after the first, each of which begins with its mark. -/
def later : Nat → List Token → Stream
  | 0, _ => ⟨[], false⟩
  | fuel + 1, tokens =>
    match tokens.dropWhile (· == .documentEnd) with
    | [.streamEnd] => ⟨[], true⟩
    | tokens =>
      match directives false [] tokens with
      | some (handles, .documentStart :: rest) =>
        match document true handles rest with
        | some (node, rest) =>
          let stream := later fuel rest
          ⟨node :: stream.documents, stream.complete⟩
        | none => ⟨[], false⟩
      | _ => ⟨[], false⟩

/-- The documents of the tokens of a stream. Only the first may do without its mark. A stream
without any has one empty document. -/
def ofTokens (tokens : List Token) : Stream :=
  match tokens with
  | [.streamEnd] => ⟨[Node.empty], true⟩
  | [] => ⟨[], false⟩
  | token :: _ =>
    match token with
    | .version .. | .handle .. | .documentStart => later (tokens.length + 1) tokens
    | _ =>
      match document false defaultHandles tokens with
      | some (node, rest) =>
        let stream := later (rest.length + 1) rest
        ⟨node :: stream.documents, stream.complete⟩
      | none => ⟨[], false⟩

end Stream

end KubeOverlay.Yaml
