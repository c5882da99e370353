import KubeOverlay.Yaml.Scan
import KubeOverlay.Yaml.Node
import KubeOverlay.Yaml.Plain
/-!
# Documents of YAML texts

A node reads as a document when its tags are known ones, its keys are scalars and it is nested at
most 128 levels deep, aliases counted in. Keys are strings as they are written. What aliases stand
for is read again each time, up to a hundred times as often as the document has nodes and ends.
-/
namespace KubeOverlay.Yaml

namespace Node

/-! ## Anchors -/

mutual
/-- The nodes with anchors, in the order in which they begin. -/
def anchored : Node → List (Nat × Node)
  | .scalar p text plain => (p.anchor.map (·, .scalar p text plain)).toList
  | .sequence p items => (p.anchor.map (·, .sequence p items)).toList ++ anchoredItems items
  | .mapping p entries => (p.anchor.map (·, .mapping p entries)).toList ++ anchoredEntries entries
  | .alias _ => []

/-- The nodes with anchors in a sequence. -/
def anchoredItems : List Node → List (Nat × Node)
  | [] => []
  | n :: rest => anchored n ++ anchoredItems rest

/-- The nodes with anchors in a mapping. -/
def anchoredEntries : List (Node × Node) → List (Nat × Node)
  | [] => []
  | (key, value) :: rest => anchored key ++ anchored value ++ anchoredEntries rest
end

mutual
/-- How many events a node takes: a collection has a start and an end. -/
def events : Node → Nat
  | .sequence _ items => eventsOfItems items + 2
  | .mapping _ entries => eventsOfEntries entries + 2
  | _ => 1

/-- The events of the items of a sequence. -/
def eventsOfItems : List Node → Nat
  | [] => 0
  | n :: rest => events n + eventsOfItems rest

/-- The events of the entries of a mapping. -/
def eventsOfEntries : List (Node × Node) → Nat
  | [] => 0
  | (key, value) :: rest => events key + events value + eventsOfEntries rest
end

end Node

/-! ## Reading -/

/-- How deep collections may be nested. -/
def maxDepth : Nat := 128

/-- What the aliases of a document stand for, and how many of them may still be followed. -/
structure Aliases where
  anchors : List (Nat × Node)
  budget : Nat

namespace Aliases

def ofNode (n : Node) : Aliases := ⟨n.anchored, 100 * n.events⟩

/-- The last node that began with an anchor of this number. -/
def find? (a : Aliases) (number : Nat) : Option Node :=
  (a.anchors.reverse.find? (·.1 == number)).map (·.2)

end Aliases

/-- Reading that follows aliases on a budget and may fail. -/
abbrev Reading := StateT Aliases Option

/-- The node that stands at a place: for an alias, what it stands for. -/
def follow : Node → Reading Node
  | .alias number => do
    let aliases ← get
    if aliases.budget == 0 then failure
    else
      set { aliases with budget := aliases.budget - 1 }
      match aliases.find? number with
      | some n => return n
      | none => failure
  | n => return n

namespace Tag
def null : String := "tag:yaml.org,2002:null"
def bool : String := "tag:yaml.org,2002:bool"
def int : String := "tag:yaml.org,2002:int"
def float : String := "tag:yaml.org,2002:float"
end Tag

/-- Tags of the document's own begin with an exclamation mark. -/
def isLocal (tag : Option String) : Bool :=
  tag.any (fun t => t.toList.head? == some '!')

/-- What a scalar stands for. A tag for null, a boolean or a number must fit the text, whatever its
quotes; with any other the text is a string. -/
def scalarMeaning? (tag : Option String) (text : String) (plain : Bool) : Option Plain :=
  match tag with
  | some tag =>
    if tag.toList.head? == some '!' then none
    else if tag == Tag.bool then (Plain.bool? text).map .bool
    else if tag == Tag.int then Plain.int? text.toList
    else if tag == Tag.float then (Plain.float? text.toList).map .float
    else if tag == Tag.null then if Plain.isNull text then some .null else none
    else some .text
  | none => some (if plain then Plain.resolve text else .text)

/-- The document of what a scalar stands for. JSON has no number for infinities and NaN, so they
are null. -/
def Plain.document? (text : String) : Plain → Option Document
  | .null => some .null
  | .bool b => some (.bool b)
  | .int n => some (.number (.int n))
  | .wide => none
  | .float x => some (if x.isFinite then .number (.float x) else .null)
  | .text => some (.string text)

/-- The text of a scalar as it is written, whatever its tag. -/
def scalarText (n : Node) : Reading String := do
  match ← follow n with
  | .scalar _ text _ => return text
  | _ => failure

/-- The document of a node, nested at most so deep. Of equal keys the last one counts. -/
def document : Nat → Node → Reading Document
  | depth, n => do
    match ← follow n with
    | .scalar p text plain =>
      match (scalarMeaning? p.tag text plain).bind (Plain.document? text) with
      | some d => return d
      | none => failure
    | .sequence p items =>
      match depth with
      | 0 => failure
      | depth + 1 =>
        if isLocal p.tag then failure
        else return .list (← items.mapM (document depth))
    | .mapping p entries =>
      match depth with
      | 0 => failure
      | depth + 1 =>
        if isLocal p.tag then failure
        else return .ofFields (← entries.mapM fun e => do
          return (← scalarText e.1, ← document depth e.2))
    | .alias _ => failure

/-- The document that a node of a stream reads as. -/
def Node.document? (n : Node) : Option Document :=
  (document maxDepth n (.ofNode n)).map (·.1)

/-- The documents of a YAML text one after the other, up to the end or to the first that cannot be
read, which is then the last. -/
def documents (text : String) : List (Option Document) :=
  let stream := Stream.ofTokens (tokens text)
  stream.documents.map Node.document? ++ (if stream.complete then [] else [none])

end KubeOverlay.Yaml
