import KubeOverlay.Document
/-!
# Forests

Documents whose parts can be addressed and changed in place. Every part is a node with a number of
its own; a node knows the container that it was put into. A change never shares nodes: new content
gets new numbers, and what it replaces stays readable but loses its parent. The numbers of a
container's children are greater than its own.
-/
namespace KubeOverlay

abbrev NodeId := Nat

/-- What a node holds; containers hold the numbers of their children. -/
inductive Content where
  | null
  | bool (b : Bool)
  | number (n : Number)
  | string (s : String)
  | slice (items : List NodeId)
  | map (fields : List (String × NodeId))
deriving Repr

namespace Content

def kind : Content → Kind
  | .null => .null
  | .bool _ => .bool
  | .number _ => .number
  | .string _ => .string
  | .slice _ => .slice
  | .map _ => .map

/-- The fields of a map; other nodes have none. -/
def fields : Content → List (String × NodeId)
  | .map fields => fields
  | _ => []

/-- The elements of a slice; other nodes have none. -/
def items : Content → List NodeId
  | .slice items => items
  | _ => []

/-- The children of a container in order. -/
def children (c : Content) : List NodeId := c.fields.map (·.2) ++ c.items

end Content

structure Node where
  /-- The container that holds the node; roots and what has been replaced have none. -/
  parent : Option NodeId
  content : Content
deriving Repr

instance : Inhabited Node := ⟨⟨none, .null⟩⟩

structure Forest where
  nodes : Array Node

/-- An index beyond the elements of a slice. -/
structure OutOfRange where
  index : Nat
  length : Nat
deriving DecidableEq, Repr

def OutOfRange.message (e : OutOfRange) : String :=
  "Index " ++ toString e.index ++ " out of range for sequence of length " ++ toString e.length

/-! ## Layout -/

namespace Document

mutual
/-- How many nodes a document takes. -/
def nodeCount : Document → Nat
  | .list items => 1 + nodeCountItems items
  | .map fields => 1 + nodeCountFields fields
  | _ => 1

/-- The nodes of elements. -/
def nodeCountItems : List Document → Nat
  | [] => 0
  | d :: rest => nodeCount d + nodeCountItems rest

/-- The nodes of fields. -/
def nodeCountFields : List (String × Document) → Nat
  | [] => 0
  | (_, d) :: rest => nodeCount d + nodeCountFields rest
end

/-- The numbers of elements laid out one after the other. -/
def itemIds (start : NodeId) : List Document → List NodeId
  | [] => []
  | d :: rest => start :: itemIds (start + d.nodeCount) rest

/-- The numbers of fields laid out one after the other. -/
def fieldIds (start : NodeId) : List (String × Document) → List (String × NodeId)
  | [] => []
  | (key, d) :: rest => (key, start) :: fieldIds (start + d.nodeCount) rest

mutual
/-- The nodes of a document in pre-order, the first of which gets a given number. -/
def layout (start : NodeId) (parent : Option NodeId) : Document → List Node
  | .list items =>
    ⟨parent, .slice (itemIds (start + 1) items)⟩ :: layoutItems (start + 1) start items
  | .map fields =>
    ⟨parent, .map (fieldIds (start + 1) fields)⟩ :: layoutFields (start + 1) start fields
  | .null => [⟨parent, .null⟩]
  | .bool b => [⟨parent, .bool b⟩]
  | .number n => [⟨parent, .number n⟩]
  | .string s => [⟨parent, .string s⟩]

/-- The nodes of the elements of a slice. -/
def layoutItems (start parent : NodeId) : List Document → List Node
  | [] => []
  | d :: rest => layout start (some parent) d ++ layoutItems (start + d.nodeCount) parent rest

/-- The nodes of the fields of a map. -/
def layoutFields (start parent : NodeId) : List (String × Document) → List Node
  | [] => []
  | (_, d) :: rest => layout start (some parent) d ++ layoutFields (start + d.nodeCount) parent rest
end

end Document

namespace Forest

/-! ## Reading -/

def empty : Forest := ⟨#[]⟩

def size (f : Forest) : Nat := f.nodes.size

def content (f : Forest) (id : NodeId) : Content := ((f.nodes[id]?).map (·.content)).getD .null

def kind (f : Forest) (id : NodeId) : Kind := (f.content id).kind

def parent? (f : Forest) (id : NodeId) : Option NodeId := (f.nodes[id]?).bind (·.parent)

/-- The fields of a node in key order. -/
def fields (f : Forest) (id : NodeId) : List (String × NodeId) := (f.content id).fields

def items (f : Forest) (id : NodeId) : List NodeId := (f.content id).items

def field? (f : Forest) (key : String) (id : NodeId) : Option NodeId :=
  Ordered.find? key (f.fields id)

def string? (f : Forest) (id : NodeId) : Option String :=
  match f.content id with
  | .string s => some s
  | _ => none

/-- The number in a node as a double. -/
def number? (f : Forest) (id : NodeId) : Option Double :=
  match f.content id with
  | .number n => some n.toDouble
  | _ => none

def bool? (f : Forest) (id : NodeId) : Option Bool :=
  match f.content id with
  | .bool b => some b
  | _ => none

/-- The document of a node, read to a depth. -/
def documentTo (f : Forest) : Nat → NodeId → Document
  | 0, _ => .null
  | depth + 1, id =>
    match f.content id with
    | .null => .null
    | .bool b => .bool b
    | .number n => .number n
    | .string s => .string s
    | .slice items => .list (items.map (f.documentTo depth))
    | .map fields => .map (fields.map fun e => (e.1, f.documentTo depth e.2))

/-- The document of a node. Numbers grow along every path, so no path is longer than the forest. -/
def document (f : Forest) (id : NodeId) : Document := f.documentTo f.size id

/-- A node and what lies below it in pre-order, to a depth. -/
def descendantsTo (f : Forest) : Nat → NodeId → List NodeId
  | 0, _ => []
  | depth + 1, id => id :: (f.content id).children.flatMap (f.descendantsTo depth)

/-- A node and everything below it in pre-order. -/
def descendants (f : Forest) (id : NodeId) : List NodeId := f.descendantsTo f.size id

/-! ## Changing -/

/-- Lays out a document under a parent and returns the number of its top. -/
def insert (f : Forest) (parent : Option NodeId) (d : Document) : NodeId × Forest :=
  (f.size, ⟨f.nodes ++ (d.layout f.size parent).toArray⟩)

/-- Lays out a document as a tree of its own. -/
def plant (f : Forest) (d : Document) : NodeId × Forest := f.insert none d

/-- Takes the parent from a node. -/
def detach (f : Forest) (id : NodeId) : Forest :=
  ⟨f.nodes.modify id fun n => { n with parent := none }⟩

/-- Gives a node a parent. -/
def attach (parent : NodeId) (f : Forest) (id : NodeId) : Forest :=
  ⟨f.nodes.modify id fun n => { n with parent := some parent }⟩

def setContent (f : Forest) (id : NodeId) (c : Content) : Forest :=
  ⟨f.nodes.modify id fun n => { n with content := c }⟩

/-- Stores a document in a field and returns its number. What was there is detached. A node that is
no map anymore takes nothing up. -/
def setField (f : Forest) (id : NodeId) (key : String) (d : Document) : NodeId × Forest :=
  let (child, f) := f.insert (some id) d
  match f.content id with
  | .map fields =>
    let g := f.setContent id (.map (Ordered.insert key child fields))
    (child, ((Ordered.find? key fields).map g.detach).getD g)
  | _ => (child, f)

/-- Removes a field and returns the number of what was there, now detached. -/
def removeField (f : Forest) (id : NodeId) (key : String) : Option NodeId × Forest :=
  match f.content id with
  | .map fields =>
    match Ordered.find? key fields with
    | some child => (some child, (f.setContent id (.map (Ordered.erase key fields))).detach child)
    | none => (none, f)
  | _ => (none, f)

/-- Replaces the element of a slice at an index and returns the new number. What was there is
detached. -/
def replaceItem (f : Forest) (id : NodeId) (index : Nat) (d : Document) : NodeId × Forest :=
  let (child, f) := f.insert (some id) d
  match f.content id with
  | .slice items =>
    let g := f.setContent id (.slice (items.set index child))
    (child, ((items[index]?).map g.detach).getD g)
  | _ => (child, f)

/-- Replaces an element at an index that the slice has. -/
def setItem (f : Forest) (id : NodeId) (index : Nat) (d : Document) :
    Except OutOfRange (NodeId × Forest) :=
  let length := (f.items id).length
  if index < length then .ok (f.replaceItem id index d) else .error ⟨index, length⟩

/-- Puts a document after the last element of a slice and returns its number. A node that is no
slice anymore takes nothing up. -/
def append (f : Forest) (id : NodeId) (d : Document) : NodeId × Forest :=
  let (child, f) := f.insert (some id) d
  match f.content id with
  | .slice items => (child, f.setContent id (.slice (items ++ [child])))
  | _ => (child, f)

/-- Gives a node other content under the same number. The new content is laid out apart and moved from
there, and what the node held is detached. -/
def overwrite (f : Forest) (id : NodeId) (d : Document) : Forest :=
  let (staged, f) := f.insert none d
  let content := f.content staged
  let f := f.setContent staged .null
  let f := (f.content id).children.foldl detach f
  let f := content.children.foldl (attach id) f
  f.setContent id content

/-- The place of a node in its parent. -/
inductive Slot where
  | field (key : String)
  | item (index : Nat)
deriving DecidableEq, Repr

/-- Where a container holds a node. -/
def slot? (child : NodeId) : Content → Option Slot
  | .map fields => (fields.find? (·.2 == child)).map fun e => .field e.1
  | .slice items => (items.findIdx? (· == child)).map .item
  | _ => none

/-- Replaces a value. The container that holds it gets a new child, whose number is returned; a
value that none holds is overwritten. -/
def set (f : Forest) (id : NodeId) (d : Document) : NodeId × Forest :=
  match f.parent? id with
  | none => (id, f.overwrite id d)
  | some parent =>
    match slot? id (f.content parent) with
    | some (.field key) => f.setField parent key d
    | some (.item index) => f.replaceItem parent index d
    | none => (id, f.overwrite id d)

end Forest

/-- A node of a forest as the forest is now. -/
structure Value where
  forest : Forest
  node : NodeId

namespace Value

def kind (v : Value) : Kind := v.forest.kind v.node

def document (v : Value) : Document := v.forest.document v.node

end Value

end KubeOverlay
