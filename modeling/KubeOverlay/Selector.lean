import KubeOverlay.Forest
import KubeOverlay.Predicate
/-!
# Selectors

Queries over forests: a selector is a list of steps, each of which takes the nodes selected so far
to the next ones. Missing fields, indices out of range and nodes of another kind select nothing. A
selector is also a predicate, met by the values from which it selects anything. Typed selectors see
what they select through a projection (`TypedSelector`).
-/
namespace KubeOverlay

/-! ## Predicates on values -/

namespace Predicate

def isKind (kind : Kind) : Predicate Value := fun v => v.kind == kind

/-- Equality with a document. -/
def deepEqual (d : Document) : Predicate Value := fun v => v.document.equal d

end Predicate

/-- A view of the values of one kind. -/
structure Projection (α : Type) where
  kind : Kind
  view : Value → Option α

namespace Projection

def map : Projection Value := ⟨.map, fun v => if v.kind == .map then some v else none⟩

def slice : Projection Value := ⟨.slice, fun v => if v.kind == .slice then some v else none⟩

def number : Projection Double := ⟨.number, fun v => v.forest.number? v.node⟩

def string : Projection String := ⟨.string, fun v => v.forest.string? v.node⟩

/-- The values whose view passes a test. -/
def lift {α : Type} (P : Projection α) (p : Predicate α) : Predicate Value := fun v =>
  (P.view v).any p

end Projection

/-- A test of the number of fields of a map. -/
def Predicate.fieldCount (p : Predicate Double) : Predicate Value := fun v =>
  p.ofCount (v.forest.fields v.node).length

/-- A test of the number of elements of a slice. -/
def Predicate.itemCount (p : Predicate Double) : Predicate Value := fun v =>
  p.ofCount (v.forest.items v.node).length

/-! ## Steps -/

inductive Step where
  /-- The fields whose names pass a test. -/
  | field (name : Predicate String)
  /-- The elements whose indices pass a test. -/
  | item (index : Predicate Double)
  /-- The last element. -/
  | last
  /-- The fields of maps first, then the elements of slices. -/
  | children
  /-- Each node with everything below it in pre-order. -/
  | all
  | parent
  /-- The values that pass a test. -/
  | filter (p : Predicate Value)

namespace Step

def fieldsOf (f : Forest) (name : Predicate String) (id : NodeId) : List NodeId :=
  ((f.fields id).filter (fun e => name e.1)).map (·.2)

def itemsOf (f : Forest) (index : Predicate Double) (id : NodeId) : List NodeId :=
  ((f.items id).zipIdx.filter (fun e => index.ofCount e.2)).map (·.1)

/-- The nodes that a step leads to. -/
def apply (f : Forest) (ids : List NodeId) : Step → List NodeId
  | .field name => ids.flatMap (fieldsOf f name)
  | .item index => ids.flatMap (itemsOf f index)
  | .last => ids.filterMap fun id => (f.items id).getLast?
  | .children => ids.flatMap (fieldsOf f (.all [])) ++ ids.flatMap (itemsOf f (.all []))
  | .all => ids.flatMap f.descendants
  | .parent => ids.filterMap f.parent?
  | .filter p => ids.filter fun id => p ⟨f, id⟩

end Step

/-- The steps of a query, the first one first. -/
abbrev Selector := List Step

namespace Selector

/-- What a query selects, starting from some nodes. -/
def select (s : Selector) (f : Forest) (roots : List NodeId) : List NodeId :=
  s.foldl (fun ids step => step.apply f ids) roots

/-- The values from which a query selects anything. -/
def isMet (s : Selector) : Predicate Value := fun v => !(s.select v.forest [v.node]).isEmpty

end Selector

/-! ## Typed selectors -/

/-- A query whose results are seen through a projection. -/
structure TypedSelector {α : Type} (P : Projection α) where
  /-- The same query without the projection. -/
  values : Selector

namespace TypedSelector

variable {α : Type} {P : Projection α}

/-- The results of a query that are of the projection's kind. -/
def ofSelector (P : Projection α) (s : Selector) : TypedSelector P :=
  ⟨s ++ [.filter (.all [.isKind P.kind])]⟩

/-- Keeps what passes all of some tests. -/
def filter (s : TypedSelector P) (ps : List (Predicate α)) : TypedSelector P :=
  ⟨s.values ++ [.filter (.all (ps.map P.lift))]⟩

def select (s : TypedSelector P) (f : Forest) (roots : List NodeId) : List α :=
  (s.values.select f roots).filterMap fun id => P.view ⟨f, id⟩

/-- The values from which the query selects anything. -/
def isMet (s : TypedSelector P) : Predicate Value := s.values.isMet

end TypedSelector

end KubeOverlay
