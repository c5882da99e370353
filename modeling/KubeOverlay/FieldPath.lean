import KubeOverlay.BuildError
import KubeOverlay.Progress
/-!
# Field paths

A path leads through maps by its keys, and through every element of the lists on the way. Editing
at a path (`FieldPath.edit`) edits what stands at its end, in document order; an edit may
keep a state from one place to the next. An error stops it, and what was edited before stays so.
-/
namespace KubeOverlay

/-- The keys of a path, the outermost first. -/
abbrev FieldPath := List String

/-- An edit of values that keeps a state. -/
abbrev Edit (σ : Type) := Document → σ → Except BuildError Document × σ

namespace Edit

variable {σ : Type}

/-- An edit without a state. -/
def pure (f : Document → Except BuildError Document) : Edit Unit := fun d s => (f d, s)

/-- Edits in order, each of what the one before it gave. -/
def chain : List (Edit σ) → Edit σ
  | [], d, s => (.ok d, s)
  | f :: rest, d, s =>
    match f d s with
    | (.ok d, s) => chain rest d s
    | (.error e, s) => (.error e, s)

end Edit

namespace FieldPath

variable {σ : Type}

def dotted (path : FieldPath) : String := ".".intercalate path

/-- The value under a key; if there is none it may be created as an empty map. -/
def slot? (create : Bool) (key : String) (object : Fields) : Option Document :=
  (Ordered.find? key object).or (if create then some (.map []) else none)

/-- Edits the elements of a list from an index on, up to the first that is stopped. All must be
maps. -/
def editItems (inside : Fields → σ → Progress BuildError Fields × σ) (walked : FieldPath) :
    Nat → List Document → σ → Progress BuildError (List Document) × σ
  | _, [], s => (.done [], s)
  | index, .map fields :: rest, s =>
    match inside fields s with
    | (⟨fields, some e⟩, s) => (.stopped (.map fields :: rest) e, s)
    | (⟨fields, none⟩, s) =>
      let (p, s) := editItems inside walked (index + 1) rest s
      (p.map (.map fields :: ·), s)
  | index, d :: rest, s =>
    let place := walked.dotted ++ "[" ++ toString index ++ "]"
    (.stopped (d :: rest) (.typeMismatch place "map" d.kind), s)

/-- Edits what stands at a path in an object to which a walk has led. A key that is missing ends
the walk, unless it is created. -/
def editFrom (create : Bool) (f : Edit σ) :
    (walked path : FieldPath) → Fields → σ → Progress BuildError Fields × σ
  | _, [], object, s => (.done object, s)
  | walked, [key], object, s =>
    match slot? create key object with
    | none => (.done object, s)
    | some slot =>
      match f slot s with
      | (.ok d, s) => (.done (Ordered.insert key d object), s)
      | (.error e, s) =>
        (.stopped (Ordered.insert key slot object) (.atField (dotted (walked ++ [key])) e), s)
  | walked, key :: next :: rest, object, s =>
    let here := walked ++ [key]
    match slot? create key object with
    | none => (.done object, s)
    | some (.map fields) =>
      let (p, s) := editFrom create f here (next :: rest) fields s
      (p.map fun fields => Ordered.insert key (.map fields) object, s)
    | some (.list items) =>
      let (p, s) := editItems (editFrom create f here (next :: rest)) here 0 items s
      (p.map fun items => Ordered.insert key (.list items) object, s)
    | some slot =>
      (.stopped (Ordered.insert key slot object)
        (.typeMismatch here.dotted "map or slice" slot.kind), s)

/-- Edits what stands at a path in an object by edits in order. The empty path leads
nowhere. -/
def edit (path : FieldPath) (create : Bool) (fs : List (Edit σ)) (object : Fields) (s : σ) :
    Progress BuildError Fields × σ :=
  editFrom create (.chain fs) [] path object s

/-- Edits what stands at a path in an object by an edit without a state. -/
def update (path : FieldPath) (create : Bool) (f : Document → Except BuildError Document)
    (object : Fields) : Progress BuildError Fields :=
  (path.edit create [.pure f] object ()).1

end FieldPath

end KubeOverlay
