import KubeOverlay.Document
import KubeOverlay.Identity
/-!
# Resources

A resource is a decoded object, and whether a generator made it. Its identity is read from its
`apiVersion`, `kind` and `metadata.name`, the current ones.
-/
namespace KubeOverlay

/-- Why objects cannot be resources, or not together. -/
inductive ResourceError where
  | notAMap
  | missingField (field : String)
  | malformedYaml
  /-- The document at an index of a stream is no resource. -/
  | invalidDocument (index : Nat) (cause : ResourceError)
  | duplicate (id : Identity)
deriving DecidableEq, Repr

def ResourceError.message : ResourceError → String
  | .notAMap => "Invalid manifest: resource must be a map"
  | .missingField field => "Missing required field: " ++ field
  | .malformedYaml => "Failed to parse YAML"
  | .invalidDocument index cause =>
    "Document " ++ toString index ++ " is not a valid resource: " ++ cause.message
  | .duplicate id => "Duplicate resource: " ++ id.display

/-- An object, and whether it comes from a generator. -/
structure Resource where
  object : Document
  generated : Bool := false
deriving Repr

namespace Resource

def apiVersion? (r : Resource) : Option String := r.object.stringField? "apiVersion"

def kind? (r : Resource) : Option String := r.object.stringField? "kind"

/-- The current `metadata.name`. -/
def name? (r : Resource) : Option String :=
  (r.object.field? "metadata").bind (·.stringField? "name")

/-- The type of a resource; what is missing of it is empty. -/
def type (r : Resource) : GroupVersionKind :=
  .ofApiVersion (r.apiVersion?.getD "") (r.kind?.getD "")

/-- A field that an identity needs. -/
def required (field : String) : Option String → Except ResourceError String
  | some s => .ok s
  | none => .error (.missingField field)

/-- The identity that the content gives. -/
def identity? (r : Resource) : Except ResourceError Identity :=
  match r.object with
  | .map _ => do
    let apiVersion ← required "apiVersion" r.apiVersion?
    let kind ← required "kind" r.kind?
    let name ← required "metadata.name" r.name?
    return ⟨.ofApiVersion apiVersion kind, name⟩
  | _ => .error .notAMap

/-- The resource with another `metadata.name`; it must have `metadata`. -/
def setName (name : String) (r : Resource) : Except ResourceError Resource :=
  match r.object with
  | .map fields =>
    match Ordered.find? "metadata" fields with
    | some (.map metadata) =>
      let metadata := Ordered.insert "name" (.string name) metadata
      .ok { r with object := .map (Ordered.insert "metadata" (.map metadata) fields) }
    | _ => .error (.missingField "metadata")
  | _ => .error (.missingField "metadata")

/-- Equal objects of the same origin. -/
def equal (a b : Resource) : Bool := a.object.equal b.object && a.generated == b.generated

end Resource

end KubeOverlay
