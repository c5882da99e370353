import KubeOverlay.BuildError
import KubeOverlay.Digest.Sha256
import KubeOverlay.Json
/-!
# Content hashes

The suffix that tells contents of generated ConfigMaps and Secrets apart. It stands for the compact
JSON of kind, current name and data, so it changes with them and with nothing else.
-/
namespace KubeOverlay.ContentHash

/-- How many digits of a digest are kept. -/
def length : Nat := 10

/-- Digits that could spell words give way to letters that cannot. -/
def letter : Char → Char
  | '0' => 'g'
  | '1' => 'h'
  | '3' => 'k'
  | 'a' => 'm'
  | 'e' => 't'
  | c => c

/-- The hash of any content. -/
def ofContent (content : Document) : String :=
  let digest := Digest.sha256 (Json.write content).toUTF8.toList
  String.ofList (((Digest.hexText digest).take length).map letter)

/-- A field of an object under its own name. A field that is missing or null is left out. -/
def copied (object : Document) (field : String) : Except BuildError Fields :=
  match object.field? field with
  | none | some .null => .ok []
  | some (.map fields) => .ok [(field, .map fields)]
  | some (.string s) => .ok [(field, .string s)]
  | some d => .error (.typeMismatch field "map or string" d.kind)

/-- The kind and the current name of a resource. -/
def identity (r : Resource) : Except BuildError Fields :=
  match r.name?, r.kind? with
  | none, _ => .error (.resource (.missingField "metadata.name"))
  | _, none => .error (.resource (.missingField "kind"))
  | some name, some kind => .ok [("kind", .string kind), ("name", .string name)]

/-- What is hashed of a resource: its kind, its name and some fields. -/
def content (fields : List String) (r : Resource) : Except BuildError Document := do
  let own ← identity r
  let copies ← fields.mapM (copied r.object)
  return .ofFields (own ++ copies.flatten)

/-- The hash of a ConfigMap. -/
def ofConfigMap (r : Resource) : Except BuildError String :=
  ofContent <$> content ["data", "binaryData"] r

/-- The hash of a Secret. -/
def ofSecret (r : Resource) : Except BuildError String :=
  ofContent <$> content ["type", "data"] r

end KubeOverlay.ContentHash
