import KubeOverlay.BuildError
import KubeOverlay.Base64
import KubeOverlay.Text
/-!
# Generators

The ConfigMaps and Secrets that a manifest asks for. Their entries come from literals, files and the
lines of a file, in this order; every key may come up once.
-/
namespace KubeOverlay.Generator

/-- The bytes of entries by ascending key. -/
abbrev Entries := List (String × List UInt8)

/-! ## Entries -/

def isKeyChar (c : Char) : Bool := c.isAlphanum || c == '-' || c == '_' || c == '.'

def isKey (key : String) : Bool := key != "" && key.toList.all isKeyChar

/-- One more entry, under a key that is valid and new. -/
def addEntry (key : String) (value : List UInt8) (entries : Entries) :
    Except GeneratorFault Entries :=
  if !isKey key then .error (.invalidKey key)
  else if Ordered.contains key entries then .error (.duplicateKey key)
  else .ok (Ordered.insert key value entries)

/-- One more entry of a key and a value around an equals sign. -/
def addPair (entries : Entries) (text : String) : Except GeneratorFault Entries :=
  match Text.splitPair? text with
  | some (key, value) => addEntry key value.toUTF8.toList entries
  | none => .error (.notAPair text)

/-- The key and the path of a file source. Without a key it is the name of the file. -/
def fileSource (source : String) : Except GeneratorFault (String × String) :=
  match Text.splitPair? source with
  | some pair => .ok pair
  | none =>
    match Path.fileName? source with
    | some name => .ok (name, source)
    | none => .error (.namelessSource source)

/-- What is read at a path in a directory. -/
def readIn {α : Type} (read : String → Except FileFault α) (directory path : String) :
    Except GeneratorFault α :=
  let full := Path.join directory path
  match read full with
  | .ok a => .ok a
  | .error fault => .error (.unreadable full fault)

/-- One more entry of the bytes of a file. -/
def addFile (files : FileSystem) (directory : String) (entries : Entries) (source : String) :
    Except GeneratorFault Entries := do
  let (key, path) ← fileSource source
  let content ← readIn files.readBytes directory path
  addEntry key content.toList entries

/-- The lines of a text that hold entries: neither blank nor comments. -/
def entryLines (text : String) : List String :=
  let lines := (text.toList.splitOn '\n').map String.ofList
  (lines.map Text.trim).filter fun line => line.toList.head?.any (· != '#')

/-- The entries of all sources. -/
def collect (files : FileSystem) (directory : String) (sources : Sources) :
    Except GeneratorFault Entries := do
  let entries ← sources.literals.foldlM addPair []
  let entries ← sources.files.foldlM (addFile files directory) entries
  match sources.env with
  | none => return entries
  | some path =>
    let text ← readIn files.readText directory path
    (entryLines text).foldlM addPair entries

/-! ## Objects -/

/-- Bytes as text, if they are text in UTF-8. -/
def textOf? (bytes : List UInt8) : Option String := String.fromUTF8? ⟨bytes.toArray⟩

/-- Bytes as a document in Base64. -/
def encoded (bytes : List UInt8) : Document := .string (String.ofList (Base64.encode bytes))

/-- The fields that all generated objects have. -/
def objectOf (kind name : String) (fields : List (String × Document)) : Document :=
  .ofFields ([("apiVersion", .string "v1"), ("kind", .string kind),
    ("metadata", .map [("name", .string name)])] ++ fields)

/-- A ConfigMap. Entries that are no text are kept apart. -/
def configMapObject (name : String) (entries : Entries) : Document :=
  let data := entries.filterMap fun e => (textOf? e.2).map fun s => (e.1, Document.string s)
  let binary := (entries.filter fun e => (textOf? e.2).isNone).map fun e => (e.1, encoded e.2)
  objectOf "ConfigMap" name
    (("data", .map data) :: if binary.isEmpty then [] else [("binaryData", .map binary)])

/-- The type of a Secret that names none. -/
def defaultSecretType : String := "Opaque"

/-- A Secret. -/
def secretObject (name : String) (type : Option String) (entries : Entries) : Document :=
  objectOf "Secret" name
    [("type", .string (type.getD defaultSecretType)),
      ("data", .map (entries.map fun e => (e.1, encoded e.2)))]

/-- The entries of a generator, or its error. -/
def entriesOf (files : FileSystem) (directory name : String) (sources : Sources) :
    Except BuildError Entries :=
  match collect files directory sources with
  | .ok entries => .ok entries
  | .error fault => .error (.generator name fault)

/-- The ConfigMap of a generator in a manifest of a directory. -/
def configMap (files : FileSystem) (directory : String) (g : ConfigMapGenerator) :
    Except BuildError Resource := do
  return ⟨configMapObject g.name (← entriesOf files directory g.name g.sources), true⟩

/-- The Secret of a generator in a manifest of a directory. -/
def secret (files : FileSystem) (directory : String) (g : SecretGenerator) :
    Except BuildError Resource := do
  return ⟨secretObject g.name g.type (← entriesOf files directory g.name g.sources), true⟩

end KubeOverlay.Generator
