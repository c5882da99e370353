import KubeOverlay.FileTree
/-!
# Manifests

A manifest lists the resources of an application, the bases it builds on, the patches on top of
them, the ConfigMaps and Secrets to generate, and the name prefix, labels and annotations to add.
-/
namespace KubeOverlay

/-- Where the entries of a generated object come from. -/
structure Sources where
  /-- Keys and values around an equals sign. -/
  literals : List String := []
  /-- Files, with a key before an equals sign or under their own names. -/
  files : List String := []
  /-- A file with a key and a value on each line. -/
  env : Option String := none
deriving DecidableEq, Repr

structure ConfigMapGenerator where
  name : String
  sources : Sources
deriving DecidableEq, Repr

structure SecretGenerator where
  name : String
  type : Option String
  sources : Sources
deriving DecidableEq, Repr

structure Manifest where
  apiVersion : Option String := none
  kind : Option String := none
  /-- The name in `metadata`. -/
  name : Option String := none
  namePrefix : String := ""
  /-- Labels by ascending key. -/
  objectLabels : List (String × String) := []
  objectAnnotations : List (String × String) := []
  /-- Files of resources. -/
  resources : List String := []
  /-- Files of partial resources. -/
  patches : List String := []
  /-- Directories of other applications. -/
  bases : List String := []
  configMaps : List ConfigMapGenerator := []
  secrets : List SecretGenerator := []
deriving DecidableEq, Repr

/-- Why a manifest cannot be used. -/
inductive ManifestError where
  /-- The directory does not exist. -/
  | notFound (directory : String)
  | missingFile (directory : String)
  | unreadable (fault : FileFault)
  | malformedYaml
  | unsupportedKind (kind : String)
  /-- An entry of a section of generators has an empty name. -/
  | unnamedGenerator (sectionName : String)
  /-- A file that the manifest lists cannot be read. -/
  | unreadableFile (path : String) (fault : FileFault)
  | basesTooDeep (base : String)
deriving DecidableEq, Repr

namespace Manifest

/-- The name of the file in a directory. -/
def fileName : String := "Kube-manifest.yaml"

/-- The one kind that is accepted. -/
def kindName : String := "Manifest"

/-- How many bases may lie below one another. -/
def maxBaseDepth : Nat := 32

end Manifest

def ManifestError.message : ManifestError → String
  | .notFound directory => "Manifest not found: " ++ directory
  | .missingFile directory =>
    "Invalid manifest: " ++ Manifest.fileName ++ " not found in " ++ directory
  | .unreadable fault => "IO error: " ++ fault.message
  | .malformedYaml => "Failed to parse YAML"
  | .unsupportedKind kind =>
    "Invalid manifest: Unsupported kind: " ++ kind ++ ". Expected: " ++ Manifest.kindName
  | .unnamedGenerator sectionName =>
    "Invalid manifest: " ++ sectionName ++ " entry is missing a name"
  | .unreadableFile path fault => "Invalid manifest: cannot read " ++ path ++ ": " ++ fault.message
  | .basesTooDeep base =>
    "Invalid manifest: bases nested deeper than " ++ toString Manifest.maxBaseDepth ++
      " levels at " ++ base

namespace Manifest

/-- The kind, if given, is the accepted one, and every generator has a name. -/
def validate (m : Manifest) : Except ManifestError Unit :=
  match m.kind with
  | some kind => if kind == kindName then names else .error (.unsupportedKind kind)
  | none => names
where
  /-- ConfigMaps are looked at before Secrets. -/
  names : Except ManifestError Unit :=
    if m.configMaps.any (·.name == "") then .error (.unnamedGenerator "configMapGenerator")
    else if m.secrets.any (·.name == "") then .error (.unnamedGenerator "secretGenerator")
    else .ok ()

end Manifest

end KubeOverlay
