import KubeOverlay.Manifest
import KubeOverlay.Yaml.Read
/-!
# Reading manifests

The manifest that a YAML text writes. The fields have types, and a text field takes any scalar as it
is written. Unknown and repeated fields are refused at the top; further down unknown ones are passed
over. The sources of a generator are looked at as what they stand for, so only strings are texts
there.
-/
namespace KubeOverlay.Manifest

open Yaml (Reading follow scalarText)

/-! ## Fields -/

/-- The entries of a mapping. Where nothing is written there are none. -/
def mappingEntries (n : Yaml.Node) : Reading (List (Yaml.Node × Yaml.Node)) := do
  match ← follow n with
  | .mapping _ entries => return entries
  | .scalar _ text plain => if plain && text == "" then return [] else failure
  | _ => failure

/-- The fields of a mapping by their keys. Those that are known must not be repeated. -/
def knownFields (known : List String) (n : Yaml.Node) : Reading (List (String × Yaml.Node)) := do
  let fields ← (← mappingEntries n).mapM fun e => do return (← scalarText e.1, e.2)
  let used := (fields.map (·.1)).filter known.contains
  if used.eraseDups.length == used.length then return fields else failure

/-- A field, or what stands for it where it is missing. -/
def field {α : Type} (fields : List (String × Yaml.Node)) (key : String)
    (read : Yaml.Node → Reading α) (absent : Reading α) : Reading α :=
  match fields.find? (·.1 == key) with
  | some (_, n) => read n
  | none => absent

/-! ## Types of fields -/

/-- A text or nothing: nothing is written as nothing or as a plain null. -/
def optionalText (n : Yaml.Node) : Reading (Option String) := do
  match ← follow n with
  | .scalar p text plain =>
    let missing ←
      if !plain then pure false
      else match p.tag with
        | some tag =>
          if tag != Yaml.Tag.null then pure false
          else if Yaml.Plain.isNull text then pure true
          else failure
        | none => pure (text == "" || Yaml.Plain.isNull text)
    return if missing then none else some text
  | _ => failure

/-- The elements of a list, each read in the same way. -/
def listOf {α : Type} (read : Yaml.Node → Reading α) (n : Yaml.Node) : Reading (List α) := do
  match ← follow n with
  | .sequence _ items => items.mapM read
  | .scalar _ text plain => if plain && text == "" then return [] else failure
  | _ => failure

/-- Texts by ascending key; of equal keys the last one counts. -/
def textMap (n : Yaml.Node) : Reading (List (String × String)) := do
  let entries ← (← mappingEntries n).mapM fun e => do return (← scalarText e.1, ← scalarText e.2)
  return Ordered.ofList entries

/-- The name in `metadata`, if `metadata` is not null. -/
def metadataName (n : Yaml.Node) : Reading (Option String) := do
  match ← follow n with
  | .mapping p entries =>
    let fields ← knownFields ["name"] (.mapping p entries)
    field fields "name" (some <$> scalarText ·) failure
  | n => if (← optionalText n).isNone then return none else failure

/-! ## Generators -/

/-- What a value stands for, as far as sources of generators tell values apart. -/
inductive SourceValue where
  | null
  | text (s : String)
  | list (items : List SourceValue)
  | other

/-- What a node stands for, nested at most so deep. Keys may be of any kind. -/
def sourceValue : Nat → Yaml.Node → Reading SourceValue
  | depth, n => do
    match ← follow n with
    | .scalar p text plain =>
      match Yaml.scalarMeaning? p.tag text plain with
      | some .null => return .null
      | some .text => return .text text
      | some .wide => failure
      | some _ => return .other
      | none => failure
    | .sequence p items =>
      match depth with
      | 0 => failure
      | depth + 1 =>
        if Yaml.isLocal p.tag then failure
        else return .list (← items.mapM (sourceValue depth))
    | .mapping p entries =>
      match depth with
      | 0 => failure
      | depth + 1 =>
        if Yaml.isLocal p.tag then failure
        else
          let _ ← entries.mapM fun e => do
            let _ ← sourceValue depth e.1
            sourceValue depth e.2
          return .other
    | .alias _ => failure

/-- A list of texts. -/
def SourceValue.texts? : SourceValue → Option (List String)
  | .list items => items.mapM fun
    | .text s => some s
    | _ => none
  | _ => none

/-- A text or null. -/
def SourceValue.optionalText? : SourceValue → Option (Option String)
  | .null => some none
  | .text s => some (some s)
  | _ => none

/-- The fields of a generator: those with types of their own, and the values of all others. -/
def generatorFields (typed : List String) (n : Yaml.Node) :
    Reading (List (String × Yaml.Node) × List (String × SourceValue)) := do
  let fields ← knownFields (typed ++ ["literals", "files", "env"]) n
  let (own, others) := fields.partition fun f => typed.contains f.1
  -- The manifest, the list and the generator are three levels already.
  return (own, ← others.mapM fun f => do return (f.1, ← sourceValue (Yaml.maxDepth - 3) f.2))

/-- The sources among the values of a generator. -/
def sourcesOf (values : List (String × SourceValue)) : Option Sources := do
  let value {α : Type} (key : String) (view : SourceValue → Option α) (absent : α) : Option α :=
    match values.find? (·.1 == key) with
    | some (_, v) => view v
    | none => some absent
  return {
    literals := ← value "literals" SourceValue.texts? []
    files := ← value "files" SourceValue.texts? []
    env := ← value "env" SourceValue.optionalText? none }

def sources (values : List (String × SourceValue)) : Reading Sources :=
  match sourcesOf values with
  | some s => return s
  | none => failure

def configMapGenerator (n : Yaml.Node) : Reading ConfigMapGenerator := do
  let (fields, values) ← generatorFields ["name"] n
  return { name := ← field fields "name" scalarText failure, sources := ← sources values }

def secretGenerator (n : Yaml.Node) : Reading SecretGenerator := do
  let (fields, values) ← generatorFields ["name", "type"] n
  return {
    name := ← field fields "name" scalarText failure
    type := ← field fields "type" optionalText (pure none)
    sources := ← sources values }

/-! ## Manifests -/

/-- The fields at the top of a manifest. -/
def fieldNames : List String :=
  ["apiVersion", "kind", "metadata", "namePrefix", "objectLabels", "objectAnnotations", "resources",
    "patches", "bases", "configMapGenerator", "secretGenerator"]

def ofNode (n : Yaml.Node) : Reading Manifest := do
  let fields ← knownFields fieldNames n
  if !fields.all (fieldNames.contains ·.1) then failure
  else
    return {
      apiVersion := ← field fields "apiVersion" optionalText (pure none)
      kind := ← field fields "kind" optionalText (pure none)
      name := ← field fields "metadata" metadataName (pure none)
      namePrefix := ← field fields "namePrefix" scalarText (pure "")
      objectLabels := ← field fields "objectLabels" textMap (pure [])
      objectAnnotations := ← field fields "objectAnnotations" textMap (pure [])
      resources := ← field fields "resources" (listOf scalarText) (pure [])
      patches := ← field fields "patches" (listOf scalarText) (pure [])
      bases := ← field fields "bases" (listOf scalarText) (pure [])
      configMaps := ← field fields "configMapGenerator" (listOf configMapGenerator) (pure [])
      secrets := ← field fields "secretGenerator" (listOf secretGenerator) (pure []) }

/-- The manifest of a text of one document. A text without documents is a manifest without fields.
-/
def parse? (text : String) : Option Manifest :=
  let stream := Yaml.Stream.ofTokens (Yaml.tokens text)
  match stream.documents, stream.complete with
  | [], true => some {}
  | [n], true => (ofNode n (.ofNode n)).map (·.1)
  | _, _ => none

/-- A valid manifest of a text. -/
def ofYaml (text : String) : Except ManifestError Manifest :=
  match parse? text with
  | none => .error .malformedYaml
  | some m => do
    m.validate
    return m

end KubeOverlay.Manifest
