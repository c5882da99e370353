import KubeOverlay.Collection
import KubeOverlay.PathRule
import KubeOverlay.Patch
import KubeOverlay.ContentHash
/-!
# Passes

A pass edits the resources of a collection in key order. The keys stay what they are. The first
error stops a pass; the resources before the failing one are edited then, and those after it are
as they were.
-/
namespace KubeOverlay

/-- A pass over the resources of a collection. -/
structure Pass where
  name : String
  run : Collection → Progress BuildError Collection

namespace Pass

/-! ## Editing resources -/

/-- Does something with each resource, and says which one failed. -/
def eachResource (f : Identity → Resource → Progress BuildError Resource) (c : Collection) :
    Progress BuildError Collection :=
  c.edit fun id r =>
    let p := f id r
    ⟨p.reached, p.error?.map (.inResource id)⟩

/-- Edits what stands at a rule's path in an object, which must be a map. -/
def updateAt (rule : PathRule) (f : Document → Except BuildError Document) (r : Resource) :
    Progress BuildError Resource :=
  match r.object with
  | .map fields =>
    (rule.path.update rule.create f fields).map fun fields => { r with object := .map fields }
  | d => .stopped r (.typeMismatch "" "map" d.kind)

/-- Edits what stands at the paths of the rules for a type, rule after rule. -/
def updateAll (rules : List PathRule) (f : PathRule → Document → Except BuildError Document)
    (type : GroupVersionKind) : Resource → Progress BuildError Resource :=
  Progress.sequence (fun rule => updateAt rule (f rule)) (rules.filter (·.appliesTo type))

/-- What an edit of strings gives for a document at a rule's path. -/
def onString (f : String → Except BuildError String) (rule : PathRule) :
    Document → Except BuildError Document
  | .string s => .string <$> f s
  | d => .error (.typeMismatch rule.path.dotted "string" d.kind)

/-! ## Names, labels and annotations -/

/-- Puts a text before names. -/
def namePrefix (text : String) (rules : List PathRule) : Pass where
  name := "name-prefix"
  run c :=
    if text == "" then .done c
    else eachResource (fun id => updateAll rules (onString fun s => .ok (text ++ s)) id.type) c

/-- The entries put into a map of strings at a rule's path. Null is an empty map. -/
def addEntries (entries : List (String × String)) (rule : PathRule) :
    Document → Except BuildError Document
  | .map fields => .ok (added fields)
  | .null => .ok (added [])
  | d => .error (.typeMismatch rule.path.dotted "map" d.kind)
where
  added (fields : Fields) : Document :=
    .map (entries.foldl (fun fields e => Ordered.insert e.1 (.string e.2) fields) fields)

/-- Puts entries into maps of strings. -/
def mapEntries (name : String) (entries : List (String × String)) (rules : List PathRule) :
    Pass where
  name := name
  run c :=
    if entries.isEmpty then .done c
    else eachResource (fun id => updateAll rules (addEntries entries) id.type) c

def labels (entries : List (String × String)) (rules : List PathRule) : Pass :=
  mapEntries "labels" entries rules

def annotations (entries : List (String × String)) (rules : List PathRule) : Pass :=
  mapEntries "annotations" entries rules

/-! ## Hashes -/

/-- The hash that the name of a generated resource of a kind gets. -/
def hash? (kind : String) (r : Resource) : Option (Except BuildError String) :=
  if !r.generated then none
  else if kind == "ConfigMap" then some (ContentHash.ofConfigMap r)
  else if kind == "Secret" then some (ContentHash.ofSecret r)
  else none

/-- A resource with the hash of its content after its name, if it is one that gets a hash. -/
def hashed (id : Identity) (r : Resource) : Except BuildError Resource :=
  match hash? id.type.kind r with
  | none => .ok r
  | some (.error e) => .error e
  | some (.ok hash) =>
    match r.setName (r.name?.getD id.name ++ "-" ++ hash) with
    | .ok r => .ok r
    | .error e => .error (.resource e)

/-- Puts hashes of the content after the names of generated ConfigMaps and Secrets. -/
def nameHash : Pass where
  name := "name-hash"
  run := eachResource fun id r => .ofExcept r (hashed id r)

/-! ## References -/

/-- The resources that have a current name, by the key they are declared under. -/
def namedResources (c : Collection) : List (Identity × String) :=
  c.entries.filterMap fun e => e.2.name?.map fun name => (e.1, name)

/-- The current name of what is declared under a name and selected. A name that nothing answers to
stays as it is. -/
def resolve (targets : List (Identity × String)) (selector : GroupVersionKind) (name : String) :
    Except BuildError String :=
  match targets.filter fun t => t.1.name == name && t.1.type.isSelectedBy selector with
  | [] => .ok name
  | [(_, current)] => .ok current
  | candidates => .error (.ambiguousReference name (candidates.map (·.1)))

/-- Puts current names where resources are referred to by the names they are declared under. Names
are looked up as they were before the pass. -/
def nameReference (references : List ReferenceRule) : Pass where
  name := "name-reference"
  run c :=
    let targets := namedResources c
    eachResource (fun id => Progress.sequence
      (fun reference =>
        updateAll reference.rules (onString (resolve targets reference.selector)) id.type)
      references) c

/-! ## Overlays -/

/-- How a patch is merged onto an object of a type. -/
abbrev Merger := GroupVersionKind → (base patch : Document) → Except BuildError Document

/-- Merges one patch onto the resource under its key. -/
def applyPatch (merger : Merger) (patch : Identity × Resource) (c : Collection) :
    Progress BuildError Collection :=
  match c.find? patch.1 with
  | none => .stopped c (.patchTargetNotFound patch.1)
  | some base =>
    match merger patch.1.type base.object patch.2.object with
    | .ok merged => .done (c.put patch.1 { base with object := merged })
    | .error e => .stopped c (.inResource patch.1 e)

/-- Merges patches onto the resources under the same keys, in key order. -/
def overlay (patches : Collection) (merger : Merger) : Pass where
  name := "overlay"
  run := Progress.sequence (applyPatch merger) patches.entries

/-! ## Several passes -/

/-- Passes one after the other, up to the first that is stopped. -/
def inOrder (passes : List Pass) : Pass where
  name := "multi"
  run := Progress.sequence (fun pass c => pass.run c) passes

end Pass

end KubeOverlay
