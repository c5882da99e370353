import KubeOverlay.Proofs.Assembly
import KubeOverlay.Proofs.Position
/-!
# Resources before the passes

Only generators make generated resources, and these are ConfigMaps and Secrets
(`rawResources_generatedKinds`); patches keep the origin of what they change, and what comes from a
base counts as plain.
-/
namespace KubeOverlay

namespace Ordered

variable {κ α : Type} [Ord κ] [Std.LawfulEqOrd κ]

theorem find?_insert (key other : κ) [DecidableEq κ] (value : α) (entries : List (κ × α)) :
    find? other (insert key value entries) = if other = key then some value else find? other entries := by
  split
  · next same =>
    rw [same]
    exact find?_insert_self key value entries
  · next differ => exact find?_insert_of_ne key other value entries differ

theorem find?_foldl_insert {key : κ} (more : List (κ × α)) (apart : ∀ e ∈ more, key ≠ e.1)
    (entries : List (κ × α)) :
    find? key (more.foldl (fun sorted e => insert e.1 e.2 sorted) entries) = find? key entries := by
  induction more generalizing entries with
  | nil => rfl
  | cons e rest ih =>
    rw [List.foldl_cons, ih (fun other later => apart other (List.mem_cons_of_mem e later))]
    exact find?_insert_of_ne e.1 key e.2 entries (apart e List.mem_cons_self)

end Ordered

/-- Every generated resource is a ConfigMap or a Secret. -/
def Collection.GeneratedKinds (c : Collection) : Prop :=
  ∀ id r, c.find? id = some r → r.generated = true → id.type.kind = "ConfigMap" ∨ id.type.kind = "Secret"

namespace Generator

variable {files : FileSystem} {directory : String} {r : Resource}

/-- The fields that all objects have stay under those that a kind has. -/
theorem field?_objectOf (kind name : String) {fields : List (String × Document)} {key : String}
    (apart : ∀ e ∈ fields, key ≠ e.1) : (objectOf kind name fields).field? key =
      if key = "metadata" then some (.map [("name", .string name)])
      else if key = "kind" then some (.string kind)
      else if key = "apiVersion" then some (.string "v1") else none := by
  rw [objectOf, Document.ofFields, Document.field?, Ordered.ofList, List.foldl_append,
    Ordered.find?_foldl_insert fields apart]
  simp only [List.foldl_cons, List.foldl_nil, Ordered.find?_insert]
  rfl

theorem configMap_fields {g : ConfigMapGenerator} (made : configMap files directory g = .ok r) :
    r.generated = true ∧ ∃ fields, r.object = objectOf "ConfigMap" g.name fields ∧
      ∀ e ∈ fields, e.1 = "data" ∨ e.1 = "binaryData" := by
  obtain ⟨entries, -, last⟩ := bind_eq_ok.mp made
  cases last
  refine ⟨rfl, _, rfl, fun e member => ?_⟩
  rcases List.mem_cons.mp member with rfl | binary
  · exact .inl rfl
  · split at binary
    · contradiction
    · rw [List.mem_singleton.mp binary]
      exact .inr rfl

theorem secret_fields {g : SecretGenerator} (made : secret files directory g = .ok r) :
    r.generated = true ∧ ∃ fields, r.object = objectOf "Secret" g.name fields ∧
      ∀ e ∈ fields, e.1 = "type" ∨ e.1 = "data" := by
  obtain ⟨entries, -, last⟩ := bind_eq_ok.mp made
  cases last
  refine ⟨rfl, _, rfl, fun e member => ?_⟩
  rcases List.mem_pair.mp member with rfl | rfl
  · exact .inl rfl
  · exact .inr rfl

/-- An object of a generator is known by its kind and the name that it was made with. -/
theorem identity?_objectOf {kind name : String} {fields : List (String × Document)}
    (object : r.object = objectOf kind name fields)
    (apart : ∀ e ∈ fields, e.1 ≠ "apiVersion" ∧ e.1 ≠ "kind" ∧ e.1 ≠ "metadata") :
    r.identity? = .ok ⟨⟨"", "v1", kind⟩, name⟩ := by
  have version : r.apiVersion? = some "v1" := by
    rw [Resource.apiVersion?, Document.stringField?, object,
      field?_objectOf kind name fun e member => (apart e member).1.symm]
    rfl
  have ofKind : r.kind? = some kind := by
    rw [Resource.kind?, Document.stringField?, object,
      field?_objectOf kind name fun e member => (apart e member).2.1.symm]
    rfl
  have named : r.name? = some name := by
    rw [Resource.name?, object, field?_objectOf kind name fun e member => (apart e member).2.2.symm]
    rfl
  have isMap : ∃ all, r.object = .map all := ⟨_, object⟩
  obtain ⟨all, isMap⟩ := isMap
  rw [Resource.identity?, isMap, version, ofKind, named]
  rfl

theorem identity?_configMap {g : ConfigMapGenerator} (made : configMap files directory g = .ok r) :
    r.identity? = .ok ⟨⟨"", "v1", "ConfigMap"⟩, g.name⟩ := by
  obtain ⟨-, fields, object, keys⟩ := configMap_fields made
  refine identity?_objectOf object fun e member => ?_
  rcases keys e member with key | key <;> simp [key]

theorem identity?_secret {g : SecretGenerator} (made : secret files directory g = .ok r) :
    r.identity? = .ok ⟨⟨"", "v1", "Secret"⟩, g.name⟩ := by
  obtain ⟨-, fields, object, keys⟩ := secret_fields made
  refine identity?_objectOf object fun e member => ?_
  rcases keys e member with key | key <;> simp [key]

end Generator

namespace Application

variable {files : FileSystem} {app : Application} {raw : Collection} {levels : Nat}

/-- Documents and what comes from bases are plain, and patches keep the origin. -/
theorem throughout_generatedKinds : Throughout files fun id r =>
    r.generated = true → id.type.kind = "ConfigMap" ∨ id.type.kind = "Secret" where
  decoded := by simp
  based := by simp
  patched _ _ _ _ _ kinds _ _ _ := kinds
  configMap directory g r id made identity _ := by
    cases (Generator.identity?_configMap made).symm.trans identity
    exact .inl rfl
  secret directory g r id made identity _ := by
    cases (Generator.identity?_secret made).symm.trans identity
    exact .inr rfl

theorem rawWithin_generatedKinds (ran : rawWithin files levels app = .ok raw) : raw.GeneratedKinds :=
  rawWithin_all throughout_generatedKinds ran

/-- What a build has put together before its passes has no generated resources but ConfigMaps and
Secrets. -/
theorem rawResources_generatedKinds (ran : app.rawResources files = .ok raw) : raw.GeneratedKinds :=
  rawWithin_generatedKinds ran

end Application

/-! ## A pod and the ConfigMap that it mounts -/

/-- A file with a text, under its name. -/
def textFile (name text : String) : String × FileTree := (name, .file text.toUTF8)

/-- A directory with a pod that has a volume of a ConfigMap. The manifest lists the pod and generates the
ConfigMap. -/
def podDirectory : FileTree :=
  .directory [
    textFile Manifest.fileName
      ("namePrefix: x-\nobjectLabels:\n  app: web\nresources:\n- pod\n" ++
        "configMapGenerator:\n- name: settings\n  literals:\n  - A=1\n"),
    textFile "pod"
      ("apiVersion: v1\nkind: Pod\nmetadata:\n  name: web\n" ++
        "spec:\n  volumes:\n  - configMap:\n      name: settings\n")]

def podFiles : FileSystem where
  top := podDirectory
  workingDirectory := []

def podApp : Application where
  directory := "."
  manifest := {
    namePrefix := "x-"
    objectLabels := [("app", "web")]
    resources := ["pod"]
    configMaps := [⟨"settings", { literals := ["A=1"] }⟩] }

theorem load_podApp : Application.load podFiles "." = .ok podApp := by decide +kernel

def podId : Identity := ⟨⟨"", "v1", "Pod"⟩, "web"⟩

def settingsId : Identity := ⟨⟨"", "v1", "ConfigMap"⟩, "settings"⟩

/-- Where the pod refers to the ConfigMap. -/
def mounted : Position :=
  [.key "spec", .key "volumes", .index 0, .key "configMap", .key "name"]

/-- The build goes through, and the pod comes in with the name of the ConfigMap before the passes. -/
theorem podApp_refers : ∃ raw built r m, podApp.rawResources podFiles = .ok raw ∧
    podApp.resources podFiles = .ok built ∧ raw.find? podId = some r ∧
    r.object.at? mounted = some (.string "settings") ∧ raw.find? settingsId = some m ∧
    m.name? = some "settings" := by
  have evaluated : ((podApp.rawResources podFiles).toOption.bind fun raw =>
      (podApp.finish raw).toOption.bind fun _ => (raw.find? podId).bind fun r => ((r.object.at? mounted).bind Document.string?).bind fun text =>
        (raw.find? settingsId).bind fun m => m.name?.map fun name => (text, name)) =
      some ("settings", "settings") := by
    decide +kernel
  obtain ⟨raw, ran, rest⟩ := Option.bind_eq_some_iff.mp evaluated
  obtain ⟨built, passed, rest⟩ := Option.bind_eq_some_iff.mp rest
  obtain ⟨r, held, rest⟩ := Option.bind_eq_some_iff.mp rest
  obtain ⟨text, stored, rest⟩ := Option.bind_eq_some_iff.mp rest
  obtain ⟨m, held', rest⟩ := Option.bind_eq_some_iff.mp rest
  obtain ⟨name, named, both⟩ := Option.map_eq_some_iff.mp rest
  obtain ⟨rfl, rfl⟩ := Prod.mk.inj both
  obtain ⟨d, found, text⟩ := Option.bind_eq_some_iff.mp stored
  rw [toOption_eq_some] at ran passed
  have finished : podApp.resources podFiles = .ok built := bind_eq_ok.mpr ⟨raw, ran, passed⟩
  refine ⟨raw, built, r, m, ran, finished, held, ?_, held', named⟩
  cases d <;> simp_all [Document.string?]

end KubeOverlay
