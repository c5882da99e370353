import KubeOverlay.Proofs.Identities
/-!
# Identities after patches

Resources come in under their own identities, and so do patches. A patch gives what it is merged onto
the identity that both have, unless it removes the metadata: then the name is missing
(`Resource.identity?_patched`). So, after the patches of a build, each resource stands under its own
identity or has none (`Application.patched_identity?`).
-/
namespace KubeOverlay

namespace Resource

variable {base patch : Resource} {id : Identity} {type : GroupVersionKind} {merged : Document}

/-- A patch with the identity of its target keeps the identity, or takes the name away with the
metadata. -/
theorem identity?_patched (identity : base.identity? = .ok id) (identity' : patch.identity? = .ok id)
    (sorted : patch.object.Sorted) (ran : Patch.merge type base.object patch.object = .ok merged) :
    { base with object := merged }.identity? =
      if Patch.removesMetadata patch.object then .error (.missingField "metadata.name") else .ok id := by
  obtain ⟨fields, isMap⟩ := (identity?_eq_ok.mp identity).1.isMap
  rw [isMap] at ran
  obtain ⟨typed, named⟩ := Patch.merge_identity sorted identity' ran
  rw [typed.identity?, named]
  split
  · rfl
  · rfl

end Resource

namespace Application

variable {files : FileSystem} {app : Application} {c c' : Collection} {levels : Nat}

/-- What is listed and what bases give comes in under its own identity. -/
theorem based_identified (decoded : app.decodeFiles files app.manifest.resources = .ok c)
    (based : addBases files levels app c = .ok c') : c'.All fun id r => r.identity? = .ok id := by
  have listed : c.All fun id r => r.identity? = .ok id :=
    decodeFiles_all (fun _ _ _ _ identity => identity) decoded
  exact addBases_all (fun _ _ _ _ _ _ _ _ _ _ _ identity => identity) listed based

/-- Patches come in under their own identities, with their keys in order. -/
theorem patches_identified {listed : List String} (decoded : app.decodeFiles files listed = .ok c) :
    c.All fun id r => r.identity? = .ok id ∧ r.object.Sorted :=
  decodeFiles_all (fun _ _ _ member identity => ⟨identity, Yaml.sorted_of_mem_documents member⟩) decoded

/-- A patch with the identity of its target keeps the identity, unless it removes the metadata and the
name with it; so, after the patches of a build, every resource stands under its own identity but those
whose metadata a patch removes. -/
theorem patched_identity? :
    (∀ id (base patch : Resource) merged, base.identity? = .ok id → patch.identity? = .ok id →
      patch.object.Sorted → Patch.merge id.type base.object patch.object = .ok merged →
      { base with object := merged }.identity? =
        if Patch.removesMetadata patch.object then .error (.missingField "metadata.name") else .ok id) ∧
    ∀ files levels app decoded based overlaid, app.decodeFiles files app.manifest.resources = .ok decoded →
      addBases files levels app decoded = .ok based → app.patched files based = .ok overlaid →
      ∃ patches, app.decodeFiles files app.manifest.patches = .ok patches ∧
        ∀ id r, overlaid.find? id = some r → r.identity? =
          if (patches.find? id).any (Patch.removesMetadata ·.object)
          then .error (.missingField "metadata.name") else .ok id := by
  constructor
  · intro id base patch merged identity identity' sorted ran
    exact Resource.identity?_patched identity identity' sorted ran
  · intro files levels app decoded based overlaid decode bases patch
    obtain ⟨patches, decode', overlay⟩ := patched_eq_ok_iff.mp patch
    refine ⟨patches, decode', fun id r held => ?_⟩
    obtain ⟨unpatched, patched⟩ := Collection.find?_overlay overlay id
    have own := based_identified decode bases id
    cases found : patches.find? id with
    | none => exact own r ((unpatched found).symm.trans held)
    | some patch =>
      obtain ⟨base, merged, target, ran, result⟩ := patched patch found
      cases result.symm.trans held
      obtain ⟨identity, sorted⟩ := patches_identified decode' id patch found
      exact Resource.identity?_patched (own base target) identity sorted ran

/-! ## A patch that removes metadata -/

/-- A directory with two ConfigMaps, a patch that removes the metadata of one of them, and one that adds
data to the other. -/
def cuttingFiles : FileSystem where
  top := .directory [
    textFile Manifest.fileName "resources:\n- base\npatches:\n- cut\n- data\n",
    textFile "base"
      ("apiVersion: v1\nkind: ConfigMap\nmetadata:\n  name: a\n---\n" ++
        "apiVersion: v1\nkind: ConfigMap\nmetadata:\n  name: b\n"),
    textFile "cut" "apiVersion: v1\nkind: ConfigMap\nmetadata:\n  name: a\n  $patch: delete\n",
    textFile "data" "apiVersion: v1\nkind: ConfigMap\nmetadata:\n  name: b\ndata:\n  k: v\n"]
  workingDirectory := []

def cuttingApp : Application where
  directory := "."
  manifest := { resources := ["base"], patches := ["cut", "data"] }

theorem load_cuttingApp : load cuttingFiles "." = .ok cuttingApp := by decide +kernel

def configMapNamed (name : String) : Identity := ⟨⟨"", "v1", "ConfigMap"⟩, name⟩

/-- A ConfigMap with a name, and with more in its metadata. -/
def configMapWith (metadata : Fields) : Resource where
  object := .map [("apiVersion", .string "v1"), ("kind", .string "ConfigMap"), ("metadata", .map metadata)]

/-- Without its metadata a ConfigMap has no identity; the patched one beside it has. -/
theorem cuttingApp_identities :
    (∃ merged, Patch.merge ⟨"", "v1", "ConfigMap"⟩ (configMapWith [("name", .string "a")]).object
        (configMapWith [("labels", .null), ("name", .string "a")]).object = .ok merged ∧
      (Resource.mk merged false).identity? = .ok (configMapNamed "a")) ∧
    load cuttingFiles "." = .ok cuttingApp ∧
    ∃ based overlaid r r', cuttingApp.decodeFiles cuttingFiles ["base"] = .ok based ∧
      cuttingApp.patched cuttingFiles based = .ok overlaid ∧
      overlaid.find? (configMapNamed "a") = some r ∧ r.identity? = .error (.missingField "metadata.name") ∧
      overlaid.find? (configMapNamed "b") = some r' ∧ r'.identity? = .ok (configMapNamed "b") := by
  refine ⟨?_, load_cuttingApp, ?_⟩
  · refine ⟨_, rfl, ?_⟩
    exact patched_identity?.1 (configMapNamed "a") (configMapWith [("name", .string "a")])
      (configMapWith [("labels", .null), ("name", .string "a")]) _ rfl rfl (by decide) rfl
  · have evaluated : ((cuttingApp.decodeFiles cuttingFiles ["base"]).toOption.bind fun based =>
        (cuttingApp.patched cuttingFiles based).toOption.bind fun overlaid =>
        (cuttingApp.decodeFiles cuttingFiles ["cut", "data"]).toOption.bind fun patches =>
        (overlaid.find? (configMapNamed "a")).bind fun _ =>
        (overlaid.find? (configMapNamed "b")).map fun _ =>
          ((patches.find? (configMapNamed "a")).any (Patch.removesMetadata ·.object),
            (patches.find? (configMapNamed "b")).any (Patch.removesMetadata ·.object))) =
        some (true, false) := by
      decide +kernel
    obtain ⟨based, decoded, rest⟩ := Option.bind_eq_some_iff.mp evaluated
    obtain ⟨overlaid, patched, rest⟩ := Option.bind_eq_some_iff.mp rest
    obtain ⟨patches, decoded', rest⟩ := Option.bind_eq_some_iff.mp rest
    obtain ⟨r, held, rest⟩ := Option.bind_eq_some_iff.mp rest
    obtain ⟨r', held', both⟩ := Option.map_eq_some_iff.mp rest
    obtain ⟨cut, kept⟩ := Prod.mk.inj both
    rw [toOption_eq_some] at decoded patched decoded'
    obtain ⟨_, again, identities⟩ :=
      patched_identity?.2 cuttingFiles 0 cuttingApp based based overlaid decoded rfl patched
    cases decoded'.symm.trans again
    have first := identities _ r held
    have second := identities _ r' held'
    rw [cut] at first
    rw [kept] at second
    exact ⟨based, overlaid, r, r', decoded, patched, held, first, held', second⟩

/-- A patch for a ConfigMap that removes its metadata takes its identity away. -/
theorem metadata_removed : (configMapWith [("name", .string "a")]).identity? = .ok (configMapNamed "a") ∧
    (configMapWith [("$patch", .string "delete"), ("name", .string "a")]).identity? =
      .ok (configMapNamed "a") ∧
    ∃ merged, Patch.merge ⟨"", "v1", "ConfigMap"⟩ (configMapWith [("name", .string "a")]).object
        (configMapWith [("$patch", .string "delete"), ("name", .string "a")]).object = .ok merged ∧
      (Resource.mk merged false).identity? = .error (.missingField "metadata.name") :=
  ⟨rfl, rfl, _, rfl, rfl⟩

end Application

end KubeOverlay
