import KubeOverlay.Pass
import KubeOverlay.Generator
import KubeOverlay.Manifest.Read
/-!
# Applications

An application is a directory with a manifest. It is built in steps: the listed files and the built
bases are put together, patches are merged onto them, generated objects are added, and the passes of
the manifest give all of them their final names, labels and references.
-/
namespace KubeOverlay

structure Application where
  directory : String
  manifest : Manifest
deriving DecidableEq, Repr

namespace Application

/-- The manifest of a directory. -/
def load (files : FileSystem) (directory : String) : Except ManifestError Application := do
  if !files.pathExists directory then throw (.notFound directory)
  let path := Path.join directory Manifest.fileName
  if !files.pathExists path then throw (.missingFile directory)
  match files.readText path with
  | .ok text => return ⟨directory, ← Manifest.ofYaml text⟩
  | .error fault => throw (.unreadable fault)

/-- The passes of a manifest: hashes first, so that they do not depend on the prefix, and references
last, when all names are final. -/
def passes (app : Application) : List Pass :=
  [.nameHash,
    .namePrefix app.manifest.namePrefix PathRule.names,
    .labels app.manifest.objectLabels PathRule.labels,
    .annotations app.manifest.objectAnnotations PathRule.annotations,
    .nameReference ReferenceRule.references]

/-- The paths of all files that the manifest lists: resources, patches and what is generated from.
-/
def listedFiles (app : Application) : List String :=
  let m := app.manifest
  let sources := m.configMaps.map (·.sources) ++ m.secrets.map (·.sources)
  let generatedFrom := sources.flatMap fun s =>
    s.files.filterMap (fun f => (Generator.fileSource f).toOption.map (·.2)) ++ s.env.toList
  (m.resources ++ m.patches ++ generatedFrom).map (Path.join app.directory)

/-- An error about resources as an error of a build. -/
def liftResource {α : Type} : Except ResourceError α → Except BuildError α
  | .ok a => .ok a
  | .error e => .error (.resource e)

/-- An error about a manifest as an error of a build. -/
def liftManifest {α : Type} : Except ManifestError α → Except BuildError α
  | .ok a => .ok a
  | .error e => .error (.manifest e)

/-- The resources of a listed file together with those before it. -/
def addFile (files : FileSystem) (app : Application) (c : Collection) (file : String) :
    Except BuildError Collection :=
  let path := Path.join app.directory file
  match files.readText path with
  | .error fault => .error (.manifest (.unreadableFile path fault))
  | .ok text => do
    let decoded ← liftResource (Collection.decode text)
    liftResource (c.merge decoded).toExcept

/-- The resources of listed files. -/
def decodeFiles (files : FileSystem) (app : Application) (listed : List String) :
    Except BuildError Collection :=
  listed.foldlM (addFile files app) .empty

/-- The resources of a built base as plain ones, keyed by their final identities. -/
def addBuilt (c built : Collection) : Except BuildError Collection :=
  liftResource (built.entries.foldlM (fun c e => c.add ⟨e.2.object, false⟩) c)

/-- The resources with the patches of the manifest merged onto them. -/
def patched (files : FileSystem) (app : Application) (c : Collection) :
    Except BuildError Collection :=
  if app.manifest.patches.isEmpty then .ok c
  else do
    let patches ← decodeFiles files app app.manifest.patches
    ((Pass.overlay patches Patch.merge).run c).toExcept

/-- The resources with the generated ones. -/
def generated (files : FileSystem) (app : Application) (c : Collection) :
    Except BuildError Collection := do
  let c ← app.manifest.configMaps.foldlM (fun c g => do
    liftResource (c.add (← Generator.configMap files app.directory g))) c
  app.manifest.secrets.foldlM (fun c g => do
    liftResource (c.add (← Generator.secret files app.directory g))) c

/-- Runs the passes over the resources of an application. -/
def finish (app : Application) (c : Collection) : Except BuildError Collection :=
  ((Pass.inOrder app.passes).run c).toExcept

/-- The resources before the passes, with bases below one another for at most so many levels. -/
def rawWithin (files : FileSystem) : (levels : Nat) → Application → Except BuildError Collection
  | levels, app => do
    let c ← decodeFiles files app app.manifest.resources
    let c ← match levels with
      | 0 =>
        match app.manifest.bases with
        | [] => pure c
        | base :: _ => throw (.manifest (.basesTooDeep base))
      | levels + 1 =>
        app.manifest.bases.foldlM (fun c base => do
          let below ← liftManifest (load files (Path.join app.directory base))
          addBuilt c (← below.finish (← rawWithin files levels below))) c
    generated files app (← patched files app c)

/-- The resources before the passes: with patches and generated objects. -/
def rawResources (files : FileSystem) (app : Application) : Except BuildError Collection :=
  rawWithin files Manifest.maxBaseDepth app

/-- The resources in their final form. -/
def resources (files : FileSystem) (app : Application) : Except BuildError Collection := do
  app.finish (← app.rawResources files)

end Application

end KubeOverlay
