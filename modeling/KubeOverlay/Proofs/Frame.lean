import KubeOverlay.Application
import KubeOverlay.Proofs.Editing
import KubeOverlay.Proofs.RawResources
/-!
# What a build leaves alone

Every pass writes at the paths of its rules only, and at `metadata.name`. So a build keeps what
stands at positions that are apart from all these paths (`resources_kept`), whatever shape the
documents have on the way, and it keeps the keys and origins of all resources.
-/
namespace KubeOverlay

namespace Resource

/-- The same origin, and the same document at every position that is apart from all the paths. -/
structure KeptOutside (paths : List FieldPath) (r r' : Resource) : Prop where
  generated : r'.generated = r.generated
  at? : ∀ q : Position, (∀ path ∈ paths, FieldPath.Apart path q.keys) →
    r'.object.at? q = r.object.at? q

variable {paths more : List FieldPath} {r r' r'' : Resource}

theorem KeptOutside.refl (paths : List FieldPath) (r : Resource) : KeptOutside paths r r :=
  ⟨rfl, fun _ _ => rfl⟩

theorem KeptOutside.trans (first : KeptOutside paths r r') (second : KeptOutside paths r' r'') :
    KeptOutside paths r r'' :=
  ⟨second.generated.trans first.generated,
    fun q apart => (second.at? q apart).trans (first.at? q apart)⟩

theorem KeptOutside.mono (subset : ∀ path ∈ paths, path ∈ more) (kept : KeptOutside paths r r') :
    KeptOutside more r r' :=
  ⟨kept.generated, fun q apart => kept.at? q fun path member => apart path (subset path member)⟩

theorem setName_kept {name : String} (renamed : r.setName name = .ok r') :
    KeptOutside [["metadata", "name"]] r r' := by
  rw [setName] at renamed
  split at renamed
  · next fields object =>
    split at renamed
    · next metadata stored =>
      cases renamed
      refine ⟨rfl, fun q apart => ?_⟩
      have apart := apart _ List.mem_cons_self
      rw [object]
      match q with
      | [] => exact absurd apart (FieldPath.not_apart_nil_right _)
      | .index i :: q => rfl
      | .key other :: q =>
        by_cases same : other = "metadata"
        · subst same
          have apart : FieldPath.Apart ["name"] (Position.keys q) :=
            (FieldPath.apart_cons_self ..).mp apart
          rw [Document.at?_insert_self, Document.at?_key_map, stored, Option.bind_some]
          match q with
          | [] => exact absurd apart (FieldPath.not_apart_nil_right _)
          | .index i :: q => rfl
          | .key inner :: q =>
            refine Document.at?_insert_of_ne q _ metadata ?_
            rintro rfl
            exact FieldPath.not_apart_nil_left _ ((FieldPath.apart_cons_self ..).mp apart)
        · exact Document.at?_insert_of_ne q _ fields same
    · contradiction
  · contradiction

end Resource

namespace Collection

/-- The same keys, and under each a resource that is kept outside the paths for its type. -/
def KeptOutside (paths : GroupVersionKind → List FieldPath) (c c' : Collection) : Prop :=
  Pointwise (fun id => Resource.KeptOutside (paths id.type)) c c'

variable {paths more : GroupVersionKind → List FieldPath} {a b c : Collection}

theorem KeptOutside.refl (paths : GroupVersionKind → List FieldPath) (c : Collection) :
    KeptOutside paths c c :=
  Pointwise.refl (fun id => Resource.KeptOutside.refl (paths id.type)) c

theorem KeptOutside.trans (first : KeptOutside paths a b) (second : KeptOutside paths b c) :
    KeptOutside paths a c :=
  Pointwise.trans (fun _ _ _ _ => Resource.KeptOutside.trans) first second

theorem KeptOutside.mono (subset : ∀ type, ∀ path ∈ paths type, path ∈ more type)
    (kept : KeptOutside paths a b) : KeptOutside more a b :=
  Pointwise.mono (fun id _ _ => Resource.KeptOutside.mono (subset id.type)) kept

end Collection

/-! ## The paths of rules -/

namespace PathRule

/-- The paths of the rules for a type. -/
def pathsFor (rules : List PathRule) (type : GroupVersionKind) : List FieldPath :=
  (rules.filter (·.appliesTo type)).map (·.path)

/-- The paths at which a build may write labels and annotations into resources of a type, and the
path of their names. -/
def ownPaths (type : GroupVersionKind) : List FieldPath :=
  ["metadata", "name"] :: pathsFor labels type ++ pathsFor annotations type

/-- The paths at which a build may write references into resources of a type. -/
def referencePaths (type : GroupVersionKind) : List FieldPath :=
  ReferenceRule.references.flatMap fun reference => pathsFor reference.rules type

theorem mem_pathsFor {rules : List PathRule} {type : GroupVersionKind} {path : FieldPath} :
    path ∈ pathsFor rules type ↔ ∃ rule ∈ rules, rule.appliesTo type ∧ rule.path = path := by
  simp [pathsFor, and_assoc]

end PathRule

open PathRule (pathsFor ownPaths referencePaths mem_pathsFor)

/-! ## Passes -/

namespace Pass

open Resource (KeptOutside)

theorem chain_pure (f : Document → Except BuildError Document) (d : Document) (s : Unit) :
    Edit.chain [Edit.pure f] d s = (f d, s) := by
  rw [Edit.chain, Edit.pure]
  split
  · next d' s' ran =>
    obtain ⟨outcome, -⟩ := Prod.mk.inj ran
    rw [Edit.chain, outcome]
  · next e s' ran =>
    obtain ⟨outcome, -⟩ := Prod.mk.inj ran
    rw [outcome]

theorem onString_eq_ok {rule : PathRule} {f : String → Except BuildError String} {d d' : Document} :
    onString f rule d = .ok d' ↔
      ∃ text text', d = .string text ∧ f text = .ok text' ∧ d' = .string text' := by
  cases d with
  | string text =>
    rw [onString, map_eq_ok]
    constructor
    · rintro ⟨text', applied, rfl⟩
      exact ⟨text, text', rfl, applied, rfl⟩
    · rintro ⟨_, text', ⟨⟩, applied, rfl⟩
      exact ⟨text', applied, rfl⟩
  | _ => simp [onString]

theorem updateAt_eq_done {rule : PathRule} {f : Document → Except BuildError Document} {r r' : Resource}
    (ran : updateAt rule f r = .done r') :
    ∃ fields fields', r.object = .map fields ∧ r' = { r with object := .map fields' } ∧
      (FieldPath.editFrom rule.create (.chain [.pure f]) [] rule.path fields ()).1 = .done fields' := by
  rw [updateAt] at ran
  split at ran
  · next fields object =>
    obtain ⟨fields', done, rfl⟩ := Progress.map_eq_done.mp ran
    exact ⟨fields, fields', object, rfl, done⟩
  · simp [Progress.stopped, Progress.done] at ran

theorem updateAt_kept (rule : PathRule) (f : Document → Except BuildError Document) (r : Resource) :
    KeptOutside [rule.path] r (updateAt rule f r).reached := by
  rw [updateAt]
  split
  · next fields object =>
    refine ⟨rfl, fun q apart => ?_⟩
    rw [object]
    exact FieldPath.editFrom_frame rule.create _ rule.path q (apart _ List.mem_cons_self) [] fields ()
  · exact .refl _ r

theorem updateAll_kept (rules : List PathRule) (f : PathRule → Document → Except BuildError Document)
    (type : GroupVersionKind) (r : Resource) :
    KeptOutside (pathsFor rules type) r (updateAll rules f type r).reached := by
  refine Progress.sequence_invariant (.refl _) (fun _ _ _ => .trans) (fun rule member s => ?_) r
  refine (updateAt_kept rule (f rule) s).mono fun path single => ?_
  rw [List.mem_singleton.mp single]
  exact List.mem_map_of_mem member

theorem hashed_kept {id : Identity} {r r' : Resource} (ran : hashed id r = .ok r') :
    KeptOutside [["metadata", "name"]] r r' := by
  rw [hashed] at ran
  split at ran
  · cases ran
    exact .refl _ r
  · contradiction
  · split at ran
    · next renamed =>
      cases ran
      exact Resource.setName_kept renamed
    · contradiction

variable {c c' : Collection}

theorem nameHash_kept (ran : nameHash.run c = .done c') :
    Collection.KeptOutside (fun _ => [["metadata", "name"]]) c c' :=
  (eachResource_eq_done.mp ran).mono fun _ _ _ done =>
    hashed_kept (Progress.ofExcept_eq_done.mp done)

theorem namePrefix_kept {text : String} {rules : List PathRule}
    (ran : (namePrefix text rules).run c = .done c') :
    Collection.KeptOutside (pathsFor rules) c c' := by
  simp only [namePrefix] at ran
  split at ran
  · cases ran
    exact .refl _ c
  · refine (eachResource_eq_done.mp ran).mono fun id r r' done => ?_
    have kept := updateAll_kept rules (onString fun s => .ok (text ++ s)) id.type r
    rwa [done] at kept

theorem mapEntries_kept {name : String} {entries : List (String × String)} {rules : List PathRule}
    (ran : (mapEntries name entries rules).run c = .done c') :
    Collection.KeptOutside (pathsFor rules) c c' := by
  simp only [mapEntries] at ran
  split at ran
  · cases ran
    exact .refl _ c
  · refine (eachResource_eq_done.mp ran).mono fun id r r' done => ?_
    have kept := updateAll_kept rules (addEntries entries) id.type r
    rwa [done] at kept

theorem nameReference_kept {references : List ReferenceRule}
    (ran : (nameReference references).run c = .done c') :
    Collection.KeptOutside
      (fun type => references.flatMap fun reference => pathsFor reference.rules type) c c' := by
  refine (eachResource_eq_done.mp ran).mono fun id r r' done => ?_
  have kept : KeptOutside (references.flatMap fun reference => pathsFor reference.rules id.type) r
      (Progress.done (ε := BuildError) r').reached := by
    rw [← done]
    refine Progress.sequence_invariant (.refl _) (fun _ _ _ => .trans) (fun reference member s => ?_) r
    refine (updateAll_kept reference.rules _ id.type s).mono fun path inside => ?_
    exact List.mem_flatMap.mpr ⟨reference, member, inside⟩
  exact kept

end Pass

/-! ## All passes of a build -/

namespace Application

/-- What the passes before the last make of a collection: hashes, prefixes, labels, annotations. -/
def BeforeReferences (app : Application) (c annotated : Collection) : Prop :=
  ∃ hashed prefixed labelled,
    Pass.nameHash.run c = .done hashed ∧
    (Pass.namePrefix app.manifest.namePrefix PathRule.names).run hashed = .done prefixed ∧
    (Pass.labels app.manifest.objectLabels PathRule.labels).run prefixed = .done labelled ∧
    (Pass.annotations app.manifest.objectAnnotations PathRule.annotations).run labelled = .done annotated

/-- The last pass resolves references. -/
theorem finish_eq_ok {app : Application} {c c' : Collection} :
    app.finish c = .ok c' ↔ ∃ annotated, app.BeforeReferences c annotated ∧
      (Pass.nameReference ReferenceRule.references).run annotated = .done c' := by
  simp only [finish, Progress.toExcept_eq_ok, Pass.inOrder, passes, Progress.sequence_cons_eq_done]
  constructor
  · rintro ⟨hashed, hash, prefixed, prefixing, labelled, labelling, annotated, annotating, last,
      referring, finished⟩
    cases finished
    exact ⟨annotated, ⟨hashed, prefixed, labelled, hash, prefixing, labelling, annotating⟩, referring⟩
  · rintro ⟨annotated, ⟨hashed, prefixed, labelled, hash, prefixing, labelling, annotating⟩, referring⟩
    exact ⟨hashed, hash, prefixed, prefixing, labelled, labelling, annotated, annotating, c',
      referring, rfl⟩

/-- The passes before the last write at names, labels and annotations only. -/
theorem BeforeReferences.kept {app : Application} {c annotated : Collection}
    (before : app.BeforeReferences c annotated) : Collection.KeptOutside ownPaths c annotated := by
  obtain ⟨hashed, prefixed, labelled, hash, prefixing, labelling, annotating⟩ := before
  have hashes : Collection.KeptOutside ownPaths c hashed :=
    (Pass.nameHash_kept hash).mono fun type path member => by simp_all [ownPaths]
  have prefixes : Collection.KeptOutside ownPaths hashed prefixed :=
    (Pass.namePrefix_kept prefixing).mono fun type path member => by
      simp_all [ownPaths, pathsFor, PathRule.names, PathRule.everywhere, PathRule.appliesTo]
  have labels : Collection.KeptOutside ownPaths prefixed labelled :=
    (Pass.mapEntries_kept labelling).mono fun type path member => by simp_all [ownPaths]
  have annotations : Collection.KeptOutside ownPaths labelled annotated :=
    (Pass.mapEntries_kept annotating).mono fun type path member => by simp_all [ownPaths]
  exact ((hashes.trans prefixes).trans labels).trans annotations

/-- A build keeps keys, origins, and what is apart from the paths at which it writes. -/
theorem finish_kept {app : Application} {c c' : Collection} (built : app.finish c = .ok c') :
    Collection.KeptOutside (fun type => ownPaths type ++ referencePaths type) c c' := by
  obtain ⟨annotated, before, referring⟩ := finish_eq_ok.mp built
  have own : Collection.KeptOutside (fun type => ownPaths type ++ referencePaths type) c annotated :=
    before.kept.mono fun type path member => List.mem_append_left _ member
  have references :
      Collection.KeptOutside (fun type => ownPaths type ++ referencePaths type) annotated c' :=
    (Pass.nameReference_kept referring).mono fun type path member => List.mem_append_right _ member
  exact own.trans references

/-- A successful build has the keys and origins of what it has put together, and under each key the
same at every position that is apart from the paths of names, labels, annotations and references. -/
theorem resources_kept {files : FileSystem} {app : Application} {raw built : Collection}
    (ran : app.rawResources files = .ok raw) (finished : app.resources files = .ok built) :
    built.entries.map (fun e => (e.1, e.2.generated)) = raw.entries.map (fun e => (e.1, e.2.generated)) ∧
    ∀ id r, raw.find? id = some r → ∃ r', built.find? id = some r' ∧
      ∀ q : Position, (∀ path ∈ ownPaths id.type ++ referencePaths id.type, FieldPath.Apart path q.keys) →
        r'.object.at? q = r.object.at? q := by
  obtain ⟨raw', again, passed⟩ := bind_eq_ok.mp finished
  cases ran.symm.trans again
  have kept := finish_kept passed
  constructor
  · exact kept.map_eq (fun id r => (id, r.generated)) fun id r r' same => by rw [same.generated]
  · intro id r held
    obtain ⟨r', held', same⟩ := kept.find? held
    exact ⟨r', held', same.at?⟩

/-- The pod keeps its kind. -/
theorem podApp_kept : load podFiles "." = .ok podApp ∧ ∃ raw built r r',
    podApp.rawResources podFiles = .ok raw ∧ podApp.resources podFiles = .ok built ∧
    raw.find? podId = some r ∧ built.find? podId = some r' ∧
    r'.object.at? [.key "kind"] = r.object.at? [.key "kind"] := by
  obtain ⟨raw, built, r, -, ran, finished, held, -⟩ := podApp_refers
  obtain ⟨r', held', same⟩ := (resources_kept ran finished).2 podId r held
  refine ⟨load_podApp, raw, built, r, r', ran, finished, held, held', same [.key "kind"] ?_⟩
  decide

end Application

end KubeOverlay
