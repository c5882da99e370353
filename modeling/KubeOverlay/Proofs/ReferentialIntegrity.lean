import KubeOverlay.Proofs.FinalNames
import KubeOverlay.Proofs.References
/-!
# Referential integrity

Who refers to a resource by the name it was declared with refers to it by its final name after a
build (`resources_refer`). The passes before the last leave references alone, and the last one finds
all names in their final form, which it keeps.
-/
namespace KubeOverlay

open PathRule (ownPaths referencePaths)
open ReferenceRule (Listed selectorsAt)

/-- A path that is listed for one kind only is looked at once. -/
theorem ReferenceRule.selectorsAt_of_only {type : GroupVersionKind} {path : FieldPath} {kind : String}
    (listed : Listed type path kind) (only : ∀ other, Listed type path other → other = kind) :
    selectorsAt type path = [.ofKind kind] := by
  rcases selectorsAt_cases listed with one | ⟨-, -, two⟩
  · exact one
  · have role : Listed type path "Role" := listed_iff.mpr (by rw [two]; exact List.mem_cons_self)
    have clusterRole : Listed type path "ClusterRole" := listed_iff.mpr (by rw [two]; simp)
    have same := (only "Role" role).trans (only "ClusterRole" clusterRole).symm
    contradiction

namespace Application

variable {app : Application} {raw c built : Collection} {kind declared : String} {t : Identity}

/-- What is declared has its final name once names are final. -/
theorem declares_of_raw (final : Collection.Pointwise app.FinallyNamed raw c) {name : String}
    (declares : raw.Declares kind declared t name) :
    ∃ target suffix, raw.find? t = some target ∧ Pass.NameSuffix t.type.kind target suffix ∧
      c.Declares kind declared t (app.manifest.namePrefix ++ (name ++ suffix)) := by
  obtain ⟨isKind, isDeclared, target, held, named⟩ := declares
  obtain ⟨target', held', suffix, isSuffix, name'⟩ := final.find? held
  refine ⟨target, suffix, held, isSuffix, isKind, isDeclared, target', held', ?_⟩
  rw [name', named, Option.map_some]

/-- What has a final name was declared. -/
theorem raw_declares (final : Collection.Pointwise app.FinallyNamed raw c) {current : String}
    (declares : c.Declares kind declared t current) : ∃ name, raw.Declares kind declared t name := by
  obtain ⟨isKind, isDeclared, target', held', named⟩ := declares
  obtain ⟨target, held, suffix, -, name'⟩ := final.symm.find? held'
  rw [named] at name'
  obtain ⟨name, stored, -⟩ := Option.map_eq_some_iff.mp name'.symm
  exact ⟨name, isKind, isDeclared, target, held, stored⟩

/-- A reference to one kind is looked up once, among final names. -/
theorem finish_reference (kinds : raw.GeneratedKinds) (finished : app.finish raw = .ok built)
    {id : Identity} {r : Resource} (held : raw.find? id = some r) {q : Position}
    (listed : Listed id.type q.keys kind) (only : ∀ other, Listed id.type q.keys other → other = kind)
    (stored : r.object.at? q = some (.string declared)) :
    ∃ annotated r' text, Collection.Pointwise app.FinallyNamed raw annotated ∧
      Collection.Pointwise (fun _ r r' => r'.name? = r.name?) annotated built ∧
      built.find? id = some r' ∧
      Pass.resolve (Pass.namedResources annotated) (.ofKind kind) declared = .ok text ∧
      r'.object.at? q = some (.string text) := by
  obtain ⟨annotated, before, referring⟩ := finish_eq_ok.mp finished
  have final := before.finallyNamed kinds
  have isReference := ReferenceRule.mem_referencePaths_of_listed listed
  obtain ⟨between, held', same⟩ := before.kept.find? held
  have untouched : between.object.at? q = some (.string declared) := by
    rw [same.at? q fun path own => (ReferenceRule.referencePaths_apart_own isReference own).symm]
    exact stored
  obtain ⟨r', text, held'', resolved, stored'⟩ :=
    Pass.nameReference_at referring held' isReference untouched
  rw [ReferenceRule.selectorsAt_of_only listed only] at resolved
  obtain ⟨text', found, last⟩ := foldlM_cons_eq_ok.mp resolved
  cases last
  exact ⟨annotated, r', text, final, Pass.nameReference_name? referring, held'', found, stored'⟩

/-- At a path that is listed for one kind, a build replaces the declared name of a resource of this
kind by its final name, leaves a name that no resource of this kind is declared with, and does not
succeed if two are declared with it. -/
theorem resources_refer {files : FileSystem} (ran : app.rawResources files = .ok raw) {id : Identity}
    {r : Resource} (held : raw.find? id = some r) {q : Position} (listed : Listed id.type q.keys kind)
    (only : ∀ other, Listed id.type q.keys other → other = kind)
    (stored : r.object.at? q = some (.string declared)) :
    (∀ built, app.resources files = .ok built → ∃ r', built.find? id = some r' ∧
      (∀ t name, raw.Declares kind declared t name → ∃ target target' suffix,
        raw.find? t = some target ∧ Pass.NameSuffix t.type.kind target suffix ∧
        built.find? t = some target' ∧
        target'.name? = some (app.manifest.namePrefix ++ (name ++ suffix)) ∧
        r'.object.at? q = some (.string (app.manifest.namePrefix ++ (name ++ suffix)))) ∧
      ((∀ t name, ¬ raw.Declares kind declared t name) →
        r'.object.at? q = some (.string declared))) ∧
    (∀ t u name other, raw.Declares kind declared t name → raw.Declares kind declared u other → t ≠ u →
      ∀ built, app.resources files ≠ .ok built) := by
  have kinds := rawResources_generatedKinds ran
  have named := ReferenceRule.listed_named listed
  constructor
  · intro built finished
    obtain ⟨raw', again, passed⟩ := bind_eq_ok.mp finished
    cases ran.symm.trans again
    obtain ⟨annotated, r', text, final, same, held', found, stored'⟩ :=
      finish_reference kinds passed held listed only stored
    refine ⟨r', held', ?_, ?_⟩
    · intro t name declares
      obtain ⟨target, suffix, targetHeld, isSuffix, declares'⟩ := declares_of_raw final declares
      have current : text = app.manifest.namePrefix ++ (name ++ suffix) := by
        rcases Pass.resolve_eq_ok named found with ⟨u, -, unique⟩ | ⟨-, none⟩
        · exact (unique _ _ declares').2.symm
        · exact absurd declares' (none _ _)
      obtain ⟨-, -, between, betweenHeld, betweenName⟩ := declares'
      obtain ⟨target', targetHeld', kept⟩ := same.find? betweenHeld
      rw [current] at stored'
      exact ⟨target, target', suffix, targetHeld, isSuffix, targetHeld', kept.trans betweenName, stored'⟩
    · intro none
      rcases Pass.resolve_eq_ok named found with ⟨u, declares', -⟩ | ⟨rfl, -⟩
      · obtain ⟨name, declares⟩ := raw_declares final declares'
        exact absurd declares (none u name)
      · exact stored'
  · intro t u name other first second differ built finished
    obtain ⟨raw', again, passed⟩ := bind_eq_ok.mp finished
    cases ran.symm.trans again
    obtain ⟨annotated, r', text, final, -, -, found, -⟩ :=
      finish_reference kinds passed held listed only stored
    obtain ⟨-, suffix, -, -, first'⟩ := declares_of_raw final first
    obtain ⟨-, suffix', -, -, second'⟩ := declares_of_raw final second
    rcases Pass.resolve_eq_ok named found with ⟨v, -, unique⟩ | ⟨-, none⟩
    · exact differ ((unique _ _ first').1.trans (unique _ _ second').1.symm)
    · exact none _ _ first'

/-- The pod refers to the final name of the ConfigMap. -/
theorem podApp_refer : load podFiles "." = .ok podApp ∧ ∃ raw built r' m' suffix,
    podApp.rawResources podFiles = .ok raw ∧ podApp.resources podFiles = .ok built ∧
    built.find? podId = some r' ∧ built.find? settingsId = some m' ∧
    m'.name? = some ("x-" ++ ("settings" ++ suffix)) ∧
    r'.object.at? mounted = some (.string ("x-" ++ ("settings" ++ suffix))) := by
  obtain ⟨raw, built, r, m, ran, finished, held, stored, held', named⟩ := podApp_refers
  have once : selectorsAt podId.type mounted.keys = [.ofKind "ConfigMap"] := by decide
  have listed : Listed podId.type mounted.keys "ConfigMap" :=
    ReferenceRule.listed_iff.mpr (by rw [once]; exact List.mem_singleton_self _)
  have only : ∀ other, Listed podId.type mounted.keys other → other = "ConfigMap" := by
    intro other listed
    rw [ReferenceRule.listed_iff, once, List.mem_singleton] at listed
    exact congrArg GroupVersionKind.kind listed
  have declares : raw.Declares "ConfigMap" "settings" settingsId "settings" :=
    ⟨rfl, rfl, m, held', named⟩
  obtain ⟨r', built_r', refers, -⟩ := (resources_refer ran held listed only stored).1 built finished
  obtain ⟨-, m', suffix, -, -, built_m', name, text⟩ := refers settingsId "settings" declares
  exact ⟨load_podApp, raw, built, r', m', suffix, ran, finished, built_r', built_m', name, text⟩

end Application

end KubeOverlay
