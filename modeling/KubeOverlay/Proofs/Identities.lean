import KubeOverlay.Proofs.FinalNames
import KubeOverlay.Proofs.KeyOrder
import KubeOverlay.Proofs.PatchPrecedence
/-!
# Identities and keys

What a build puts together fits the key under which it stands (`Application.rawWithin_fitsKey`): its
content has the type of the key and no other name than that of the key. A patch is found by its own
identity, so it can take the name away from what it is merged onto, but not give it another type or
name (`Patch.merge_identity`). The passes keep types (`Application.finish_hasType`), so what is built is known by the type of
its key and its final name (`Application.finish_identity`).
-/
namespace KubeOverlay

open PathRule (pathsFor ownPaths referencePaths)

theorem Document.stringField?_eq_some {key s : String} {d : Document} :
    d.stringField? key = some s ↔ ∃ fields, d = .map fields ∧ Ordered.find? key fields = some (.string s) := by
  rw [stringField?, Option.bind_eq_some_iff]
  constructor
  · rintro ⟨value, found, text⟩
    cases d with
    | map fields =>
      cases value with
      | string _ =>
        cases text
        exact ⟨fields, rfl, found⟩
      | _ => contradiction
    | _ => contradiction
  · rintro ⟨fields, rfl, found⟩
    exact ⟨.string s, found, rfl⟩

namespace Resource

variable {r r' : Resource} {id : Identity} {type : GroupVersionKind}

theorem required_eq_ok {field s : String} {s? : Option String} :
    required field s? = .ok s ↔ s? = some s := by
  cases s? <;> simp [required]

/-- The content names the type. -/
def HasType (type : GroupVersionKind) (r : Resource) : Prop :=
  ∃ apiVersion kind, r.apiVersion? = some apiVersion ∧ r.kind? = some kind ∧
    .ofApiVersion apiVersion kind = type

theorem HasType.isMap (typed : r.HasType type) : ∃ fields, r.object = .map fields := by
  obtain ⟨apiVersion, -, versioned, -⟩ := typed
  obtain ⟨fields, isMap, -⟩ := Document.stringField?_eq_some.mp versioned
  exact ⟨fields, isMap⟩

theorem identity?_eq_ok : r.identity? = .ok id ↔ r.HasType id.type ∧ r.name? = some id.name := by
  rw [identity?]
  split
  · simp only [bind_eq_ok, required_eq_ok]
    constructor
    · rintro ⟨apiVersion, versioned, kind, ofKind, name, named, last⟩
      cases last
      exact ⟨⟨apiVersion, kind, versioned, ofKind, rfl⟩, named⟩
    · rintro ⟨⟨apiVersion, kind, versioned, ofKind, typed⟩, named⟩
      exact ⟨apiVersion, versioned, kind, ofKind, id.name, named, by rw [typed]; rfl⟩
  · next noMap =>
    refine iff_of_false (by simp) ?_
    rintro ⟨typed, -⟩
    obtain ⟨fields, isMap⟩ := typed.isMap
    exact noMap fields isMap

/-- Content with a type lacks nothing but a name. -/
theorem HasType.identity? (typed : r.HasType type) :
    r.identity? = (⟨type, ·⟩) <$> required "metadata.name" r.name? := by
  obtain ⟨fields, isMap⟩ := typed.isMap
  obtain ⟨apiVersion, kind, versioned, ofKind, rfl⟩ := typed
  rw [Resource.identity?, isMap, versioned, ofKind]
  rfl

theorem HasType.unique {other : GroupVersionKind} (typed : r.HasType type) (typed' : r.HasType other) :
    type = other := by
  obtain ⟨apiVersion, kind, versioned, ofKind, rfl⟩ := typed
  obtain ⟨apiVersion', kind', versioned', ofKind', rfl⟩ := typed'
  cases versioned.symm.trans versioned'
  cases ofKind.symm.trans ofKind'
  rfl

theorem HasType.of_kept (typed : r.HasType type)
    (version : r'.object.at? [.key "apiVersion"] = r.object.at? [.key "apiVersion"])
    (kind : r'.object.at? [.key "kind"] = r.object.at? [.key "kind"]) : r'.HasType type := by
  have sameVersion : r'.apiVersion? = r.apiVersion? := by
    rw [apiVersion?, apiVersion?, Document.stringField?, Document.stringField?, Document.field?_eq_at?,
      Document.field?_eq_at?, version]
  have sameKind : r'.kind? = r.kind? := by
    rw [kind?, kind?, Document.stringField?, Document.stringField?, Document.field?_eq_at?,
      Document.field?_eq_at?, kind]
  rwa [HasType, sameVersion, sameKind]

/-- The content has the type of the key, and no other name. -/
structure FitsKey (id : Identity) (r : Resource) : Prop where
  hasType : r.HasType id.type
  name : ∀ name, r.name? = some name → name = id.name

theorem fitsKey_of_identity? (identity : r.identity? = .ok id) : r.FitsKey id := by
  obtain ⟨typed, named⟩ := identity?_eq_ok.mp identity
  refine ⟨typed, fun name named' => ?_⟩
  rw [named] at named'
  exact (Option.some.inj named').symm

end Resource

/-! ## Identities of merged patches -/

namespace Patch

/-- The patch takes the metadata of its target away: the map under `metadata` says so, and the patch
does not replace its target as a whole. -/
def removesMetadata : Document → Bool
  | .map fields => directive? fields != some "replace" && (Ordered.find? "metadata" fields).any isDelete
  | _ => false

variable {type : GroupVersionKind} {fields base : Fields} {merged : Document} {id : Identity}
  {origin generated : Bool}

/-- A patch gives its own type to what it is merged onto. -/
theorem merge_hasType (sorted : (Document.map fields).Sorted)
    (typed : (Resource.mk (.map fields) origin).HasType id.type)
    (ran : merge type (.map base) (.map fields) = .ok merged) :
    (Resource.mk merged generated).HasType id.type := by
  obtain ⟨apiVersion, kind, versioned, ofKind, typed⟩ := typed
  have given : ∀ key s, key ≠ directiveKey → (Document.map fields).stringField? key = some s →
      merged.stringField? key = some s := by
    intro key s named held
    obtain ⟨_, ⟨⟩, stored⟩ := Document.stringField?_eq_some.mp held
    have result := mergeValue_sets sorted (by simpa using Ne.symm named) (.here stored rfl) ran
    rw [Document.stringField?, Document.field?_eq_at?]
    exact congrArg (Option.bind · Document.string?) result
  exact ⟨apiVersion, kind, given _ _ (by decide) versioned, given _ _ (by decide) ofKind, typed⟩

/-- A patch gives its own name to what it is merged onto, or none where it removes the metadata. -/
theorem merge_name? (sorted : (Document.map fields).Sorted)
    (named : (Resource.mk (.map fields) origin).name? = some id.name)
    (ran : merge type (.map base) (.map fields) = .ok merged) :
    (Resource.mk merged generated).name? = if removesMetadata (.map fields) then none else some id.name := by
  obtain ⟨metadata, stored, inside⟩ := Option.bind_eq_some_iff.mp named
  obtain ⟨inner, rfl, nameField⟩ := Document.stringField?_eq_some.mp inside
  rw [Document.field?] at stored
  by_cases replaces : directive? fields = some "replace"
  · have keeps : removesMetadata (.map fields) = false := by simp [removesMetadata, replaces]
    rcases mergeValue_map_cases ran with ⟨rfl, -⟩ | ⟨_, _, -, merges, -⟩
    · have apart : directiveKey ∉ Position.keys [.key "metadata", .key "name"] := by decide
      rw [keeps, Resource.name?_eq_at?, at?_strip, if_neg apart]
      simp [stored, nameField, strip, Document.string?]
    · exact absurd replaces merges
  · by_cases deletes : directive? inner = some "delete"
    · have removes : removesMetadata (.map fields) = true := by
        simp [removesMetadata, replaces, stored, isDelete, deletes]
      rcases mergeValue_map_cases ran with ⟨-, whole | noMap⟩ | ⟨_, m, ⟨⟩, -, merges, rfl⟩
      · exact absurd whole replaces
      · contradiction
      · have named : "metadata" ≠ directiveKey := by decide
        have result := mergeFields_field (Document.sorted_map_iff.mp sorted).1 named merges
        rw [stored, mergedField_removed (by simp [stays, isDelete, deletes])] at result
        rw [removes, Resource.name?, Document.field?, ← Except.ok.inj result]
        rfl
    · have keeps : removesMetadata (.map fields) = false := by
        simp [removesMetadata, stored, isDelete, deletes]
      have result := mergeValue_sets sorted (by decide) (.deeper stored deletes (.here nameField rfl)) ran
      rw [keeps, Resource.name?_eq_at?]
      exact congrArg (Option.bind · Document.string?) result

/-- What a map has of its identity once a patch with an identity is merged onto it. -/
theorem merge_identity {patch : Document} (sorted : patch.Sorted)
    (identity : (Resource.mk patch origin).identity? = .ok id)
    (ran : merge type (.map base) patch = .ok merged) : (Resource.mk merged generated).HasType id.type ∧
      (Resource.mk merged generated).name? = if removesMetadata patch then none else some id.name := by
  obtain ⟨typed, named⟩ := Resource.identity?_eq_ok.mp identity
  obtain ⟨fields, isMap⟩ := typed.isMap
  obtain rfl : patch = .map fields := isMap
  exact ⟨merge_hasType sorted typed ran, merge_name? sorted named ran⟩

end Patch

/-! ## Builds -/

/-- No pass writes at `apiVersion` or `kind`. -/
theorem PathRule.apart_type {type : GroupVersionKind} {path : FieldPath}
    (member : path ∈ ownPaths type ++ referencePaths type) :
    FieldPath.Apart path ["apiVersion"] ∧ FieldPath.Apart path ["kind"] := by
  have own : ∀ path ∈ ["metadata", "name"] :: (labels ++ annotations).map (·.path),
      FieldPath.Apart path ["apiVersion"] ∧ FieldPath.Apart path ["kind"] := by
    decide +kernel
  have references : ∀ e ∈ ReferenceRule.lookups,
      FieldPath.Apart e.2.path ["apiVersion"] ∧ FieldPath.Apart e.2.path ["kind"] := by
    decide +kernel
  rcases List.mem_append.mp member with isOwn | isReference
  · refine own path ?_
    simp only [ownPaths, pathsFor, List.cons_append, List.mem_cons, List.mem_append, List.mem_map,
      List.mem_filter] at isOwn ⊢
    grind
  · obtain ⟨e, applied, rfl⟩ := ReferenceRule.mem_referencePaths.mp isReference
    exact references e (ReferenceRule.mem_lookupsFor.mp applied).1

namespace Application

variable {files : FileSystem} {app : Application} {c c' raw : Collection} {levels : Nat}

theorem throughout_fitsKey : Throughout files fun id r => r.FitsKey id where
  decoded _ _ _ _ identity := Resource.fitsKey_of_identity? identity
  based _ _ _ _ _ _ _ _ _ identity := Resource.fitsKey_of_identity? identity
  patched id base text d merged fits member identity ran := by
    obtain ⟨held, isMap⟩ := fits.hasType.isMap
    rw [isMap] at ran
    obtain ⟨typed, named⟩ := Patch.merge_identity (Yaml.sorted_of_mem_documents member) identity ran
    refine ⟨typed, fun name isName => ?_⟩
    rw [named] at isName
    split at isName
    · contradiction
    · exact (Option.some.inj isName).symm
  configMap _ _ _ _ _ identity := Resource.fitsKey_of_identity? identity
  secret _ _ _ _ _ identity := Resource.fitsKey_of_identity? identity

theorem rawWithin_fitsKey (ran : rawWithin files levels app = .ok raw) : raw.All fun id r => r.FitsKey id :=
  rawWithin_all throughout_fitsKey ran

theorem finish_hasType (finished : app.finish c = .ok c') :
    Collection.Pointwise (fun _ r r' => ∀ type, r.HasType type → r'.HasType type) c c' := by
  refine Collection.Pointwise.mono (fun id r r' kept type typed => ?_) (finish_kept finished)
  refine typed.of_kept ?_ ?_
  · exact kept.at? [.key "apiVersion"] fun path member => (PathRule.apart_type member).1
  · exact kept.at? [.key "kind"] fun path member => (PathRule.apart_type member).2

/-- What is built is known by the type of its key and the final form of the name of its key. -/
theorem finish_identity (kinds : c.GeneratedKinds) (fits : c.All fun id r => r.FitsKey id)
    (finished : app.finish c = .ok c') {id final : Identity} {r' : Resource}
    (held : c'.find? id = some r') (identity : r'.identity? = .ok final) :
    ∃ r suffix, c.find? id = some r ∧ Pass.NameSuffix id.type.kind r suffix ∧
      final = ⟨id.type, app.manifest.namePrefix ++ (id.name ++ suffix)⟩ := by
  obtain ⟨r, before, suffix, isSuffix, name⟩ := (finish_finallyNamed kinds finished).symm.find? held
  obtain ⟨r'', again, keptType⟩ := (finish_hasType finished).find? before
  cases held.symm.trans again
  have fit := fits id r before
  obtain ⟨typed, named⟩ := Resource.identity?_eq_ok.mp identity
  rw [named] at name
  obtain ⟨declared, stored, final'⟩ := Option.map_eq_some_iff.mp name.symm
  rw [fit.name declared stored] at final'
  refine ⟨r, suffix, before, isSuffix, ?_⟩
  rw [final', ← typed.unique (keptType _ fit.hasType)]

end Application

end KubeOverlay
