import KubeOverlay.Proofs.Identities
import KubeOverlay.Proofs.StableReferences
/-!
# Overlays that add nothing

A manifest that lists one base and nothing else gives the objects that the base gives, under their
final identities (`Application.resources_passThrough`): its passes have nothing to add, and the
references that it looks up again are final. It may fail where the base does not, since it needs
identities, distinct ones and unambiguous, and one level more of bases.
-/
namespace KubeOverlay

open PathRule (referencePaths)
open Progress (Idle)

/-! ## Failing with some errors only -/

section Failing

variable {ε α β : Type} {P Q : ε → Prop}

/-- A result, or an error with a property. -/
def OkOr (P : ε → Prop) (x : Except ε α) : Prop := (∃ a, x = .ok a) ∨ ∃ e, x = .error e ∧ P e

theorem OkOr.foldlM {f : β → α → Except ε β} {l : List α} (each : ∀ a ∈ l, ∀ b, OkOr P (f b a)) (b : β) :
    OkOr P (l.foldlM f b) := by
  induction l generalizing b with
  | nil => exact .inl ⟨b, rfl⟩
  | cons a rest ih =>
    rw [List.forall_mem_cons] at each
    rw [List.foldlM_cons]
    rcases each.1 b with ⟨between, here⟩ | ⟨e, here, holds⟩
    · rw [here]
      exact ih each.2 between
    · rw [here]
      exact .inr ⟨e, rfl, holds⟩

/-- What the other one gives, or an error with a property. -/
def SameOr (P : ε → Prop) (x y : Except ε α) : Prop := x = y ∨ ∃ e, x = .error e ∧ P e

theorem SameOr.bind {x y : Except ε α} {f g : α → Except ε β} (first : SameOr P x y)
    (later : ∀ a, SameOr P (f a) (g a)) : SameOr P (x >>= f) (y >>= g) := by
  rcases first with rfl | ⟨e, rfl, holds⟩
  · cases x with
    | error e => exact .inl rfl
    | ok a => exact later a
  · exact .inr ⟨e, rfl, holds⟩

theorem SameOr.foldlM {f g : β → α → Except ε β} (each : ∀ b a, SameOr P (f b a) (g b a)) (l : List α)
    (b : β) : SameOr P (l.foldlM f b) (l.foldlM g b) := by
  induction l generalizing b with
  | nil => exact .inl rfl
  | cons a rest ih =>
    rw [List.foldlM_cons, List.foldlM_cons]
    exact .bind (each b a) ih

end Failing

/-- A content that names its type has an identity, unless it has no name. -/
theorem Resource.identity?_of_hasType {r : Resource} {type : GroupVersionKind} (typed : r.HasType type) :
    (∃ id, r.identity? = .ok id) ∨ r.identity? = .error (.missingField "metadata.name") := by
  obtain ⟨apiVersion, kind, versioned, ofKind, -⟩ := id typed
  cases named : r.name? with
  | some name => exact .inl ⟨⟨type, name⟩, identity?_eq_ok.mpr ⟨typed, named⟩⟩
  | none =>
    obtain ⟨fields, object, -⟩ := Document.stringField?_eq_some.mp versioned
    right
    rw [identity?, object, versioned, ofKind, named]
    rfl

namespace Application

variable {files : FileSystem} {app below : Application} {base : String} {raw built c : Collection}
  {levels : Nat}

/-! ## One level less -/

/-- Too many bases lie below one another. -/
def TooDeep (e : BuildError) : Prop := ∃ base, e = .manifest (.basesTooDeep base)

theorem addBases_fewer (below : ∀ below app, levels = below + 1 →
      SameOr TooDeep (rawWithin files below app) (rawWithin files levels app)) (c : Collection) :
    SameOr TooDeep (addBases files levels app c) (addBases files (levels + 1) app c) := by
  cases levels with
  | zero =>
    rw [addBases, addBases]
    cases app.manifest.bases with
    | nil => exact .inl rfl
    | cons base rest => exact .inr ⟨_, rfl, base, rfl⟩
  | succ levels =>
    rw [addBases, addBases]
    refine .foldlM (fun c base => ?_) _ c
    refine .bind (.inl rfl) fun app' => .bind (below levels app' rfl) fun raw => .inl rfl

/-- With one level less for bases, a build puts together the same, or the bases lie too deep. -/
theorem rawWithin_fewer : SameOr TooDeep (rawWithin files levels app) (rawWithin files (levels + 1) app) := by
  induction levels using Nat.strongRecOn generalizing app with
  | ind levels ih =>
    rw [rawWithin_eq, rawWithin_eq]
    refine .bind (.inl rfl) fun c => .bind (addBases_fewer (fun fewer app' less => ?_) c) fun c => .inl rfl
    subst less
    exact ih fewer fewer.lt_succ_self

/-! ## The resources of the base -/

/-- The manifest lists one base and has nothing to add to it. -/
structure AddsNothing (app : Application) (base : String) : Prop where
  bases : app.manifest.bases = [base]
  resources : app.manifest.resources = []
  patches : app.manifest.patches = []
  configMaps : app.manifest.configMaps = []
  secrets : app.manifest.secrets = []
  namePrefix : app.manifest.namePrefix = ""
  objectLabels : app.manifest.objectLabels = []
  objectAnnotations : app.manifest.objectAnnotations = []

theorem rawResources_of_addsNothing (nothing : app.AddsNothing base)
    (loaded : load files (Path.join app.directory base) = .ok below) :
    app.rawResources files = (do
      addBuilt .empty (← below.finish (← rawWithin files (Manifest.maxBaseDepth - 1) below))) := by
  have unpatched (c : Collection) : app.patched files c = .ok c := by
    rw [patched, nothing.patches]
    rfl
  have ungenerated (c : Collection) : app.generated files c = .ok c := by
    rw [generated, nothing.configMaps, nothing.secrets]
    rfl
  have listed : app.decodeFiles files app.manifest.resources = .ok .empty := by
    rw [nothing.resources]
    rfl
  have rebased : addBases files Manifest.maxBaseDepth app .empty = (do
      addBuilt .empty (← below.finish (← rawWithin files (Manifest.maxBaseDepth - 1) below))) := by
    rw [Manifest.maxBaseDepth, addBases, nothing.bases, List.foldlM_cons, loaded]
    simp only [List.foldlM_nil, bind_pure]
    rfl
  rw [rawResources, rawWithin_eq, listed]
  have last (c : Collection) : (do app.generated files (← app.patched files c)) = Except.ok c := by
    rw [unpatched]
    exact ungenerated c
  simp only [last]
  exact (bind_pure _).trans rebased

/-- What is built can come in above, unless one has no name or the identity of another. -/
theorem addBuilt_okOr (typed : built.All fun id r => r.HasType id.type) (c : Collection) :
    OkOr (fun e => e = .resource (.missingField "metadata.name") ∨ ∃ id, e = .resource (.duplicate id))
      (addBuilt c built) := by
  have lifted {x : Except ResourceError Collection}
      (outcome : OkOr (fun e => e = .missingField "metadata.name" ∨ ∃ id, e = .duplicate id) x) :
      OkOr (fun e => e = .resource (.missingField "metadata.name") ∨ ∃ id, e = .resource (.duplicate id))
        (liftResource x) := by
    rcases outcome with ⟨a, rfl⟩ | ⟨_, rfl, rfl | ⟨id, rfl⟩⟩
    · exact .inl ⟨a, rfl⟩
    · exact .inr ⟨_, rfl, .inl rfl⟩
    · exact .inr ⟨_, rfl, .inr ⟨id, rfl⟩⟩
  refine lifted (.foldlM (fun e member c => ?_) c)
  have hasType : (Resource.mk e.2.object false).HasType e.1.type := Collection.all_iff.mp typed e member
  rw [Collection.add]
  rcases Resource.identity?_of_hasType hasType with ⟨id, identity⟩ | nameless
  · rw [identity]
    cases taken : c.contains id with
    | false => exact .inl ⟨c.put id _, if_neg (by simp [taken])⟩
    | true => exact .inr ⟨.duplicate id, if_pos taken, .inr ⟨id, rfl⟩⟩
  · rw [nameless]
    exact .inr ⟨_, rfl, .inl rfl⟩

/-! ## The passes again -/

theorem built_hasType (ran : rawWithin files levels below = .ok raw) (finished : below.finish raw = .ok built) :
    built.All fun id r => r.HasType id.type := by
  intro id r held
  obtain ⟨r', before, kept⟩ := (finish_hasType finished).symm.find? held
  exact kept _ (rawWithin_fitsKey ran id r' before).hasType

/-- Once more, the passes of a manifest that adds nothing change nothing about what is built. -/
theorem passes_idle (nothing : app.AddsNothing base) (ran : rawWithin files levels below = .ok raw)
    (finished : below.finish raw = .ok built) {part : List Entry}
    (rebased : List.Forall₂ Rebased built.entries part) (perm : c.entries.Perm part) :
    Idle BuildError.Ambiguous c ((Pass.inOrder app.passes).run c) := by
  -- Every resource is one that is built, plain, and under its identity.
  have origin : c.All fun id r => r.generated = false ∧ r.identity? = .ok id ∧
      ∃ key r', built.find? key = some r' ∧ r.object = r'.object := by
    refine Collection.all_iff.mpr fun e member => ?_
    obtain ⟨e', before, plain, identity⟩ := exists_of_mem_right rebased (perm.subset member)
    exact ⟨by rw [plain], identity, e'.1, e'.2, Collection.mem_entries.mp before, by rw [plain]⟩
  refine Progress.Idle.sequence fun pass member => ?_
  simp only [passes, nothing.namePrefix, nothing.objectLabels, nothing.objectAnnotations, List.mem_cons,
    List.not_mem_nil, or_false] at member
  rcases member with rfl | rfl | rfl | rfl | rfl
  -- Nothing is generated any more, so nothing is hashed again.
  · refine Pass.eachResource_idle (fun _ _ ambiguous => ambiguous) fun id r held => .inl ?_
    rw [Pass.hashed, Pass.hash?, (origin id r held).1]
    rfl
  -- There is no prefix and there are no labels and annotations.
  · exact .inl rfl
  · exact .inl rfl
  · exact .inl rfl
  -- The references were looked up when the base was built.
  · refine Pass.nameReference_idle ?_ ?_ ?_
    · intro id r held name named
      have identity := Resource.identity?_eq_ok.mp (origin id r held).2.1
      exact Option.some.inj (named.symm.trans identity.2)
    · intro id r held
      obtain ⟨-, -, key, r', before, same⟩ := origin id r held
      rw [same]
      exact finish_sorted (rawWithin_sorted ran) finished key r' before
    · intro id r held path member
      obtain ⟨-, identity, key, r', before, same⟩ := origin id r held
      have typed : r'.HasType id.type := by
        have own := (Resource.identity?_eq_ok.mp identity).1
        rw [Resource.HasType, Resource.apiVersion?, Resource.kind?, same] at own
        exact own
      have sameType := typed.unique (built_hasType ran finished key r' before)
      rw [sameType] at member
      obtain ⟨annotated, -, referring⟩ := finish_eq_ok.mp finished
      obtain ⟨-, -, leads⟩ := (Pass.nameReference_leads referring).symm.find? before
      obtain ⟨fields, object, leads⟩ := leads path member
      exact ⟨fields, same.trans object, leads⟩

theorem finish_again (nothing : app.AddsNothing base) (ran : rawWithin files levels below = .ok raw)
    (finished : below.finish raw = .ok built) {part : List Entry}
    (rebased : List.Forall₂ Rebased built.entries part) (perm : c.entries.Perm part) :
    SameOr BuildError.Ambiguous (app.finish c) (.ok c) := by
  rw [finish]
  rcases passes_idle nothing ran finished rebased perm with done | ⟨reached, e, stopped, ambiguous⟩
  · rw [done]
    exact .inl rfl
  · rw [stopped]
    exact .inr ⟨e, rfl, ambiguous⟩

/-- The errors with which a manifest that adds nothing may end: a resource has no name, two have one
identity, a reference is ambiguous, or the bases lie too deep. -/
inductive PassThroughError : BuildError → Prop where
  | nameless : PassThroughError (.resource (.missingField "metadata.name"))
  | duplicate (id : Identity) : PassThroughError (.resource (.duplicate id))
  | ambiguous {e : BuildError} : e.Ambiguous → PassThroughError e
  | tooDeep (base : String) : PassThroughError (.manifest (.basesTooDeep base))

/-- A manifest that lists one base and adds nothing gives the objects that the base gives, each under
its final identity and as a plain one, or it ends with one of a few errors. -/
theorem resources_passThrough (nothing : app.AddsNothing base)
    (loaded : load files (Path.join app.directory base) = .ok below)
    (finished : below.resources files = .ok built) :
    (∃ e, app.resources files = .error e ∧ PassThroughError e) ∨
      ∃ built' part, app.resources files = .ok built' ∧ List.Forall₂ Rebased built.entries part ∧
        built'.entries.Perm part := by
  obtain ⟨raw, ran, passed⟩ := bind_eq_ok.mp finished
  rw [resources, rawResources_of_addsNothing nothing loaded]
  have fewer : SameOr TooDeep (rawWithin files (Manifest.maxBaseDepth - 1) below)
      (rawWithin files Manifest.maxBaseDepth below) := rawWithin_fewer
  rcases fewer with same | ⟨_, deep, base, rfl⟩
  · have again : rawWithin files (Manifest.maxBaseDepth - 1) below = .ok raw := same.trans ran
    have typed := built_hasType ran passed
    rw [again]
    simp only [bind, Except.bind, passed]
    rcases addBuilt_okOr typed .empty with ⟨c, added⟩ | ⟨e, failed, nameless | ⟨id, duplicate⟩⟩
    · obtain ⟨part, rebased, perm⟩ := addBuilt_eq_ok_iff.mp added
      have none : Collection.empty.entries = [] := rfl
      rw [none, List.append_nil] at perm
      rw [added]
      rcases finish_again nothing ran passed rebased perm with same | ⟨e, failed, ambiguous⟩
      · exact .inr ⟨c, part, same, rebased, perm⟩
      · exact .inl ⟨e, failed, .ambiguous ambiguous⟩
    · rw [failed]
      exact .inl ⟨e, rfl, nameless ▸ .nameless⟩
    · rw [failed]
      exact .inl ⟨e, rfl, duplicate ▸ .duplicate id⟩
  · rw [deep]
    exact .inl ⟨_, rfl, .tooDeep base⟩

/-! ## An overlay on a pod and the ConfigMap that it mounts -/

/-- A manifest over the directory of the pod. -/
def plainFiles : FileSystem where
  top := .directory [textFile Manifest.fileName "bases:\n- b\n", ("b", podDirectory)]
  workingDirectory := []

/-- An application that lists the directory and adds nothing. -/
def plainOverlay : Application where
  directory := "."
  manifest := { bases := ["b"] }

def plainBase : Application := { podApp with directory := "./b" }

theorem load_plainFiles : load plainFiles "." = .ok plainOverlay ∧
    load plainFiles (Path.join "." "b") = .ok plainBase := by
  decide +kernel

theorem plainOverlay_addsNothing : plainOverlay.AddsNothing "b" := by
  constructor <;> rfl

/-- The overlay gives what the directory gives: the ConfigMap has its prefix and its hash once, and the pod
refers to it. -/
theorem plainOverlay_passThrough : load plainFiles "." = .ok plainOverlay ∧ ∃ built built' part,
    load plainFiles (Path.join "." "b") = .ok plainBase ∧ plainBase.resources plainFiles = .ok built ∧
    plainOverlay.resources plainFiles = .ok built' ∧ List.Forall₂ Rebased built.entries part ∧
    built'.entries.Perm part ∧
    built'.ids = [⟨settingsId.type, "x-settings-5bftf925t6"⟩, ⟨podId.type, "x-web"⟩] ∧
    ∃ pod, built'.find? ⟨podId.type, "x-web"⟩ = some pod ∧
      (pod.object.at? mounted).bind Document.string? = some "x-settings-5bftf925t6" := by
  have evaluated : ((plainBase.resources plainFiles).toOption.bind fun _ =>
      (plainOverlay.resources plainFiles).toOption.bind fun built' =>
      (built'.find? ⟨podId.type, "x-web"⟩).map fun pod =>
        (built'.ids, (pod.object.at? mounted).bind Document.string?)) =
      some ([⟨settingsId.type, "x-settings-5bftf925t6"⟩, ⟨podId.type, "x-web"⟩],
        some "x-settings-5bftf925t6") := by
    decide +kernel
  obtain ⟨built, finished, rest⟩ := Option.bind_eq_some_iff.mp evaluated
  obtain ⟨built', succeeds, rest⟩ := Option.bind_eq_some_iff.mp rest
  obtain ⟨pod, held, both⟩ := Option.map_eq_some_iff.mp rest
  obtain ⟨ids, refers⟩ := Prod.mk.inj both
  rw [toOption_eq_some] at finished succeeds
  rcases resources_passThrough plainOverlay_addsNothing load_plainFiles.2 finished with
    ⟨e, failed, -⟩ | ⟨again, part, succeeded, rebased, perm⟩
  · cases succeeds.symm.trans failed
  · cases succeeds.symm.trans succeeded
    exact ⟨load_plainFiles.1, built, built', part, load_plainFiles.2, finished, succeeds, rebased, perm, ids,
      pod, held, refers⟩

end Application

end KubeOverlay
