import KubeOverlay.Proofs.KeyOrder
import Mathlib.Data.List.Perm.Basic
/-!
# The order of lists in manifests

A build puts entries together that all have different keys, and a collection is in key order, however
its entries have come in. So the lists of manifests may be in any order: a build succeeds in one order
exactly if it does in another, and gives the same (`Application.resources_reordered`). This holds for
the manifests of bases as well, which may differ in order from one file tree to another: what is loaded
from one can be loaded from the other (`Application.ManifestReordered.exists_load`).

The files that the manifests list are taken as they are, so they must be the same in both trees. A
manifest that lists a manifest makes an object of its text, and with it of the order in it
(`Application.selfListing_differs`).
-/
namespace KubeOverlay

/-! ## Lists in another order -/

section Lists

variable {α β : Type} {R : α → α → Prop} {l l' : List α}

/-- A list in another order, with entries that are related to the old ones. -/
def ReorderedBy (R : α → α → Prop) (l l' : List α) : Prop :=
  ∃ between, l.Perm between ∧ List.Forall₂ R between l'

theorem reorderedBy_of_perm (perm : l.Perm l') : ReorderedBy Eq l l' :=
  ⟨l', perm, List.forall₂_refl l'⟩

theorem ReorderedBy.symm (symmetric : ∀ a a', R a a' → R a' a) (reordered : ReorderedBy R l l') :
    ReorderedBy R l' l := by
  obtain ⟨between, perm, related⟩ := reordered
  obtain ⟨between', related', perm'⟩ := List.perm_comp_forall₂ perm related
  exact ⟨between', perm'.symm, related'.flip.imp fun a a' holds => symmetric a' a holds⟩

theorem ReorderedBy.exists_of_mem (reordered : ReorderedBy R l l') {a' : α} (member : a' ∈ l') :
    ∃ a ∈ l, R a a' := by
  obtain ⟨between, perm, related⟩ := reordered
  obtain ⟨a, inside, holds⟩ := exists_of_mem_right related member
  exact ⟨a, perm.symm.subset inside, holds⟩

theorem ReorderedBy.any_eq {p : α → Bool} (same : ∀ a a', R a a' → p a' = p a)
    (reordered : ReorderedBy R l l') : l'.any p = l.any p := by
  obtain ⟨between, perm, related⟩ := reordered
  have along : l'.any p = between.any p := by
    clear perm
    induction related with
    | nil => rfl
    | cons holds _ ih => rw [List.any_cons, List.any_cons, same _ _ holds, ih]
  rw [along, perm.any_eq]

/-- What entries bring, those of the list in another order bring in another order. -/
theorem ReorderedBy.forall₂ {B B' : α → β → Prop} {parts : List β} (reordered : ReorderedBy R l l')
    (transfer : ∀ a ∈ l, ∀ a' b, R a a' → B a b → B' a' b) (brings : List.Forall₂ B l parts) :
    ∃ parts', List.Forall₂ B' l' parts' ∧ parts'.Perm parts := by
  obtain ⟨between, perm, related⟩ := reordered
  have members := (List.forall₂_and_left l parts).mpr ⟨fun _ member => member, brings⟩
  -- What is brought follows the list into its order; then the entries are exchanged one by one.
  obtain ⟨parts', brings', perm'⟩ := List.perm_comp_forall₂ perm.symm members
  refine ⟨parts', ?_, perm'⟩
  clear perm perm' members
  induction related generalizing parts' with
  | nil =>
    cases brings'
    exact .nil
  | cons holds _ ih =>
    cases brings' with
    | cons here later => exact .cons (transfer _ here.1 _ _ holds here.2) (ih _ later)

end Lists

/-! ## Entries of generators -/

/-- The literals and the files in another order. -/
structure Sources.Reordered (s s' : Sources) : Prop where
  literals : s.literals.Perm s'.literals
  files : s.files.Perm s'.files
  env : s'.env = s.env

theorem Sources.Reordered.symm {s s' : Sources} (reordered : s.Reordered s') : s'.Reordered s :=
  ⟨reordered.literals.symm, reordered.files.symm, reordered.env.symm⟩

/-- The paths of the files that entries come from. -/
def Sources.paths (s : Sources) : List String :=
  s.files.filterMap (fun f => (Generator.fileSource f).toOption.map (·.2)) ++ s.env.toList

theorem Sources.Reordered.paths {s s' : Sources} (reordered : s.Reordered s') : s.paths.Perm s'.paths := by
  rw [Sources.paths, Sources.paths, reordered.env]
  exact (reordered.files.filterMap _).append_right _

/-- Two file systems read alike at paths in a directory. -/
def ReadsAlike (files files' : FileSystem) (directory : String) (paths : List String) : Prop :=
  ∀ path ∈ paths, files'.readBytes (Path.join directory path) = files.readBytes (Path.join directory path)

theorem FileSystem.readText_congr {files files' : FileSystem} {path : String}
    (same : files'.readBytes path = files.readBytes path) : files'.readText path = files.readText path := by
  rw [readText, readText, same]

namespace Generator

variable {files files' : FileSystem} {directory : String} {entries entries' between : Entries}
  {s s' : Sources}

theorem addEntry_eq_ok {key : String} {value : List UInt8} : addEntry key value entries = .ok entries' ↔
    isKey key = true ∧ Ordered.find? key entries = none ∧ Ordered.insert key value entries = entries' := by
  rw [addEntry, Ordered.contains]
  cases isKey key with
  | false => simp
  | true =>
    cases Ordered.find? key entries <;> simp

theorem addEntry_swap {key key' : String} {value value' : List UInt8}
    (first : addEntry key value entries = .ok between) (second : addEntry key' value' between = .ok entries') :
    ∃ between', addEntry key' value' entries = .ok between' ∧ addEntry key value between' = .ok entries' := by
  obtain ⟨isKey, free, rfl⟩ := addEntry_eq_ok.mp first
  obtain ⟨isKey', free', rfl⟩ := addEntry_eq_ok.mp second
  have differ : key' ≠ key := by
    rintro rfl
    rw [Ordered.find?_insert_self] at free'
    contradiction
  rw [Ordered.find?_insert_of_ne _ _ _ _ differ] at free'
  have freeAfter : Ordered.find? key (Ordered.insert key' value' entries) = none := by
    rw [Ordered.find?_insert_of_ne _ _ _ _ differ.symm, free]
  exact ⟨_, addEntry_eq_ok.mpr ⟨isKey', free', rfl⟩,
    addEntry_eq_ok.mpr ⟨isKey, freeAfter, Ordered.insert_comm differ.symm ..⟩⟩

/-- Steps of which each adds an entry may come in any order. -/
theorem foldlM_addEntry_perm {α : Type} {f : Entries → α → Except GeneratorFault Entries}
    {B : α → String → List UInt8 → Prop} (adds : ∀ entries a entries', f entries a = .ok entries' ↔
      ∃ key value, B a key value ∧ addEntry key value entries = .ok entries')
    {l l' : List α} (perm : l.Perm l') (ran : l.foldlM f entries = .ok entries') :
    l'.foldlM f entries = .ok entries' := by
  refine foldlM_perm (R := fun _ _ => True) (fun _ _ => id) (fun s a b s₁ s₂ _ first second => ?_) perm
    (List.pairwise_of_forall fun _ _ => trivial) ran
  obtain ⟨key, value, brings, added⟩ := (adds s a s₁).mp first
  obtain ⟨key', value', brings', added'⟩ := (adds s₁ b s₂).mp second
  obtain ⟨between, here, later⟩ := addEntry_swap added added'
  exact ⟨between, (adds _ _ _).mpr ⟨key', value', brings', here⟩,
    (adds _ _ _).mpr ⟨key, value, brings, later⟩⟩

/-- The entry that a text brings. -/
def PairBrings (text key : String) (value : List UInt8) : Prop :=
  ∃ s, Text.splitPair? text = some (key, s) ∧ s.toUTF8.toList = value

theorem addPair_eq_ok (entries : Entries) (text : String) (entries' : Entries) :
    addPair entries text = .ok entries' ↔
      ∃ key value, PairBrings text key value ∧ addEntry key value entries = .ok entries' := by
  rw [addPair]
  constructor
  · intro added
    split at added
    · next key s split => exact ⟨key, _, ⟨s, split, rfl⟩, added⟩
    · contradiction
  · rintro ⟨key, _, ⟨s, split, rfl⟩, added⟩
    rwa [split]

/-- The entry that a file source brings. -/
def SourceBrings (files : FileSystem) (directory source key : String) (value : List UInt8) : Prop :=
  ∃ path content, fileSource source = .ok (key, path) ∧
    readIn files.readBytes directory path = .ok content ∧ content.toList = value

theorem addFile_eq_ok (entries : Entries) (source : String) (entries' : Entries) :
    addFile files directory entries source = .ok entries' ↔
      ∃ key value, SourceBrings files directory source key value ∧ addEntry key value entries = .ok entries' := by
  rw [addFile]
  simp only [bind_eq_ok, Prod.exists]
  constructor
  · rintro ⟨key, path, split, content, read, added⟩
    exact ⟨key, content.toList, ⟨path, content, split, read, rfl⟩, added⟩
  · rintro ⟨key, _, ⟨path, content, split, read, rfl⟩, added⟩
    exact ⟨key, path, split, content, read, added⟩

theorem readIn_congr {α : Type} {read read' : String → Except FileFault α} {path : String}
    (same : read' (Path.join directory path) = read (Path.join directory path)) :
    readIn read' directory path = readIn read directory path := by
  simp only [readIn, same]

/-- Where all sources read alike, files add the same. -/
theorem foldlM_addFile_alike {sources : List String}
    (alike : ∀ source ∈ sources, ∀ key path, fileSource source = .ok (key, path) →
      files'.readBytes (Path.join directory path) = files.readBytes (Path.join directory path))
    (ran : sources.foldlM (addFile files directory) entries = .ok entries') :
    sources.foldlM (addFile files' directory) entries = .ok entries' := by
  induction sources generalizing entries with
  | nil =>
    rw [List.foldlM_nil] at ran ⊢
    exact ran
  | cons source rest ih =>
    rw [List.forall_mem_cons] at alike
    obtain ⟨between, first, later⟩ := foldlM_cons_eq_ok.mp ran
    obtain ⟨key, value, ⟨path, content, split, read, rfl⟩, added⟩ :=
      (addFile_eq_ok entries source between).mp first
    have read' := (readIn_congr (alike.1 key path split)).trans read
    exact foldlM_cons_eq_ok.mpr ⟨between,
      (addFile_eq_ok ..).mpr ⟨key, _, ⟨path, content, split, read', rfl⟩, added⟩, ih alike.2 later⟩

theorem collect_reordered (reordered : s.Reordered s') (alike : ReadsAlike files files' directory s.paths)
    (ran : collect files directory s = .ok entries) : collect files' directory s' = .ok entries := by
  rw [collect] at ran ⊢
  obtain ⟨pairs, literals, rest⟩ := bind_eq_ok.mp ran
  obtain ⟨more, fromFiles, last⟩ := bind_eq_ok.mp rest
  refine bind_eq_ok.mpr ⟨pairs, ?_, bind_eq_ok.mpr ⟨more, ?_, ?_⟩⟩
  · exact foldlM_addEntry_perm addPair_eq_ok reordered.literals literals
  · refine foldlM_addEntry_perm addFile_eq_ok reordered.files ?_
    refine foldlM_addFile_alike (fun source member key path split => alike path ?_) fromFiles
    refine List.mem_append_left _ (List.mem_filterMap.mpr ⟨source, member, ?_⟩)
    rw [split]
    rfl
  · rw [reordered.env]
    cases env : s.env with
    | none => rwa [env] at last
    | some path =>
      rw [env] at last
      have inside : path ∈ s.paths := List.mem_append_right _ (by rw [env]; exact List.mem_singleton_self _)
      have same : readIn files'.readText directory path = readIn files.readText directory path :=
        readIn_congr (FileSystem.readText_congr (alike path inside))
      dsimp only at last ⊢
      rwa [same]

end Generator

/-- The same ConfigMap with its sources in another order. -/
structure ConfigMapGenerator.Reordered (g g' : ConfigMapGenerator) : Prop where
  name : g'.name = g.name
  sources : g.sources.Reordered g'.sources

/-- The same Secret with its sources in another order. -/
structure SecretGenerator.Reordered (g g' : SecretGenerator) : Prop where
  name : g'.name = g.name
  type : g'.type = g.type
  sources : g.sources.Reordered g'.sources

namespace Generator

variable {files files' : FileSystem} {directory : String} {r : Resource}

theorem configMap_reordered {g g' : ConfigMapGenerator} (reordered : g.Reordered g')
    (alike : ReadsAlike files files' directory g.sources.paths)
    (made : configMap files directory g = .ok r) : configMap files' directory g' = .ok r := by
  obtain ⟨entries, collected, last⟩ := bind_eq_ok.mp made
  have collected' := collect_reordered reordered.sources alike (entriesOf_eq_ok.mp collected)
  refine bind_eq_ok.mpr ⟨entries, entriesOf_eq_ok.mpr collected', ?_⟩
  rwa [reordered.name]

theorem secret_reordered {g g' : SecretGenerator} (reordered : g.Reordered g')
    (alike : ReadsAlike files files' directory g.sources.paths)
    (made : secret files directory g = .ok r) : secret files' directory g' = .ok r := by
  obtain ⟨entries, collected, last⟩ := bind_eq_ok.mp made
  have collected' := collect_reordered reordered.sources alike (entriesOf_eq_ok.mp collected)
  refine bind_eq_ok.mpr ⟨entries, entriesOf_eq_ok.mpr collected', ?_⟩
  rwa [reordered.name, reordered.type]

end Generator

/-! ## Manifests -/

/-- What a build reads of a manifest, with the lists in another order. -/
structure Manifest.Reordered (m m' : Manifest) : Prop where
  kind : m'.kind = m.kind
  namePrefix : m'.namePrefix = m.namePrefix
  objectLabels : m'.objectLabels = m.objectLabels
  objectAnnotations : m'.objectAnnotations = m.objectAnnotations
  resources : m.resources.Perm m'.resources
  patches : m.patches.Perm m'.patches
  bases : m.bases.Perm m'.bases
  configMaps : ReorderedBy ConfigMapGenerator.Reordered m.configMaps m'.configMaps
  secrets : ReorderedBy SecretGenerator.Reordered m.secrets m'.secrets

theorem Manifest.Reordered.refl (m : Manifest) : m.Reordered m where
  kind := rfl
  namePrefix := rfl
  objectLabels := rfl
  objectAnnotations := rfl
  resources := .refl _
  patches := .refl _
  bases := .refl _
  configMaps := ⟨_, .refl _, List.forall₂_same.mpr fun _ _ => ⟨rfl, .refl _, .refl _, rfl⟩⟩
  secrets := ⟨_, .refl _, List.forall₂_same.mpr fun _ _ => ⟨rfl, rfl, .refl _, .refl _, rfl⟩⟩

theorem Manifest.Reordered.symm {m m' : Manifest} (reordered : m.Reordered m') : m'.Reordered m where
  kind := reordered.kind.symm
  namePrefix := reordered.namePrefix.symm
  objectLabels := reordered.objectLabels.symm
  objectAnnotations := reordered.objectAnnotations.symm
  resources := reordered.resources.symm
  patches := reordered.patches.symm
  bases := reordered.bases.symm
  configMaps := reordered.configMaps.symm fun _ _ same => ⟨same.name.symm, same.sources.symm⟩
  secrets := reordered.secrets.symm fun _ _ same => ⟨same.name.symm, same.type.symm, same.sources.symm⟩

/-- In any order, a manifest is valid or has the same fault. -/
theorem Manifest.Reordered.validate {m m' : Manifest} (reordered : m.Reordered m') :
    m'.validate = m.validate := by
  have configMaps := reordered.configMaps.any_eq (p := (·.name == "")) fun _ _ same => by rw [same.name]
  have secrets := reordered.secrets.any_eq (p := (·.name == "")) fun _ _ same => by rw [same.name]
  rw [Manifest.validate, Manifest.validate, validate.names, validate.names, reordered.kind, configMaps, secrets]

namespace Application

/-- The same directory, with the lists of the manifest in another order. -/
structure Reordered (app app' : Application) : Prop where
  directory : app'.directory = app.directory
  manifest : app.manifest.Reordered app'.manifest

variable {files files' : FileSystem} {app app' : Application} {c c' raw built : Collection} {levels : Nat}

theorem Reordered.symm (reordered : app.Reordered app') : app'.Reordered app :=
  ⟨reordered.directory.symm, reordered.manifest.symm⟩

theorem mem_listedFiles {path : String} : path ∈ app.listedFiles ↔ ∃ listed,
    (listed ∈ app.manifest.resources ∨ listed ∈ app.manifest.patches ∨
      (∃ g ∈ app.manifest.configMaps, listed ∈ g.sources.paths) ∨
      ∃ g ∈ app.manifest.secrets, listed ∈ g.sources.paths) ∧ Path.join app.directory listed = path := by
  have sources : app.listedFiles = (app.manifest.resources ++ app.manifest.patches ++
      (app.manifest.configMaps.map (·.sources) ++ app.manifest.secrets.map (·.sources)).flatMap
        Sources.paths).map (Path.join app.directory) := rfl
  simp only [sources, List.mem_map, List.mem_append, List.mem_flatMap, or_assoc, exists_or, or_and_right,
    exists_exists_and_eq_and]

theorem Reordered.mem_listedFiles (reordered : app.Reordered app') {path : String}
    (member : path ∈ app'.listedFiles) : path ∈ app.listedFiles := by
  obtain ⟨listed, among, rfl⟩ := Application.mem_listedFiles.mp member
  rw [reordered.directory]
  refine Application.mem_listedFiles.mpr ⟨listed, ?_, rfl⟩
  rcases among with resource | patch | ⟨g', inside, source⟩ | ⟨g', inside, source⟩
  · exact .inl (reordered.manifest.resources.symm.subset resource)
  · exact .inr (.inl (reordered.manifest.patches.symm.subset patch))
  · obtain ⟨g, inside, same⟩ := reordered.manifest.configMaps.exists_of_mem inside
    exact .inr (.inr (.inl ⟨g, inside, same.sources.paths.symm.subset source⟩))
  · obtain ⟨g, inside, same⟩ := reordered.manifest.secrets.exists_of_mem inside
    exact .inr (.inr (.inr ⟨g, inside, same.sources.paths.symm.subset source⟩))

/-- The files that a manifest lists read alike in two file systems. -/
def ListedAlike (files files' : FileSystem) (app : Application) : Prop :=
  ∀ path ∈ app.listedFiles, files'.readBytes path = files.readBytes path

theorem ListedAlike.symm (alike : ListedAlike files files' app) (reordered : app.Reordered app') :
    ListedAlike files' files app' :=
  fun path member => (alike path (reordered.mem_listedFiles member)).symm

/-- The manifest of a directory in two file systems: the same text, or texts that write the same with the
lists in another order. -/
structure ManifestReordered (files files' : FileSystem) (directory : String) : Prop where
  present : files'.pathExists directory = files.pathExists directory
  written : files'.readText (Path.join directory Manifest.fileName) =
      files.readText (Path.join directory Manifest.fileName) ∨
    ∃ text text' m m', files.readText (Path.join directory Manifest.fileName) = .ok text ∧
      files'.readText (Path.join directory Manifest.fileName) = .ok text' ∧
      Manifest.parse? text = some m ∧ Manifest.parse? text' = some m' ∧ m.Reordered m'

namespace ManifestReordered

variable {directory : String}

theorem symm (manifests : ManifestReordered files files' directory) :
    ManifestReordered files' files directory where
  present := manifests.present.symm
  written := by
    rcases manifests.written with same | ⟨text, text', m, m', read, read', parsed, parsed', reordered⟩
    · exact .inl same.symm
    · exact .inr ⟨text', text, m', m, read', read, parsed', parsed, reordered.symm⟩

/-- A manifest that can be loaded with its lists in one order can be loaded with them in another. -/
theorem exists_load (manifests : ManifestReordered files files' directory)
    (loaded : load files directory = .ok app) :
    ∃ app', load files' directory = .ok app' ∧ app.Reordered app' := by
  obtain ⟨present, text, m, read, valid, rfl⟩ := load_eq_ok_iff.mp loaded
  rw [← manifests.present] at present
  rcases manifests.written with same | ⟨text₁, text', m₁, m', read₁, read', parsed₁, parsed', reordered⟩
  · rw [← same] at read
    exact ⟨_, load_eq_ok_iff.mpr ⟨present, text, m, read, valid, rfl⟩, rfl, .refl m⟩
  · cases read₁.symm.trans read
    obtain ⟨parsed, valid⟩ := Manifest.ofYaml_eq_ok.mp valid
    cases parsed₁.symm.trans parsed
    have valid' := Manifest.ofYaml_eq_ok.mpr ⟨parsed', reordered.validate.trans valid⟩
    exact ⟨_, load_eq_ok_iff.mpr ⟨present, text', m', read', valid', rfl⟩, rfl, reordered⟩

theorem of_load (loaded : load files directory = .ok app) (loaded' : load files' directory = .ok app')
    (reordered : app.Reordered app') :
    ManifestReordered files files' directory := by
  obtain ⟨present, text, m, read, valid, rfl⟩ := load_eq_ok_iff.mp loaded
  obtain ⟨present', text', m', read', valid', rfl⟩ := load_eq_ok_iff.mp loaded'
  exact ⟨present'.trans present.symm, .inr ⟨text, text', m, m', read, read',
    (Manifest.ofYaml_eq_ok.mp valid).1, (Manifest.ofYaml_eq_ok.mp valid').1, reordered.manifest⟩⟩

end ManifestReordered

/-- Two file systems in which the manifests that the one of an application leads to have their lists in
some order, and the files that these manifests list are the same. What no manifest leads to may
differ. -/
structure ReorderedTrees (files files' : FileSystem) (app : Application) : Prop where
  bases : ∀ lower, Relation.ReflTransGen (ListsBase files) app lower → ∀ base ∈ lower.manifest.bases,
    ManifestReordered files files' (Path.join lower.directory base)
  alike : ∀ lower, Relation.ReflTransGen (ListsBase files) app lower → ListedAlike files files' lower

namespace ReorderedTrees

theorem below {lower : Application} (trees : ReorderedTrees files files' app)
    (lists : ListsBase files app lower) : ReorderedTrees files files' lower where
  bases _ reached := trees.bases _ (reached.head lists)
  alike _ reached := trees.alike _ (reached.head lists)

theorem reached {lower' : Application} (trees : ReorderedTrees files files' app)
    (reordered : app.Reordered app') (reached : Relation.ReflTransGen (ListsBase files') app' lower') :
    ∃ lower, Relation.ReflTransGen (ListsBase files) app lower ∧ lower.Reordered lower' := by
  induction reached with
  | refl => exact ⟨app, .refl, reordered⟩
  | tail _ lists ih =>
    obtain ⟨between, reached, same⟩ := ih
    obtain ⟨base, listed, loaded⟩ := lists
    have member := same.manifest.bases.symm.subset listed
    rw [same.directory] at loaded
    obtain ⟨lower, loaded, again⟩ := (trees.bases between reached base member).symm.exists_load loaded
    exact ⟨lower, reached.tail ⟨base, member, loaded⟩, again.symm⟩

theorem symm (trees : ReorderedTrees files files' app) (reordered : app.Reordered app') :
    ReorderedTrees files' files app' where
  bases lower' reached' base listed := by
    obtain ⟨lower, reached, same⟩ := trees.reached reordered reached'
    rw [same.directory]
    exact (trees.bases lower reached base (same.manifest.bases.symm.subset listed)).symm
  alike lower' reached' := by
    obtain ⟨lower, reached, same⟩ := trees.reached reordered reached'
    exact (trees.alike lower reached).symm same

end ReorderedTrees

/-! ## Builds -/

theorem decodeFiles_reordered (directory : app'.directory = app.directory) {listed listed' : List String}
    (perm : listed.Perm listed') (alike : ReadsAlike files files' app.directory listed)
    (ran : app.decodeFiles files listed = .ok c) : app'.decodeFiles files' listed' = .ok c := by
  obtain ⟨parts, bring, together⟩ := decodeFiles_eq_ok_iff.mp ran
  have transfer : ∀ file ∈ listed, ∀ file' part, file = file' → FileBrings files app file part →
      FileBrings files' app' file' part := by
    rintro file member _ part rfl ⟨text, decoded, read, decode, same⟩
    refine ⟨text, decoded, ?_, decode, same⟩
    rw [directory, FileSystem.readText_congr (alike file member), read]
  obtain ⟨parts', bring', perm'⟩ := (reorderedBy_of_perm perm).forall₂ transfer bring
  exact decodeFiles_eq_ok_iff.mpr ⟨parts', bring', together.trans perm'.flatten.symm⟩

theorem finish_reordered (reordered : app.Reordered app') : app'.finish = app.finish := by
  funext c
  rw [finish, finish, passes, passes, reordered.manifest.namePrefix, reordered.manifest.objectLabels,
    reordered.manifest.objectAnnotations]

theorem addBases_reordered (trees : ReorderedTrees files files' app) (reordered : app.Reordered app')
    (below : ∀ fewer app app' raw, levels = fewer + 1 → ReorderedTrees files files' app →
      app.Reordered app' → rawWithin files fewer app = .ok raw → rawWithin files' fewer app' = .ok raw)
    (ran : addBases files levels app c = .ok c') : addBases files' levels app' c = .ok c' := by
  obtain ⟨parts, bring, together⟩ := addBases_eq_ok_iff.mp ran
  have transfer : ∀ base ∈ app.manifest.bases, ∀ base' part, base = base' →
      BaseBrings files levels app base part → BaseBrings files' levels app' base' part := by
    rintro base listed _ part rfl brings
    cases levels with
    | zero => exact brings.elim
    | succ fewer =>
      obtain ⟨lower, raw, built, loaded, ran, finished, rebased⟩ := brings
      obtain ⟨lower', loaded', same⟩ := (trees.bases app .refl base listed).exists_load loaded
      have ran' := below fewer lower lower' raw rfl (trees.below ⟨base, listed, loaded⟩) same ran
      refine ⟨lower', raw, built, ?_, ran', ?_, rebased⟩
      · rwa [reordered.directory]
      · rwa [finish_reordered same]
  obtain ⟨parts', bring', perm'⟩ :=
    (reorderedBy_of_perm reordered.manifest.bases).forall₂ transfer bring
  exact addBases_eq_ok_iff.mpr ⟨parts', bring', together.trans (perm'.flatten.symm.append_right _)⟩

theorem patched_reordered (reordered : app.Reordered app') (alike : ListedAlike files files' app)
    (ran : app.patched files c = .ok c') : app'.patched files' c = .ok c' := by
  obtain ⟨patches, decode, overlaid⟩ := patched_eq_ok_iff.mp ran
  refine patched_eq_ok_iff.mpr ⟨patches, ?_, overlaid⟩
  refine decodeFiles_reordered reordered.directory reordered.manifest.patches (fun file member => ?_) decode
  exact alike _ (mem_listedFiles.mpr ⟨file, .inr (.inl member), rfl⟩)

theorem generated_reordered (reordered : app.Reordered app') (alike : ListedAlike files files' app)
    (ran : app.generated files c = .ok c') : app'.generated files' c = .ok c' := by
  obtain ⟨configMaps, secrets, made, made', together⟩ := generated_eq_ok_iff.mp ran
  rw [generated_eq_ok_iff, reordered.directory]
  have configMap : ∀ g ∈ app.manifest.configMaps, ∀ g' e, g.Reordered g' →
      GeneratorBrings (Generator.configMap files app.directory g) e →
      GeneratorBrings (Generator.configMap files' app.directory g') e := by
    rintro g member g' e same ⟨made, identity⟩
    refine ⟨Generator.configMap_reordered same (fun path inside => ?_) made, identity⟩
    exact alike _ (mem_listedFiles.mpr ⟨path, .inr (.inr (.inl ⟨g, member, inside⟩)), rfl⟩)
  have secret : ∀ g ∈ app.manifest.secrets, ∀ g' e, g.Reordered g' →
      GeneratorBrings (Generator.secret files app.directory g) e →
      GeneratorBrings (Generator.secret files' app.directory g') e := by
    rintro g member g' e same ⟨made, identity⟩
    refine ⟨Generator.secret_reordered same (fun path inside => ?_) made, identity⟩
    exact alike _ (mem_listedFiles.mpr ⟨path, .inr (.inr (.inr ⟨g, member, inside⟩)), rfl⟩)
  obtain ⟨configMaps', again, perm⟩ := reordered.manifest.configMaps.forall₂ configMap made
  obtain ⟨secrets', again', perm'⟩ := reordered.manifest.secrets.forall₂ secret made'
  exact ⟨configMaps', secrets', again, again',
    together.trans ((perm'.append (perm.append_right _)).symm)⟩

theorem rawWithin_reordered (trees : ReorderedTrees files files' app) (reordered : app.Reordered app')
    (ran : rawWithin files levels app = .ok raw) : rawWithin files' levels app' = .ok raw := by
  induction levels using Nat.strongRecOn generalizing app app' raw with
  | ind levels ih =>
    have alike := trees.alike app .refl
    simp only [rawWithin_eq, bind_eq_ok] at ran ⊢
    obtain ⟨declared, decode, based, bases, overlaid, patch, last⟩ := ran
    have again : addBases files' levels app' declared = .ok based :=
      addBases_reordered trees reordered
        (fun fewer _ _ _ less trees same => ih fewer (by omega) trees same) bases
    refine ⟨declared, ?_, based, again, overlaid, patched_reordered reordered alike patch,
      generated_reordered reordered alike last⟩
    refine decodeFiles_reordered reordered.directory reordered.manifest.resources (fun file member => ?_) decode
    exact alike _ (mem_listedFiles.mpr ⟨file, .inl member, rfl⟩)

theorem resources_reordered_ok (trees : ReorderedTrees files files' app) (reordered : app.Reordered app')
    (finished : app.resources files = .ok built) : app'.resources files' = .ok built := by
  obtain ⟨raw, ran, passed⟩ := bind_eq_ok.mp finished
  refine bind_eq_ok.mpr ⟨raw, rawWithin_reordered trees reordered ran, ?_⟩
  rwa [finish_reordered reordered]

/-- Where the listed files are the same, a build succeeds with the lists of manifests in one order exactly
if it does with them in another, and gives the same collection and the same text. -/
theorem resources_reordered (trees : ReorderedTrees files files' app) (reordered : app.Reordered app') :
    (∀ built, app.resources files = .ok built ↔ app'.resources files' = .ok built) ∧
    ∀ text, Collection.encode <$> app.resources files = .ok text ↔
      Collection.encode <$> app'.resources files' = .ok text := by
  have same (built : Collection) : app.resources files = .ok built ↔ app'.resources files' = .ok built :=
    ⟨resources_reordered_ok trees reordered,
      resources_reordered_ok (trees.symm reordered) reordered.symm⟩
  refine ⟨same, fun text => ?_⟩
  rw [map_eq_ok, map_eq_ok]
  exact exists_congr fun built => and_congr_left fun _ => same built

/-! ## Listed in either order -/

/-- A file with a ConfigMap. -/
def configMapFile (file name : String) : String × FileTree :=
  textFile file ("apiVersion: v1\nkind: ConfigMap\nmetadata:\n  name: " ++ name ++ "\n")

/-- Two entries of a list of a manifest. -/
def bothListed (first second : String) : String := "- " ++ first ++ "\n- " ++ second ++ "\n"

/-- A directory with a manifest that generates a ConfigMap from two literals, and a base below it that lists
two others. The lists of both are in the order of the names. -/
def pairFiles (first second : String) : FileSystem where
  top := .directory [
    textFile Manifest.fileName
      ("bases:\n- base\nconfigMapGenerator:\n- name: g\n  literals:\n" ++
        "  - " ++ first ++ "=1\n  - " ++ second ++ "=1\n"),
    ("base", .directory [
      textFile Manifest.fileName ("resources:\n" ++ bothListed first second),
      configMapFile "p" "a",
      configMapFile "q" "b"])]
  workingDirectory := []

def pairApp (first second : String) : Application where
  directory := "."
  manifest := { bases := ["base"], configMaps := [⟨"g", { literals := [first ++ "=1", second ++ "=1"] }⟩] }

def pairBase (first second : String) : Application where
  directory := "./base"
  manifest := { resources := [first, second] }

theorem load_pairFiles : (load (pairFiles "p" "q") "." = .ok (pairApp "p" "q") ∧
      load (pairFiles "p" "q") (Path.join "." "base") = .ok (pairBase "p" "q")) ∧
    load (pairFiles "q" "p") "." = .ok (pairApp "q" "p") ∧
      load (pairFiles "q" "p") (Path.join "." "base") = .ok (pairBase "q" "p") := by
  decide +kernel

theorem pairApp_reordered : (pairApp "p" "q").Reordered (pairApp "q" "p") where
  directory := rfl
  manifest := { Manifest.Reordered.refl (pairApp "p" "q").manifest with
    configMaps := ⟨_, .refl _, .cons ⟨rfl, .swap .., .refl _, rfl⟩ .nil⟩ }

theorem pairBase_reordered : (pairBase "p" "q").Reordered (pairBase "q" "p") where
  directory := rfl
  manifest := { Manifest.Reordered.refl (pairBase "p" "q").manifest with resources := .swap .. }

theorem pairApp_reached {lower : Application}
    (reached : Relation.ReflTransGen (ListsBase (pairFiles "p" "q")) (pairApp "p" "q") lower) :
    lower = pairApp "p" "q" ∨ lower = pairBase "p" "q" := by
  induction reached with
  | refl => exact .inl rfl
  | tail _ lists ih =>
    obtain ⟨base, listed, loaded⟩ := lists
    rcases ih with rfl | rfl
    · obtain rfl := List.mem_singleton.mp listed
      cases loaded.symm.trans load_pairFiles.1.2
      exact .inr rfl
    · contradiction

theorem pairTrees : ReorderedTrees (pairFiles "p" "q") (pairFiles "q" "p") (pairApp "p" "q") where
  bases lower reached base listed := by
    rcases pairApp_reached reached with rfl | rfl
    · obtain rfl := List.mem_singleton.mp listed
      exact .of_load load_pairFiles.1.2 load_pairFiles.2.2 pairBase_reordered
    · contradiction
  alike lower reached := by
    rcases pairApp_reached reached with rfl | rfl
    · exact List.forall_mem_nil _
    · rw [ListedAlike]
      decide +kernel

/-- With the lists of both manifests in the other order, the application gives what it gave. -/
theorem pairFiles_resources : load (pairFiles "p" "q") "." = .ok (pairApp "p" "q") ∧
    load (pairFiles "q" "p") "." = .ok (pairApp "q" "p") ∧
    ∃ built, (pairApp "p" "q").resources (pairFiles "p" "q") = .ok built ∧
      (pairApp "q" "p").resources (pairFiles "q" "p") = .ok built ∧
      Collection.encode <$> (pairApp "q" "p").resources (pairFiles "q" "p") = .ok built.encode := by
  obtain ⟨built, finished⟩ : ∃ built, (pairApp "p" "q").resources (pairFiles "p" "q") = .ok built :=
    isOk_iff_exists.mp (by decide +kernel)
  have ⟨same, sameText⟩ := resources_reordered pairTrees pairApp_reordered
  have text : Collection.encode <$> (pairApp "p" "q").resources (pairFiles "p" "q") = .ok built.encode :=
    map_eq_ok.mpr ⟨built, finished, rfl⟩
  exact ⟨load_pairFiles.1.1, load_pairFiles.2.1, built, finished, (same built).mp finished,
    (sameText _).mp text⟩

/-! ## A manifest as a file of its own -/

/-- A directory that lists two ConfigMaps in the order of the names, and generates a third one from the
text of the manifest itself. -/
def selfListingFiles (first second : String) : FileSystem where
  top := .directory [
    textFile Manifest.fileName
      ("resources:\n" ++ bothListed first second ++ "configMapGenerator:\n- name: self\n  files:\n" ++
        "  - " ++ Manifest.fileName ++ "\n"),
    configMapFile "p" "a",
    configMapFile "q" "b"]
  workingDirectory := []

def selfListing (first second : String) : Application where
  directory := "."
  manifest := {
    resources := [first, second]
    configMaps := [⟨"self", { files := [Manifest.fileName] }⟩] }

def selfId : Identity := ⟨⟨"", "v1", "ConfigMap"⟩, "self"⟩

/-- Where the text of the manifest is in the generated ConfigMap. -/
def selfText : Position := [.key "data", .key Manifest.fileName]

/-- The files that manifests list must be the same: where a manifest lists itself, the order of its other
entries is in the text of it, and so in what is generated. -/
theorem selfListing_differs : load (selfListingFiles "p" "q") "." = .ok (selfListing "p" "q") ∧
    load (selfListingFiles "q" "p") "." = .ok (selfListing "q" "p") ∧
    (selfListing "p" "q").Reordered (selfListing "q" "p") ∧
    ∃ built built' r r', (selfListing "p" "q").resources (selfListingFiles "p" "q") = .ok built ∧
      (selfListing "q" "p").resources (selfListingFiles "q" "p") = .ok built' ∧
      built.find? selfId = some r ∧ built'.find? selfId = some r' ∧
      r.object.at? selfText ≠ r'.object.at? selfText ∧ built ≠ built' := by
  have ⟨loaded, loaded', evaluated⟩ : load (selfListingFiles "p" "q") "." = .ok (selfListing "p" "q") ∧
      load (selfListingFiles "q" "p") "." = .ok (selfListing "q" "p") ∧
      ((selfListing "p" "q").resources (selfListingFiles "p" "q")).toOption.any fun built =>
        ((selfListing "q" "p").resources (selfListingFiles "q" "p")).toOption.any fun built' =>
          (built.find? selfId).any fun r => (built'.find? selfId).any fun r' =>
            (r.object.at? selfText).bind Document.string? ≠ (r'.object.at? selfText).bind Document.string? := by
    decide +kernel
  obtain ⟨built, finished, rest⟩ := (Option.any_eq_true _ _).mp evaluated
  obtain ⟨built', finished', rest⟩ := (Option.any_eq_true _ _).mp rest
  obtain ⟨r, held, rest⟩ := (Option.any_eq_true _ _).mp rest
  obtain ⟨r', held', differ⟩ := (Option.any_eq_true _ _).mp rest
  rw [toOption_eq_some] at finished finished'
  have texts : r.object.at? selfText ≠ r'.object.at? selfText :=
    fun same => of_decide_eq_true differ (congrArg (·.bind Document.string?) same)
  have reordered : (selfListing "p" "q").Reordered (selfListing "q" "p") :=
    ⟨rfl, { Manifest.Reordered.refl (selfListing "p" "q").manifest with resources := .swap .. }⟩
  refine ⟨loaded, loaded', reordered, built, built', r, r', finished, finished', held, held', texts, ?_⟩
  rintro rfl
  cases held.symm.trans held'
  exact texts rfl

end Application

end KubeOverlay
