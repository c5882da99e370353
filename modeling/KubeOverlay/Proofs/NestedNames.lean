import KubeOverlay.Proofs.Identities
/-!
# Names through nested applications

Every application gives its prefix to the names that its bases have given, and only the one that
generates a resource hashes it, over the name and the data that it was generated with: above, what is
built counts as plain. So a resource that no patch addresses ends up with the prefixes of all
applications above it before its name, and with one hash after it if it was generated
(`Application.resources_nested`).
-/
namespace KubeOverlay

open PathRule (ownPaths referencePaths)

namespace Application

variable {files : FileSystem} {app below : Application} {raw built c c' : Collection} {levels n : Nat}
  {id : Identity} {r : Resource} {m : Nat → Application}

/-- Every application up to one lists the one before it as a base. -/
def Nested (files : FileSystem) (m : Nat → Application) (n : Nat) : Prop :=
  ∀ i < n, ListsBase files (m (i + 1)) (m i)

/-- A name with the prefixes of all applications up to one, that of the last one first. -/
def prefixed (m : Nat → Application) : (n : Nat) → (name : String) → String
  | 0, name => (m 0).manifest.namePrefix ++ name
  | n + 1, name => (m (n + 1)).manifest.namePrefix ++ prefixed m n name

/-- No patch of the manifest is for an identity. -/
def Unpatched (files : FileSystem) (app : Application) (id : Identity) : Prop :=
  ∀ patches, app.decodeFiles files app.manifest.patches = .ok patches → patches.find? id = none

/-- No application above the first one has a patch for what the one below gives under a name. -/
def UnpatchedAbove (files : FileSystem) (m : Nat → Application) (n : Nat) (type : GroupVersionKind)
    (name : String) : Prop :=
  ∀ i < n, Unpatched files (m (i + 1)) ⟨type, prefixed m i name⟩

/-- A resource has an identity in what is built, and is the same at every position that is apart from
the paths of names, labels, annotations and references. -/
def Emitted (built : Collection) (id : Identity) (r : Resource) : Prop :=
  ∃ key r', built.find? key = some r' ∧ r'.identity? = .ok id ∧
    ∀ q : Position, (∀ path ∈ ownPaths id.type ++ referencePaths id.type, FieldPath.Apart path q.keys) →
      r'.object.at? q = r.object.at? q

/-! ## One application -/

/-- Patches for other identities leave a resource alone. -/
theorem patched_find? (unpatched : Unpatched files app id) (ran : app.patched files c = .ok c') :
    c'.find? id = c.find? id := by
  obtain ⟨patches, decode, overlaid⟩ := patched_eq_ok_iff.mp ran
  exact (Collection.find?_overlay overlaid id).1 (unpatched patches decode)

/-- The passes give an identity its final name, and change nothing elsewhere. -/
theorem finish_emitted (kinds : raw.GeneratedKinds) (finished : app.finish raw = .ok built)
    (held : raw.find? id = some r) (identity : r.identity? = .ok id) : ∃ suffix,
      Pass.NameSuffix id.type.kind r suffix ∧
      Emitted built ⟨id.type, app.manifest.namePrefix ++ (id.name ++ suffix)⟩ r := by
  obtain ⟨r', held', suffix, isSuffix, name⟩ := (finish_finallyNamed kinds finished).find? held
  obtain ⟨_, typed, kept⟩ := (finish_hasType finished).find? held
  obtain ⟨_, again, same⟩ := (finish_kept finished).find? held
  cases held'.symm.trans typed
  cases held'.symm.trans again
  obtain ⟨hasType, named⟩ := Resource.identity?_eq_ok.mp identity
  refine ⟨suffix, isSuffix, id, r', held', Resource.identity?_eq_ok.mpr ⟨kept _ hasType, ?_⟩, same.at?⟩
  rw [name, named, Option.map_some]

/-- What has come in before patches and generators stays, unless a patch is for it. -/
theorem find?_of_unpatched {based overlaid : Collection} (patch : app.patched files based = .ok overlaid)
    (last : app.generated files overlaid = .ok raw) (unpatched : Unpatched files app id)
    (member : (id, r) ∈ based.entries) : raw.find? id = some r := by
  obtain ⟨configMaps, secrets, -, -, perm⟩ := generated_eq_ok_iff.mp last
  have inOverlaid := (patched_find? unpatched patch).trans (Collection.mem_entries.mp member)
  exact Collection.find?_of_perm perm
    (List.mem_append_right _ (List.mem_append_right _ (Collection.mem_entries.mpr inOverlaid)))

theorem rawWithin_find?_declared (ran : rawWithin files levels app = .ok raw)
    (decoded : app.decodeFiles files app.manifest.resources = .ok c) (held : c.find? id = some r)
    (unpatched : Unpatched files app id) : raw.find? id = some r := by
  simp only [rawWithin_eq, bind_eq_ok] at ran
  obtain ⟨declared, decode, based, bases, overlaid, patch, last⟩ := ran
  cases decoded.symm.trans decode
  obtain ⟨parts, -, perm⟩ := addBases_eq_ok_iff.mp bases
  refine find?_of_unpatched patch last unpatched (perm.symm.subset ?_)
  exact List.mem_append_right _ (Collection.mem_entries.mpr held)

theorem mem_of_generatorBrings {α : Type} {make : α → Except BuildError Resource} {l : List α}
    {entries : List Entry} (made : List.Forall₂ (fun g => GeneratorBrings (make g)) l entries) {g : α}
    (member : g ∈ l) (known : ∀ r, make g = .ok r → r.identity? = .ok id) :
    ∃ r, make g = .ok r ∧ (id, r) ∈ entries := by
  obtain ⟨⟨id', r⟩, inside, made, identity⟩ := exists_of_mem_left made member
  obtain rfl : id = id' := Except.ok.inj ((known r made).symm.trans identity)
  exact ⟨r, made, inside⟩

theorem rawWithin_find?_configMap (ran : rawWithin files levels app = .ok raw) {g : ConfigMapGenerator}
    (member : g ∈ app.manifest.configMaps) : ∃ r, Generator.configMap files app.directory g = .ok r ∧
      raw.find? ⟨⟨"", "v1", "ConfigMap"⟩, g.name⟩ = some r := by
  simp only [rawWithin_eq, bind_eq_ok] at ran
  obtain ⟨-, -, -, -, overlaid, -, last⟩ := ran
  obtain ⟨configMaps, secrets, made, -, perm⟩ := generated_eq_ok_iff.mp last
  obtain ⟨r, made, inside⟩ := mem_of_generatorBrings made member fun _ => Generator.identity?_configMap
  exact ⟨r, made, Collection.find?_of_perm perm (List.mem_append_right _ (List.mem_append_left _ inside))⟩

theorem rawWithin_find?_secret (ran : rawWithin files levels app = .ok raw) {g : SecretGenerator}
    (member : g ∈ app.manifest.secrets) : ∃ r, Generator.secret files app.directory g = .ok r ∧
      raw.find? ⟨⟨"", "v1", "Secret"⟩, g.name⟩ = some r := by
  simp only [rawWithin_eq, bind_eq_ok] at ran
  obtain ⟨-, -, -, -, overlaid, -, last⟩ := ran
  obtain ⟨configMaps, secrets, -, made, perm⟩ := generated_eq_ok_iff.mp last
  obtain ⟨r, made, inside⟩ := mem_of_generatorBrings made member fun _ => Generator.identity?_secret
  exact ⟨r, made, Collection.find?_of_perm perm (List.mem_append_left _ inside)⟩

/-! ## One application above another -/

/-- What a base gives comes in as a plain resource under its identity, unless a patch is for it. -/
theorem rawWithin_find?_based (ran : rawWithin files levels app = .ok raw)
    (lists : ListsBase files app below) : ∃ fewer raw' built', rawWithin files fewer below = .ok raw' ∧
      below.finish raw' = .ok built' ∧ ∀ key r final, built'.find? key = some r →
        r.identity? = .ok final → Unpatched files app final → raw.find? final = some ⟨r.object, false⟩ := by
  obtain ⟨base, listed, loaded⟩ := lists
  simp only [rawWithin_eq, bind_eq_ok] at ran
  obtain ⟨declared, -, based, bases, overlaid, patch, last⟩ := ran
  obtain ⟨parts, bring, perm⟩ := addBases_eq_ok_iff.mp bases
  obtain ⟨part, among, brings⟩ := exists_of_mem_left bring listed
  cases levels with
  | zero => exact brings.elim
  | succ fewer =>
    obtain ⟨_, raw', built', loaded', ran, finished, rebased⟩ := brings
    cases loaded.symm.trans loaded'
    refine ⟨fewer, raw', built', ran, finished, fun key r final held identity unpatched => ?_⟩
    obtain ⟨⟨id, _⟩, inside, rfl, again⟩ := exists_of_mem_left rebased (Collection.mem_entries.mpr held)
    obtain rfl : final = id := Except.ok.inj (identity.symm.trans again)
    refine find?_of_unpatched patch last unpatched (perm.symm.subset ?_)
    exact List.mem_append_left _ (List.mem_flatten.mpr ⟨part, among, inside⟩)

/-- Where the last of nested applications is built, the first one is. -/
theorem nested_first (nested : Nested files m n) (ran : rawWithin files levels (m n) = .ok raw)
    (finished : (m n).finish raw = .ok built) : ∃ fewer raw' built',
      rawWithin files fewer (m 0) = .ok raw' ∧ (m 0).finish raw' = .ok built' := by
  induction n generalizing levels raw built with
  | zero => exact ⟨levels, raw, built, ran, finished⟩
  | succ n ih =>
    obtain ⟨fewer, raw', built', ran', finished', -⟩ := rawWithin_find?_based ran (nested n n.lt_succ_self)
    exact ih (fun i below => nested i (Nat.lt_succ_of_lt below)) ran' finished'

/-- What the first of nested applications gives in every build, the last one gives with the prefixes
in between. -/
theorem nested_emitted (nested : Nested files m n) {type : GroupVersionKind} {name : String}
    (first : ∀ levels raw built, rawWithin files levels (m 0) = .ok raw → (m 0).finish raw = .ok built →
      Emitted built ⟨type, prefixed m 0 name⟩ r)
    (unpatched : UnpatchedAbove files m n type name) (ran : rawWithin files levels (m n) = .ok raw)
    (finished : (m n).finish raw = .ok built) : Emitted built ⟨type, prefixed m n name⟩ r := by
  induction n generalizing levels raw built with
  | zero => exact first levels raw built ran finished
  | succ n ih =>
    obtain ⟨fewer, raw', built', ran', finished', based⟩ :=
      rawWithin_find?_based ran (nested n n.lt_succ_self)
    obtain ⟨key, r', held, identity, same⟩ := ih (fun i below => nested i (Nat.lt_succ_of_lt below))
      (fun i below => unpatched i (Nat.lt_succ_of_lt below)) ran' finished'
    have held' := based key r' _ held identity (unpatched n n.lt_succ_self)
    -- Above, it is plain, so its name gets the prefix and nothing else.
    obtain ⟨suffix, isSuffix, key', r'', final, identity', same'⟩ :=
      finish_emitted (rawWithin_generatedKinds ran) finished held' identity
    rw [(Pass.nameSuffix_plain rfl).mp isSuffix, String.append_empty] at identity'
    exact ⟨key', r'', final, identity', fun q apart => (same' q apart).trans (same q apart)⟩

/-- What is generated in the first of nested applications has one hash, that of what the generator
has made. -/
theorem nested_generated (nested : Nested files m n) (ran : rawWithin files levels (m n) = .ok raw)
    (finished : (m n).finish raw = .ok built) {made : Except BuildError Resource}
    {hashOf : Resource → Except BuildError String}
    (comes : ∀ levels raw, rawWithin files levels (m 0) = .ok raw →
      ∃ r, made = .ok r ∧ raw.find? id = some r)
    (known : ∀ r, made = .ok r → r.identity? = .ok id ∧ Pass.hash? id.type.kind r = some (hashOf r)) :
    ∃ r hash, made = .ok r ∧ hashOf r = .ok hash ∧
      (UnpatchedAbove files m n id.type (id.name ++ "-" ++ hash) →
        Emitted built ⟨id.type, prefixed m n (id.name ++ "-" ++ hash)⟩ r) := by
  have first : ∀ levels raw built, rawWithin files levels (m 0) = .ok raw →
      (m 0).finish raw = .ok built → ∃ r hash, made = .ok r ∧ hashOf r = .ok hash ∧
        Emitted built ⟨id.type, prefixed m 0 (id.name ++ "-" ++ hash)⟩ r := by
    intro levels raw built ran finished
    obtain ⟨r, isMade, held⟩ := comes levels raw ran
    obtain ⟨identity, hashes⟩ := known r isMade
    obtain ⟨suffix, isSuffix, emitted⟩ :=
      finish_emitted (rawWithin_generatedKinds ran) finished held identity
    have generated : r.generated = true := by
      by_contra plain
      simp [Pass.hash?, plain] at hashes
    obtain ⟨hash, hashed, rfl⟩ := (Pass.nameSuffix_generated generated).mp isSuffix
    have joined : id.name ++ "-" ++ hash = id.name ++ ("-" ++ hash) := String.append_assoc
    refine ⟨r, hash, isMade, Option.some.inj (hashes.symm.trans hashed), ?_⟩
    rwa [prefixed, joined]
  obtain ⟨fewer, raw', built', ran', finished'⟩ := nested_first nested ran finished
  obtain ⟨r, hash, isMade, hashed, -⟩ := first fewer raw' built' ran' finished'
  refine ⟨r, hash, isMade, hashed, fun unpatched => ?_⟩
  refine nested_emitted nested (fun levels raw built ran finished => ?_) unpatched ran finished
  obtain ⟨r', hash', isMade', hashed', emitted⟩ := first levels raw built ran finished
  cases isMade.symm.trans isMade'
  cases hashed.symm.trans hashed'
  exact emitted

/-- What is declared in the first of nested applications is given with the prefixes only. -/
theorem nested_declared (nested : Nested files m n) (ran : rawWithin files levels (m n) = .ok raw)
    (finished : (m n).finish raw = .ok built)
    (decoded : (m 0).decodeFiles files (m 0).manifest.resources = .ok c) (held : c.find? id = some r)
    (unpatched : Unpatched files (m 0) id) (unpatchedAbove : UnpatchedAbove files m n id.type id.name) :
    Emitted built ⟨id.type, prefixed m n id.name⟩ r := by
  have plain : c.All fun id r => r.generated = false ∧ r.identity? = .ok id :=
    decodeFiles_all (fun _ _ _ _ identity => ⟨rfl, identity⟩) decoded
  obtain ⟨notGenerated, identity⟩ := plain id r held
  refine nested_emitted nested (fun levels raw built ran finished => ?_) unpatchedAbove ran finished
  obtain ⟨suffix, isSuffix, emitted⟩ := finish_emitted (rawWithin_generatedKinds ran) finished
    (rawWithin_find?_declared ran decoded held unpatched) identity
  rwa [(Pass.nameSuffix_plain notGenerated).mp isSuffix, String.append_empty] at emitted

/-- In a build of applications of which each lists the one before it, what the first one generates is
given with the prefixes of all of them, the last one's first, before its name and the hash of what
the generator has made after it, and what the first one declares with the prefixes before its name,
unless a patch of one of them is for it. -/
theorem resources_nested (nested : Nested files m n) (finished : (m n).resources files = .ok built) :
    (∀ g ∈ (m 0).manifest.configMaps, ∃ r hash,
      Generator.configMap files (m 0).directory g = .ok r ∧ ContentHash.ofConfigMap r = .ok hash ∧
      (UnpatchedAbove files m n ⟨"", "v1", "ConfigMap"⟩ (g.name ++ "-" ++ hash) →
        Emitted built ⟨⟨"", "v1", "ConfigMap"⟩, prefixed m n (g.name ++ "-" ++ hash)⟩ r)) ∧
    (∀ g ∈ (m 0).manifest.secrets, ∃ r hash,
      Generator.secret files (m 0).directory g = .ok r ∧ ContentHash.ofSecret r = .ok hash ∧
      (UnpatchedAbove files m n ⟨"", "v1", "Secret"⟩ (g.name ++ "-" ++ hash) →
        Emitted built ⟨⟨"", "v1", "Secret"⟩, prefixed m n (g.name ++ "-" ++ hash)⟩ r)) ∧
    ∀ declared id r, (m 0).decodeFiles files (m 0).manifest.resources = .ok declared →
      declared.find? id = some r → Unpatched files (m 0) id →
      UnpatchedAbove files m n id.type id.name → Emitted built ⟨id.type, prefixed m n id.name⟩ r := by
  obtain ⟨raw, ran, passed⟩ := bind_eq_ok.mp finished
  refine ⟨fun g member => ?_, fun g member => ?_, fun declared id r => nested_declared nested ran passed⟩
  · refine nested_generated nested ran passed (fun _ _ ran => rawWithin_find?_configMap ran member) ?_
    intro r made
    refine ⟨Generator.identity?_configMap made, ?_⟩
    rw [Pass.hash?, (Generator.configMap_fields made).1]
    rfl
  · refine nested_generated nested ran passed (fun _ _ ran => rawWithin_find?_secret ran member) ?_
    intro r made
    refine ⟨Generator.identity?_secret made, ?_⟩
    rw [Pass.hash?, (Generator.secret_fields made).1]
    rfl

/-! ## A generated ConfigMap below an overlay -/

/-- A directory with a manifest that gives a prefix to what the one below it gives, which generates a
ConfigMap and gives it another prefix. -/
def generatorFiles : FileSystem where
  top := .directory [
    textFile Manifest.fileName "namePrefix: y-\nbases:\n- b\n",
    ("b", .directory [textFile Manifest.fileName
      "namePrefix: x-\nconfigMapGenerator:\n- name: s\n  literals:\n  - A=1\n"])]
  workingDirectory := []

def generatorOfS : ConfigMapGenerator := ⟨"s", { literals := ["A=1"] }⟩

def generatorOverlay : Application where
  directory := "."
  manifest := { namePrefix := "y-", bases := ["b"] }

def generatorBase : Application where
  directory := "./b"
  manifest := { namePrefix := "x-", configMaps := [generatorOfS] }

theorem load_generatorFiles : load generatorFiles "." = .ok generatorOverlay ∧
    load generatorFiles (Path.join "." "b") = .ok generatorBase := by
  decide +kernel

/-- The overlay gives the ConfigMap with both prefixes and one hash. -/
theorem generatorOverlay_nested : load generatorFiles "." = .ok generatorOverlay ∧
    ∃ built r hash, generatorOverlay.resources generatorFiles = .ok built ∧
      Generator.configMap generatorFiles "./b" generatorOfS = .ok r ∧ ContentHash.ofConfigMap r = .ok hash ∧
      Emitted built ⟨⟨"", "v1", "ConfigMap"⟩, "y-" ++ ("x-" ++ ("s" ++ "-" ++ hash))⟩ r := by
  obtain ⟨built, finished⟩ : ∃ built, generatorOverlay.resources generatorFiles = .ok built :=
    isOk_iff_exists.mp (by decide +kernel)
  let m (i : Nat) : Application := if i = 0 then generatorBase else generatorOverlay
  have nested : Nested generatorFiles m 1 := by
    intro i first
    obtain rfl : i = 0 := by omega
    exact ⟨"b", List.mem_singleton_self _, load_generatorFiles.2⟩
  have member : generatorOfS ∈ (m 0).manifest.configMaps := List.mem_singleton_self _
  obtain ⟨r, hash, made, hashed, emitted⟩ := (resources_nested nested finished).1 generatorOfS member
  have unpatched (name : String) : UnpatchedAbove generatorFiles m 1 ⟨"", "v1", "ConfigMap"⟩ name := by
    intro i _ patches decode
    cases decode
    rfl
  exact ⟨load_generatorFiles.1, built, r, hash, finished, made, hashed, emitted (unpatched _)⟩

end Application

end KubeOverlay
