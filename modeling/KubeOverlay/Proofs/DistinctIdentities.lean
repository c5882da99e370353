import KubeOverlay.Proofs.Identities
/-!
# Distinct identities

Keys are distinct, but the passes rename what stands under them. All hashes are equally long, so the
names of generated resources stay distinct among themselves, and so do those of plain ones; two
resources end up with one identity exactly if the hash turns the name of a generated one into the
declared name of a plain one (`Application.resources_identity_eq_iff`).
-/
namespace KubeOverlay

theorem Identity.eq_of {id other : Identity} (sameType : id.type = other.type)
    (sameName : id.name = other.name) : id = other := by
  obtain ⟨type, name⟩ := id
  obtain ⟨type', name'⟩ := other
  rw [mk.injEq]
  exact ⟨sameType, sameName⟩

/-! ## The length of hashes -/

namespace Digest

theorem length_hexText (bytes : List UInt8) : (hexText bytes).length = 2 * bytes.length := by
  simp [hexText, List.length_flatMap, Nat.mul_comm]

theorem length_sha256 (message : List UInt8) : (sha256 message).length = 32 := by
  simp [sha256, State.words, bytesOf]

end Digest

theorem ContentHash.length_ofContent (d : Document) : (ofContent d).toList.length = length := by
  simp [ofContent, Digest.length_hexText, Digest.length_sha256, length]

namespace Pass

theorem length_of_hash? {kind hash : String} {r : Resource} (hashed : hash? kind r = some (.ok hash)) :
    hash.toList.length = ContentHash.length := by
  rw [hash?, ContentHash.ofConfigMap, ContentHash.ofSecret] at hashed
  split at hashed
  · contradiction
  · split at hashed
    · obtain ⟨d, -, rfl⟩ := map_eq_ok.mp (Option.some.inj hashed)
      exact ContentHash.length_ofContent d
    · split at hashed
      · obtain ⟨d, -, rfl⟩ := map_eq_ok.mp (Option.some.inj hashed)
        exact ContentHash.length_ofContent d
      · contradiction

variable {kind name name' suffix suffix' : String} {r r' : Resource}

/-- Names stay distinct among generated resources and among plain ones. -/
theorem NameSuffix.eq_of_append_eq (origin : r.generated = r'.generated)
    (isSuffix : NameSuffix kind r suffix) (isSuffix' : NameSuffix kind r' suffix')
    (same : name ++ suffix = name' ++ suffix') : name = name' := by
  have lengths : suffix.toList.length = suffix'.toList.length := by
    cases made : r.generated with
    | false =>
      rw [(nameSuffix_plain made).mp isSuffix, (nameSuffix_plain (origin.symm.trans made)).mp isSuffix']
    | true =>
      obtain ⟨hash, hashed, rfl⟩ := (nameSuffix_generated made).mp isSuffix
      obtain ⟨hash', hashed', rfl⟩ := (nameSuffix_generated (origin.symm.trans made)).mp isSuffix'
      rw [String.toList_append, String.toList_append, List.length_append, List.length_append,
        length_of_hash? hashed, length_of_hash? hashed']
  have lists := congrArg String.toList same
  rw [String.toList_append, String.toList_append] at lists
  exact String.toList_injective (List.append_inj_left' lists lengths)

end Pass

/-! ## Names that hashes give -/

/-- With its hash, the name of a generated resource is the declared name of a plain resource of its
type. -/
def Collection.TakesName (c : Collection) (id other : Identity) : Prop :=
  ∃ r hash r', c.find? id = some r ∧ Pass.hash? id.type.kind r = some (.ok hash) ∧
    c.find? other = some r' ∧ r'.generated = false ∧ other = ⟨id.type, id.name ++ "-" ++ hash⟩

namespace Collection

variable {c : Collection} {id other : Identity} {r r' : Resource}

/-- Only generated resources take names, and only those of plain ones. -/
theorem TakesName.origins (takes : c.TakesName id other) (held : c.find? id = some r)
    (held' : c.find? other = some r') : r.generated = true ∧ r'.generated = false := by
  obtain ⟨g, hash, p, heldG, hashed, heldP, plain, -⟩ := takes
  cases held.symm.trans heldG
  cases held'.symm.trans heldP
  refine ⟨?_, plain⟩
  by_contra notMade
  simp [Pass.hash?, notMade] at hashed

/-- A generated and a plain resource get one name where the one takes the name of the other. -/
theorem takesName_iff {suffix suffix' : String} (held : c.find? id = some r)
    (held' : c.find? other = some r') (made : r.generated = true) (plain : r'.generated = false)
    (isSuffix : Pass.NameSuffix id.type.kind r suffix)
    (isSuffix' : Pass.NameSuffix other.type.kind r' suffix') :
    c.TakesName id other ↔ id.type = other.type ∧ id.name ++ suffix = other.name ++ suffix' := by
  obtain ⟨hash, hashed, rfl⟩ := (Pass.nameSuffix_generated made).mp isSuffix
  rw [(Pass.nameSuffix_plain plain).mp isSuffix', String.append_empty, ← String.append_assoc]
  constructor
  · rintro ⟨g, hash', -, heldG, hashed', -, -, rfl⟩
    cases held.symm.trans heldG
    cases hashed.symm.trans hashed'
    exact ⟨rfl, rfl⟩
  · rintro ⟨sameType, sameName⟩
    refine ⟨r, hash, r', held, hashed, held', plain, ?_⟩
    rw [sameType, sameName]

end Collection

namespace Application

variable {files : FileSystem} {app : Application} {raw built : Collection}

/-- Two resources of a build have one identity exactly if one of them is generated and takes the
declared name of the other. -/
theorem resources_identity_eq_iff (ran : app.rawResources files = .ok raw)
    (finished : app.resources files = .ok built) {id other final final' : Identity} {r r' : Resource}
    (differ : id ≠ other) (held : built.find? id = some r) (held' : built.find? other = some r')
    (identity : r.identity? = .ok final) (identity' : r'.identity? = .ok final') :
    final = final' ↔ raw.TakesName id other ∨ raw.TakesName other id := by
  obtain ⟨raw', again, passed⟩ := bind_eq_ok.mp finished
  cases ran.symm.trans again
  have kinds := rawResources_generatedKinds ran
  have fits := rawWithin_fitsKey ran
  obtain ⟨before, suffix, declared, isSuffix, rfl⟩ := finish_identity kinds fits passed held identity
  obtain ⟨before', suffix', declared', isSuffix', rfl⟩ := finish_identity kinds fits passed held' identity'
  rw [Identity.mk.injEq, String.append_right_inj]
  by_cases origin : before.generated = before'.generated
  · refine iff_of_false (fun ⟨sameType, sameName⟩ => ?_) ?_
    · rw [← sameType] at isSuffix'
      exact differ (Identity.eq_of sameType (isSuffix.eq_of_append_eq origin isSuffix' sameName))
    · rintro (takes | takes)
      · obtain ⟨made, plain⟩ := takes.origins declared declared'
        simp [made, plain] at origin
      · obtain ⟨made, plain⟩ := takes.origins declared' declared
        simp [made, plain] at origin
  · cases made : before.generated with
    | true =>
      have plain : before'.generated = false := by simpa [made] using origin
      rw [Collection.takesName_iff declared declared' made plain isSuffix isSuffix', or_iff_left]
      intro takes
      simpa [plain] using (takes.origins declared' declared).1
    | false =>
      have made' : before'.generated = true := by simpa [made] using origin
      rw [Collection.takesName_iff declared' declared made' made isSuffix' isSuffix, or_iff_right]
      · exact and_congr eq_comm eq_comm
      · intro takes
        simpa [made] using (takes.origins declared declared').1

/-! ## A ConfigMap that takes a declared name -/

/-- A directory with a ConfigMap that is named like one that has a hash after its name. -/
def clashFiles : FileSystem where
  top := .directory [
    textFile Manifest.fileName
      "resources:\n- old\nconfigMapGenerator:\n- name: settings\n  literals:\n  - A=1\n",
    textFile "old" "apiVersion: v1\nkind: ConfigMap\nmetadata:\n  name: settings-5bftf925t6\n"]
  workingDirectory := []

/-- An application that lists this ConfigMap and generates the one with the hash. -/
def clashApp : Application where
  directory := "."
  manifest := {
    resources := ["old"]
    configMaps := [⟨"settings", { literals := ["A=1"] }⟩] }

theorem load_clashApp : load clashFiles "." = .ok clashApp := by decide +kernel

def oldId : Identity := ⟨⟨"", "v1", "ConfigMap"⟩, "settings-5bftf925t6"⟩

/-- The build gives both ConfigMaps under their keys, and with one identity. -/
theorem clashApp_evaluated : ∃ raw built r r', clashApp.rawResources clashFiles = .ok raw ∧
    clashApp.resources clashFiles = .ok built ∧ built.find? settingsId = some r ∧
    built.find? oldId = some r' ∧ r.identity? = .ok oldId ∧ r'.identity? = .ok oldId := by
  have evaluated : ((clashApp.resources clashFiles).toOption.bind fun built =>
      (built.find? settingsId).bind fun r => (built.find? oldId).bind fun r' =>
        r.identity?.toOption.bind fun final => r'.identity?.toOption.map fun final' => (final, final')) =
      some (oldId, oldId) := by
    decide +kernel
  obtain ⟨built, finished, rest⟩ := Option.bind_eq_some_iff.mp evaluated
  obtain ⟨r, held, rest⟩ := Option.bind_eq_some_iff.mp rest
  obtain ⟨r', held', rest⟩ := Option.bind_eq_some_iff.mp rest
  obtain ⟨final, identity, rest⟩ := Option.bind_eq_some_iff.mp rest
  obtain ⟨final', identity', both⟩ := Option.map_eq_some_iff.mp rest
  obtain ⟨rfl, rfl⟩ := Prod.mk.inj both
  obtain ⟨raw, ran, -⟩ := bind_eq_ok.mp (toOption_eq_some.mp finished)
  exact ⟨raw, built, r, r', ran, toOption_eq_some.mp finished, held, held',
    toOption_eq_some.mp identity, toOption_eq_some.mp identity'⟩

/-- The generated ConfigMap takes the name of the declared one. -/
theorem clashApp_takesName : load clashFiles "." = .ok clashApp ∧ ∃ raw built r r',
    clashApp.rawResources clashFiles = .ok raw ∧ clashApp.resources clashFiles = .ok built ∧
    settingsId ≠ oldId ∧ built.find? settingsId = some r ∧ built.find? oldId = some r' ∧
    r.identity? = .ok oldId ∧ r'.identity? = .ok oldId ∧
    (raw.TakesName settingsId oldId ∨ raw.TakesName oldId settingsId) := by
  obtain ⟨raw, built, r, r', ran, finished, held, held', identity, identity'⟩ := clashApp_evaluated
  have differ : settingsId ≠ oldId := by decide
  have taken := (resources_identity_eq_iff ran finished differ held held' identity identity').mp rfl
  exact ⟨load_clashApp, raw, built, r, r', ran, finished, differ, held, held', identity, identity', taken⟩

/-- A successful build gives two resources with one identity. -/
theorem clashApp_not_distinct : load clashFiles "." = .ok clashApp ∧
    ∃ built, clashApp.resources clashFiles = .ok built ∧
    ¬ ∀ id other r r' final final', id ≠ other → built.find? id = some r → built.find? other = some r' →
      r.identity? = .ok final → r'.identity? = .ok final' → final ≠ final' := by
  obtain ⟨raw, built, r, r', -, finished, held, held', identity, identity'⟩ := clashApp_evaluated
  refine ⟨load_clashApp, built, finished, fun distinct => ?_⟩
  exact distinct settingsId oldId r r' oldId oldId (by decide) held held' identity identity' rfl

end Application

end KubeOverlay
