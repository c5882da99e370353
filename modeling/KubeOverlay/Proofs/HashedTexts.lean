import KubeOverlay.Proofs.JsonTexts
import KubeOverlay.Proofs.Pointwise
/-!
# Hashed texts

What is hashed of a ConfigMap or a Secret is a text, and this text stands for the content: two of them
give the same text exactly when kind, name and the fields that are hashed are the same, a field that is
missing counting as null (`hashedText_eq_iff`).
-/
namespace KubeOverlay.ContentHash

variable {r r' : Resource} {fields : List String} {field kind name : String}

/-- The text that is hashed of a resource. -/
def hashedText (fields : List String) (r : Resource) : Except BuildError String :=
  Json.write <$> content fields r

/-- The hash of a text: the digits of its digest that are kept. -/
def ofText (text : String) : String :=
  String.ofList (((Digest.hexText (Digest.sha256 text.toUTF8.toList)).take length).map letter)

/-- A field of a resource; one that is missing counts as null. -/
def fieldOrNull (field : String) (r : Resource) : Document := (r.object.field? field).getD .null

/-! ## What is hashed -/

/-- A field as it is copied. -/
def entry (r : Resource) (field : String) : Fields :=
  if fieldOrNull field r = .null then [] else [(field, fieldOrNull field r)]

/-- Kind, name and the fields that are copied. -/
def hashedFields (kind name : String) (fields : List String) (r : Resource) : Fields :=
  ("kind", .string kind) :: ("name", .string name) :: fields.flatMap (entry r)

theorem copied_eq_ok {copy : Fields} (ran : copied r.object field = .ok copy) : copy = entry r field := by
  unfold copied at ran
  unfold entry fieldOrNull
  split at ran <;> cases ran <;> simp_all

theorem mapM_copied {copies : List Fields} (ran : fields.mapM (copied r.object) = .ok copies) :
    copies = fields.map (entry r) := by
  induction fields generalizing copies with
  | nil =>
    cases ran
    rfl
  | cons field rest ih =>
    rw [List.mapM_cons] at ran
    obtain ⟨copy, here, ran⟩ := bind_eq_ok.mp ran
    obtain ⟨others, later, last⟩ := bind_eq_ok.mp ran
    cases last
    rw [List.map_cons, copied_eq_ok here, ih later]

theorem identity_eq_ok {own : Fields} (ran : identity r = .ok own) : ∃ kind name, r.kind? = some kind ∧
    r.name? = some name ∧ own = [("kind", .string kind), ("name", .string name)] := by
  unfold identity at ran
  split at ran
  · cases ran
  · cases ran
  · next name kind named kinded =>
    cases ran
    exact ⟨kind, name, kinded, named, rfl⟩

theorem content_eq_ok {d : Document} (ran : content fields r = .ok d) : ∃ kind name, r.kind? = some kind ∧
    r.name? = some name ∧ d = .ofFields (hashedFields kind name fields r) := by
  unfold content at ran
  obtain ⟨own, identified, ran⟩ := bind_eq_ok.mp ran
  obtain ⟨copies, copied, last⟩ := bind_eq_ok.mp ran
  cases last
  obtain ⟨kind, name, kinded, named, rfl⟩ := identity_eq_ok identified
  refine ⟨kind, name, kinded, named, ?_⟩
  rw [mapM_copied copied, ← List.flatMap_def]
  rfl

/-! ## What the content tells -/

theorem mem_entry {e : String × Document} :
    e ∈ entry r field ↔ e.1 = field ∧ e.2 = fieldOrNull field r ∧ e.2 ≠ .null := by
  unfold entry
  split
  · next missing => simp [missing]
  · next present =>
    rw [List.mem_singleton]
    constructor
    · rintro rfl
      exact ⟨rfl, rfl, present⟩
    · rintro ⟨key, value, -⟩
      exact Prod.ext key value

theorem mem_hashedFields {e : String × Document} : e ∈ hashedFields kind name fields r ↔
    e = ("kind", .string kind) ∨ e = ("name", .string name) ∨
      (e.1 ∈ fields ∧ e.2 = fieldOrNull e.1 r ∧ e.2 ≠ .null) := by
  simp only [hashedFields, List.mem_cons, List.mem_flatMap, mem_entry]
  constructor
  · rintro (kind | name | ⟨field, member, rfl, value⟩)
    · exact .inl kind
    · exact .inr (.inl name)
    · exact .inr (.inr ⟨member, value⟩)
  · rintro (kind | name | ⟨member, value⟩)
    · exact .inl kind
    · exact .inr (.inl name)
    · exact .inr (.inr ⟨e.1, member, rfl, value⟩)

theorem keys_sublist (fields : List String) (r : Resource) :
    ((fields.flatMap (entry r)).map (·.1)).Sublist fields := by
  induction fields with
  | nil => exact .refl _
  | cons field rest ih =>
    rw [List.flatMap_cons, entry]
    split
    · exact ih.cons field
    · exact ih.cons_cons field

theorem nodup_hashedFields (distinct : ("kind" :: "name" :: fields).Nodup) :
    ((hashedFields kind name fields r).map (·.1)).Nodup :=
  distinct.sublist (((keys_sublist fields r).cons_cons "name").cons_cons "kind")

/-- What is found of one resource is found of the other. -/
theorem told_of_subset {kind' name' : String} (distinct : ("kind" :: "name" :: fields).Nodup)
    (subset : hashedFields kind name fields r ⊆ hashedFields kind' name' fields r') :
    kind = kind' ∧ name = name' ∧
      ∀ field ∈ fields, fieldOrNull field r ≠ .null → fieldOrNull field r = fieldOrNull field r' := by
  obtain ⟨noKind, noName, -⟩ : "kind" ∉ "name" :: fields ∧ "name" ∉ fields ∧ fields.Nodup := by
    simpa only [List.nodup_cons] using distinct
  refine ⟨?_, ?_, fun field member present => ?_⟩
  · rcases mem_hashedFields.mp (subset (mem_hashedFields.mpr (.inl rfl))) with same | same | copied
    · simpa using same
    · simp at same
    · exact absurd (List.mem_cons_of_mem _ copied.1) noKind
  · rcases mem_hashedFields.mp (subset (mem_hashedFields.mpr (.inr (.inl rfl)))) with same | same | copied
    · simp at same
    · simpa using same
    · exact absurd copied.1 noName
  · have here : (field, fieldOrNull field r) ∈ hashedFields kind name fields r :=
      mem_hashedFields.mpr (.inr (.inr ⟨member, rfl, present⟩))
    rcases mem_hashedFields.mp (subset here) with same | same | copied
    · exact absurd ((Prod.mk.inj same).1 ▸ List.mem_cons_of_mem _ member) noKind
    · exact absurd ((Prod.mk.inj same).1 ▸ member) noName
    · exact copied.2.1

/-- The content tells kind, name and the fields that are copied, and nothing else. -/
theorem hashedFields_perm_iff {kind' name' : String} (distinct : ("kind" :: "name" :: fields).Nodup) :
    (hashedFields kind name fields r).Perm (hashedFields kind' name' fields r') ↔
      kind = kind' ∧ name = name' ∧ ∀ field ∈ fields, fieldOrNull field r = fieldOrNull field r' := by
  constructor
  · intro perm
    obtain ⟨kinds, names, told⟩ := told_of_subset distinct perm.subset
    obtain ⟨-, -, told'⟩ := told_of_subset distinct perm.symm.subset
    refine ⟨kinds, names, fun field member => ?_⟩
    by_cases missing : fieldOrNull field r = .null
    · by_cases missing' : fieldOrNull field r' = .null
      · rw [missing, missing']
      · exact (told' field member missing').symm
    · exact told field member missing
  · rintro ⟨rfl, rfl, same⟩
    have entries : fields.flatMap (entry r) = fields.flatMap (entry r') :=
      List.flatMap_congr fun field member => by rw [entry, entry, same field member]
    rw [hashedFields, hashedFields, entries]

/-- Resources give the same text exactly when kind, name and the fields that are copied are the same. -/
theorem hashedText_eq_iff {text text' : String} (distinct : ("kind" :: "name" :: fields).Nodup)
    (given : hashedText fields r = .ok text) (given' : hashedText fields r' = .ok text') :
    text = text' ↔ r.kind? = r'.kind? ∧ r.name? = r'.name? ∧
      ∀ field ∈ fields, fieldOrNull field r = fieldOrNull field r' := by
  obtain ⟨d, contents, rfl⟩ := map_eq_ok.mp given
  obtain ⟨d', contents', rfl⟩ := map_eq_ok.mp given'
  obtain ⟨kind, name, kinded, named, rfl⟩ := content_eq_ok contents
  obtain ⟨kind', name', kinded', named', rfl⟩ := content_eq_ok contents'
  rw [Json.write_eq_iff, Document.ofFields_eq_iff (nodup_hashedFields distinct) (nodup_hashedFields distinct),
    hashedFields_perm_iff distinct, kinded, kinded', named, named', Option.some.injEq, Option.some.injEq]

/-- The hash of a resource is that of its text. -/
theorem text_of_hash {hash : String} (hashed : ofContent <$> content fields r = .ok hash) :
    ∃ text, hashedText fields r = .ok text ∧ ofText text = hash := by
  obtain ⟨d, contents, same⟩ := map_eq_ok.mp hashed
  exact ⟨Json.write d, map_eq_ok.mpr ⟨d, contents, rfl⟩, same⟩

/-- The text that is hashed tells the content: documents with the same text are the same, and two
ConfigMaps, or two Secrets, that have a hash are hashed by the same text exactly when their kind, name
and hashed fields are the same, whatever else they hold. -/
theorem text_tells_content :
    (∀ a b : Document, Json.write a = Json.write b ↔ a = b) ∧
    (∀ r r' hash hash', ofConfigMap r = .ok hash → ofConfigMap r' = .ok hash' →
      ∃ text text', hashedText ["data", "binaryData"] r = .ok text ∧ ofText text = hash ∧
        hashedText ["data", "binaryData"] r' = .ok text' ∧ ofText text' = hash' ∧
        (text = text' ↔ r.kind? = r'.kind? ∧ r.name? = r'.name? ∧
          fieldOrNull "data" r = fieldOrNull "data" r' ∧
          fieldOrNull "binaryData" r = fieldOrNull "binaryData" r')) ∧
    (∀ r r' hash hash', ofSecret r = .ok hash → ofSecret r' = .ok hash' →
      ∃ text text', hashedText ["type", "data"] r = .ok text ∧ ofText text = hash ∧
        hashedText ["type", "data"] r' = .ok text' ∧ ofText text' = hash' ∧
        (text = text' ↔ r.kind? = r'.kind? ∧ r.name? = r'.name? ∧
          fieldOrNull "type" r = fieldOrNull "type" r' ∧
          fieldOrNull "data" r = fieldOrNull "data" r')) := by
  refine ⟨fun a b => Json.write_eq_iff, fun r r' hash hash' hashed hashed' => ?_,
    fun r r' hash hash' hashed hashed' => ?_⟩
  · obtain ⟨text, given, digest⟩ := text_of_hash hashed
    obtain ⟨text', given', digest'⟩ := text_of_hash hashed'
    refine ⟨text, text', given, digest, given', digest', ?_⟩
    simpa using hashedText_eq_iff (by decide) given given'
  · obtain ⟨text, given, digest⟩ := text_of_hash hashed
    obtain ⟨text', given', digest'⟩ := text_of_hash hashed'
    refine ⟨text, text', given, digest, given', digest', ?_⟩
    simpa using hashedText_eq_iff (by decide) given given'

/-- A ConfigMap with a value, and with more metadata than its name. -/
def settings (metadata : Fields) (value : String) : Resource where
  object := .map [("data", .map [("k", .string value)]), ("kind", .string "ConfigMap"),
    ("metadata", .map (metadata ++ [("name", .string "a")]))]

/-- More metadata: a label. -/
def labelled : Fields := [("labels", .map [("a", .string "b")])]

/-- A label leaves the text of a ConfigMap as it is, another value does not. -/
theorem text_tells_value : ∃ text text' other,
    hashedText ["data", "binaryData"] (settings [] "1") = .ok text ∧
    hashedText ["data", "binaryData"] (settings labelled "1") = .ok text' ∧
    hashedText ["data", "binaryData"] (settings [] "2") = .ok other ∧ text = text' ∧ text ≠ other := by
  have plain : (ofConfigMap (settings [] "1")).toOption.isSome = true := by decide +kernel
  have same : (ofConfigMap (settings labelled "1")).toOption.isSome = true := by decide +kernel
  have changed : (ofConfigMap (settings [] "2")).toOption.isSome = true := by decide +kernel
  obtain ⟨hash, hashed⟩ := Option.isSome_iff_exists.mp plain
  obtain ⟨hash', hashed'⟩ := Option.isSome_iff_exists.mp same
  obtain ⟨otherHash, otherHashed⟩ := Option.isSome_iff_exists.mp changed
  rw [toOption_eq_some] at hashed hashed' otherHashed
  obtain ⟨text, text', given, -, given', -, agree⟩ := text_tells_content.2.1 _ _ _ _ hashed hashed'
  obtain ⟨text₂, other, given₂, -, givenOther, -, differ⟩ := text_tells_content.2.1 _ _ _ _ hashed otherHashed
  rw [given] at given₂
  cases given₂
  refine ⟨text, text', other, given, given', givenOther, agree.mpr (by decide), fun equal => ?_⟩
  exact absurd (differ.mp equal) (by decide)

end KubeOverlay.ContentHash
