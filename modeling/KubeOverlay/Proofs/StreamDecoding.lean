import KubeOverlay.Proofs.Identities
import Mathlib.Data.List.Induction
/-!
# What a stream of documents decodes to

A stream is decoded exactly if it is well formed: every document in it can be read, is null or has an
identity, and no two documents have the same one. The collection then holds each document that is not
null once, as it is, under its identity. Otherwise the first offending document gives the error
(`Collection.stream_outcomes`).
-/
namespace KubeOverlay

/-! ## Documents with an identity -/

namespace Document

variable {d : Document} {id id' : Identity} {cause : ResourceError}

/-- A map whose `apiVersion`, `kind` and `metadata.name` are strings, which make up the identity. -/
def HasIdentity (id : Identity) (d : Document) : Prop :=
  ∃ fields metadata apiVersion kind, d = .map fields ∧
    Ordered.find? "apiVersion" fields = some (.string apiVersion) ∧
    Ordered.find? "kind" fields = some (.string kind) ∧
    Ordered.find? "metadata" fields = some (.map metadata) ∧
    Ordered.find? "name" metadata = some (.string id.name) ∧
    id.type = .ofApiVersion apiVersion kind

/-- What a document without an identity lacks first. -/
inductive Lacks (d : Document) : ResourceError → Prop where
  | fields (noMap : ∀ fields, d ≠ .map fields) : Lacks d .notAMap
  | apiVersion {fields : Fields} (isMap : d = .map fields) (absent : d.stringField? "apiVersion" = none) :
      Lacks d (.missingField "apiVersion")
  | kind {version : String} (versioned : d.stringField? "apiVersion" = some version)
      (absent : d.stringField? "kind" = none) : Lacks d (.missingField "kind")
  | name {version kind : String} (versioned : d.stringField? "apiVersion" = some version)
      (ofKind : d.stringField? "kind" = some kind)
      (absent : (d.field? "metadata").bind (·.stringField? "name") = none) :
      Lacks d (.missingField "metadata.name")

theorem identity?_eq_ok_iff {generated : Bool} :
    (Resource.mk d generated).identity? = .ok id ↔ d.HasIdentity id := by
  rw [Resource.identity?_eq_ok]
  constructor
  · rintro ⟨⟨apiVersion, kind, versioned, ofKind, typed⟩, named⟩
    obtain ⟨fields, isMap, version⟩ := stringField?_eq_some.mp versioned
    obtain ⟨fields', isMap', kindField⟩ := stringField?_eq_some.mp ofKind
    obtain ⟨inner, found, name⟩ := Option.bind_eq_some_iff.mp named
    obtain ⟨metadata, rfl, nameField⟩ := stringField?_eq_some.mp name
    dsimp only at isMap isMap' found
    subst isMap
    cases isMap'
    exact ⟨fields, metadata, apiVersion, kind, rfl, version, kindField, found, nameField, typed.symm⟩
  · rintro ⟨fields, metadata, apiVersion, kind, rfl, version, kindField, found, nameField, typed⟩
    refine ⟨⟨apiVersion, kind, ?_, ?_, typed.symm⟩, ?_⟩
    · exact stringField?_eq_some.mpr ⟨fields, rfl, version⟩
    · exact stringField?_eq_some.mpr ⟨fields, rfl, kindField⟩
    · exact Option.bind_eq_some_iff.mpr
        ⟨.map metadata, found, stringField?_eq_some.mpr ⟨metadata, rfl, nameField⟩⟩

theorem identity?_eq_error_iff {generated : Bool} :
    (Resource.mk d generated).identity? = .error cause ↔ d.Lacks cause := by
  constructor
  · intro failed
    cases d with
    | map fields =>
      cases versioned : (map fields).stringField? "apiVersion" with
      | none =>
        simp only [Resource.identity?, Resource.apiVersion?, versioned] at failed
        cases failed
        exact .apiVersion rfl versioned
      | some version =>
        cases ofKind : (map fields).stringField? "kind" with
        | none =>
          simp only [Resource.identity?, Resource.apiVersion?, Resource.kind?, versioned, ofKind] at failed
          cases failed
          exact .kind versioned ofKind
        | some kind =>
          cases named : ((map fields).field? "metadata").bind (·.stringField? "name") with
          | none =>
            simp only [Resource.identity?, Resource.apiVersion?, Resource.kind?, Resource.name?, versioned,
              ofKind, named] at failed
            cases failed
            exact .name versioned ofKind named
          | some name =>
            simp only [Resource.identity?, Resource.apiVersion?, Resource.kind?, Resource.name?, versioned,
              ofKind, named] at failed
            cases failed
    | _ =>
      cases failed
      exact .fields fun _ => by simp
  · intro lacks
    cases lacks with
    | fields noMap =>
      cases d with
      | map fields => exact absurd rfl (noMap fields)
      | _ => rfl
    | apiVersion isMap absent =>
      subst isMap
      simp only [Resource.identity?, Resource.apiVersion?, absent]
      rfl
    | kind versioned absent =>
      obtain ⟨fields, rfl, -⟩ := stringField?_eq_some.mp versioned
      simp only [Resource.identity?, Resource.apiVersion?, Resource.kind?, versioned, absent]
      rfl
    | name versioned ofKind absent =>
      obtain ⟨fields, rfl, -⟩ := stringField?_eq_some.mp versioned
      simp only [Resource.identity?, Resource.apiVersion?, Resource.kind?, Resource.name?, versioned, ofKind,
        absent]
      rfl

theorem HasIdentity.unique (left : d.HasIdentity id) (right : d.HasIdentity id') : id = id' := by
  have ran : (Resource.mk d false).identity? = .ok id := identity?_eq_ok_iff.mpr left
  rw [identity?_eq_ok_iff.mpr right] at ran
  exact (Except.ok.inj ran).symm

theorem HasIdentity.ne_null (has : d.HasIdentity id) : d ≠ .null := by
  obtain ⟨fields, -, -, -, rfl, -⟩ := has
  simp

theorem hasIdentity_or_lacks (d : Document) : (∃ id, d.HasIdentity id) ∨ ∃ cause, d.Lacks cause := by
  cases outcome : (Resource.mk d false).identity? with
  | ok id => exact .inl ⟨id, identity?_eq_ok_iff.mp outcome⟩
  | error cause => exact .inr ⟨cause, identity?_eq_error_iff.mp outcome⟩

end Document

namespace Collection

variable {docs before after : List (Option Document)} {d : Document} {d? : Option Document} {id : Identity}
  {c c' : Collection} {index : Nat} {e : ResourceError} {entries : List Entry}

/-! ## The entries of a stream -/

/-- The entries that the documents of a stream bring, in the order of the stream. -/
inductive StreamBrings : List (Option Document) → List Entry → Prop where
  | nil : StreamBrings [] []
  | skipped {docs : List (Option Document)} {entries : List Entry} (rest : StreamBrings docs entries) :
      StreamBrings (some .null :: docs) entries
  | held {d : Document} {id : Identity} {docs : List (Option Document)} {entries : List Entry}
      (has : d.HasIdentity id) (rest : StreamBrings docs entries) :
      StreamBrings (some d :: docs) ((id, ⟨d, false⟩) :: entries)

/-- One document more, added to a collection. -/
theorem addDocuments_held (has : d.HasIdentity id) : addDocuments index (some d :: docs) c =
    c.insert id ⟨d, false⟩ >>= addDocuments (index + 1) docs := by
  rw [addDocuments]
  · rw [Document.identity?_eq_ok_iff.mpr has]
    dsimp only
    cases c.insert id ⟨d, false⟩ <;> rfl
  · exact has.ne_null

theorem addDocuments_lacking {cause : ResourceError} (notNull : d ≠ .null) (lacks : d.Lacks cause) :
    addDocuments index (some d :: docs) c = .error (.invalidDocument index cause) := by
  rw [addDocuments]
  · rw [Document.identity?_eq_error_iff.mpr lacks]
  · exact notNull

theorem addDocuments_eq_ok_iff : addDocuments index docs c = .ok c' ↔
    ∃ entries, StreamBrings docs entries ∧ c'.entries.Perm (entries ++ c.entries) := by
  induction docs generalizing index c with
  | nil =>
    constructor
    · intro ran
      cases ran
      exact ⟨[], .nil, .refl _⟩
    · rintro ⟨_, ⟨⟩, perm⟩
      rw [eq_of_perm perm]
      rfl
  | cons d? rest ih =>
    simp only [addDocuments_cons_eq_ok, ih, Document.identity?_eq_ok_iff, insert_eq_ok_iff]
    constructor
    · rintro (⟨rfl, entries, brings, perm⟩ | ⟨d, id, between, rfl, has, here, entries, brings, perm⟩)
      · exact ⟨entries, .skipped brings, perm⟩
      · exact ⟨(id, ⟨d, false⟩) :: entries, .held has brings,
          (perm.trans (here.append_left entries)).trans List.perm_middle⟩
    · rintro ⟨_, brings, perm⟩
      cases brings with
      | skipped later => exact .inl ⟨rfl, _, later, perm⟩
      | @held d id _ entries has later =>
        have perm : c'.entries.Perm (entries ++ (id, ⟨d, false⟩) :: c.entries) :=
          perm.trans List.perm_middle.symm
        obtain ⟨between, half⟩ := exists_of_append perm
        exact .inr ⟨d, id, between, rfl, has, half, entries, later, perm.trans (half.symm.append_left entries)⟩

/-! ## Well-formed streams -/

/-- All documents can be read, and those that are not null have identities, each one of its own. -/
structure WellFormed (docs : List (Option Document)) : Prop where
  readable : none ∉ docs
  identified : ∀ d, some d ∈ docs → d ≠ .null → ∃ id, d.HasIdentity id
  distinct : docs.Pairwise fun a b => ∀ d d' id, a = some d → b = some d' → d.HasIdentity id →
    ¬ d'.HasIdentity id

theorem StreamBrings.mem_iff (brings : StreamBrings docs entries) {entry : Entry} :
    entry ∈ entries ↔ ∃ d, some d ∈ docs ∧ d.HasIdentity entry.1 ∧ entry.2 = ⟨d, false⟩ := by
  induction brings with
  | nil => simp
  | @skipped docs entries _ ih =>
    rw [ih]
    refine exists_congr fun d => ?_
    rw [List.mem_cons]
    constructor
    · rintro ⟨member, has⟩
      exact ⟨.inr member, has⟩
    · rintro ⟨isNull | member, has, same⟩
      · cases isNull
        exact absurd rfl has.ne_null
      · exact ⟨member, has, same⟩
  | @held d id docs entries has _ ih =>
    rw [List.mem_cons, ih]
    constructor
    · rintro (rfl | ⟨d', member, own⟩)
      · exact ⟨d, List.mem_cons_self, has, rfl⟩
      · exact ⟨d', List.mem_cons_of_mem _ member, own⟩
    · rintro ⟨d', member, has', same⟩
      rcases List.mem_cons.mp member with here | later
      · cases here
        exact .inl (Prod.ext (has'.unique has) same)
      · exact .inr ⟨d', later, has', same⟩

theorem wellFormed_nil : WellFormed [] := ⟨by simp, by simp, .nil⟩

theorem wellFormed_skipped : WellFormed (some .null :: docs) ↔ WellFormed docs := by
  constructor
  · intro formed
    exact ⟨fun member => formed.readable (List.mem_cons_of_mem _ member),
      fun d member => formed.identified d (List.mem_cons_of_mem _ member),
      (List.pairwise_cons.mp formed.distinct).2⟩
  · intro formed
    refine ⟨by simpa using formed.readable, fun d member notNull => ?_, ?_⟩
    · rcases List.mem_cons.mp member with isNull | later
      · cases isNull
        exact absurd rfl notNull
      · exact formed.identified d later notNull
    · refine List.pairwise_cons.mpr ⟨fun _ _ d d' id isNull _ has => ?_, formed.distinct⟩
      cases isNull
      exact absurd rfl has.ne_null

theorem wellFormed_held (has : d.HasIdentity id) :
    WellFormed (some d :: docs) ↔ WellFormed docs ∧ ∀ d', some d' ∈ docs → ¬ d'.HasIdentity id := by
  constructor
  · intro formed
    obtain ⟨apart, distinct⟩ := List.pairwise_cons.mp formed.distinct
    exact ⟨⟨fun member => formed.readable (List.mem_cons_of_mem _ member),
      fun d' member => formed.identified d' (List.mem_cons_of_mem _ member), distinct⟩,
      fun d' member => apart (some d') member d d' id rfl rfl has⟩
  · rintro ⟨formed, fresh⟩
    refine ⟨by simpa using formed.readable, fun d' member notNull => ?_, ?_⟩
    · rcases List.mem_cons.mp member with here | later
      · cases here
        exact ⟨id, has⟩
      · exact formed.identified d' later notNull
    · refine List.pairwise_cons.mpr ⟨fun b inside d₁ d₂ id' here there has₁ => ?_, formed.distinct⟩
      cases here
      subst there
      cases has.unique has₁
      exact fresh d₂ inside

theorem wellFormed_iff : WellFormed docs ↔
    ∃ entries, StreamBrings docs entries ∧ (entries.map (·.1)).Nodup := by
  constructor
  · intro formed
    induction docs with
    | nil => exact ⟨[], .nil, .nil⟩
    | cons d? rest ih =>
      cases d? with
      | none => exact absurd List.mem_cons_self formed.readable
      | some d =>
        by_cases isNull : d = .null
        · subst isNull
          obtain ⟨entries, brings, nodup⟩ := ih (wellFormed_skipped.mp formed)
          exact ⟨entries, .skipped brings, nodup⟩
        · obtain ⟨id, has⟩ := formed.identified d List.mem_cons_self isNull
          obtain ⟨tail, fresh⟩ := (wellFormed_held has).mp formed
          obtain ⟨entries, brings, nodup⟩ := ih tail
          refine ⟨_, .held has brings, List.nodup_cons.mpr ⟨fun member => ?_, nodup⟩⟩
          obtain ⟨entry, inside, rfl⟩ := List.mem_map.mp member
          obtain ⟨d', later, has', -⟩ := brings.mem_iff.mp inside
          exact fresh d' later has'
  · rintro ⟨entries, brings, nodup⟩
    induction brings with
    | nil => exact wellFormed_nil
    | skipped _ ih => exact wellFormed_skipped.mpr (ih nodup)
    | @held d id docs entries has later ih =>
      obtain ⟨fresh, nodup⟩ := List.nodup_cons.mp nodup
      refine (wellFormed_held has).mpr ⟨ih nodup, fun d' member has' => fresh ?_⟩
      exact List.mem_map.mpr ⟨(id, ⟨d', false⟩), later.mem_iff.mpr ⟨d', member, has', rfl⟩, rfl⟩

/-! ## The first offending document -/

/-- What is wrong with a document after those before it. Its index counts all of these. -/
inductive Offends (before : List (Option Document)) : Option Document → ResourceError → Prop where
  | unreadable : Offends before none .malformedYaml
  | unidentified {d : Document} {cause : ResourceError} (notNull : d ≠ .null) (lacks : d.Lacks cause) :
      Offends before (some d) (.invalidDocument before.length cause)
  | taken {d earlier : Document} {id : Identity} (has : d.HasIdentity id) (member : some earlier ∈ before)
      (same : earlier.HasIdentity id) : Offends before (some d) (.duplicate id)

/-- A well-formed stream stays so with one document more, unless that one offends. -/
theorem wellFormed_concat (d? : Option Document) (formed : WellFormed docs) :
    WellFormed (docs ++ [d?]) ∨ ∃ e, Offends docs d? e := by
  cases d? with
  | none => exact .inr ⟨_, .unreadable⟩
  | some d =>
    have extended (identified : d ≠ .null → ∃ id, d.HasIdentity id)
        (fresh : ∀ d' id, some d' ∈ docs → d'.HasIdentity id → ¬ d.HasIdentity id) :
        WellFormed (docs ++ [some d]) := by
      refine ⟨by simpa using formed.readable, fun d' member notNull => ?_, ?_⟩
      · rcases List.mem_append.mp member with inside | last
        · exact formed.identified d' inside notNull
        · cases List.mem_singleton.mp last
          exact identified notNull
      · refine List.pairwise_append.mpr ⟨formed.distinct, List.pairwise_singleton _ _, fun a inside b last => ?_⟩
        rintro d₁ d₂ id rfl rfl has
        cases List.mem_singleton.mp last
        exact fresh d₁ id inside has
    by_cases isNull : d = .null
    · exact .inl (extended (fun notNull => absurd isNull notNull) fun _ _ _ _ has => has.ne_null isNull)
    · rcases d.hasIdentity_or_lacks with ⟨id, has⟩ | ⟨cause, lacks⟩
      · by_cases taken : ∃ earlier, some earlier ∈ docs ∧ earlier.HasIdentity id
        · obtain ⟨earlier, member, same⟩ := taken
          exact .inr ⟨_, .taken has member same⟩
        · refine .inl (extended (fun _ => ⟨id, has⟩) fun d' id' member has' own => taken ⟨d', member, ?_⟩)
          exact has.unique own ▸ has'
      · exact .inr ⟨_, .unidentified isNull lacks⟩

theorem wellFormed_or_offends (docs : List (Option Document)) : WellFormed docs ∨
    ∃ before d? after e, docs = before ++ d? :: after ∧ WellFormed before ∧ Offends before d? e := by
  induction docs using List.reverseRecOn with
  | nil => exact .inl wellFormed_nil
  | append_singleton docs last ih =>
    rcases ih with formed | ⟨before, d?, after, e, rfl, formed, offends⟩
    · rcases wellFormed_concat last formed with whole | ⟨e, offends⟩
      · exact .inl whole
      · exact .inr ⟨docs, last, [], e, rfl, formed, offends⟩
    · exact .inr ⟨before, d?, after ++ [last], e, by simp, formed, offends⟩

theorem addDocuments_append (ran : addDocuments index before c = .ok c') :
    addDocuments index (before ++ after) c = addDocuments (index + before.length) after c' := by
  induction before generalizing index c with
  | nil =>
    cases ran
    rfl
  | cons d? rest ih =>
    have later : index + (d? :: rest).length = index + 1 + rest.length := by
      rw [List.length_cons]
      omega
    rw [List.cons_append, later]
    rcases addDocuments_cons_eq_ok.mp ran with ⟨rfl, ran⟩ | ⟨d, id, between, rfl, identity, inserted, ran⟩
    · exact ih ran
    · rw [addDocuments_held (Document.identity?_eq_ok_iff.mp identity), inserted]
      exact ih ran

/-- A stream is decoded up to its first offending document. -/
theorem addDocuments_of_offends (formed : WellFormed before) (offends : Offends before d? e) :
    addDocuments 0 (before ++ d? :: after) empty = .error e := by
  obtain ⟨entries, brings, nodup⟩ := wellFormed_iff.mp formed
  obtain ⟨c, perm⟩ := exists_of_nodup entries nodup
  have ran : addDocuments 0 before empty = .ok c :=
    addDocuments_eq_ok_iff.mpr ⟨entries, brings, by simpa [empty] using perm⟩
  rw [addDocuments_append ran, Nat.zero_add]
  cases offends with
  | unreadable => rfl
  | unidentified notNull lacks => exact addDocuments_lacking notNull lacks
  | @taken d earlier id has member same =>
    have held : c.contains id = true := by
      rw [contains, Ordered.contains, Option.isSome_iff_exists]
      exact ⟨_, find?_of_perm perm (brings.mem_iff.mpr ⟨earlier, member, same, rfl⟩)⟩
    rw [addDocuments_held has, insert, if_pos held]
    rfl

/-! ## Outcomes -/

/-- Every document that is not null is held once, as it is, under its identity. -/
structure Holds (docs : List (Option Document)) (c : Collection) : Prop where
  documents : (c.entries.map fun entry => some entry.2.object).Perm (docs.filter (· ≠ some .null))
  own : ∀ id r, c.find? id = some r → r.object.HasIdentity id ∧ r.generated = false

theorem StreamBrings.documents (brings : StreamBrings docs entries) :
    (entries.map fun entry => some entry.2.object) = docs.filter (· ≠ some .null) := by
  induction brings with
  | nil => rfl
  | skipped _ ih => simpa using ih
  | held has _ ih =>
    rw [List.map_cons, ih, List.filter_cons_of_pos]
    simpa using has.ne_null

/-- The entry of a document that has an identity. -/
def entryOf? (d? : Option Document) : Option Entry :=
  d?.bind fun d => (Resource.mk d false).identity?.toOption.map (·, ⟨d, false⟩)

/-- Plain resources under their identities are given by their documents. -/
theorem filterMap_entryOf?
    (own : ∀ entry ∈ entries, entry.2.object.HasIdentity entry.1 ∧ entry.2.generated = false) :
    (entries.map fun entry => some entry.2.object).filterMap entryOf? = entries := by
  have each : ∀ entry ∈ entries, entryOf? (some entry.2.object) = some entry := by
    rintro ⟨id, object, generated⟩ member
    obtain ⟨has, plain⟩ := own _ member
    dsimp only at has plain
    subst plain
    rw [entryOf?, Option.bind_some, Document.identity?_eq_ok_iff.mpr has]
    rfl
  rw [List.filterMap_map]
  exact (List.filterMap_congr each).trans List.filterMap_some

theorem addDocuments_empty_eq_ok_iff : addDocuments 0 docs empty = .ok c ↔ WellFormed docs ∧ Holds docs c := by
  rw [addDocuments_eq_ok_iff, empty]
  simp only [List.append_nil]
  constructor
  · rintro ⟨entries, brings, perm⟩
    refine ⟨wellFormed_iff.mpr ⟨entries, brings, nodup_of_perm perm⟩, ?_, fun id r held => ?_⟩
    · rw [← brings.documents]
      exact perm.map _
    · obtain ⟨d, -, has, same⟩ := brings.mem_iff.mp (perm.subset (mem_entries.mpr held))
      dsimp only at has same
      subst same
      exact ⟨has, rfl⟩
  · rintro ⟨formed, holds⟩
    obtain ⟨entries, brings, -⟩ := wellFormed_iff.mp formed
    have perm := holds.documents
    rw [← brings.documents] at perm
    have perm := perm.filterMap entryOf?
    rw [filterMap_entryOf? (all_iff.mp holds.own), filterMap_entryOf? fun entry member => ?_] at perm
    · exact ⟨entries, brings, perm⟩
    · obtain ⟨d, -, has, same⟩ := brings.mem_iff.mp member
      rw [same]
      exact ⟨has, rfl⟩

/-- A stream of documents is decoded exactly if it is well formed, and then into the collection of its documents,
with keys in order. Otherwise the error is that of the first document that offends after a well-formed part. -/
theorem stream_outcomes (docs : List (Option Document)) :
    (∀ text, decode text = addDocuments 0 (Yaml.documents text) empty) ∧
    ((∃ c, addDocuments 0 docs empty = .ok c) ↔ WellFormed docs) ∧
    (∀ c, addDocuments 0 docs empty = .ok c ↔ WellFormed docs ∧ Holds docs c ∧ Ordered.Ascending c.entries) ∧
    ∀ e, addDocuments 0 docs empty = .error e ↔ ∃ before d? after, docs = before ++ d? :: after ∧
      WellFormed before ∧ Offends before d? e := by
  have decoded (formed : WellFormed docs) : ∃ c, addDocuments 0 docs empty = .ok c := by
    obtain ⟨entries, brings, nodup⟩ := wellFormed_iff.mp formed
    obtain ⟨c, perm⟩ := exists_of_nodup entries nodup
    exact ⟨c, addDocuments_eq_ok_iff.mpr ⟨entries, brings, by simpa [empty] using perm⟩⟩
  refine ⟨fun text => rfl, ⟨?_, decoded⟩, fun c => ?_, fun e => ⟨fun failed => ?_, ?_⟩⟩
  · rintro ⟨c, ran⟩
    exact (addDocuments_empty_eq_ok_iff.mp ran).1
  · rw [addDocuments_empty_eq_ok_iff, and_iff_left c.ascending]
  · rcases wellFormed_or_offends docs with formed | ⟨before, d?, after, e', rfl, formed, offends⟩
    · obtain ⟨c, ran⟩ := decoded formed
      cases failed.symm.trans ran
    · cases failed.symm.trans (addDocuments_of_offends formed offends)
      exact ⟨before, d?, after, rfl, formed, offends⟩
  · rintro ⟨before, d?, after, rfl, formed, offends⟩
    exact addDocuments_of_offends formed offends

/-- Documents that are skipped count in the index of the one that is no resource. -/
example : addDocuments 0 [some .null, some (.list []), none] empty = .error (.invalidDocument 1 .notAMap) := rfl

end Collection

end KubeOverlay
