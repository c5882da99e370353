import KubeOverlay.Proofs.Assembly
import KubeOverlay.Proofs.Identities
/-!
# Collections written and read back

A collection that decoding, adding plain resources and merging have built is what its own encoding
decodes to (`Collection.Built.decode_encode`): every key is read again from the content, in the order of
the keys.
-/
namespace KubeOverlay

namespace Yaml

/-- The stream of documents written one after the other. -/
def stream (ds : List Document) : String := "---\n".intercalate (ds.map write)

/-- The stream of documents is read document by document: at each mark between them, what stands before it
reads as it does alone, and so does what follows. -/
def SplitsAtMarks (ds : List Document) : Prop :=
  ∀ before d after, ds = before ++ d :: after → after ≠ [] →
    documents (stream (d :: after)) = documents (write d) ++ documents (stream after)

variable {ds : List Document}

theorem documents_stream (nonempty : ds ≠ []) (splits : SplitsAtMarks ds)
    (readsBack : ∀ d ∈ ds, documents (write d) = [some d]) : documents (stream ds) = ds.map some := by
  induction ds with
  | nil => contradiction
  | cons d after ih =>
    have first := readsBack d List.mem_cons_self
    by_cases last : after = []
    · subst last
      rwa [stream, List.map_cons, List.map_nil, String.intercalate_singleton]
    · have later : SplitsAtMarks after := fun before d' after' same =>
        splits (d :: before) d' after' (by rw [same, List.cons_append])
      rw [splits [] d after rfl last, first,
        ih last later fun d' member => readsBack d' (List.mem_cons_of_mem d member)]
      rfl

end Yaml

namespace Collection

variable {c c' : Collection}

/-- The collections that decoding, adding resources that no generator made, and merging build. -/
inductive Built : Collection → Prop where
  | empty : Built empty
  | decoded {c : Collection} {text : String} (ran : decode text = .ok c) : Built c
  | added {c c' : Collection} {r : Resource} (built : Built c) (plain : r.generated = false)
    (ran : c.add r = .ok c') : Built c'
  | merged {c other c' : Collection} (built : Built c) (others : Built other)
    (ran : c.merge other = .done c') : Built c'

/-- A plain resource under the identity that its content gives. -/
def Own (id : Identity) (r : Resource) : Prop := r.identity? = .ok id ∧ r.generated = false

theorem Built.own (built : c.Built) : c.All Own := by
  induction built with
  | empty => exact all_empty
  | decoded ran => exact all_empty.addDocuments (fun d id _ identity => ⟨identity, rfl⟩) ran
  | @added c c' r _ plain ran own =>
    obtain ⟨id, identity, perm⟩ := add_eq_ok_iff.mp ran
    have brought : ∀ e ∈ [((id, r) : Entry)], Own e.1 e.2 := by
      intro e member
      rw [List.mem_singleton.mp member]
      exact ⟨identity, plain⟩
    exact own.of_perm brought perm
  | @merged c other c' _ _ ran own others =>
    have perm := merge_eq_ok_iff.mp (congrArg Progress.toExcept ran)
    exact own.of_perm (all_iff.mp others) perm

/-- Documents that are resources under keys in order come in one after the other. -/
theorem addDocuments_entries {index : Nat} {rest : List Entry} (whole : c'.entries = c.entries ++ rest)
    (own : ∀ e ∈ rest, Own e.1 e.2) :
    addDocuments index (rest.map fun e => some e.2.object) c = .ok c' := by
  induction rest generalizing c index with
  | nil =>
    rw [List.append_nil] at whole
    rw [eq_of_perm (.of_eq whole)]
    rfl
  | cons e rest ih =>
    obtain ⟨id, object, generated⟩ := e
    obtain ⟨identity, plain⟩ : Own id ⟨object, generated⟩ := own _ List.mem_cons_self
    cases plain
    have ascending : Ordered.Ascending (c.entries ++ [(id, Resource.mk object false)]) := by
      have sorted := c'.ascending
      rw [whole, List.append_cons] at sorted
      exact (List.pairwise_append.mp sorted).1
    let between : Collection := ⟨c.entries ++ [(id, ⟨object, false⟩)], ascending⟩
    have inserted : c.insert id ⟨object, false⟩ = .ok between := insert_eq_ok_iff.mpr List.perm_append_comm
    have later : addDocuments (index + 1) (rest.map fun e => some e.2.object) between = .ok c' := by
      refine ih ?_ fun e member => own e (List.mem_cons_of_mem _ member)
      rw [whole, List.append_cons]
    exact addDocuments_cons_eq_ok.mpr (.inr ⟨object, id, between, rfl, identity, inserted, later⟩)

/-- What a stream without documents reads as. -/
theorem documents_nothing : Yaml.documents "" = [some .null] := by decide +kernel

theorem Built.decode_encode (built : c.Built)
    (readsBack : ∀ d ∈ c.entries.map (·.2.object), Yaml.documents (Yaml.write d) = [some d])
    (splits : Yaml.SplitsAtMarks (c.entries.map (·.2.object))) :
    decode c.encode = .ok c ∧ (decode c.encode).map encode = .ok c.encode := by
  have decoded : decode c.encode = .ok c := by
    by_cases none : c.entries = []
    · have isEmpty : c = Collection.empty := eq_of_perm (.of_eq none)
      have nothing : Collection.empty.encode = "" := rfl
      rw [isEmpty, nothing, decode, documents_nothing]
      rfl
    · have isStream : c.encode = Yaml.stream (c.entries.map (·.2.object)) := by
        rw [encode, Yaml.stream, List.map_map]
        rfl
      rw [decode, isStream, Yaml.documents_stream (by simpa using none) splits readsBack, List.map_map]
      exact addDocuments_entries rfl (all_iff.mp built.own)
  rw [decoded]
  exact ⟨rfl, rfl⟩

/-- A ConfigMap with a string that needs quotes, and an empty list. -/
def configMap (name : String) : Document :=
  .map [("apiVersion", .string "v1"), ("data", .map [("key", .string "1: two"), ("none", .list [])]),
    ("kind", .string "ConfigMap"), ("metadata", .map [("name", .string name)])]

def configMapId (name : String) : Identity := ⟨⟨"", "v1", "ConfigMap"⟩, name⟩

def pair : Collection where
  entries := [(configMapId "a", ⟨configMap "a", false⟩), (configMapId "b", ⟨configMap "b", false⟩)]
  ascending := by
    rw [Ordered.Ascending, List.pairwise_pair]
    decide

theorem pair_built : pair.Built := by
  have single : Ordered.Ascending [(configMapId "b", Resource.mk (configMap "b") false)] :=
    List.pairwise_singleton _ _
  have first : Built ⟨_, single⟩ := Built.empty.added rfl (add_eq_ok_iff.mpr ⟨configMapId "b", rfl, .refl _⟩)
  exact first.added rfl (add_eq_ok_iff.mpr ⟨configMapId "a", rfl, .refl _⟩)

theorem pair_splits : Yaml.SplitsAtMarks (pair.entries.map (·.2.object)) := by
  intro before d after whole more
  have documents : [configMap "a", configMap "b"] = before ++ d :: after := whole
  match before, after with
  | [], [_] =>
    obtain ⟨rfl, rfl⟩ : configMap "a" = d ∧ configMap "b" = _ := by simpa using documents
    decide +kernel
  | [], [] => contradiction
  | [], _ :: _ :: _ => simp at documents
  | [_], [] => contradiction
  | [_], _ :: _ => simp at documents
  | _ :: _ :: _, _ => simp at documents

theorem pair_decode_encode : decode pair.encode = .ok pair ∧ (decode pair.encode).map encode = .ok pair.encode :=
  pair_built.decode_encode (by decide +kernel) pair_splits

end Collection

end KubeOverlay
