import KubeOverlay.Proofs.Assembly
import KubeOverlay.Proofs.Editing
import KubeOverlay.Proofs.Frame
import KubeOverlay.Proofs.Merging
/-!
# Documents in key order

Every map of a document that a build handles, at any depth, has its keys in ascending order, so equal
contents are the same document. Reading makes such documents (`Yaml.sorted_of_mem_documents`), merging
a patch and editing at a path keep them so, and with them everything that is built
(`Application.rawWithin_sorted`, `Application.finish_sorted`).
-/
namespace KubeOverlay

namespace Document

variable {items : List Document} {fields : Fields} {key : String} {d : Document}

@[simp] theorem sorted_string (s : String) : (string s).Sorted := by simp [Sorted]

theorem Sorted.insert (sorted : (map fields).Sorted) (new : d.Sorted) :
    (map (Ordered.insert key d fields)).Sorted := by
  rw [sorted_map_iff] at sorted ⊢
  refine ⟨Ordered.ascending_insert key d fields sorted.1, fun e member => ?_⟩
  rcases Ordered.mem_insert member with rfl | old
  · exact new
  · exact sorted.2 e old

theorem Sorted.erase (sorted : (map fields).Sorted) : (map (Ordered.erase key fields)).Sorted := by
  rw [sorted_map_iff] at sorted ⊢
  exact ⟨Ordered.ascending_erase key fields sorted.1, fun e member => sorted.2 e (List.mem_filter.mp member).1⟩

theorem sorted_empty : (map []).Sorted := by simp [Ordered.Ascending]

theorem sorted_ofFields (each : ∀ e ∈ fields, e.2.Sorted) : (ofFields fields).Sorted :=
  List.foldlRecOn (motive := fun old => (map old).Sorted) fields _ sorted_empty fun _ sorted e member =>
    sorted.insert (each e member)

end Document

/-! ## Reading -/

namespace Yaml

theorem Reading.bind_eq_some {α β : Type} {x : Reading α} {f : α → Reading β} {s : Aliases} {r : β × Aliases} :
    (x >>= f) s = some r ↔ ∃ a s', x s = some (a, s') ∧ f a s' = some r := by
  simp only [bind, StateT.bind, Option.bind_eq_some_iff, Prod.exists]

/-- What reading gives each element of a list, it gives the list. -/
theorem Reading.mapM_each {α β : Type} {f : α → Reading β} {P : β → Prop} {l : List α}
    (each : ∀ a ∈ l, ∀ s b s', f a s = some (b, s') → P b) {s s' : Aliases} {bs : List β}
    (ran : l.mapM f s = some (bs, s')) : ∀ b ∈ bs, P b := by
  induction l generalizing s bs with
  | nil =>
    rw [List.mapM_nil] at ran
    cases ran
    simp
  | cons a rest ih =>
    simp only [List.mapM_cons, Reading.bind_eq_some] at ran
    obtain ⟨b, s₁, first, bs', s₂, later, last⟩ := ran
    cases last
    rw [List.forall_mem_cons]
    exact ⟨each a List.mem_cons_self s b s₁ first,
      ih (fun other member => each other (List.mem_cons_of_mem a member)) later⟩

theorem Plain.sorted_document {text : String} {meaning : Plain} {d : Document}
    (read : meaning.document? text = some d) : d.Sorted := by
  cases meaning <;> simp only [Plain.document?, Option.some.injEq, reduceCtorEq] at read
  all_goals subst read
  all_goals first | simp [Document.Sorted] | split <;> simp [Document.Sorted]

theorem Reading.failure_ne_some {α : Type} {s : Aliases} {r : α × Aliases} :
    (failure : Reading α) s ≠ some r := by
  intro read
  cases read

-- What an alias stands for can be larger than the alias, so it is the depth that gets smaller.
theorem sorted_document {depth : Nat} {n : Node} {s s' : Aliases} {d : Document}
    (read : document depth n s = some (d, s')) : d.Sorted := by
  unfold document at read
  obtain ⟨target, s₁, -, rest⟩ := Reading.bind_eq_some.mp read
  cases target with
  | scalar p text plain =>
    cases meaning : (scalarMeaning? p.tag text plain).bind (Plain.document? text) with
    | none => exact absurd (by simpa only [meaning] using rest) Reading.failure_ne_some
    | some scalar =>
      simp only [meaning] at rest
      cases rest
      obtain ⟨plain, -, scalar⟩ := Option.bind_eq_some_iff.mp meaning
      exact Plain.sorted_document scalar
  | sequence p items =>
    cases depth with
    | zero => exact absurd rest Reading.failure_ne_some
    | succ depth =>
      dsimp only at rest
      split at rest
      · exact absurd rest Reading.failure_ne_some
      · obtain ⟨ds, s₂, ran, last⟩ := Reading.bind_eq_some.mp rest
        cases last
        exact Document.sorted_list_iff.mpr (Reading.mapM_each (fun _ _ _ _ _ read => sorted_document read) ran)
  | mapping p entries =>
    cases depth with
    | zero => exact absurd rest Reading.failure_ne_some
    | succ depth =>
      dsimp only at rest
      split at rest
      · exact absurd rest Reading.failure_ne_some
      · obtain ⟨fields, s₂, ran, last⟩ := Reading.bind_eq_some.mp rest
        cases last
        refine Document.sorted_ofFields (Reading.mapM_each (fun e _ s field s' read => ?_) ran)
        obtain ⟨key, s₃, -, rest⟩ := Reading.bind_eq_some.mp read
        obtain ⟨value, s₄, value, last⟩ := Reading.bind_eq_some.mp rest
        cases last
        exact sorted_document value
  | «alias» number => exact absurd rest Reading.failure_ne_some
termination_by depth

theorem sorted_of_mem_documents {text : String} {d : Document} (member : some d ∈ documents text) :
    d.Sorted := by
  rcases List.mem_append.mp member with inside | ending
  · obtain ⟨n, -, reads⟩ := List.mem_map.mp inside
    obtain ⟨⟨d', s'⟩, read, same⟩ := Option.map_eq_some_iff.mp reads
    cases same
    exact sorted_document read
  · split at ending <;> simp at ending

end Yaml

/-! ## Merging patches -/

namespace Patch

theorem sorted_strip {d : Document} (sorted : d.Sorted) : (strip d).Sorted := by
  induction d using Document.inductionOn with
  | simple d noMap noList => rwa [strip_simple noMap noList]
  | list items ih =>
    rw [Document.sorted_list_iff] at sorted
    rw [strip, stripItems_eq_map, Document.sorted_list_iff, List.forall_mem_map]
    exact fun d member => ih d member (sorted d member)
  | map fields ih =>
    rw [Document.sorted_map_iff] at sorted
    rw [strip, stripFields_eq_map, Document.sorted_map_iff, List.forall_mem_map]
    refine ⟨List.pairwise_map.mpr (sorted.1.filter _), fun e member => ?_⟩
    have inside := (List.mem_filter.mp member).1
    exact ih e inside (sorted.2 e inside)

theorem sorted_keptByMerging : KeptByMerging Document.Sorted Document.Sorted where
  item _ d sorted member := Document.sorted_list_iff.mp sorted d member
  value _ e sorted member := (Document.sorted_map_iff.mp sorted).2 e member
  strip _ sorted := sorted_strip sorted
  list_iff _ := Document.sorted_list_iff
  field _ _ _ sorted found := sorted.field found
  insert _ _ _ _ sorted new := sorted.insert new
  erase _ _ sorted := sorted.erase

end Patch

/-! ## Editing at paths -/

namespace FieldPath

variable {σ : Type}

theorem sorted_editItems {inside : Fields → σ → Progress BuildError Fields × σ}
    (kept : ∀ fields s, (Document.map fields).Sorted → (Document.map (inside fields s).1.reached).Sorted)
    (walked : FieldPath) {items : List Document} (sorted : ∀ d ∈ items, d.Sorted) (index : Nat) (s : σ) :
    ∀ d ∈ (editItems inside walked index items s).1.reached, d.Sorted := by
  induction items generalizing index s with
  | nil => exact sorted
  | cons d rest ih =>
    rw [List.forall_mem_cons] at sorted
    cases d with
    | map fields =>
      have here := kept fields s sorted.1
      rw [editItems]
      split
      · next reached e s' ran =>
        rw [ran] at here
        exact List.forall_mem_cons.mpr ⟨here, sorted.2⟩
      · next reached s' ran =>
        rw [ran] at here
        exact List.forall_mem_cons.mpr ⟨here, ih sorted.2 (index + 1) s'⟩
    | _ => exact List.forall_mem_cons.mpr sorted

/-- What an edit keeps in key order, it keeps so at the end of a path. -/
theorem sorted_editFrom {f : Edit σ} (kept : ∀ d s d' s', d.Sorted → f d s = (.ok d', s') → d'.Sorted)
    (create : Bool) (path walked : FieldPath) {object : Fields} (sorted : (Document.map object).Sorted)
    (s : σ) : (Document.map (editFrom create f walked path object s).1.reached).Sorted := by
  have slotSorted {key : String} {object : Fields} {d : Document} (sorted : (Document.map object).Sorted)
      (slot : slot? create key object = some d) : d.Sorted := by
    rcases slot?_cases slot with stored | ⟨-, -, rfl⟩
    · exact sorted.field stored
    · exact Document.sorted_empty
  induction path generalizing walked object s with
  | nil => exact sorted
  | cons key path ih =>
    cases path with
    | nil =>
      rw [editFrom]
      split
      · exact sorted
      · next slot found =>
        split
        · next d s' edited => exact sorted.insert (kept _ _ _ _ (slotSorted sorted found) edited)
        · exact sorted.insert (slotSorted sorted found)
    | cons next rest =>
      rw [editFrom]
      dsimp only
      split
      · exact sorted
      · next fields found => exact sorted.insert (ih _ (slotSorted sorted found) s)
      · next items found =>
        refine sorted.insert (Document.sorted_list_iff.mpr ?_)
        have each := Document.sorted_list_iff.mp (slotSorted sorted found)
        exact sorted_editItems (fun fields s sorted => ih _ sorted s) _ each 0 s
      · next slot found => exact sorted.insert (slotSorted sorted found)

end FieldPath

/-! ## Passes -/

namespace Pass

variable {r r' : Resource}

theorem sorted_updateAt {rule : PathRule} {f : Document → Except BuildError Document}
    (kept : ∀ d d', d.Sorted → f d = .ok d' → d'.Sorted) (sorted : r.object.Sorted) :
    (updateAt rule f r).reached.object.Sorted := by
  rw [updateAt]
  split
  · next fields object =>
    rw [object] at sorted
    refine FieldPath.sorted_editFrom (fun d s d' s' sorted edited => ?_) rule.create rule.path [] sorted ()
    rw [chain_pure] at edited
    exact kept d d' sorted (Prod.mk.inj edited).1
  · exact sorted

theorem sorted_updateAll {rules : List PathRule} {f : PathRule → Document → Except BuildError Document}
    (kept : ∀ rule d d', d.Sorted → f rule d = .ok d' → d'.Sorted) {type : GroupVersionKind}
    (sorted : r.object.Sorted) : (updateAll rules f type r).reached.object.Sorted :=
  Progress.sequence_preserves (P := fun s : Resource => s.object.Sorted)
    (fun rule _ _ sorted => sorted_updateAt (kept rule) sorted) sorted

theorem sorted_onString {f : String → Except BuildError String} {rule : PathRule} {d d' : Document}
    (ran : onString f rule d = .ok d') : d'.Sorted := by
  obtain ⟨-, text', -, -, rfl⟩ := onString_eq_ok.mp ran
  exact Document.sorted_string text'

theorem sorted_added {entries : List (String × String)} {fields : Fields}
    (sorted : (Document.map fields).Sorted) : (addEntries.added entries fields).Sorted := by
  rw [addEntries.added]
  induction entries generalizing fields with
  | nil => exact sorted
  | cons e rest ih => exact ih (sorted.insert (Document.sorted_string e.2))

theorem sorted_addEntries {entries : List (String × String)} {rule : PathRule} {d d' : Document}
    (sorted : d.Sorted) (ran : addEntries entries rule d = .ok d') : d'.Sorted := by
  cases d with
  | map fields =>
    cases ran
    exact sorted_added sorted
  | null =>
    cases ran
    exact sorted_added Document.sorted_empty
  | _ => simp [addEntries] at ran

theorem sorted_hashed {id : Identity} (sorted : r.object.Sorted) (ran : hashed id r = .ok r') :
    r'.object.Sorted := by
  rw [hashed] at ran
  split at ran
  · cases ran
    exact sorted
  · contradiction
  · split at ran
    · next renamed =>
      cases ran
      rw [Resource.setName] at renamed
      split at renamed
      · next fields object =>
        rw [object] at sorted
        split at renamed
        · next metadata stored =>
          cases renamed
          exact sorted.insert ((sorted.field stored).insert (Document.sorted_string _))
        · contradiction
      · contradiction
    · contradiction

variable {P : Identity → Resource → Prop} {c c' : Collection}

/-- What an edit of resources keeps, the pass keeps. -/
theorem eachResource_all {f : Identity → Resource → Progress BuildError Resource}
    (kept : ∀ id r r', P id r → f id r = .done r' → P id r') (all : c.All P)
    (ran : eachResource f c = .done c') : c'.All P := by
  intro id r' held
  obtain ⟨r, held, done⟩ := (eachResource_eq_done.mp ran).symm.find? held
  exact kept id r r' (all id r held) done

theorem sorted_updatePass {rules : List PathRule} {f : PathRule → Document → Except BuildError Document}
    (kept : ∀ rule d d', d.Sorted → f rule d = .ok d' → d'.Sorted)
    (all : c.All fun _ r => r.object.Sorted)
    (ran : eachResource (fun id => updateAll rules f id.type) c = .done c') :
    c'.All fun _ r => r.object.Sorted := by
  refine eachResource_all (fun id r r' sorted done => ?_) all ran
  have reached : (updateAll rules f id.type r).reached.object.Sorted := sorted_updateAll kept sorted
  rwa [done] at reached

theorem sorted_mapEntries {name : String} {entries : List (String × String)} {rules : List PathRule}
    (all : c.All fun _ r => r.object.Sorted) (ran : (mapEntries name entries rules).run c = .done c') :
    c'.All fun _ r => r.object.Sorted := by
  simp only [mapEntries] at ran
  split at ran
  · cases ran
    exact all
  · exact sorted_updatePass (fun _ _ _ => sorted_addEntries) all ran

theorem sorted_nameReference {references : List ReferenceRule} (all : c.All fun _ r => r.object.Sorted)
    (ran : (nameReference references).run c = .done c') : c'.All fun _ r => r.object.Sorted := by
  refine eachResource_all (fun id r r' sorted done => ?_) all ran
  have reached : (Progress.done (ε := BuildError) r').reached.object.Sorted := by
    rw [← done]
    exact Progress.sequence_preserves (P := fun s : Resource => s.object.Sorted)
      (fun _ _ _ sorted => sorted_updateAll (fun _ _ _ _ => sorted_onString) sorted) sorted
  exact reached

end Pass

/-! ## Generators -/

namespace Generator

variable {files : FileSystem} {directory : String} {entries entries' : Entries} {r : Resource}

theorem ascending_addEntry {key : String} {value : List UInt8} (ascending : Ordered.Ascending entries)
    (added : addEntry key value entries = .ok entries') : Ordered.Ascending entries' := by
  rw [addEntry] at added
  split at added
  · contradiction
  · split at added
    · contradiction
    · cases added
      exact Ordered.ascending_insert key value entries ascending

theorem ascending_addPair {text : String} (ascending : Ordered.Ascending entries)
    (added : addPair entries text = .ok entries') : Ordered.Ascending entries' := by
  rw [addPair] at added
  split at added
  · exact ascending_addEntry ascending added
  · contradiction

theorem ascending_addFile {source : String} (ascending : Ordered.Ascending entries)
    (added : addFile files directory entries source = .ok entries') : Ordered.Ascending entries' := by
  obtain ⟨⟨key, path⟩, -, rest⟩ := bind_eq_ok.mp added
  obtain ⟨content, -, last⟩ := bind_eq_ok.mp rest
  exact ascending_addEntry ascending last

theorem ascending_collect {sources : Sources} (ran : collect files directory sources = .ok entries) :
    Ordered.Ascending entries := by
  obtain ⟨pairs, literals, rest⟩ := bind_eq_ok.mp ran
  obtain ⟨more, fromFiles, last⟩ := bind_eq_ok.mp rest
  have first := foldlM_preserves (fun _ _ _ _ => ascending_addPair) Ordered.ascending_nil literals
  have second := foldlM_preserves (fun _ _ _ _ => ascending_addFile) first fromFiles
  split at last
  · cases last
    exact second
  · obtain ⟨text, -, lines⟩ := bind_eq_ok.mp last
    exact foldlM_preserves (fun _ _ _ _ => ascending_addPair) second lines

theorem entriesOf_eq_ok {name : String} {sources : Sources} :
    entriesOf files directory name sources = .ok entries ↔ collect files directory sources = .ok entries := by
  rw [entriesOf]
  cases collect files directory sources <;> simp

theorem sorted_objectOf {kind name : String} {fields : Fields} (each : ∀ e ∈ fields, e.2.Sorted) :
    (objectOf kind name fields).Sorted := by
  refine Document.sorted_ofFields fun e member => ?_
  rcases List.mem_append.mp member with own | given
  · simp only [List.mem_cons, List.not_mem_nil, or_false] at own
    rcases own with rfl | rfl | rfl <;> simp [Ordered.Ascending]
  · exact each e given

theorem sorted_texts {fields : Fields} (ascending : Ordered.Ascending fields)
    (texts : ∀ e ∈ fields, ∃ s, e.2 = .string s) : (Document.map fields).Sorted := by
  refine Document.sorted_map_iff.mpr ⟨ascending, fun e member => ?_⟩
  obtain ⟨s, text⟩ := texts e member
  rw [text]
  exact Document.sorted_string s

theorem ascending_texts (ascending : Ordered.Ascending entries) : Ordered.Ascending
    (entries.filterMap fun e => (textOf? e.2).map fun s => (e.1, Document.string s)) := by
  refine ascending.filterMap _ fun a b below a' left b' right => ?_
  obtain ⟨_, -, rfl⟩ := Option.map_eq_some_iff.mp left
  obtain ⟨_, -, rfl⟩ := Option.map_eq_some_iff.mp right
  exact below

theorem sorted_encoded (ascending : Ordered.Ascending entries) :
    (Document.map (entries.map fun e => (e.1, encoded e.2))).Sorted := by
  refine sorted_texts (List.pairwise_map.mpr ascending) ?_
  rw [List.forall_mem_map]
  exact fun e _ => ⟨_, rfl⟩

theorem sorted_configMap {g : ConfigMapGenerator} (made : configMap files directory g = .ok r) :
    r.object.Sorted := by
  obtain ⟨entries, collected, last⟩ := bind_eq_ok.mp made
  cases last
  have ascending := ascending_collect (entriesOf_eq_ok.mp collected)
  have data : (Document.map (entries.filterMap fun e =>
      (textOf? e.2).map fun s => (e.1, Document.string s))).Sorted := by
    refine sorted_texts (ascending_texts ascending) fun e member => ?_
    obtain ⟨_, -, text⟩ := List.mem_filterMap.mp member
    obtain ⟨s, -, rfl⟩ := Option.map_eq_some_iff.mp text
    exact ⟨s, rfl⟩
  refine sorted_objectOf fun e member => ?_
  rcases List.mem_cons.mp member with rfl | binary
  · exact data
  · split at binary
    · contradiction
    · rw [List.mem_singleton.mp binary]
      exact sorted_encoded (ascending.filter _)

theorem sorted_secret {g : SecretGenerator} (made : secret files directory g = .ok r) :
    r.object.Sorted := by
  obtain ⟨entries, collected, last⟩ := bind_eq_ok.mp made
  cases last
  refine sorted_objectOf fun e member => ?_
  rcases List.mem_pair.mp member with rfl | rfl
  · exact Document.sorted_string _
  · exact sorted_encoded (ascending_collect (entriesOf_eq_ok.mp collected))

end Generator

/-! ## Builds -/

namespace Application

variable {files : FileSystem} {app : Application} {c c' raw : Collection} {levels : Nat}

theorem finish_sorted (all : c.All fun _ r => r.object.Sorted) (finished : app.finish c = .ok c') :
    c'.All fun _ r => r.object.Sorted := by
  obtain ⟨annotated, ⟨hashed, prefixed, labelled, hash, prefixing, labelling, annotating⟩, referring⟩ :=
    finish_eq_ok.mp finished
  have hashes : hashed.All fun _ r => r.object.Sorted :=
    Pass.eachResource_all (fun _ _ _ sorted done =>
      Pass.sorted_hashed sorted (Progress.ofExcept_eq_done.mp done)) all hash
  have prefixes : prefixed.All fun _ r => r.object.Sorted := by
    simp only [Pass.namePrefix] at prefixing
    split at prefixing
    · cases prefixing
      exact hashes
    · exact Pass.sorted_updatePass (fun _ _ _ _ => Pass.sorted_onString) hashes prefixing
  have entries := Pass.sorted_mapEntries (Pass.sorted_mapEntries prefixes labelling) annotating
  exact Pass.sorted_nameReference entries referring

theorem throughout_sorted : Throughout files fun _ r => r.object.Sorted where
  decoded _ _ _ member _ := Yaml.sorted_of_mem_documents member
  based _ _ _ all finished key r _ held _ := finish_sorted all finished key r held
  patched _ _ _ _ _ sorted member _ merged :=
    Patch.sorted_keptByMerging.mergeValue (Yaml.sorted_of_mem_documents member) sorted merged
  configMap _ _ _ _ made _ := Generator.sorted_configMap made
  secret _ _ _ _ made _ := Generator.sorted_secret made

theorem rawWithin_sorted (ran : rawWithin files levels app = .ok raw) :
    raw.All fun _ r => r.object.Sorted :=
  rawWithin_all throughout_sorted ran

end Application

end KubeOverlay
