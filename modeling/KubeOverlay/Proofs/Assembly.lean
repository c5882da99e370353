import KubeOverlay.Application
import KubeOverlay.Proofs.Places
import KubeOverlay.Proofs.Pointwise
/-!
# What a build puts together

Listed files, bases and generators bring entries, and a build stops at the first entry whose key is
taken. So it puts together what is brought, each entry once: a collection is given by its entries in
any order (`Collection.eq_of_perm`), and steps that bring entries succeed with exactly the
collection of all of them (`Collection.foldlM_eq_ok_iff`). What every entry has when it comes in,
everything that is put together has (`Application.rawWithin_all`).
-/
namespace KubeOverlay

theorem exists_of_mem_right {α β : Type} {R : α → β → Prop} {l : List α} {l' : List β}
    (related : List.Forall₂ R l l') {b : β} (member : b ∈ l') : ∃ a ∈ l, R a b := by
  induction related with
  | nil => contradiction
  | @cons a b' rest rest' here _ ih =>
    rcases List.mem_cons.mp member with rfl | later
    · exact ⟨a, List.mem_cons_self, here⟩
    · obtain ⟨a', member, holds⟩ := ih later
      exact ⟨a', List.mem_cons_of_mem a member, holds⟩

theorem exists_of_mem_left {α β : Type} {R : α → β → Prop} {l : List α} {l' : List β}
    (related : List.Forall₂ R l l') {a : α} (member : a ∈ l) : ∃ b ∈ l', R a b :=
  exists_of_mem_right related.flip member

namespace Progress

variable {ε σ α : Type}

theorem sequence_ofExcept (f : σ → α → Except ε σ) (l : List α) (s : σ) :
    (sequence (fun a s => ofExcept s (f s a)) l s).toExcept = l.foldlM f s := by
  simp only [toExcept_sequence, toExcept_ofExcept]

end Progress

/-- An entry of a collection. -/
abbrev Entry := Identity × Resource

namespace Collection

variable {a b c c' : Collection} {id : Identity} {r : Resource}

/-- A collection is given by its entries in any order. -/
theorem eq_of_perm (perm : a.entries.Perm b.entries) : a = b := by
  obtain ⟨xs, left⟩ := a
  obtain ⟨ys, right⟩ := b
  rw [mk.injEq]
  exact Ordered.eq_of_perm left right perm

theorem find?_of_perm {part : List Entry} (perm : c.entries.Perm part) (member : (id, r) ∈ part) :
    c.find? id = some r :=
  mem_entries.mp (perm.symm.subset member)

theorem put_perm (free : c.find? id = none) : (c.put id r).entries.Perm ((id, r) :: c.entries) :=
  Ordered.insert_perm free

theorem exists_of_nodup (entries : List Entry) (nodup : (entries.map (·.1)).Nodup) :
    ∃ c : Collection, c.entries.Perm entries := by
  obtain ⟨sorted, ascending, perm⟩ := Ordered.exists_ascending nodup
  exact ⟨⟨sorted, ascending⟩, perm⟩

theorem nodup_of_perm {part : List Entry} (perm : c.entries.Perm part) : (part.map (·.1)).Nodup :=
  (perm.map (·.1)).nodup_iff.mp (Ordered.nodup_keys c.ascending)

/-- What is put together half-way has different keys, as the whole has, and so is a collection. -/
theorem exists_of_append {part rest : List Entry} (perm : c.entries.Perm (part ++ rest)) :
    ∃ half : Collection, half.entries.Perm rest := by
  have nodup := nodup_of_perm perm
  rw [List.map_append, List.nodup_append] at nodup
  exact exists_of_nodup rest nodup.2.1

theorem insert_eq_ok_iff : c.insert id r = .ok c' ↔ c'.entries.Perm ((id, r) :: c.entries) := by
  rw [insert, contains, Ordered.contains]
  constructor
  · intro inserted
    split at inserted
    · contradiction
    · next taken =>
      cases inserted
      exact put_perm (Option.not_isSome_iff_eq_none.mp taken)
  · intro perm
    have nodup := nodup_of_perm perm
    rw [List.map_cons, List.nodup_cons] at nodup
    have free : Ordered.find? id c.entries = none := by
      refine Ordered.find?_eq_none_iff.mpr fun other member same => nodup.1 ?_
      exact List.mem_map.mpr ⟨other, member, same⟩
    rw [free, if_neg (by simp), eq_of_perm ((put_perm free).trans perm.symm)]

theorem add_eq_ok_iff :
    c.add r = .ok c' ↔ ∃ id, r.identity? = .ok id ∧ c'.entries.Perm ((id, r) :: c.entries) := by
  rw [add, bind_eq_ok]
  exact exists_congr fun id => and_congr_right fun _ => insert_eq_ok_iff

/-- Steps that bring entries succeed with the collection of all entries that they bring. -/
theorem foldlM_eq_ok_iff {ε α : Type} {step : Collection → α → Except ε Collection}
    {Brings : α → List Entry → Prop}
    (step_iff : ∀ c a c', step c a = .ok c' ↔ ∃ part, Brings a part ∧ c'.entries.Perm (part ++ c.entries))
    {l : List α} :
    l.foldlM step c = .ok c' ↔
      ∃ parts, List.Forall₂ Brings l parts ∧ c'.entries.Perm (parts.flatten ++ c.entries) := by
  induction l generalizing c with
  | nil =>
    constructor
    · intro ran
      cases ran
      exact ⟨[], .nil, .refl _⟩
    · rintro ⟨_, ⟨⟩, perm⟩
      rw [eq_of_perm perm]
      rfl
  | cons a rest ih =>
    have onwards (part : List Entry) (parts : List (List Entry)) :
        (parts.flatten ++ (part ++ c.entries)).Perm ((part :: parts).flatten ++ c.entries) := by
      rw [List.flatten_cons, ← List.append_assoc]
      exact List.perm_append_comm.append_right _
    rw [foldlM_cons_eq_ok]
    constructor
    · rintro ⟨between, first, later⟩
      obtain ⟨part, brings, perm⟩ := (step_iff c a between).mp first
      obtain ⟨parts, bring, perm'⟩ := ih.mp later
      exact ⟨part :: parts, .cons brings bring,
        (perm'.trans (perm.append_left _)).trans (onwards part parts)⟩
    · rintro ⟨_, all, perm⟩
      obtain ⟨part, later, brings, bring, rfl⟩ := List.forall₂_cons_left_iff.mp all
      have perm := perm.trans (onwards part later).symm
      obtain ⟨between, half⟩ := exists_of_append perm
      exact ⟨between, (step_iff c a between).mpr ⟨part, brings, half⟩,
        ih.mpr ⟨later, bring, perm.trans (half.symm.append_left _)⟩⟩

theorem exists_singles_iff {α : Type} {Brings : α → Entry → Prop} {l : List α} {entries : List Entry} :
    (∃ parts, List.Forall₂ (fun a part => ∃ e, Brings a e ∧ part = [e]) l parts ∧ parts.flatten = entries) ↔
      List.Forall₂ Brings l entries := by
  constructor
  · rintro ⟨parts, bring, rfl⟩
    induction bring with
    | nil => exact .nil
    | cons brings _ ih =>
      obtain ⟨e, brings, rfl⟩ := brings
      exact .cons brings ih
  · intro bring
    refine ⟨entries.map ([·]), ?_, by rw [← List.flatMap_def, List.flatMap_singleton']⟩
    exact List.forall₂_map_right_iff.mpr (bring.imp fun a e brings => ⟨e, brings, rfl⟩)

theorem foldlM_single_eq_ok_iff {ε α : Type} {step : Collection → α → Except ε Collection}
    {Brings : α → Entry → Prop}
    (step_iff : ∀ c a c', step c a = .ok c' ↔ ∃ e, Brings a e ∧ c'.entries.Perm (e :: c.entries))
    {l : List α} :
    l.foldlM step c = .ok c' ↔
      ∃ entries, List.Forall₂ Brings l entries ∧ c'.entries.Perm (entries ++ c.entries) := by
  have each (c : Collection) (a : α) (c' : Collection) : step c a = .ok c' ↔
      ∃ part, (∃ e, Brings a e ∧ part = [e]) ∧ c'.entries.Perm (part ++ c.entries) := by
    rw [step_iff]
    constructor
    · rintro ⟨e, brings, perm⟩
      exact ⟨[e], ⟨e, brings, rfl⟩, perm⟩
    · rintro ⟨_, ⟨e, brings, rfl⟩, perm⟩
      exact ⟨e, brings, perm⟩
  rw [foldlM_eq_ok_iff each]
  constructor
  · rintro ⟨parts, bring, perm⟩
    exact ⟨parts.flatten, exists_singles_iff.mp ⟨parts, bring, rfl⟩, perm⟩
  · rintro ⟨entries, bring, perm⟩
    obtain ⟨parts, single, rfl⟩ := exists_singles_iff.mpr bring
    exact ⟨parts, single, perm⟩

theorem merge_eq_ok_iff {other : Collection} :
    (c.merge other).toExcept = .ok c' ↔ c'.entries.Perm (other.entries ++ c.entries) := by
  have each (c : Collection) (e : Entry) (c' : Collection) : c.insert e.1 e.2 = .ok c' ↔
      ∃ e', e = e' ∧ c'.entries.Perm (e' :: c.entries) := by
    rw [insert_eq_ok_iff]
    exact ⟨fun perm => ⟨e, rfl, perm⟩, fun ⟨_, same, perm⟩ => same ▸ perm⟩
  rw [merge, Progress.sequence_ofExcept, foldlM_single_eq_ok_iff each]
  simp only [List.forall₂_eq_eq_eq, exists_eq_left']

/-! ## What holds of all entries -/

/-- Every resource has a property under its key. -/
def All (P : Identity → Resource → Prop) (c : Collection) : Prop :=
  ∀ id r, c.find? id = some r → P id r

variable {P : Identity → Resource → Prop}

theorem all_iff : c.All P ↔ ∀ e ∈ c.entries, P e.1 e.2 :=
  ⟨fun all _ member => all _ _ (mem_entries.mp member), fun all _ _ held => all _ (mem_entries.mpr held)⟩

theorem all_empty : empty.All P := by
  intro id r held
  simp [find?, empty, Ordered.find?] at held

theorem All.of_perm {part : List Entry} (old : c.All P) (new : ∀ e ∈ part, P e.1 e.2)
    (perm : c'.entries.Perm (part ++ c.entries)) : c'.All P := by
  refine all_iff.mpr fun e member => ?_
  rcases List.mem_append.mp (perm.subset member) with brought | kept
  · exact new e brought
  · exact all_iff.mp old e kept

/-- A document of a stream that is null adds nothing, and another one comes in under its identity. -/
theorem addDocuments_cons_eq_ok {d? : Option Document} {rest : List (Option Document)} {index : Nat} :
    addDocuments index (d? :: rest) c = .ok c' ↔
      (d? = some .null ∧ addDocuments (index + 1) rest c = .ok c') ∨
      ∃ d id between, d? = some d ∧ (Resource.mk d false).identity? = .ok id ∧
        c.insert id ⟨d, false⟩ = .ok between ∧ addDocuments (index + 1) rest between = .ok c' := by
  constructor
  · intro added
    unfold addDocuments at added
    split at added
    · contradiction
    · contradiction
    · next same =>
      cases same
      exact .inl ⟨rfl, added⟩
    · next d _ _ same =>
      cases same
      split at added
      · contradiction
      · next id identity =>
        split at added
        · contradiction
        · next between inserted => exact .inr ⟨d, id, between, rfl, identity, inserted, added⟩
  · rintro (⟨rfl, later⟩ | ⟨d, id, between, rfl, identity, inserted, later⟩)
    · exact later
    · have isMap : d ≠ .null := by
        rintro rfl
        contradiction
      rw [addDocuments]
      · simp only [identity, inserted]
        exact later
      · exact isMap

/-- The documents of a stream come in as plain resources under their identities. -/
theorem All.addDocuments {documents : List (Option Document)} {index : Nat} (old : c.All P)
    (new : ∀ d id, some d ∈ documents → (Resource.mk d false).identity? = .ok id → P id ⟨d, false⟩)
    (added : Collection.addDocuments index documents c = .ok c') : c'.All P := by
  induction documents generalizing index c with
  | nil =>
    cases added
    exact old
  | cons document rest ih =>
    have later := fun d id (member : some d ∈ rest) => new d id (List.mem_cons_of_mem _ member)
    rcases addDocuments_cons_eq_ok.mp added with ⟨-, added⟩ | ⟨d, id, between, rfl, identity, inserted, added⟩
    · exact ih old later added
    · have brought : ∀ e ∈ [((id, ⟨d, false⟩) : Entry)], P e.1 e.2 := by
        intro e member
        rw [List.mem_singleton.mp member]
        exact new d id List.mem_cons_self identity
      exact ih (old.of_perm brought (insert_eq_ok_iff.mp inserted)) later added

/-! ## Patches -/

section Overlays

variable {patches : Collection} {merger : Pass.Merger}

theorem applyPatch_eq_done {e : Entry} : Pass.applyPatch merger e c = .done c' ↔
    ∃ base object, c.find? e.1 = some base ∧ merger e.1.type base.object e.2.object = .ok object ∧
      c' = c.put e.1 { base with object } := by
  rw [Pass.applyPatch]
  cases held : c.find? e.1 with
  | none => simp [Progress.stopped, Progress.done]
  | some base =>
    dsimp only
    cases outcome : merger e.1.type base.object e.2.object with
    | error fault => simp [Progress.stopped, Progress.done, outcome]
    | ok object => simp [Progress.done, outcome, eq_comm]

/-- Patches under ascending keys are merged onto what is under their keys, and leave the rest alone. -/
theorem sequence_applyPatch {entries : List Entry} (ascending : Ordered.Ascending entries)
    (ran : Progress.sequence (Pass.applyPatch merger) entries c = .done c') (id : Identity) :
    (Ordered.find? id entries = none → c'.find? id = c.find? id) ∧
    ∀ patch, Ordered.find? id entries = some patch → ∃ base object, c.find? id = some base ∧
      merger id.type base.object patch.object = .ok object ∧ c'.find? id = some { base with object } := by
  induction entries generalizing c with
  | nil =>
    cases ran
    exact ⟨fun _ => rfl, fun _ found => absurd found (by simp [Ordered.find?])⟩
  | cons e rest ih =>
    obtain ⟨between, first, later⟩ := Progress.sequence_cons_eq_done.mp ran
    obtain ⟨base, object, held, outcome, rfl⟩ := applyPatch_eq_done.mp first
    have onwards := ih (List.pairwise_cons.mp ascending).2 later
    rw [Ordered.find?]
    by_cases same : id = e.1
    · subst same
      have put := Ordered.find?_insert_self e.1 { base with object } c.entries
      rw [if_pos Std.ReflCmp.compare_self]
      refine ⟨fun absent => by contradiction, ?_⟩
      rintro patch ⟨⟩
      exact ⟨base, object, held, outcome, (onwards.1 (Ordered.find?_rest ascending)).trans put⟩
    · have apart : (c.put e.1 { base with object }).find? id = c.find? id :=
        Ordered.find?_insert_of_ne e.1 id _ c.entries same
      rw [if_neg fun equal => same (Std.LawfulEqCmp.eq_of_compare equal)]
      rwa [apart] at onwards

/-- Every patch is merged onto the resource under its key, and the other resources stay. -/
theorem find?_overlay (ran : (Pass.overlay patches merger).run c = .done c') (id : Identity) :
    (patches.find? id = none → c'.find? id = c.find? id) ∧
    ∀ patch, patches.find? id = some patch → ∃ base object, c.find? id = some base ∧
      merger id.type base.object patch.object = .ok object ∧ c'.find? id = some { base with object } :=
  sequence_applyPatch patches.ascending ran id

/-- What patches keep, all resources have after an overlay. -/
theorem All.overlay (all : c.All P)
    (merged : ∀ id base patch object, P id base → patches.find? id = some patch →
      merger id.type base.object patch.object = .ok object → P id { base with object })
    (ran : (Pass.overlay patches merger).run c = .done c') : c'.All P := by
  intro id r' held'
  obtain ⟨unpatched, patched⟩ := find?_overlay ran id
  cases found : patches.find? id with
  | none => exact all id r' ((unpatched found).symm.trans held')
  | some patch =>
    obtain ⟨base, object, held, outcome, put⟩ := patched patch found
    cases put.symm.trans held'
    exact merged id base patch object (all id base held) found outcome

end Overlays

end Collection

/-! ## Loading -/

theorem Manifest.ofYaml_eq_ok {text : String} {m : Manifest} :
    ofYaml text = .ok m ↔ parse? text = some m ∧ m.validate = .ok () := by
  rw [ofYaml]
  cases parse? text with
  | none => simp
  | some found =>
    simp only [bind_eq_ok, Option.some.injEq]
    constructor
    · rintro ⟨⟨⟩, valid, same⟩
      cases same
      exact ⟨rfl, valid⟩
    · rintro ⟨rfl, valid⟩
      exact ⟨(), valid, rfl⟩

namespace Application

open Collection (foldlM_eq_ok_iff foldlM_single_eq_ok_iff)

variable {files : FileSystem} {app : Application} {c c' raw : Collection} {levels : Nat}

theorem liftResource_eq_ok {α : Type} {x : Except ResourceError α} {a : α} :
    liftResource x = .ok a ↔ x = .ok a := by
  cases x <;> simp [liftResource]

theorem liftManifest_eq_ok {α : Type} {x : Except ManifestError α} {a : α} :
    liftManifest x = .ok a ↔ x = .ok a := by
  cases x <;> simp [liftManifest]

theorem load_eq (files : FileSystem) (directory : String) : load files directory =
    if !files.pathExists directory then .error (.notFound directory)
    else if !files.pathExists (Path.join directory Manifest.fileName) then .error (.missingFile directory)
    else match files.readText (Path.join directory Manifest.fileName) with
      | .ok text => (Manifest.ofYaml text).map (⟨directory, ·⟩)
      | .error fault => .error (.unreadable fault) := by
  simp only [load]
  split
  · rfl
  · split
    · rfl
    · cases files.readText (Path.join directory Manifest.fileName) with
      | error fault => rfl
      | ok text => cases Manifest.ofYaml text <;> rfl

/-- What is loaded from a directory: the valid manifest that the file in it writes. -/
theorem load_eq_ok_iff {directory : String} : load files directory = .ok app ↔
    files.pathExists directory = true ∧
    ∃ text m, files.readText (Path.join directory Manifest.fileName) = .ok text ∧
      Manifest.ofYaml text = .ok m ∧ app = ⟨directory, m⟩ := by
  rw [load_eq]
  constructor
  · intro loaded
    split at loaded
    · contradiction
    · next exists' =>
      split at loaded
      · contradiction
      · split at loaded
        · next text read =>
          cases outcome : Manifest.ofYaml text with
          | error e => simp [outcome, Except.map] at loaded
          | ok m =>
            refine ⟨by simpa using exists', text, m, read, outcome, ?_⟩
            simpa [outcome, Except.map, eq_comm] using loaded
        · contradiction
  · rintro ⟨exists', text, m, read, parsed, rfl⟩
    obtain ⟨content, found, -⟩ := FileSystem.lookup_of_readText read
    have present : files.pathExists (Path.join directory Manifest.fileName) = true := by
      rw [FileSystem.pathExists, found]
      rfl
    simp only [exists', present, read, parsed]
    rfl

theorem load_directory {directory : String} (loaded : load files directory = .ok app) :
    app.directory = directory := by
  obtain ⟨-, text, m, -, -, rfl⟩ := load_eq_ok_iff.mp loaded
  rfl

/-! ## Listed files -/

/-- The entries that a listed file brings. -/
def FileBrings (files : FileSystem) (app : Application) (file : String) (part : List Entry) : Prop :=
  ∃ text decoded, files.readText (Path.join app.directory file) = .ok text ∧
    Collection.decode text = .ok decoded ∧ decoded.entries = part

theorem addFile_eq_ok_iff {file : String} : app.addFile files c file = .ok c' ↔
    ∃ part, FileBrings files app file part ∧ c'.entries.Perm (part ++ c.entries) := by
  unfold addFile
  dsimp only
  cases read : files.readText (Path.join app.directory file) with
  | error fault => simp [FileBrings, read]
  | ok text =>
    simp only [bind_eq_ok, liftResource_eq_ok, Collection.merge_eq_ok_iff]
    constructor
    · rintro ⟨decoded, decode, perm⟩
      exact ⟨_, ⟨text, decoded, read, decode, rfl⟩, perm⟩
    · rintro ⟨_, ⟨text', decoded, again, decode, rfl⟩, perm⟩
      cases read.symm.trans again
      exact ⟨decoded, decode, perm⟩

theorem decodeFiles_eq_ok_iff {listed : List String} : app.decodeFiles files listed = .ok c ↔
    ∃ parts, List.Forall₂ (FileBrings files app) listed parts ∧ c.entries.Perm parts.flatten := by
  have none : Collection.empty.entries = [] := rfl
  have step (c : Collection) (file : String) (c' : Collection) : app.addFile files c file = .ok c' ↔
      ∃ part, FileBrings files app file part ∧ c'.entries.Perm (part ++ c.entries) := addFile_eq_ok_iff
  rw [decodeFiles, foldlM_eq_ok_iff step, none]
  simp only [List.append_nil]

/-! ## Bases -/

/-- An entry of a built base as it comes in above: plain, and under its final identity. -/
def Rebased (e e' : Entry) : Prop := e'.2 = ⟨e.2.object, false⟩ ∧ e'.2.identity? = .ok e'.1

theorem addBuilt_eq_ok_iff {built : Collection} : addBuilt c built = .ok c' ↔
    ∃ part, List.Forall₂ Rebased built.entries part ∧ c'.entries.Perm (part ++ c.entries) := by
  rw [addBuilt, liftResource_eq_ok]
  refine foldlM_single_eq_ok_iff fun c e c' => ?_
  rw [Collection.add_eq_ok_iff]
  constructor
  · rintro ⟨id, identity, perm⟩
    exact ⟨(id, ⟨e.2.object, false⟩), ⟨rfl, identity⟩, perm⟩
  · rintro ⟨⟨id, _⟩, ⟨rfl, identity⟩, perm⟩
    exact ⟨id, identity, perm⟩

/-- The resources with those of the bases, which lie below one another for at most so many levels. -/
def addBases (files : FileSystem) : (levels : Nat) → Application → Collection → Except BuildError Collection
  | 0, app, c =>
    match app.manifest.bases with
    | [] => pure c
    | base :: _ => throw (.manifest (.basesTooDeep base))
  | levels + 1, app, c =>
    app.manifest.bases.foldlM (fun c base => do
      let below ← liftManifest (load files (Path.join app.directory base))
      addBuilt c (← below.finish (← rawWithin files levels below))) c

theorem rawWithin_eq (files : FileSystem) (levels : Nat) (app : Application) :
    rawWithin files levels app = (do
      let c ← decodeFiles files app app.manifest.resources
      let c ← addBases files levels app c
      generated files app (← patched files app c)) := by
  cases levels with
  | zero =>
    rw [rawWithin]
    refine congrArg _ (funext fun c => ?_)
    rw [addBases]
    cases app.manifest.bases <;> rfl
  | succ levels =>
    rw [rawWithin]
    rfl

/-- The manifest lists the directory of another application as a base. -/
def ListsBase (files : FileSystem) (app below : Application) : Prop :=
  ∃ base ∈ app.manifest.bases, load files (Path.join app.directory base) = .ok below

/-- The entries that a base brings, with bases below the application for at most so many levels. -/
def BaseBrings (files : FileSystem) : (levels : Nat) → Application → String → List Entry → Prop
  | 0, _, _, _ => False
  | levels + 1, app, base, part => ∃ below raw built,
    load files (Path.join app.directory base) = .ok below ∧ rawWithin files levels below = .ok raw ∧
    below.finish raw = .ok built ∧ List.Forall₂ Rebased built.entries part

theorem addBases_eq_ok_iff : addBases files levels app c = .ok c' ↔
    ∃ parts, List.Forall₂ (BaseBrings files levels app) app.manifest.bases parts ∧
      c'.entries.Perm (parts.flatten ++ c.entries) := by
  cases levels with
  | zero =>
    rw [addBases]
    cases app.manifest.bases with
    | nil =>
      constructor
      · intro ran
        cases ran
        exact ⟨[], .nil, .refl _⟩
      · rintro ⟨_, ⟨⟩, perm⟩
        rw [Collection.eq_of_perm perm]
        rfl
    | cons base rest =>
      refine iff_of_false (by simp [throw, throwThe, MonadExceptOf.throw]) ?_
      rintro ⟨_, all, -⟩
      obtain ⟨_, _, impossible, -⟩ := List.forall₂_cons_left_iff.mp all
      exact impossible
  | succ levels =>
    refine foldlM_eq_ok_iff fun c base c' => ?_
    simp only [bind_eq_ok, liftManifest_eq_ok, addBuilt_eq_ok_iff]
    constructor
    · rintro ⟨below, loaded, raw, ran, built, finished, part, rebased, perm⟩
      exact ⟨part, ⟨below, raw, built, loaded, ran, finished, rebased⟩, perm⟩
    · rintro ⟨part, ⟨below, raw, built, loaded, ran, finished, rebased⟩, perm⟩
      exact ⟨below, loaded, raw, ran, built, finished, part, rebased, perm⟩

/-! ## Patches and generators -/

/-- No patches are patches as well. -/
theorem patched_eq_ok_iff : app.patched files c = .ok c' ↔
    ∃ patches, app.decodeFiles files app.manifest.patches = .ok patches ∧
      (Pass.overlay patches Patch.merge).run c = .done c' := by
  rw [patched]
  cases app.manifest.patches with
  | nil =>
    have none : (Pass.overlay .empty Patch.merge).run c = .done c := rfl
    simp [decodeFiles, pure, Except.pure, none, Progress.done]
  | cons patch rest =>
    simp only [List.isEmpty_cons, Bool.false_eq_true, ↓reduceIte, bind_eq_ok, Progress.toExcept_eq_ok]

/-- The entry that a generator brings, given what it makes. -/
def GeneratorBrings (made : Except BuildError Resource) (e : Entry) : Prop :=
  made = .ok e.2 ∧ e.2.identity? = .ok e.1

theorem foldlM_made_eq_ok_iff {α : Type} {make : α → Except BuildError Resource} {l : List α} :
    l.foldlM (fun c a => do liftResource (c.add (← make a))) c = .ok c' ↔
      ∃ entries, List.Forall₂ (fun a => GeneratorBrings (make a)) l entries ∧
        c'.entries.Perm (entries ++ c.entries) := by
  refine foldlM_single_eq_ok_iff fun c a c' => ?_
  simp only [bind_eq_ok, liftResource_eq_ok, Collection.add_eq_ok_iff]
  constructor
  · rintro ⟨r, made, id, identity, perm⟩
    exact ⟨(id, r), ⟨made, identity⟩, perm⟩
  · rintro ⟨⟨id, r⟩, ⟨made, identity⟩, perm⟩
    exact ⟨r, made, id, identity, perm⟩

theorem generated_eq_ok_iff : app.generated files c = .ok c' ↔ ∃ configMaps secrets,
    List.Forall₂ (fun g => GeneratorBrings (Generator.configMap files app.directory g))
      app.manifest.configMaps configMaps ∧
    List.Forall₂ (fun g => GeneratorBrings (Generator.secret files app.directory g))
      app.manifest.secrets secrets ∧
    c'.entries.Perm (secrets ++ (configMaps ++ c.entries)) := by
  rw [generated, bind_eq_ok]
  constructor
  · rintro ⟨between, first, second⟩
    obtain ⟨configMaps, made, perm⟩ := foldlM_made_eq_ok_iff.mp first
    obtain ⟨secrets, made', perm'⟩ := foldlM_made_eq_ok_iff.mp second
    exact ⟨configMaps, secrets, made, made', perm'.trans (perm.append_left _)⟩
  · rintro ⟨configMaps, secrets, made, made', perm⟩
    obtain ⟨between, half⟩ := Collection.exists_of_append perm
    exact ⟨between, foldlM_made_eq_ok_iff.mpr ⟨configMaps, made, half⟩,
      foldlM_made_eq_ok_iff.mpr ⟨secrets, made', perm.trans (half.symm.append_left _)⟩⟩

/-! ## What holds of everything that is put together -/

variable {P : Identity → Resource → Prop}

/-- What plain resources of documents have under their identities, the resources of files have. -/
theorem decodeFiles_all (each : ∀ text d id, some d ∈ Yaml.documents text →
      (Resource.mk d false).identity? = .ok id → P id ⟨d, false⟩)
    {listed : List String} (ran : app.decodeFiles files listed = .ok c) : c.All P := by
  obtain ⟨parts, bring, perm⟩ := decodeFiles_eq_ok_iff.mp ran
  refine Collection.all_empty.of_perm (fun e member => ?_) (by rwa [← List.append_nil parts.flatten] at perm)
  obtain ⟨part, among, inside⟩ := List.mem_flatten.mp member
  obtain ⟨file, -, text, decoded, -, decode, rfl⟩ := exists_of_mem_right bring among
  have all : decoded.All P := Collection.all_empty.addDocuments (each text) decode
  exact Collection.all_iff.mp all e inside

/-- What plain resources of built bases have under their identities, those have that come in from
bases. -/
theorem addBases_all (each : ∀ fewer below raw built key r id, levels = fewer + 1 →
      rawWithin files fewer below = .ok raw → below.finish raw = .ok built → built.find? key = some r →
      (Resource.mk r.object false).identity? = .ok id → P id ⟨r.object, false⟩)
    (all : c.All P) (ran : addBases files levels app c = .ok c') : c'.All P := by
  obtain ⟨parts, bring, perm⟩ := addBases_eq_ok_iff.mp ran
  refine all.of_perm (fun e member => ?_) perm
  obtain ⟨part, among, inside⟩ := List.mem_flatten.mp member
  obtain ⟨base, -, brings⟩ := exists_of_mem_right bring among
  cases levels with
  | zero => exact brings.elim
  | succ fewer =>
    obtain ⟨below, raw, built, -, ran, finished, rebased⟩ := brings
    obtain ⟨⟨key, r⟩, held, plain, identity⟩ := exists_of_mem_right rebased inside
    rw [plain] at identity ⊢
    exact each fewer below raw built key r e.1 rfl ran finished (Collection.mem_entries.mp held) identity

/-- A property that resources have under their keys however they come into a build: from a document,
from a base whose own resources had it, with a patch, or from a generator. -/
structure Throughout (files : FileSystem) (P : Identity → Resource → Prop) : Prop where
  decoded : ∀ text d id, some d ∈ Yaml.documents text → (Resource.mk d false).identity? = .ok id →
    P id ⟨d, false⟩
  based : ∀ (app : Application) raw built, raw.All P → app.finish raw = .ok built →
    ∀ key r id, built.find? key = some r → (Resource.mk r.object false).identity? = .ok id →
      P id ⟨r.object, false⟩
  patched : ∀ id base text d merged, P id base → some d ∈ Yaml.documents text →
    (Resource.mk d false).identity? = .ok id → Patch.merge id.type base.object d = .ok merged →
      P id { base with object := merged }
  configMap : ∀ directory g r id, Generator.configMap files directory g = .ok r →
    r.identity? = .ok id → P id r
  secret : ∀ directory g r id, Generator.secret files directory g = .ok r →
    r.identity? = .ok id → P id r

theorem Throughout.all_addBases (holds : Throughout files P)
    (below : ∀ below app raw, levels = below + 1 → rawWithin files below app = .ok raw → raw.All P)
    (all : c.All P) (ran : addBases files levels app c = .ok c') : c'.All P := by
  refine addBases_all (fun fewer app' raw built key r id less ran finished held identity => ?_) all ran
  exact holds.based app' raw built (below fewer app' raw less ran) finished key r id held identity

theorem Throughout.all_patched (holds : Throughout files P) (all : c.All P)
    (ran : app.patched files c = .ok c') : c'.All P := by
  obtain ⟨patches, decode, overlaid⟩ := patched_eq_ok_iff.mp ran
  -- A patch is a document under its own identity.
  have documents : patches.All fun id r => (∃ text, some r.object ∈ Yaml.documents text) ∧
      (Resource.mk r.object false).identity? = .ok id :=
    decodeFiles_all (fun text d id member identity => ⟨⟨text, member⟩, identity⟩) decode
  refine all.overlay (fun id base patch object old held merged => ?_) overlaid
  obtain ⟨⟨text, member⟩, identity⟩ := documents id patch held
  exact holds.patched id base text patch.object object old member identity merged

theorem Throughout.all_generated (holds : Throughout files P) (all : c.All P)
    (ran : app.generated files c = .ok c') : c'.All P := by
  obtain ⟨configMaps, secrets, made, made', perm⟩ := generated_eq_ok_iff.mp ran
  rw [← List.append_assoc] at perm
  refine all.of_perm (fun e member => ?_) perm
  rcases List.mem_append.mp member with secret | configMap
  · obtain ⟨g, -, made, identity⟩ := exists_of_mem_right made' secret
    exact holds.secret _ g e.2 e.1 made identity
  · obtain ⟨g, -, made, identity⟩ := exists_of_mem_right made configMap
    exact holds.configMap _ g e.2 e.1 made identity

/-- What resources have however they come into a build, everything in it has. -/
theorem rawWithin_all (holds : Throughout files P) (ran : rawWithin files levels app = .ok raw) :
    raw.All P := by
  -- The induction is on the levels, as the bases below have one less to go.
  induction levels using Nat.strongRecOn generalizing app raw with
  | ind levels ih =>
    simp only [rawWithin_eq, bind_eq_ok] at ran
    obtain ⟨decoded, decode, based, bases, overlaid, patch, last⟩ := ran
    have first : based.All P :=
      holds.all_addBases (fun below app' raw' less ran => ih below (by omega) ran)
        (decodeFiles_all holds.decoded decode) bases
    exact holds.all_generated (holds.all_patched first patch) last

end Application

end KubeOverlay
