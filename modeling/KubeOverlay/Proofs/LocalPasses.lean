import KubeOverlay.Proofs.Frame
import Mathlib.Data.List.Perm.Basic
/-!
# Passes that take each resource by itself

The passes for names, labels, annotations and hashes edit a resource by what is in it and under which key it
stands (`Pass.PerResource`). So what they make of two collections merged into one is what they make of each
of them, merged; and where one is stopped, it has edited the resources under smaller keys, and none under a
larger one (`Pass.PerResource.isLocal`).
-/
namespace KubeOverlay

/-! ## Two collections merged -/

theorem forall₂_append_iff {α β : Type} {R : α → β → Prop} {a b : List α} {l : List β} :
    List.Forall₂ R (a ++ b) l ↔ ∃ l₁ l₂, List.Forall₂ R a l₁ ∧ List.Forall₂ R b l₂ ∧ l = l₁ ++ l₂ := by
  constructor
  · intro related
    induction a generalizing l with
    | nil => exact ⟨[], l, .nil, related, rfl⟩
    | cons x a ih =>
      obtain ⟨y, rest, here, later, rfl⟩ := List.forall₂_cons_left_iff.mp related
      obtain ⟨l₁, l₂, first, second, rfl⟩ := ih later
      exact ⟨y :: l₁, l₂, .cons here first, second, rfl⟩
  · rintro ⟨l₁, l₂, first, second, rfl⟩
    exact List.rel_append first second

namespace Collection

variable {P : Identity → Resource → Resource → Prop} {a b c c' u u' : Collection}

/-- The collection of one resource. -/
def single (id : Identity) (r : Resource) : Collection := ⟨[(id, r)], List.pairwise_singleton ..⟩

theorem pointwise_single {id : Identity} {r r' : Resource} :
    Pointwise P (single id r) (single id r') ↔ P id r r' := by
  simp [Pointwise, single]

/-- What is related to two collections merged is merged of what is related to each of them. -/
theorem pointwise_merge_iff (merged : u.entries.Perm (b.entries ++ a.entries)) :
    Pointwise P u u' ↔
      ∃ a' b', Pointwise P a a' ∧ Pointwise P b b' ∧ u'.entries.Perm (b'.entries ++ a'.entries) := by
  constructor
  · intro related
    obtain ⟨entries, both, perm⟩ := List.perm_comp_forall₂ merged.symm related
    obtain ⟨second, first, ofB, ofA, rfl⟩ := forall₂_append_iff.mp both
    obtain ⟨a', relatedA, rfl⟩ := exists_pointwise ofA
    obtain ⟨b', relatedB, rfl⟩ := exists_pointwise ofB
    exact ⟨a', b', relatedA, relatedB, perm.symm⟩
  · rintro ⟨a', b', ofA, ofB, perm⟩
    obtain ⟨entries, related, perm'⟩ := List.perm_comp_forall₂ merged (List.rel_append ofB ofA)
    obtain ⟨u'', related, rfl⟩ := exists_pointwise related
    rwa [eq_of_perm (perm'.trans perm.symm)] at related

theorem merge_eq_done_iff : a.merge b = .done u ↔ u.entries.Perm (b.entries ++ a.entries) := by
  rw [← Progress.toExcept_eq_ok, merge_eq_ok_iff]

/-- No key is in both. -/
def Disjoint (a b : Collection) : Prop := ∀ id, a.find? id = none ∨ b.find? id = none

/-- Collections can be merged exactly if no key is in both. -/
theorem exists_merge_iff : (∃ u, a.merge b = .done u) ↔ a.Disjoint b := by
  simp only [merge_eq_done_iff]
  constructor
  · rintro ⟨u, perm⟩ id
    have nodup := nodup_of_perm perm
    rw [List.map_append, List.nodup_append] at nodup
    by_contra both
    simp only [not_or, Option.ne_none_iff_exists'] at both
    obtain ⟨⟨r, left⟩, r', right⟩ := both
    exact nodup.2.2 id (List.mem_map_of_mem (mem_entries.mpr right)) id
      (List.mem_map_of_mem (mem_entries.mpr left)) rfl
  · intro disjoint
    refine exists_of_nodup _ ?_
    rw [List.map_append, List.nodup_append]
    refine ⟨Ordered.nodup_keys b.ascending, Ordered.nodup_keys a.ascending, ?_⟩
    rintro id inB _ inA rfl
    obtain ⟨⟨_, r'⟩, right, rfl⟩ := List.mem_map.mp inB
    obtain ⟨⟨_, r⟩, left, rfl⟩ := List.mem_map.mp inA
    rcases disjoint _ with absent | absent
    · cases absent.symm.trans (mem_entries.mp left)
    · cases absent.symm.trans (mem_entries.mp right)

/-- Related collections have the same keys. -/
theorem Pointwise.find?_eq_none (related : Pointwise P a b) {id : Identity} (absent : a.find? id = none) :
    b.find? id = none := by
  by_contra present
  obtain ⟨r, held⟩ := Option.ne_none_iff_exists'.mp present
  obtain ⟨r', held', -⟩ := related.symm.find? held
  cases absent.symm.trans held'

theorem Disjoint.of_pointwise {Q : Identity → Resource → Resource → Prop} {a' b' : Collection}
    (disjoint : a.Disjoint b) (left : Pointwise P a a') (right : Pointwise Q b b') : a'.Disjoint b' :=
  fun id => (disjoint id).imp left.find?_eq_none right.find?_eq_none

/-! ## Editing with an error -/

section Edit

variable {ε : Type} {f : Identity → Resource → Progress ε Resource} {entries entries' : List Entry} {e : ε}

theorem editEntries_of_done {id : Identity} {r r' : Resource} (here : f id r = .done r') (rest : List Entry) :
    editEntries f ((id, r) :: rest) = (editEntries f rest).map ((id, r') :: ·) := by
  rw [editEntries, here]
  rfl

theorem editEntries_of_stopped {id : Identity} {r r' : Resource} (here : f id r = .stopped r' e)
    (rest : List Entry) : editEntries f ((id, r) :: rest) = .stopped ((id, r') :: rest) e := by
  rw [editEntries, here]
  rfl

/-- An edit is stopped at the first resource whose edit is. The resources after it are left as they are. -/
theorem editEntries_eq_stopped : editEntries f entries = .stopped entries' e ↔
    ∃ before id r after before' r', entries = before ++ (id, r) :: after ∧
      editEntries f before = .done before' ∧ f id r = .stopped r' e ∧
      entries' = before' ++ (id, r') :: after := by
  induction entries generalizing entries' with
  | nil => simp [editEntries, Progress.done, Progress.stopped]
  | cons first rest ih =>
    obtain ⟨id, r⟩ := first
    rcases Progress.done_or_stopped (f id r) with ⟨r₁, here⟩ | ⟨r₁, e₁, here⟩
    · rw [editEntries_of_done here, Progress.map_eq_stopped]
      constructor
      · rintro ⟨_, later, rfl⟩
        obtain ⟨before, id', r', after, before', reached, rfl, ran, there, rfl⟩ := ih.mp later
        refine ⟨(id, r) :: before, id', r', after, (id, r₁) :: before', reached, rfl, ?_, there, rfl⟩
        rw [editEntries_of_done here, ran]
        rfl
      · rintro ⟨before, id', r', after, before', reached, split, ran, there, rfl⟩
        cases before with
        | nil =>
          cases split
          cases here.symm.trans there
        | cons _ before =>
          obtain ⟨rfl, rfl⟩ := List.cons_eq_cons.mp split
          rw [editEntries_of_done here] at ran
          obtain ⟨tail, below, rfl⟩ := Progress.map_eq_done.mp ran
          exact ⟨_, ih.mpr ⟨before, id', r', after, tail, reached, rfl, below, there, rfl⟩, rfl⟩
    · rw [editEntries_of_stopped here]
      constructor
      · intro stopped
        cases stopped
        exact ⟨[], id, r, rest, [], r₁, rfl, rfl, here, rfl⟩
      · rintro ⟨before, id', r', after, before', reached, split, ran, there, rfl⟩
        cases before with
        | nil =>
          cases split
          cases here.symm.trans there
          cases ran
          rfl
        | cons _ before =>
          obtain ⟨rfl, rfl⟩ := List.cons_eq_cons.mp split
          rw [editEntries_of_stopped here] at ran
          cases ran

/-- What an edit keeps of each resource, it keeps of all, also when it is stopped. -/
theorem editEntries_map {β : Type} (view : Resource → β) (same : ∀ id r, view (f id r).reached = view r)
    (entries : List Entry) :
    (editEntries f entries).reached.map (fun e => (e.1, view e.2)) = entries.map fun e => (e.1, view e.2) := by
  induction entries with
  | nil => rfl
  | cons first rest ih =>
    obtain ⟨id, r⟩ := first
    simp only [editEntries]
    split
    · simp [Progress.stopped, same]
    · simp [Progress.map, same, ih]

theorem edit_eq_stopped :
    c.edit f = .stopped c' e ↔ editEntries f c.entries = .stopped c'.entries e := by
  obtain ⟨entries, ascending⟩ := c'
  constructor
  · intro ran
    obtain ⟨reached, error⟩ := Progress.mk.inj ran
    cases run : editEntries f c.entries
    simp_all [Progress.stopped]
  · intro ran
    simp [edit, ran, Progress.stopped]

/-- An edit that is stopped was stopped by the resource under one key, and would have been by it alone. The
resources under smaller keys are edited, and those under larger keys are as they were. -/
theorem edit_stopped (ran : c.edit f = .stopped c' e) : ∃ id r r', c.find? id = some r ∧
    (single id r).edit f = .stopped (single id r') e ∧ c'.find? id = some r' ∧
    (∀ other r, c.find? other = some r → compare other id = .lt →
      ∃ r', (single other r).edit f = .done (single other r') ∧ c'.find? other = some r') ∧
    ∀ other, compare id other = .lt → c'.find? other = c.find? other := by
  obtain ⟨before, id, r, after, before', r', split, edited, there, result⟩ :=
    editEntries_eq_stopped.mp (edit_eq_stopped.mp ran)
  have ascending : Ordered.Ascending (before ++ (id, r) :: after) := split ▸ c.ascending
  have ascending' : Ordered.Ascending (before' ++ (id, r') :: after) := result ▸ c'.ascending
  refine ⟨id, r, r', mem_entries.mp (by rw [split]; simp), edit_eq_stopped.mpr (editEntries_of_stopped there []),
    mem_entries.mp (by rw [result]; simp), fun other r₀ held below => ?_, fun other above => ?_⟩
  · rw [Collection.find?, split] at held
    obtain ⟨r₀', found, done⟩ :=
      find?_of_forall₂ (P := fun id r r' => f id r = .done r') (editEntries_eq_done.mp edited)
        ((Ordered.find?_before ascending).mpr ⟨held, below⟩)
    refine ⟨r₀', edit_eq_done.mpr (pointwise_single.mpr done), ?_⟩
    rw [Collection.find?, result]
    exact ((Ordered.find?_before ascending').mp found).1
  · rw [Collection.find?, Collection.find?, split, result, Ordered.find?_after ascending above,
      Ordered.find?_after ascending' above]

end Edit

end Collection

/-! ## The passes -/

namespace Pass

open Collection (single)

/-- The passes that take each resource by itself. -/
inductive PerResource : Pass → Prop where
  | namePrefix (text : String) (rules : List PathRule) : PerResource (namePrefix text rules)
  | labels (entries : List (String × String)) (rules : List PathRule) : PerResource (labels entries rules)
  | annotations (entries : List (String × String)) (rules : List PathRule) : PerResource (annotations entries rules)
  | nameHash : PerResource nameHash

/-- A pass that makes of resources together what it makes of them apart. -/
structure Local (pass : Pass) : Prop where
  /-- It goes through on two collections together exactly if it does on each. -/
  merged : ∀ a b, a.Disjoint b → ∃ u, a.merge b = .done u ∧
    (∀ u', pass.run u = .done u' →
      ∃ a' b', pass.run a = .done a' ∧ pass.run b = .done b' ∧ a'.merge b' = .done u') ∧
    ∀ a' b', pass.run a = .done a' → pass.run b = .done b' →
      ∃ u', a'.merge b' = .done u' ∧ pass.run u = .done u'
  /-- Where it is stopped, it was stopped by the first resource that would stop it alone. Those under smaller
  keys are done with, and those under larger keys are as they were. -/
  stopped : ∀ c c' e, pass.run c = .stopped c' e → ∃ id r r', c.find? id = some r ∧
    pass.run (single id r) = .stopped (single id r') e ∧ c'.find? id = some r' ∧
    (∀ other r, c.find? other = some r → compare other id = .lt →
      ∃ r', pass.run (single other r) = .done (single other r') ∧ c'.find? other = some r') ∧
    ∀ other, compare id other = .lt → c'.find? other = c.find? other
  /-- It keeps keys and origins, also where it is stopped. -/
  kept : ∀ c, (pass.run c).reached.origins = c.origins

variable {pass : Pass}

/-- Where nothing is to be done, each resource is done with. -/
theorem done_eq_edit (c : Collection) : Progress.done (ε := BuildError) c = c.edit fun _ r => .done r := by
  have same : Collection.Pointwise (fun _ => Eq) c c := .refl (fun _ _ => rfl) c
  symm
  exact Collection.edit_eq_done.mpr (same.mono fun _ r r' equal => by rw [equal])

/-- An edit at the paths of rules, or none, is an edit of each resource that does not change its origin. -/
theorem exists_edit_of_updateAll (skip : Bool) (rules : List PathRule)
    (g : PathRule → Document → Except BuildError Document) :
    ∃ f : Identity → Resource → Progress BuildError Resource,
      (∀ c, (if skip then .done c else eachResource (fun id => updateAll rules g id.type) c) = c.edit f) ∧
        ∀ id r, (f id r).reached.generated = r.generated := by
  cases skip with
  | true => exact ⟨fun _ r => .done r, done_eq_edit, fun _ _ => rfl⟩
  | false => exact ⟨_, fun c => rfl, fun id r => (updateAll_kept rules g id.type r).generated⟩

theorem PerResource.exists_edit (each : pass.PerResource) :
    ∃ f : Identity → Resource → Progress BuildError Resource,
      (∀ c, pass.run c = c.edit f) ∧ ∀ id r, (f id r).reached.generated = r.generated := by
  cases each with
  | namePrefix text rules => exact exists_edit_of_updateAll (text == "") rules _
  | labels entries rules => exact exists_edit_of_updateAll entries.isEmpty rules _
  | annotations entries rules => exact exists_edit_of_updateAll entries.isEmpty rules _
  | nameHash =>
    refine ⟨_, fun c => rfl, fun id r => ?_⟩
    dsimp only
    cases ran : hashed id r with
    | error e => rfl
    | ok r' => exact (hashed_kept ran).generated

/-- The passes that take each resource by itself make of resources together what they make of them apart. -/
theorem PerResource.isLocal (each : pass.PerResource) : pass.Local := by
  obtain ⟨f, edits, origin⟩ := each.exists_edit
  refine ⟨fun a b disjoint => ?_, fun c c' e ran => ?_, fun c => ?_⟩
  · obtain ⟨u, together⟩ := Collection.exists_merge_iff.mpr disjoint
    have perm := Collection.merge_eq_done_iff.mp together
    have both (u' : Collection) : pass.run u = .done u' ↔
        ∃ a' b', pass.run a = .done a' ∧ pass.run b = .done b' ∧ a'.merge b' = .done u' := by
      simp only [edits, Collection.edit_eq_done, Collection.merge_eq_done_iff,
        Collection.pointwise_merge_iff perm]
    refine ⟨u, together, fun u' => (both u').mp, fun a' b' ranA ranB => ?_⟩
    have disjoint' : a'.Disjoint b' := by
      rw [edits, Collection.edit_eq_done] at ranA ranB
      exact disjoint.of_pointwise ranA ranB
    obtain ⟨u', together'⟩ := Collection.exists_merge_iff.mpr disjoint'
    exact ⟨u', together', (both u').mpr ⟨a', b', ranA, ranB, together'⟩⟩
  · simp only [edits] at ran ⊢
    exact Collection.edit_stopped ran
  · rw [edits]
    exact Collection.editEntries_map Resource.generated origin c.entries

def accountId (name : String) : Identity := ⟨⟨"", "v1", "ServiceAccount"⟩, name⟩

def named (d : Document) : Resource := ⟨.map [("metadata", .map [("name", d)])], false⟩

/-- Three accounts, of which the second has no name to put a prefix before. -/
def accounts : Collection where
  entries := [(accountId "a", named (.string "a")), (accountId "b", named .null),
    (accountId "c", named (.string "c"))]
  ascending := by decide

theorem namePrefix_account (name text : String) :
    (namePrefix "x-" PathRule.names).run (single (accountId name) (named (.string text))) =
      .done (single (accountId name) (named (.string ("x-" ++ text)))) := rfl

/-- The first and the last account get the prefix together as they do apart. Of all three, the first one
gets it, and the last one stays as it is. -/
theorem accounts_local :
    (∃ u u', (single (accountId "a") (named (.string "a"))).merge
        (single (accountId "c") (named (.string "c"))) = .done u ∧
      (single (accountId "a") (named (.string "x-a"))).merge
        (single (accountId "c") (named (.string "x-c"))) = .done u' ∧
      (namePrefix "x-" PathRule.names).run u = .done u') ∧
    ∃ c' e, (namePrefix "x-" PathRule.names).run accounts = .stopped c' e ∧
      c'.find? (accountId "a") = some (named (.string "x-a")) ∧
      c'.find? (accountId "c") = some (named (.string "c")) := by
  have isLocal := PerResource.isLocal (.namePrefix "x-" PathRule.names)
  constructor
  · have disjoint : (single (accountId "a") (named (.string "a"))).Disjoint
        (single (accountId "c") (named (.string "c"))) := Collection.exists_merge_iff.mp ⟨_, rfl⟩
    obtain ⟨u, together, -, through⟩ := isLocal.merged _ _ disjoint
    obtain ⟨u', together', ran⟩ := through _ _ (namePrefix_account "a" "a") (namePrefix_account "c" "c")
    exact ⟨u, u', together, together', ran⟩
  · obtain ⟨c', e, ran⟩ : ∃ c' e, (namePrefix "x-" PathRule.names).run accounts = .stopped c' e :=
      ⟨_, _, rfl⟩
    obtain ⟨id, r, r', held, alone, -, smaller, larger⟩ := isLocal.stopped accounts c' e ran
    have second : id = accountId "b" := by
      have member : (id, r) ∈ accounts.entries := Collection.mem_entries.mpr held
      simp only [accounts, List.mem_cons, Prod.mk.injEq, List.not_mem_nil, or_false] at member
      rcases member with ⟨rfl, rfl⟩ | ⟨rfl, rfl⟩ | ⟨rfl, rfl⟩
      · cases (namePrefix_account "a" "a").symm.trans alone
      · rfl
      · cases (namePrefix_account "c" "c").symm.trans alone
    subst second
    obtain ⟨r'', renamed, kept⟩ := smaller (accountId "a") (named (.string "a")) rfl (by decide)
    cases (namePrefix_account "a" "a").symm.trans renamed
    exact ⟨c', e, ran, kept, larger (accountId "c") (by decide)⟩

end Pass

end KubeOverlay
