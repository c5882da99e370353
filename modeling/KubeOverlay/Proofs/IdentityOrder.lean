import KubeOverlay.Proofs.RawResources
import Mathlib.Data.String.Basic
import Mathlib.Order.Defs.Unbundled
/-!
# Identities that display alike

Types are ordered by what is displayed of them, and different types can display alike. Their parts decide
then, so identities are in a total order that agrees with equality (`Identity.isLinearOrder`,
`Identity.compare_eq_lt_iff`). A collection is kept in this order, and so it holds under each identity what
the changes of this identity alone leave there (`Collection.find?_run`), once and where comparisons lead to it
(`Collection.run_keeps`).
-/
namespace KubeOverlay

/-! ## Search among entries -/

namespace Ordered

/-- From each entry on, a key is found in the direction in which it compares. -/
def Directed {κ α : Type} [Ord κ] (entries : List (κ × α)) : Prop :=
  ∀ before k a after, entries = before ++ (k, a) :: after → ∀ key, find? key entries =
    match compare key k with
    | .lt => find? key before
    | .eq => some a
    | .gt => find? key after

variable {κ α : Type} [Ord κ] [Std.LawfulEqOrd κ]

/-- A tree of entries in key order can be searched by comparisons alone. -/
theorem Ascending.directed [Std.TransOrd κ] {entries : List (κ × α)} (ascending : Ascending entries) :
    Directed entries := by
  rintro before k a after rfl key
  cases order : compare key k with
  | lt =>
    refine Option.ext fun value => ?_
    rw [find?_before ascending, and_iff_left order]
  | eq =>
    rw [Std.LawfulEqCmp.eq_of_compare order, ← mem_iff_find? ascending]
    exact List.mem_append_right before List.mem_cons_self
  | gt => exact find?_after ascending (Std.OrientedCmp.lt_of_gt order)

theorem find?_erase [DecidableEq κ] (key other : κ) (entries : List (κ × α)) :
    find? other (erase key entries) = if other = key then none else find? other entries := by
  split
  · next same =>
    rw [same]
    exact find?_erase_self key entries
  · next differ => exact find?_erase_of_ne key other entries differ

end Ordered

/-! ## The order of identities -/

namespace GroupVersionKind

variable {a b : GroupVersionKind}

/-- By what is displayed; types that display alike by group, then by version. -/
def Precedes (a b : GroupVersionKind) : Prop :=
  a.display < b.display ∨ a.display = b.display ∧
    (a.group < b.group ∨ a.group = b.group ∧ a.version < b.version)

/-- Different types that display alike differ before the kind. -/
theorem kind_eq_of_display (displayed : a.display = b.display) (group : a.group = b.group)
    (version : a.version = b.version) : a.kind = b.kind := by
  rwa [display, display, group, version, String.append_right_inj] at displayed

theorem compare_eq_lt_iff : compare a b = .lt ↔ a.Precedes b := by
  have parts : compare a b = (compare a.display b.display).then ((compare a.group b.group).then
      ((compare a.version b.version).then (compare a.kind b.kind))) := rfl
  simp only [parts, Precedes, Ordering.then_eq_lt, compare_lt_iff_lt, compare_eq_iff_eq]
  refine or_congr_right (and_congr_right fun displayed => or_congr_right (and_congr_right fun group => ?_))
  -- The kind is compared last and never decides.
  refine or_iff_left fun ⟨version, kind⟩ => ?_
  rw [kind_eq_of_display displayed group version] at kind
  exact lt_irrefl _ kind

end GroupVersionKind

namespace Identity

variable {a b : Identity}

/-- By type, and within one type by name. -/
def Precedes (a b : Identity) : Prop :=
  a.type.Precedes b.type ∨ a.type = b.type ∧ a.name < b.name

theorem compare_eq_lt_iff : compare a b = .lt ↔ a.Precedes b := by
  have parts : compare a b = (compare a.type b.type).then (compare a.name b.name) := rfl
  rw [parts, Ordering.then_eq_lt, GroupVersionKind.compare_eq_lt_iff, Std.LawfulEqCmp.compare_eq_iff_eq,
    compare_lt_iff_lt, Precedes]

theorem compare_eq_gt_iff : compare a b = .gt ↔ b.Precedes a := by
  rw [Std.OrientedCmp.gt_iff_lt, compare_eq_lt_iff]

theorem isLinearOrder : IsLinearOrder Identity fun a b => (compare a b).isLE where
  refl _ := Std.ReflCmp.isLE_rfl
  trans _ _ _ first second := Std.TransCmp.isLE_trans first second
  antisymm _ _ first second :=
    Std.LawfulEqCmp.eq_of_compare (Std.OrientedCmp.isLE_antisymm first second)
  total a b := by
    have swapped : compare b a = (compare a b).swap := Std.OrientedCmp.eq_swap
    rw [swapped]
    cases compare a b <;> simp

end Identity

/-! ## Collections under changes -/

namespace Collection

/-- A change of a collection under one identity. -/
inductive Change where
  | insert (id : Identity) (r : Resource)
  /-- An insert under the identity that the content gives. -/
  | add (r : Resource)
  | erase (id : Identity)

/-- The collection after a change. One that is refused leaves it as it is. -/
def change (c : Collection) : Change → Collection
  | .insert id r => (Progress.ofExcept c (c.insert id r)).reached
  | .add r => (Progress.ofExcept c (c.add r)).reached
  | .erase id => c.erase id

def run (c : Collection) (changes : List Change) : Collection := changes.foldl change c

/-- What a change leaves under an identity. It stays whatever happens under others, and until it is erased
nothing takes its place. -/
def Change.leaves (id : Identity) (held : Option Resource) : Change → Option Resource
  | .insert other r => if id = other then held.or (some r) else held
  | .add r => if r.identity? = .ok id then held.or (some r) else held
  | .erase other => if id = other then none else held

/-- What changes leave under an identity, told by those of this identity alone. -/
def Change.left (id : Identity) (held : Option Resource) (changes : List Change) : Option Resource :=
  changes.foldl (leaves id) held

variable {c : Collection} {id other : Identity} {r : Resource}

theorem insert_eq (c : Collection) (id : Identity) (r : Resource) : c.insert id r =
    if (c.find? id).isSome then .error (.duplicate id) else .ok (c.put id r) := rfl

theorem find?_reached_insert : (Progress.ofExcept c (c.insert other r)).reached.find? id =
    if id = other then (c.find? id).or (some r) else c.find? id := by
  rw [insert_eq]
  cases taken : c.find? other with
  | some old =>
    show c.find? id = _
    split
    · next same => rw [same, taken, Option.some_or]
    · rfl
  | none =>
    have stored : (c.put other r).find? id = if id = other then some r else c.find? id :=
      Ordered.find?_insert other id r c.entries
    refine stored.trans ?_
    split
    · next same => rw [same, taken, Option.none_or]
    · rfl

theorem find?_change (c : Collection) (change : Change) (id : Identity) :
    (c.change change).find? id = change.leaves id (c.find? id) := by
  cases change with
  | insert other r => exact find?_reached_insert
  | add r =>
    rw [Collection.change, add, Change.leaves]
    cases identity : r.identity? with
    | error e => rfl
    | ok other =>
      simp only [Except.ok.injEq, eq_comm (a := other)]
      exact find?_reached_insert
  | erase other => exact Ordered.find?_erase other id c.entries

theorem find?_run (c : Collection) (changes : List Change) (id : Identity) :
    (c.run changes).find? id = Change.left id (c.find? id) changes := by
  induction changes generalizing c with
  | nil => rfl
  | cons first rest ih =>
    have later : ((c.change first).run rest).find? id = Change.left id ((c.change first).find? id) rest := ih _
    rwa [find?_change] at later

theorem mem_ids : id ∈ c.ids ↔ (c.find? id).isSome := by
  rw [ids, List.mem_map, Option.isSome_iff_exists]
  constructor
  · rintro ⟨e, member, rfl⟩
    exact ⟨e.2, mem_entries.mp member⟩
  · rintro ⟨r, found⟩
    exact ⟨(id, r), mem_entries.mpr found, rfl⟩

/-- What is held under identities, with one entry for each, which is where comparisons lead to it. -/
structure Keeps (held : Identity → Option Resource) (c : Collection) : Prop where
  finds : ∀ id, c.find? id = held id
  once : ∀ id, c.ids.count id = if (held id).isSome then 1 else 0
  refuses : ∀ id r, c.insert id r = if (held id).isSome then .error (.duplicate id) else .ok (c.put id r)
  directed : Ordered.Directed c.entries
  ordered : c.ids.Pairwise Identity.Precedes

theorem keeps_find? (c : Collection) : c.Keeps c.find? where
  finds _ := rfl
  once id := by
    have nodup : c.ids.Nodup := Ordered.nodup_keys c.ascending
    simp only [nodup.count, mem_ids]
  refuses := c.insert_eq
  directed := c.ascending.directed
  ordered := (Ordered.ascending_iff_keys.mp c.ascending).imp Identity.compare_eq_lt_iff.mp

/-- Identities are totally ordered, and compare as equal only if they are the same, however they are
displayed. So a collection keeps, after any changes and under each identity, what those of this identity
leave there. -/
theorem run_keeps (c : Collection) (changes : List Change) :
    IsLinearOrder Identity (fun a b => (compare a b).isLE) ∧
    (∀ a b : Identity, (compare a b = .eq ↔ a = b) ∧ (compare a b = .lt ↔ a.Precedes b) ∧
      (compare a b = .gt ↔ b.Precedes a)) ∧
    (c.run changes).Keeps fun id => Change.left id (c.find? id) changes := by
  refine ⟨Identity.isLinearOrder, fun a b => ?_, ?_⟩
  · exact ⟨Std.LawfulEqCmp.compare_eq_iff_eq, Identity.compare_eq_lt_iff, Identity.compare_eq_gt_iff⟩
  · simp only [← find?_run]
    exact (c.run changes).keeps_find?

/-- Three types that display alike. -/
example :
    let slashInVersion : Identity := ⟨⟨"a", "b/c", "K, Kind=L"⟩, "n"⟩
    let slashInGroup : Identity := ⟨⟨"a/b", "c", "K, Kind=L"⟩, "n"⟩
    let kindInVersion : Identity := ⟨⟨"a/b", "c, Kind=K", "L"⟩, "n"⟩
    let inserts := [kindInVersion, slashInVersion, slashInGroup].map (Change.insert · ⟨.null, false⟩)
    slashInVersion.display = slashInGroup.display ∧ slashInGroup.display = kindInVersion.display ∧
      (empty.run inserts).ids = [slashInVersion, slashInGroup, kindInVersion] ∧
      (empty.run (inserts ++ [.erase slashInGroup])).ids = [slashInVersion, kindInVersion] := by
  decide +kernel

end Collection

end KubeOverlay
