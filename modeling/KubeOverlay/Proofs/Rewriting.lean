import KubeOverlay.Proofs.Frame
/-!
# Edits as relations

An edit at a path that nothing stops relates the object it comes to with the object it leaves
(`editFrom_eq_done_iff`). As relations two edits at the same path are one edit (`rewrites_comp_self`), and
two edits at paths that are apart can be swapped (`rewrites_swap`): a container that one of them creates
is on the way of the other at most, and there the other finds nothing that it had not created as well.
-/
namespace KubeOverlay

open Relation (Comp)

namespace FieldPath

/-! ## Through maps and lists -/

section Within

variable {R S : Fields → Fields → Prop} {d d' : Document}

/-- Two maps that are related. -/
inductive OfMaps (R : Fields → Fields → Prop) : Document → Document → Prop where
  | intro {object object' : Fields} (related : R object object') : OfMaps R (.map object) (.map object')

/-- What a walk passes through: a map, or a list of maps, which are related to those that they become. -/
inductive Within (R : Fields → Fields → Prop) : Document → Document → Prop where
  | map {object object' : Fields} (related : R object object') : Within R (.map object) (.map object')
  | list {items items' : List Document} (related : List.Forall₂ (OfMaps R) items items') :
    Within R (.list items) (.list items')

theorem OfMaps.mono (weaken : ∀ object object', R object object' → S object object')
    (related : OfMaps R d d') : OfMaps S d d' := by
  obtain ⟨here⟩ := related
  exact ⟨weaken _ _ here⟩

theorem Within.mono (weaken : ∀ object object', R object object' → S object object')
    (related : Within R d d') : Within S d d' := by
  cases related with
  | map here => exact .map (weaken _ _ here)
  | list here => exact .list (here.imp fun _ _ => .mono weaken)

theorem ofMaps_comp : Comp (OfMaps R) (OfMaps S) d d' ↔ OfMaps (Comp R S) d d' := by
  constructor
  · rintro ⟨_, ⟨first⟩, ⟨second⟩⟩
    exact ⟨_, first, second⟩
  · rintro ⟨_, first, second⟩
    exact ⟨_, ⟨first⟩, ⟨second⟩⟩

theorem within_comp : Comp (Within R) (Within S) d d' ↔ Within (Comp R S) d d' := by
  constructor
  · rintro ⟨_, first | first, second⟩
    · cases second with
      | map second => exact .map ⟨_, first, second⟩
    · cases second with
      | list second =>
        have both := forall₂_comp_iff.mp ⟨_, first, second⟩
        exact .list (both.imp fun _ _ => ofMaps_comp.mp)
  · rintro (⟨between, first, second⟩ | both)
    · exact ⟨_, .map first, .map second⟩
    · obtain ⟨between, first, second⟩ := forall₂_comp_iff.mpr (both.imp fun _ _ => ofMaps_comp.mpr)
      exact ⟨_, .list first, .list second⟩

end Within

/-! ## Under a key -/

section Slot

variable {create create' : Bool} {key key' : String} {S T : Document → Document → Prop}
  {object object' : Fields} {d : Document}

/-- The value under a key is related to the one that is put in its place. Where nothing is stored, an empty
map is created for it, or nothing changes. -/
inductive Slotted (create : Bool) (key : String) (S : Document → Document → Prop) (object : Fields) :
    Fields → Prop where
  | absent (absent : slot? create key object = none) : Slotted create key S object object
  | held {d d' : Document} (slot : slot? create key object = some d) (related : S d d') :
    Slotted create key S object (Ordered.insert key d' object)

theorem slot?_eq_none :
    slot? create key object = none ↔ Ordered.find? key object = none ∧ create = false := by
  cases create <;> simp [slot?]

theorem slot?_or (slot : slot? create key object = some d) (create' : Bool) :
    slot? (create || create') key object = some d := by
  rcases slot?_cases slot with stored | ⟨missing, rfl, rfl⟩
  · simp [slot?, stored]
  · exact slot

theorem slot?_insert_self (create : Bool) (key : String) (d : Document) (object : Fields) :
    slot? create key (Ordered.insert key d object) = some d := by
  simp [slot?, Ordered.find?_insert_self]

theorem slot?_insert_of_ne (differ : key ≠ key') (create : Bool) (d : Document) (object : Fields) :
    slot? create key (Ordered.insert key' d object) = slot? create key object := by
  simp [slot?, Ordered.find?_insert_of_ne _ _ _ _ differ]

theorem Slotted.mono (weaken : ∀ d d', S d d' → T d d') (slotted : Slotted create key S object object') :
    Slotted create key T object object' := by
  cases slotted with
  | absent absent => exact .absent absent
  | held slot related => exact .held slot (weaken _ _ related)

theorem slotted_of_none (absent : slot? create key object = none) :
    Slotted create key S object object' ↔ object' = object := by
  constructor
  · rintro (_ | ⟨slot, _⟩)
    · rfl
    · cases absent.symm.trans slot
  · rintro rfl
    exact .absent absent

theorem slotted_of_some (slot : slot? create key object = some d) :
    Slotted create key S object object' ↔ ∃ d', S d d' ∧ object' = Ordered.insert key d' object := by
  constructor
  · rintro (absent | ⟨slot', related⟩)
    · cases absent.symm.trans slot
    · cases slot.symm.trans slot'
      exact ⟨_, related, rfl⟩
  · rintro ⟨d', related, rfl⟩
    exact .held slot related

theorem slotted_insert : Slotted create key S (Ordered.insert key d object) object' ↔
    ∃ d', S d d' ∧ object' = Ordered.insert key d' object := by
  simp only [slotted_of_some (slot?_insert_self ..), Ordered.insert_insert]

/-- Replacing the value under a key twice is replacing it by both steps. It is created if one of them creates
it; the first makes nothing of an empty map then, where it does not create it. -/
theorem slotted_comp (quiet : create = false → create' = true → ∀ d, S (.map []) d ↔ d = .map []) :
    Comp (Slotted create key S) (Slotted create' key T) object object' ↔
      Slotted (create || create') key (Comp S T) object object' := by
  cases slot : slot? create key object with
  | some d =>
    rw [slotted_of_some (slot?_or slot create')]
    constructor
    · rintro ⟨_, once, again⟩
      obtain ⟨between, first, rfl⟩ := (slotted_of_some slot).mp once
      obtain ⟨d', second, rfl⟩ := slotted_insert.mp again
      exact ⟨d', ⟨between, first, second⟩, rfl⟩
    · rintro ⟨d', ⟨between, first, second⟩, rfl⟩
      exact ⟨_, (slotted_of_some slot).mpr ⟨between, first, rfl⟩, slotted_insert.mpr ⟨d', second, rfl⟩⟩
  | none =>
    obtain ⟨missing, rfl⟩ := slot?_eq_none.mp slot
    simp only [Comp, slotted_of_none slot, exists_eq_left, Bool.false_or]
    cases create' with
    | true =>
      have created : slot? true key object = some (.map []) := by simp [slot?, missing]
      simp only [slotted_of_some created, Comp, quiet rfl rfl, exists_eq_left]
    | false => rw [slotted_of_none slot, slotted_of_none slot]

/-- Under one key values are replaced in either order if the replacements can be swapped and what the one
creates does not count for the other. -/
theorem slotted_swap (quiet : create = false → create' = true → ∀ d, S (.map []) d ↔ d = .map [])
    (quiet' : create' = false → create = true → ∀ d, T (.map []) d ↔ d = .map [])
    (swap : ∀ d d', Comp S T d d' → Comp T S d d')
    (both : Comp (Slotted create key S) (Slotted create' key T) object object') :
    Comp (Slotted create' key T) (Slotted create key S) object object' := by
  rw [slotted_comp quiet', Bool.or_comm]
  exact ((slotted_comp quiet).mp both).mono swap

/-- Under two keys values are replaced in either order. -/
theorem slotted_swap_of_ne (differ : key ≠ key')
    (both : Comp (Slotted create key S) (Slotted create' key' T) object object') :
    Comp (Slotted create' key' T) (Slotted create key S) object object' := by
  obtain ⟨_, absent | ⟨slot, first⟩, second⟩ := both
  · cases second with
    | absent absent' => exact ⟨object, .absent absent', .absent absent⟩
    | held slot' second =>
      exact ⟨_, .held slot' second, .absent ((slot?_insert_of_ne differ ..).trans absent)⟩
  · cases second with
    | absent absent' =>
      exact ⟨object, .absent ((slot?_insert_of_ne differ.symm ..).symm.trans absent'), .held slot first⟩
    | held slot' second =>
      refine ⟨_, .held ((slot?_insert_of_ne differ.symm ..).symm.trans slot') second, ?_⟩
      rw [Ordered.insert_comm differ.symm]
      exact .held ((slot?_insert_of_ne differ ..).trans slot) first

end Slot

/-! ## Along a path -/

section Path

variable {create create' : Bool} {f g : Document → Except BuildError Document} {d d' : Document}

/-- What an edit at a path makes of a document, where nothing stops it. -/
def Rewrites (create : Bool) (f : Document → Except BuildError Document) :
    FieldPath → Document → Document → Prop
  | [] => fun d d' => f d = .ok d'
  | key :: path => Within (Slotted create key (Rewrites create f path))

/-- In an empty map there is nothing to edit. -/
theorem rewrites_empty {path : FieldPath} (more : path ≠ []) :
    Rewrites false f path (.map []) d ↔ d = .map [] := by
  obtain ⟨key, path, rfl⟩ := List.exists_cons_of_ne_nil more
  constructor
  · rintro (⟨⟨⟩ | ⟨slot, _⟩⟩)
    · rfl
    · cases slot
  · rintro rfl
    exact .map (.absent rfl)

/-- Two edits at the same path are one. -/
theorem rewrites_comp_self (path : FieldPath) :
    Comp (Rewrites create f path) (Rewrites create g path) d d' ↔
      Rewrites create (fun d => f d >>= g) path d d' := by
  induction path generalizing d d' with
  | nil => exact bind_eq_ok.symm
  | cons key path ih =>
    have quiet : create = false → create = true → ∀ d, Rewrites create f path (.map []) d ↔ d = .map [] := by
      rintro rfl ⟨⟩
    rw [Rewrites, Rewrites, within_comp, Rewrites]
    constructor
    · refine .mono fun object object' both => ?_
      rw [slotted_comp quiet, Bool.or_self] at both
      exact both.mono fun _ _ => ih.mp
    · refine .mono fun object object' one => ?_
      rw [slotted_comp quiet, Bool.or_self]
      exact one.mono fun _ _ => ih.mpr

/-- Edits at paths that are apart can be swapped. -/
theorem rewrites_swap {path path' : FieldPath} (apart : Apart path path')
    (both : Comp (Rewrites create f path) (Rewrites create' g path') d d') :
    Comp (Rewrites create' g path') (Rewrites create f path) d d' := by
  induction path generalizing path' d d' with
  | nil => exact absurd apart (not_apart_nil_left _)
  | cons key path ih =>
    cases path' with
    | nil => exact absurd apart (not_apart_nil_right _)
    | cons key' path' =>
      rw [Rewrites, Rewrites, within_comp] at both ⊢
      refine both.mono fun object object' both => ?_
      by_cases same : key = key'
      · subst same
        -- The rests of the paths are apart, and both lead on, so neither edit is at the created map itself.
        have deeper := (apart_cons_self ..).mp apart
        refine slotted_swap ?_ ?_ (fun _ _ => ih deeper) both
        · rintro rfl - d
          exact rewrites_empty deeper.ne_nil
        · rintro rfl - d
          exact rewrites_empty deeper.symm.ne_nil
      · exact slotted_swap_of_ne same both

theorem editItems_eq_done_iff {inside : Fields → Unit → Progress BuildError Fields × Unit}
    {walked : FieldPath} {index : Nat} {items items' : List Document} :
    (editItems inside walked index items ()).1 = .done items' ↔
      List.Forall₂ (OfMaps fun object object' => (inside object ()).1 = .done object') items items' := by
  induction items generalizing index items' with
  | nil => simp [editItems, Progress.done, eq_comm]
  | cons first rest ih =>
    cases first with
    | map object =>
      rw [editItems]
      split
      · next reached e s ran =>
        constructor
        · intro impossible
          cases impossible
        · rintro (_ | ⟨⟨here⟩, _⟩)
          rw [ran] at here
          cases here
      · next reached s ran =>
        dsimp only
        rw [Progress.map_eq_done]
        constructor
        · rintro ⟨below, later, rfl⟩
          exact .cons ⟨congrArg Prod.fst ran⟩ (ih.mp later)
        · rintro (_ | ⟨⟨here⟩, later⟩)
          rw [ran] at here
          cases here
          exact ⟨_, ih.mpr later, rfl⟩
    | _ =>
      constructor
      · intro impossible
        cases impossible
      · rintro (_ | ⟨⟨_⟩, _⟩)

/-- What an edit at a path makes of an object, where nothing stops it. -/
theorem editFrom_eq_done_iff {key : String} {path walked : FieldPath} {object object' : Fields} :
    (editFrom create (.chain [.pure f]) walked (key :: path) object ()).1 = .done object' ↔
      Slotted create key (Rewrites create f path) object object' := by
  induction path generalizing key walked object object' with
  | nil =>
    rw [editFrom]
    cases slot : slot? create key object with
    | none => simp [slotted_of_none slot, Progress.done, eq_comm]
    | some d =>
      simp only [slotted_of_some slot, Pass.chain_pure, Rewrites]
      cases edited : f d <;> simp [Progress.done, Progress.stopped, eq_comm]
  | cons next rest ih =>
    rw [editFrom]
    cases slot : slot? create key object with
    | none => simp [slotted_of_none slot, Progress.done, eq_comm]
    | some d =>
      rw [slotted_of_some slot]
      cases d with
      | map fields =>
        dsimp only
        rw [Progress.map_eq_done]
        constructor
        · rintro ⟨fields', inside, rfl⟩
          exact ⟨_, .map (ih.mp inside), rfl⟩
        · rintro ⟨_, ⟨related⟩, rfl⟩
          exact ⟨_, ih.mpr related, rfl⟩
      | list items =>
        dsimp only
        rw [Progress.map_eq_done]
        constructor
        · rintro ⟨items', inside, rfl⟩
          exact ⟨_, .list ((editItems_eq_done_iff.mp inside).imp fun _ _ => .mono fun _ _ => ih.mp), rfl⟩
        · rintro ⟨_, _ | related, rfl⟩
          exact ⟨_, editItems_eq_done_iff.mpr (related.imp fun _ _ => .mono fun _ _ => ih.mpr), rfl⟩
      | _ =>
        constructor
        · intro impossible
          cases impossible
        · rintro ⟨_, ⟨⟩, -⟩

/-- A map becomes a map. -/
theorem Rewrites.exists_map {path : FieldPath} {object : Fields} (rewrites : Rewrites create f path (.map object) d)
    (more : path ≠ []) : ∃ object', d = .map object' := by
  obtain ⟨key, path, rfl⟩ := List.exists_cons_of_ne_nil more
  cases rewrites
  exact ⟨_, rfl⟩

end Path

end FieldPath

/-! ## At the path of a rule -/

namespace Pass

open FieldPath (Rewrites rewrites_comp_self rewrites_swap)
open Progress (Yields)

variable {rule other : PathRule} {f g : Document → Except BuildError Document} {r r' : Resource}

theorem updateAt_eq_done_iff (more : rule.path ≠ []) : updateAt rule f r = .done r' ↔
    ∃ object object', r.object = .map object ∧ Rewrites rule.create f rule.path (.map object) (.map object') ∧
      r' = { r with object := .map object' } := by
  obtain ⟨key, path, keys⟩ := List.exists_cons_of_ne_nil more
  rw [updateAt, keys]
  cases shape : r.object with
  | map object =>
    dsimp only
    rw [Progress.map_eq_done]
    constructor
    · rintro ⟨object', edited, rfl⟩
      exact ⟨object, object', rfl, .map (FieldPath.editFrom_eq_done_iff.mp edited), rfl⟩
    · rintro ⟨_, object', ⟨⟩, ⟨edited⟩, rfl⟩
      exact ⟨object', FieldPath.editFrom_eq_done_iff.mpr edited, rfl⟩
  | _ => simp [Progress.stopped, Progress.done]

/-- Two edits at the path of a rule are one. -/
theorem updateAt_comp_self (more : rule.path ≠ []) :
    Comp (Yields (updateAt rule f)) (Yields (updateAt rule g)) = Yields (updateAt rule fun d => f d >>= g) := by
  funext r r'
  simp only [Comp, Yields, updateAt_eq_done_iff more, ← rewrites_comp_self, eq_iff_iff]
  constructor
  · rintro ⟨_, ⟨object, between, shape, first, rfl⟩, _, object', ⟨⟩, second, rfl⟩
    exact ⟨object, object', shape, ⟨_, first, second⟩, rfl⟩
  · rintro ⟨object, object', shape, ⟨_, first, second⟩, rfl⟩
    obtain ⟨between, rfl⟩ := first.exists_map more
    exact ⟨_, ⟨object, between, shape, first, rfl⟩, between, object', rfl, second, rfl⟩

/-- Edits at the paths of rules that are apart can be swapped. -/
theorem updateAt_swap (apart : rule.path.Apart other.path)
    (both : Comp (Yields (updateAt rule f)) (Yields (updateAt other g)) r r') :
    Comp (Yields (updateAt other g)) (Yields (updateAt rule f)) r r' := by
  have more := apart.ne_nil
  have more' := apart.symm.ne_nil
  obtain ⟨_, once, again⟩ := both
  obtain ⟨object, _, shape, first, rfl⟩ := (updateAt_eq_done_iff more).mp once
  obtain ⟨_, object', ⟨⟩, second, rfl⟩ := (updateAt_eq_done_iff more').mp again
  obtain ⟨_, first', second'⟩ := rewrites_swap apart ⟨_, first, second⟩
  obtain ⟨between, rfl⟩ := first'.exists_map more'
  exact ⟨_, (updateAt_eq_done_iff more').mpr ⟨object, between, shape, first', rfl⟩,
    (updateAt_eq_done_iff more).mpr ⟨between, object', rfl, second', rfl⟩⟩

theorem updateAt_comm (apart : rule.path.Apart other.path) :
    Comp (Yields (updateAt rule f)) (Yields (updateAt other g)) =
      Comp (Yields (updateAt other g)) (Yields (updateAt rule f)) := by
  funext r r'
  exact propext ⟨updateAt_swap apart, updateAt_swap apart.symm⟩

end Pass

end KubeOverlay
