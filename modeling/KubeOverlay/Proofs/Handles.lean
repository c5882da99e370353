import KubeOverlay.Proofs.ForestDocuments
import KubeOverlay.Selector
/-!
# Trees changed through handles

A document is planted as a tree and then read and changed through handles (`Session`). A handle stays
usable when its node has been replaced, removed or given another shape: a change that is meant for a map
or a slice then builds its document below the node, which does not take it up. In every session that
can be reached the nodes form a sound forest, and the nodes whose parent does not hold them are exactly
those (`Session.Reached.invariant`). Two readings of that follow: numbers grow along all links, so that
reading, listing and climbing end (`Session.Reached.links_grow`), and parents hold the handles that are
no strays (`Session.Reached.heldByParent_iff`).
-/
namespace KubeOverlay

/-! ## Handles -/

/-- What a handle is taken for. -/
inductive View where
  | value | map | slice
deriving DecidableEq, Repr

structure Handle where
  node : NodeId
  view : View
deriving DecidableEq, Repr

/-- The handles that reading gives: the node taken for what it is, its parent, fields, elements, and
what a query selects. -/
inductive Handle.Gives (f : Forest) (h : Handle) : Handle → Prop where
  | value : Gives f h ⟨h.node, .value⟩
  | map (isMap : f.kind h.node = .map) : Gives f h ⟨h.node, .map⟩
  | slice (isSlice : f.kind h.node = .slice) : Gives f h ⟨h.node, .slice⟩
  | parent {p : NodeId} (link : f.parent? h.node = some p) : Gives f h ⟨p, .value⟩
  | field {key : String} {c : NodeId} (fits : h.view = .map) (stored : (key, c) ∈ f.fields h.node) :
    Gives f h ⟨c, .value⟩
  | item {c : NodeId} (fits : h.view = .slice) (there : c ∈ f.items h.node) : Gives f h ⟨c, .value⟩
  | selected {s : Selector} {c : NodeId} (found : c ∈ s.select f [h.node]) : Gives f h ⟨c, .value⟩

namespace Forest

variable {f : Forest}

theorem mem_children_of_field {key : String} {p c : Nat} (stored : (key, c) ∈ f.fields p) :
    c ∈ f.children p :=
  (Holds.field stored).child

theorem mem_children_of_item {p c : Nat} (there : c ∈ f.items p) : c ∈ f.children p := by
  obtain ⟨index, found⟩ := List.mem_iff_getElem?.mp there
  exact (Holds.item found).child

theorem Sound.descendants_inside (shape : f.Sound) {id : Nat} (inside : id < f.size) :
    ∀ c : Nat, c ∈ f.descendants id → c < f.size := by
  refine shape.bottomUp (P := fun id => ∀ c : Nat, c ∈ f.descendants id → c < f.size)
    (fun id inside below => ?_) id inside
  intro c member
  rw [shape.descendants_eq inside, List.mem_cons, List.mem_flatMap] at member
  rcases member with same | ⟨child, held, deeper⟩
  · subst same
    exact inside
  · exact below child held c deeper

/-- A step of a query leads from nodes of the forest to nodes of the forest. -/
theorem Sound.apply_inside (shape : f.Sound) {ids : List NodeId} (inside : ∀ id : Nat, id ∈ ids → id < f.size)
    (step : Step) : ∀ c : Nat, c ∈ step.apply f ids → c < f.size := by
  have field (name : Predicate String) (c : Nat) (member : c ∈ ids.flatMap (Step.fieldsOf f name)) : c < f.size := by
    obtain ⟨id, -, found⟩ := List.mem_flatMap.mp member
    obtain ⟨e, stored, same⟩ := List.mem_map.mp found
    subst same
    exact (shape.above id e.2 (mem_children_of_field (List.mem_of_mem_filter stored))).2
  have item (index : Predicate Double) (c : Nat) (member : c ∈ ids.flatMap (Step.itemsOf f index)) : c < f.size := by
    obtain ⟨id, -, found⟩ := List.mem_flatMap.mp member
    obtain ⟨e, stored, same⟩ := List.mem_map.mp found
    subst same
    have there : (e.1, e.2) ∈ (f.items id).zipIdx := List.mem_of_mem_filter stored
    have child := mem_children_of_item (List.mem_of_getElem? (List.mem_zipIdx_iff_getElem?.mp there))
    exact (shape.above id e.1 child).2
  intro c member
  cases step with
  | field name => exact field name c member
  | item index => exact item index c member
  | last =>
    obtain ⟨id, -, found⟩ := List.mem_filterMap.mp member
    exact (shape.above id c (mem_children_of_item (List.mem_of_getLast? found))).2
  | children =>
    rcases List.mem_append.mp member with inFields | inItems
    · exact field _ c inFields
    · exact item _ c inItems
  | all =>
    obtain ⟨id, top, found⟩ := List.mem_flatMap.mp member
    exact shape.descendants_inside (inside id top) c found
  | parent =>
    obtain ⟨id, top, link⟩ := List.mem_filterMap.mp member
    exact Nat.lt_trans (shape.below id c link) (inside id top)
  | filter p => exact inside c (List.mem_of_mem_filter member)

theorem Sound.select_inside (shape : f.Sound) (s : Selector) {ids : List NodeId}
    (inside : ∀ id : Nat, id ∈ ids → id < f.size) : ∀ c : Nat, c ∈ s.select f ids → c < f.size := by
  induction s generalizing ids with
  | nil => exact inside
  | cons step rest ih => exact ih (shape.apply_inside inside step)

/-- Reading through a handle to a node of the forest gives handles to nodes of the forest. -/
theorem Sound.gives_inside (shape : f.Sound) {h h' : Handle} (inside : h.node < f.size)
    (gives : h.Gives f h') : h'.node < f.size := by
  cases gives with
  | value | map _ | slice _ => exact inside
  | parent link => exact Nat.lt_trans (shape.below _ _ link) inside
  | field _ stored => exact (shape.above _ _ (mem_children_of_field stored)).2
  | item _ there => exact (shape.above _ _ (mem_children_of_item there)).2
  | selected found =>
    have start (id : Nat) (member : id ∈ [h.node]) : id < f.size := by
      rw [List.mem_singleton.mp member]
      exact inside
    exact shape.select_inside _ start _ found

end Forest

/-! ## Changes -/

/-- A change through a handle. -/
inductive Write where
  | set (d : Document)
  | setField (key : String) (d : Document)
  | removeField (key : String)
  | setItem (index : Nat) (d : Document)
  | append (d : Document)

/-- What a change does to the document of the node that it acts on. -/
inductive Document.Update where
  | put (slot : Forest.Slot) (d : Document)
  | drop (key : String)
  | push (d : Document)
  | become (d : Document)

namespace Write

/-- The handles through which a change can be made. Every handle is one to a value as well. -/
def Fits : Write → View → Prop
  | .set _, _ => True
  | .setField .., view | .removeField _, view => view = .map
  | .setItem .., view | .append _, view => view = .slice

/-- The document that a change brings. -/
def document? : Write → Option Document
  | .set d | .setField _ d | .setItem _ d | .append d => some d
  | .removeField _ => none

/-- Documents have their keys in order. -/
def Sorted (w : Write) : Prop := ∀ d, w.document? = some d → d.Sorted

theorem sorted_of_document? {w : Write} {d : Document} (brings : w.document? = some d) (sorted : d.Sorted) :
    w.Sorted := by
  intro other isOther
  rw [brings] at isOther
  exact Option.some.inj isOther ▸ sorted

/-- A change made through a handle to a node: the node of the handle that it returns, and the forest
afterwards. -/
def run (f : Forest) (id : NodeId) : Write → Except OutOfRange (Option NodeId × Forest)
  | .set d => .ok (some (f.set id d).1, (f.set id d).2)
  | .setField key d => .ok (some (f.setField id key d).1, (f.setField id key d).2)
  | .removeField key => .ok (f.removeField id key)
  | .setItem index d => (f.setItem id index d).map fun result => (some result.1, result.2)
  | .append d => .ok (some (f.append id d).1, (f.append id d).2)

/-- Whether the node has lost the shape that the change is meant for. -/
def misses (f : Forest) (id : NodeId) : Write → Bool
  | .set _ => false
  | .setField .. | .removeField _ => f.kind id != .map
  | .setItem .. | .append _ => f.kind id != .slice

/-- The node that a change made at a node acts on, and how: to replace a value that a container holds
is to store in the container. -/
inductive ActsOn (f : Forest) (id : NodeId) : Write → NodeId → Document.Update → Prop where
  | held {p : NodeId} {slot : Forest.Slot} {d : Document} (holds : f.Holds p slot id) :
    ActsOn f id (.set d) p (.put slot d)
  | free {d : Document} (free : ∀ p : NodeId, id ∉ f.children p) : ActsOn f id (.set d) id (.become d)
  | setField {key : String} {d : Document} : ActsOn f id (.setField key d) id (.put (.field key) d)
  | removeField {key : String} : ActsOn f id (.removeField key) id (.drop key)
  | setItem {index : Nat} {d : Document} : ActsOn f id (.setItem index d) id (.put (.item index) d)
  | append {d : Document} : ActsOn f id (.append d) id (.push d)

variable {f g : Forest} {w : Write} {id n : Nat} {u : Document.Update} {r : Option NodeId}

theorem exists_actsOn (f : Forest) (id : NodeId) (w : Write) : ∃ n u, w.ActsOn f id n u := by
  cases w with
  | set d =>
    by_cases held : ∃ p, id ∈ f.children p
    · obtain ⟨p, child⟩ := held
      obtain ⟨slot, holds⟩ := Forest.mem_children_iff.mp child
      exact ⟨p, _, .held holds⟩
    · exact ⟨id, _, .free fun p child => held ⟨p, child⟩⟩
  | setField => exact ⟨id, _, .setField⟩
  | removeField => exact ⟨id, _, .removeField⟩
  | setItem => exact ⟨id, _, .setItem⟩
  | append => exact ⟨id, _, .append⟩

theorem run_setItem_eq_ok {index : Nat} {d : Document} :
    run f id (.setItem index d) = .ok (r, g) ↔ index < (f.items id).length ∧
      r = some (f.replaceItem id index d).1 ∧ g = (f.replaceItem id index d).2 := by
  by_cases within : index < (f.items id).length
  · simp [run, Forest.setItem, within, Except.map, eq_comm]
  · simp [run, Forest.setItem, within, Except.map]

/-- A change splices in at the node that it acts on. Only what is built for a node of another shape is
not taken up. -/
theorem run_splice (shape : f.Sound) (inside : id < f.size) (sorted : w.Sorted) (acts : w.ActsOn f id n u)
    (ran : w.run f id = .ok (r, g)) :
    ∃ removed, Forest.Splice f g n removed (if w.misses f id then r.toList else []) := by
  cases acts with
  | @held p slot d holds =>
    have fresh : d.Sorted := sorted d rfl
    simp only [run, Forest.set_held shape holds, Except.ok.injEq, Prod.mk.injEq] at ran
    obtain ⟨-, rfl⟩ := ran
    cases holds with
    | field stored => exact ⟨_, Forest.setField_splice shape fresh (Forest.map_of_field stored)⟩
    | item there =>
      have within := (List.getElem?_eq_some_iff.mp there).1
      exact ⟨_, Forest.replaceItem_splice shape fresh (Forest.slice_of_item there) within⟩
  | @free d free =>
    simp only [run, Forest.set_free free, Except.ok.injEq, Prod.mk.injEq] at ran
    obtain ⟨-, rfl⟩ := ran
    exact ⟨_, Forest.overwrite_splice (sorted d rfl) shape inside⟩
  | @setField key d =>
    simp only [run, Except.ok.injEq, Prod.mk.injEq] at ran
    obtain ⟨rfl, rfl⟩ := ran
    by_cases isMap : f.kind id = .map
    · simp only [misses, isMap, bne_self_eq_false, Bool.false_eq_true, ↓reduceIte]
      exact ⟨_, Forest.setField_splice shape (sorted d rfl) (Forest.map_of_kind isMap)⟩
    · simp only [misses, bne_iff_ne.mpr isMap, ↓reduceIte, Forest.setField_stray inside isMap]
      exact ⟨_, Forest.insert_splice shape inside (sorted d rfl)⟩
  | @removeField key =>
    simp only [run, Except.ok.injEq] at ran
    by_cases isMap : f.kind id = .map
    · simp only [misses, isMap, bne_self_eq_false, Bool.false_eq_true, ↓reduceIte]
      have result : (f.removeField id key).2 = g := congrArg Prod.snd ran
      rw [← result]
      exact ⟨_, Forest.removeField_splice shape (Forest.map_of_kind isMap)⟩
    · rw [Forest.removeField_stray isMap] at ran
      cases ran
      simp only [Option.toList_none, ite_self]
      exact ⟨_, .refl shape inside⟩
  | @setItem index d =>
    obtain ⟨within, rfl, rfl⟩ := run_setItem_eq_ok.mp ran
    have isSlice := Forest.slice_of_item (List.getElem?_eq_getElem within)
    have hits : misses f id (.setItem index d) = false := by
      simp [misses, Forest.kind, isSlice, Content.kind]
    rw [hits]
    exact ⟨_, Forest.replaceItem_splice shape (sorted d rfl) isSlice within⟩
  | @append d =>
    simp only [run, Except.ok.injEq, Prod.mk.injEq] at ran
    obtain ⟨rfl, rfl⟩ := ran
    by_cases isSlice : f.kind id = .slice
    · simp only [misses, isSlice, bne_self_eq_false, Bool.false_eq_true, ↓reduceIte]
      exact ⟨_, Forest.append_splice shape (sorted d rfl) (Forest.slice_of_kind isSlice)⟩
    · simp only [misses, bne_iff_ne.mpr isSlice, ↓reduceIte, Forest.append_stray inside isSlice]
      exact ⟨_, Forest.insert_splice shape inside (sorted d rfl)⟩

/-- The returned handle is one to a node of the forest. -/
theorem result_inside (shape : f.Sound) (inside : id < f.size) (sorted : w.Sorted)
    (ran : w.run f id = .ok (r, g)) : ∀ c : Nat, r = some c → c < g.size := by
  have grows (d : Document) : f.size < f.size + d.nodeCount := Nat.lt_add_of_pos_right d.nodeCount_pos
  intro c returned
  subst returned
  cases w with
  | set d =>
    obtain ⟨n, u, acts⟩ := exists_actsOn f id (.set d)
    obtain ⟨_, splice⟩ := run_splice shape inside sorted acts ran
    have size_le := splice.size_le
    simp only [run, Except.ok.injEq, Prod.mk.injEq, Option.some.injEq] at ran
    obtain ⟨rfl, rfl⟩ := ran
    cases acts with
    | @held _ slot _ holds =>
      rw [Forest.set_held shape holds]
      cases slot with
      | field key =>
        simp only [Forest.setField_fst, Forest.size_setField]
        exact grows d
      | item index =>
        simp only [Forest.replaceItem_fst, Forest.size_replaceItem]
        exact grows d
    | free free =>
      rw [Forest.set_free free] at size_le ⊢
      exact Nat.lt_of_lt_of_le inside size_le
  | setField key d =>
    simp only [run, Except.ok.injEq, Prod.mk.injEq, Option.some.injEq] at ran
    obtain ⟨rfl, rfl⟩ := ran
    rw [Forest.setField_fst, Forest.size_setField]
    exact grows d
  | removeField key =>
    obtain ⟨_, splice⟩ := run_splice shape inside sorted .removeField ran
    simp only [run, Except.ok.injEq] at ran
    by_cases isMap : f.kind id = .map
    · rw [Forest.removeField_eq (Forest.map_of_kind isMap)] at ran
      split at ran
      · next child found =>
        simp only [Prod.mk.injEq, Option.some.injEq] at ran
        have held := Forest.mem_children_of_field (shape.mem_fields_iff.mpr found)
        rw [← ran.1]
        exact Nat.lt_of_lt_of_le (shape.above id child held).2 splice.size_le
      · simp at ran
    · simp [Forest.removeField_stray isMap] at ran
  | setItem index d =>
    obtain ⟨-, returned, rfl⟩ := run_setItem_eq_ok.mp ran
    cases returned
    rw [Forest.replaceItem_fst, Forest.size_replaceItem]
    exact grows d
  | append d =>
    simp only [run, Except.ok.injEq, Prod.mk.injEq, Option.some.injEq] at ran
    obtain ⟨rfl, rfl⟩ := ran
    rw [Forest.append_fst, Forest.size_append]
    exact grows d

end Write

/-! ## Sessions -/

/-- A planted document with the handles obtained so far. -/
structure Session where
  forest : Forest
  handles : List Handle
  /-- The nodes built by changes for a node that had lost the shape for them. -/
  strays : List NodeId

namespace Session

def start (d : Document) : Session := ⟨(Forest.empty.plant d).2, [⟨(Forest.empty.plant d).1, .value⟩], []⟩

def read (s : Session) (h : Handle) : Session := { s with handles := h :: s.handles }

/-- The session after a change through a handle. A change with an index out of range does nothing. -/
def write (s : Session) (h : Handle) (w : Write) : Session :=
  match w.run s.forest h.node with
  | .ok (r, g) =>
    { forest := g
      handles := r.toList.map (⟨·, .value⟩) ++ s.handles
      strays := (if w.misses s.forest h.node then r.toList else []) ++ s.strays }
  | .error _ => s

/-- The sessions that reading and changing through handles leads to. -/
inductive Reached : Session → Prop where
  | start {d : Document} (sorted : d.Sorted) : Reached (start d)
  | read {s : Session} (reached : Reached s) (h h' : Handle) (obtained : h ∈ s.handles)
    (gives : h.Gives s.forest h') : Reached (s.read h')
  | write {s : Session} (reached : Reached s) (h : Handle) (w : Write) (obtained : h ∈ s.handles)
    (fits : w.Fits h.view) (sorted : w.Sorted) : Reached (s.write h w)

/-- What holds of all sessions that can be reached. -/
structure Invariant (s : Session) : Prop where
  shape : s.forest.Sound
  inside : ∀ h ∈ s.handles, h.node < s.forest.size
  stray_iff : ∀ m : Nat, s.forest.Stray m ↔ m ∈ s.strays

namespace Invariant

variable {s : Session} {h h' : Handle} {w : Write}

theorem start {d : Document} (sorted : d.Sorted) : Invariant (start d) := by
  have grown : Forest.Grown .empty (Forest.empty.plant d).2 none [0] := Forest.insert_grown .empty none sorted
  have ⟨shape, noStray⟩ := grown.alone rfl
  refine ⟨shape, ?_, ?_⟩
  · intro h member
    rw [List.mem_singleton.mp member]
    exact (grown.top 0 (List.mem_singleton_self _)).2.1
  · intro m
    exact iff_of_false (noStray m) List.not_mem_nil

theorem read (inv : Invariant s) (obtained : h ∈ s.handles) (gives : h.Gives s.forest h') :
    Invariant (s.read h') := by
  refine ⟨inv.shape, ?_, inv.stray_iff⟩
  intro other member
  rcases List.mem_cons.mp member with same | before
  · rw [same]
    exact inv.shape.gives_inside (inv.inside h obtained) gives
  · exact inv.inside other before

theorem write (inv : Invariant s) (obtained : h ∈ s.handles) (sorted : w.Sorted) :
    Invariant (s.write h w) := by
  have inside := inv.inside h obtained
  obtain ⟨n, u, acts⟩ := w.exists_actsOn s.forest h.node
  unfold Session.write
  split
  · next r g ran =>
    obtain ⟨removed, splice⟩ := w.run_splice inv.shape inside sorted acts ran
    refine ⟨splice.sound inv.shape, ?_, ?_⟩
    · intro other member
      rcases List.mem_append.mp member with returned | before
      · obtain ⟨c, isResult, same⟩ := List.mem_map.mp returned
        rw [← same]
        exact w.result_inside inv.shape inside sorted ran c (Option.mem_toList.mp isResult)
      · exact Nat.lt_of_lt_of_le (inv.inside other before) splice.size_le
    · intro m
      rw [splice.stray_iff inv.shape, inv.stray_iff, List.mem_append, or_comm]
  · exact inv

end Invariant

theorem Reached.invariant {s : Session} (reached : s.Reached) : Invariant s := by
  induction reached with
  | start sorted => exact .start sorted
  | read _ h h' obtained gives inv => exact inv.read obtained gives
  | write _ h w obtained _ sorted inv => exact inv.write obtained sorted

/-! ## Growing numbers -/

/-- Every node is listed at most once, in one container, which its parent link leads to; numbers grow
from container to child and along parent links; and from every handle, reading, listing and climbing come
to an end without meeting a number that no node has. -/
theorem Reached.links_grow {s : Session} (reached : s.Reached) :
    (∀ p q i j c : Nat, (s.forest.children p)[i]? = some c → (s.forest.children q)[j]? = some c → p = q ∧ i = j) ∧
    (∀ p c : Nat, c ∈ s.forest.children p → s.forest.parent? c = some p ∧ p < c ∧ c < s.forest.size) ∧
    (∀ c p : Nat, s.forest.parent? c = some p → p < c ∧ c < s.forest.size) ∧
    ∀ h ∈ s.handles, h.node < s.forest.size ∧
      s.forest.Spells h.node (s.forest.document h.node) ∧
      s.forest.Visits h.node (s.forest.descendants h.node) ∧
      ∃ ups, s.forest.Climbs h.node ups := by
  have inv := reached.invariant
  refine ⟨?_, ?_, ?_, ?_⟩
  · intro p q i j c listed listed'
    have above := inv.shape.linked p c (List.mem_of_getElem? listed)
    have above' := inv.shape.linked q c (List.mem_of_getElem? listed')
    rw [above] at above'
    cases above'
    obtain ⟨within, here⟩ := List.getElem?_eq_some_iff.mp listed
    obtain ⟨within', here'⟩ := List.getElem?_eq_some_iff.mp listed'
    exact ⟨rfl, (List.Nodup.getElem_inj_iff (inv.shape.once p)).mp (here.trans here'.symm)⟩
  · intro p c child
    exact ⟨inv.shape.linked p c child, inv.shape.above p c child⟩
  · intro c p link
    exact ⟨inv.shape.below c p link, Forest.inside_of_parent link⟩
  · intro h obtained
    have inside := inv.inside h obtained
    exact ⟨inside, inv.shape.spells inside, inv.shape.visits inside, inv.shape.climbs inside⟩

/-- A map in a map, with handles to both. -/
def nested : Session :=
  (((start (.map [("a", .map [("b", .null)])])).read ⟨0, .map⟩).read ⟨1, .value⟩).read ⟨1, .map⟩

theorem nested_reached : nested.Reached := by
  have planted : (start (.map [("a", .map [("b", .null)])])).Reached :=
    .start (by simp [Ordered.Ascending, Document.Sorted, Document.SortedFields])
  have outer := planted.read ⟨0, .value⟩ ⟨0, .map⟩ (by decide) (.map rfl)
  have field : ("a", 1) ∈ (start (.map [("a", .map [("b", .null)])])).forest.fields 0 := by decide
  have inner := outer.read ⟨0, .map⟩ ⟨1, .value⟩ (by decide) (.field rfl field)
  exact inner.read ⟨1, .value⟩ ⟨1, .map⟩ (by decide) (.map rfl)

/-- The inner map is replaced, then overwritten with a list, and then taken for the map that it was. -/
def rearranged : Session :=
  ((nested.write ⟨1, .value⟩ (.set (.string "x"))).write ⟨1, .value⟩ (.set (.list [.bool true]))).write ⟨1, .map⟩
    (.setField "k" .null)

theorem rearranged_reached : rearranged.Reached := by
  have replaced := nested_reached.write ⟨1, .value⟩ (.set (.string "x")) (by decide) trivial
    (Write.sorted_of_document? rfl trivial)
  have overwritten := replaced.write ⟨1, .value⟩ (.set (.list [.bool true])) (by decide) trivial
    (Write.sorted_of_document? rfl (by simp [Document.Sorted, Document.SortedItems]))
  exact overwritten.write ⟨1, .map⟩ (.setField "k" .null) (by decide) rfl (Write.sorted_of_document? rfl trivial)

theorem rearranged_links_grow : rearranged.Reached ∧ rearranged.forest.children 1 = [5] ∧
    rearranged.forest.children 0 = [3] ∧ rearranged.forest.parent? 6 = some 1 ∧
    (rearranged.forest.parent? 5 = some 1 ∧ 1 < 5 ∧ 5 < rearranged.forest.size) ∧
    ∃ ups, rearranged.forest.Climbs 6 ups := by
  obtain ⟨-, grow, -, ends⟩ := rearranged_reached.links_grow
  refine ⟨rearranged_reached, rfl, rfl, rfl, grow 1 5 (by decide), ?_⟩
  exact (ends ⟨6, .value⟩ (by decide)).2.2.2

/-! ## Parents that hold their children -/

/-- What a parent link promises of a value: the parent holds it, and a value that nothing holds has no
parent. -/
def HeldByParent (f : Forest) (id : NodeId) : Prop :=
  (∀ p, f.parent? id = some p → id ∈ f.children p) ∧ ((∀ p, id ∉ f.children p) → f.parent? id = none)

theorem heldByParent_iff_not_stray {f : Forest} {id : Nat} : HeldByParent f id ↔ ¬ f.Stray id := by
  constructor
  · rintro ⟨held, -⟩ ⟨p, link, absent⟩
    exact absent (held p link)
  · intro noStray
    have held (p : Nat) (link : f.parent? id = some p) : id ∈ f.children p := by
      by_cases child : id ∈ f.children p
      · exact child
      · exact absurd ⟨p, link, child⟩ noStray
    refine ⟨held, fun free => ?_⟩
    cases link : f.parent? id with
    | none => rfl
    | some p => exact absurd (held p link) (free p)

/-- The parent of a handle's node holds it unless the node was built by a change for a node that had lost
the shape for it. -/
theorem Reached.heldByParent_iff {s : Session} (reached : s.Reached) :
    ∀ h ∈ s.handles, HeldByParent s.forest h.node ↔ h.node ∉ s.strays := by
  intro h _
  rw [heldByParent_iff_not_stray, reached.invariant.stray_iff]

/-- A map is overwritten with a string, and a field is stored through the handle to the map. -/
def outlived : Session :=
  (((start (.map [])).read ⟨0, .map⟩).write ⟨0, .value⟩ (.set (.string "x"))).write ⟨0, .map⟩
    (.setField "k" (.bool true))

theorem outlived_reached : outlived.Reached := by
  have planted : (start (.map [])).Reached := .start (by simp [Ordered.ascending_nil])
  have asMap := planted.read ⟨0, .value⟩ ⟨0, .map⟩ (by decide) (.map rfl)
  have overwritten := asMap.write ⟨0, .value⟩ (.set (.string "x")) (by decide) trivial
    (Write.sorted_of_document? rfl trivial)
  exact overwritten.write ⟨0, .map⟩ (.setField "k" (.bool true)) (by decide) rfl
    (Write.sorted_of_document? rfl trivial)

theorem outlived_parents : outlived.Reached ∧ ⟨2, .value⟩ ∈ outlived.handles ∧
    outlived.forest.parent? 2 = some 0 ∧ outlived.forest.children 0 = [] ∧
    (HeldByParent outlived.forest 2 ↔ 2 ∉ outlived.strays) := by
  refine ⟨outlived_reached, by decide, rfl, rfl, ?_⟩
  exact outlived_reached.heldByParent_iff ⟨2, .value⟩ (by decide)

theorem outlived_child_not_held : outlived.Reached ∧ ⟨2, .value⟩ ∈ outlived.handles ∧
    ¬ HeldByParent outlived.forest 2 := by
  refine ⟨outlived_reached, by decide, ?_⟩
  rintro ⟨held, -⟩
  have member : 2 ∈ outlived.forest.children 0 := held 0 rfl
  contradiction

end Session

end KubeOverlay
